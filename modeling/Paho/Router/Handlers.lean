import Paho.Router.Routers

/-!
# Handler calls

`Route` returns the calls it selects; here a handler is modelled by what a call of it does with
the message, the records it leaves and the panic it ends in (`Run`), and the calls are made one
after another, a panic unwinding `Route` (`perform`). A handler reads the message and does not
write it: one that assigns the shared `*Publish` is outside the model, as are a nil middleware and
one that panics when applied. `route_panics_iff` says when `Route` panics, in its own code or in a
handler it calls; with `Recoverer` first no call panics (`route_recovers`), and with `Logger` first
every call that returns logs the packet's topic (`route_logs_packet_topic`).
-/

namespace Paho

/-- A record a call leaves: the handler's own, `Recoverer`'s report, or `Logger`'s entry. -/
inductive Record
  | handler (line : String)
  | recovered (value : String)
  | processed (topic : String)
  deriving DecidableEq

/-- What a call does: the records it leaves, in order, and the value of the panic it ends in. -/
structure Run where
  records : List Record
  panic : Option String
  deriving DecidableEq

/-- A `MessageContextHandler` or `routercontext.Handler`, by what a call of it does. -/
abbrev Handler := Publish → Run

/-- `Recoverer`: call `next`; a panic is recovered and reported. -/
def recoverer (next : Handler) : Handler := fun p =>
  match (next p).panic with
  | some value => ⟨(next p).records ++ [.recovered value], none⟩
  | none => next p

/-- `Logger`: call `next`, then log the message's topic; a panic of `next` unwinds past the log. -/
def logger (next : Handler) : Handler := fun p =>
  match (next p).panic with
  | none => ⟨(next p).records ++ [.processed p.topic], none⟩
  | some _ => next p

/-- The calls `Route` makes, made in order: a panic ends `Route`, and no later call is made. -/
def perform : List (Call Handler) → Run
  | [] => ⟨[], none⟩
  | c :: calls =>
      match (c.handler c.publish).panic with
      | none => ⟨(c.handler c.publish).records ++ (perform calls).records, (perform calls).panic⟩
      | some _ => c.handler c.publish

theorem recoverer_eq (next : Handler) (p : Publish) :
    recoverer next p = ⟨(next p).records ++ ((next p).panic.map .recovered).toList, none⟩ := by
  rcases run : next p with ⟨records, _ | value⟩ <;> simp [recoverer, run]

theorem logger_eq (next : Handler) (p : Publish) :
    logger next p =
      if (next p).panic = none then ⟨(next p).records ++ [.processed p.topic], none⟩ else next p := by
  rcases run : next p with ⟨records, _ | value⟩ <;> simp [logger, run]

theorem perform_cons_of_returns {c : Call Handler} (calls : List (Call Handler))
    (returns : (c.handler c.publish).panic = none) :
    perform (c :: calls) =
      ⟨(c.handler c.publish).records ++ (perform calls).records, (perform calls).panic⟩ := by
  rw [perform, returns]

theorem perform_of_returns (calls : List (Call Handler))
    (returns : ∀ c ∈ calls, (c.handler c.publish).panic = none) :
    perform calls = ⟨calls.flatMap fun c => (c.handler c.publish).records, none⟩ := by
  induction calls with
  | nil => rfl
  | cons c calls ih =>
      rw [perform_cons_of_returns calls (returns c (List.mem_cons_self _ _)),
        ih fun c' member => returns c' (List.mem_cons_of_mem _ member)]
      rfl

theorem perform_panic_ne_none (calls : List (Call Handler)) :
    (perform calls).panic ≠ none ↔ ∃ c ∈ calls, (c.handler c.publish).panic ≠ none := by
  induction calls with
  | nil => simp [perform]
  | cons c calls ih =>
      cases returns : (c.handler c.publish).panic with
      | none => simp [perform, returns, ih]
      | some value => simp [perform, returns]

/-! ## When `Route` panics -/

/-- Whether `Route`, its calls made, panics: in its own code (`none`) or in a call it makes. -/
def routePanics : Option (List (Call Handler)) → Bool
  | none => true
  | some calls => (perform calls).panic.isSome

/-- A handler `Route` selects for `topic` panics on `m`. -/
def SelectedPanics {M : Type} (ops : List (Op Handler M)) (matcher : String → String → Option Bool)
    (wrap : Handler → Handler) (topic : String) (m : Publish) : Prop :=
  (∃ f, ∃ h ∈ liveHandlers ops f, matcher f topic = some true ∧ (wrap h m).panic ≠ none) ∨
    (∀ f, liveHandlers ops f ≠ [] → matcher f topic ≠ some true) ∧
      ∃ d, lastDefault ops = some d ∧ (wrap d m).panic ≠ none

section Selected
variable {H M : Type}

theorem exists_mem_dispatches {ops : List (Op H M)} {matcher : String → String → Option Bool}
    {wrap : H → H} {topic : String} {m : Publish} {calls : List (Call H)}
    (dispatches : Dispatches ops matcher wrap topic m calls) (P : Call H → Prop) :
    (∃ c ∈ calls, P c) ↔
      (∃ f, ∃ h ∈ liveHandlers ops f, matcher f topic = some true ∧ P ⟨wrap h, m⟩) ∨
        (∀ f, liveHandlers ops f ≠ [] → matcher f topic ≠ some true) ∧
          ∃ d, lastDefault ops = some d ∧ P ⟨wrap d, m⟩ := by
  obtain ⟨filters, -, mem, rfl⟩ := dispatches
  have empty : filters = [] ↔ ∀ f, liveHandlers ops f ≠ [] → matcher f topic ≠ some true := by
    rw [List.eq_nil_iff_forall_not_mem]
    exact forall_congr' fun f => by rw [mem]; tauto
  by_cases none : filters = []
  · have unmatched := empty.mp none
    subst none
    show (∃ c ∈ ((lastDefault ops).map fun h => (⟨wrap h, m⟩ : Call H)).toList, P c) ↔ _
    constructor
    · rintro ⟨c, member, holds⟩
      cases last : lastDefault ops with
      | none => simp [last] at member
      | some d =>
          simp only [last, Option.map_some', Option.toList_some, List.mem_singleton] at member
          exact .inr ⟨unmatched, d, rfl, member ▸ holds⟩
    · rintro (⟨f, h, live, matching, -⟩ | ⟨-, d, last, holds⟩)
      · exact absurd matching (unmatched f (List.ne_nil_of_mem live))
      · exact ⟨_, by simp [last], holds⟩
  · rw [if_neg none, List.append_nil]
    simp only [List.mem_flatMap, List.mem_map]
    constructor
    · rintro ⟨_, ⟨f, member, h, live, rfl⟩, holds⟩
      exact .inl ⟨f, h, live, ((mem f).mp member).1, holds⟩
    · rintro (⟨f, h, live, matching, holds⟩ | ⟨unmatched, -⟩)
      · exact ⟨_, ⟨f, (mem f).mpr ⟨matching, List.ne_nil_of_mem live⟩, h, live, rfl⟩, holds⟩
      · exact absurd (empty.mpr unmatched) none

end Selected

/-- `Route` after any run, its calls made, panics exactly on nil `Properties`, a `match` or a call. -/
theorem routePanics_iff {M : Type} (ops : List (Op Handler M)) (matcher : String → String → Option Bool)
    (wrap : Handler → Handler) (pb : Packets.Publish) (order : List (Σ _ : String, List Handler))
    (visits : order.Perm (Registry.empty.exec ops).subscriptions.entries) :
    routePanics ((Registry.empty.exec ops).route matcher wrap pb order).2 = true ↔
      pb.properties = none ∨ ∃ aliases topic,
        resolveTopic (Registry.empty.exec ops).aliases pb (publishFromPacketPublish pb) =
          some (aliases, topic) ∧
        ((∃ f, liveHandlers ops f ≠ [] ∧ matcher f topic = none) ∨
          SelectedPanics ops matcher wrap topic (publishFromPacketPublish pb)) := by
  have selection := route_eq_none ops matcher wrap pb order visits
  cases routed : ((Registry.empty.exec ops).route matcher wrap pb order).2 with
  | none =>
      rcases selection.mp routed with absent | ⟨aliases, topic, resolved, panics⟩
      · exact iff_of_true rfl (.inl absent)
      · exact iff_of_true rfl (.inr ⟨aliases, topic, resolved, .inl panics⟩)
  | some calls =>
      have fine : ¬ (pb.properties = none ∨ ∃ aliases topic,
          resolveTopic (Registry.empty.exec ops).aliases pb (publishFromPacketPublish pb) =
            some (aliases, topic) ∧ ∃ f, liveHandlers ops f ≠ [] ∧ matcher f topic = none) :=
        fun panics => by simpa [routed] using selection.mpr panics
      obtain ⟨aliases, topic, resolved⟩ : ∃ aliases topic,
          resolveTopic (Registry.empty.exec ops).aliases pb (publishFromPacketPublish pb) =
            some (aliases, topic) := by
        cases resolve : resolveTopic (Registry.empty.exec ops).aliases pb (publishFromPacketPublish pb) with
        | none => exact absurd (.inl ((resolveTopic_eq_none _ _ _).mp resolve)) fine
        | some result => exact ⟨result.1, result.2, rfl⟩
      obtain ⟨calls', routed', dispatches⟩ := route_dispatches ops matcher wrap pb order aliases topic
        visits resolved fun f live panics => fine (.inr ⟨aliases, topic, resolved, f, live, panics⟩)
      obtain rfl : calls = calls' := Option.some.inj (routed.symm.trans routed')
      have selected : routePanics (some calls) = true ↔
          SelectedPanics ops matcher wrap topic (publishFromPacketPublish pb) := by
        rw [routePanics, ← Option.ne_none_iff_isSome, perform_panic_ne_none]
        exact exists_mem_dispatches dispatches fun c => (c.handler c.publish).panic ≠ none
      rw [selected]
      constructor
      · exact fun panics => .inr ⟨aliases, topic, resolved, .inr panics⟩
      · rintro (absent | ⟨aliases', topic', resolved', panics | panics⟩)
        · exact absurd (.inl absent) fine
        · exact absurd (.inr ⟨aliases', topic', resolved', panics⟩) fine
        · obtain ⟨-, rfl⟩ := Prod.mk.inj (Option.some.inj (resolved.symm.trans resolved'))
          exact panics

/-- When `Route` of each router, its calls made, panics: in its own code or in a handler it selects. -/
theorem route_panics_iff :
    (∀ (ops : List (Op Handler Empty)) (pb : Packets.Publish) (order : List (Σ _ : String, List Handler)),
      order.Perm (newStandardRouter.exec ops).subscriptions.entries →
      (routePanics ((newStandardRouter.exec ops).route pb order).2 = true ↔
        pb.properties = none ∨ ∃ aliases topic,
          resolveTopic (newStandardRouter.exec ops).aliases pb (publishFromPacketPublish pb) =
            some (aliases, topic) ∧
          ((∃ f, liveHandlers ops f ≠ [] ∧ f ≠ topic ∧ hasPrefix f "$share" = true ∧ '/' ∉ f.data) ∨
            SelectedPanics ops Paho.match id topic (publishFromPacketPublish pb)))) ∧
    (∀ (ops : List (Op Handler (Handler → Handler))) (pb : Packets.Publish)
        (order : List (Σ _ : String, List Handler)),
      order.Perm (newStandardContextRouter.exec ops).subscriptions.entries →
      (routePanics ((newStandardContextRouter.exec ops).route pb order).2 = true ↔
        pb.properties = none ∨ ∃ aliases topic,
          resolveTopic (newStandardContextRouter.exec ops).aliases pb (publishFromPacketPublish pb) =
            some (aliases, topic) ∧
          ((∃ f, liveHandlers ops f ≠ [] ∧ f ≠ topic ∧ hasPrefix f "$share" = true ∧ '/' ∉ f.data) ∨
            SelectedPanics ops Paho.match (compose (Op.uses ops)) topic (publishFromPacketPublish pb)))) ∧
    (∀ (ops : List (Op Handler (List (Handler → Handler)))) (pb : Packets.Publish)
        (order : List (Σ _ : String, List Handler)),
      order.Perm (RouterContext.newRouter.exec ops).subscriptions.entries →
      (routePanics ((RouterContext.newRouter.exec ops).route pb order).2 = true ↔
        pb.properties = none ∨ ∃ aliases topic,
          resolveTopic (RouterContext.newRouter.exec ops).aliases pb (publishFromPacketPublish pb) =
            some (aliases, topic) ∧
          ((∃ f, liveHandlers ops f ≠ [] ∧ f ≠ topic ∧ hasPrefix f "$share" = true ∧ '/' ∉ f.data) ∨
            SelectedPanics ops RouterContext.match (compose (Op.uses ops).flatten) topic
              (publishFromPacketPublish pb)))) := by
  refine ⟨fun ops pb order visits => ?_, fun ops pb order visits => ?_,
    fun ops pb order visits => ?_⟩
  · rw [StandardRouter.exec_route]
    rw [StandardRouter.exec_toRegistry] at visits ⊢
    simp only [routePanics_iff ops _ _ pb order visits, match_eq_none]
    rfl
  · rw [StandardContextRouter.exec_route]
    rw [StandardContextRouter.exec_toRegistry] at visits ⊢
    simp only [routePanics_iff ops _ _ pb order visits, match_eq_none]
    rfl
  · rw [RouterContext.Router.exec_route]
    rw [RouterContext.Router.exec_toRegistry] at visits ⊢
    simp only [routePanics_iff ops _ _ pb order visits, RouterContext.match, match_eq_none]
    rfl

/-- A handler registered on `a` that panics: `Route` of a publish to `a` panics in its call. -/
theorem route_panics_iff_handler :
    [(⟨"a", [fun _ => ⟨[], some "boom"⟩]⟩ : Σ _ : String, List Handler)].Perm
        (newStandardRouter.exec [(.registerHandler "a" fun _ => ⟨[], some "boom"⟩ : Op Handler Empty)]).subscriptions.entries ∧
      routePanics ((newStandardRouter.exec [(.registerHandler "a" fun _ => ⟨[], some "boom"⟩ : Op Handler Empty)]).route
        ⟨"a", some ⟨none⟩⟩ [⟨"a", [fun _ => ⟨[], some "boom"⟩]⟩]).2 = true ∧
      SelectedPanics [(.registerHandler "a" fun _ => ⟨[], some "boom"⟩ : Op Handler Empty)] Paho.match id "a" ⟨"a"⟩ := by
  have visits : [(⟨"a", [fun _ => ⟨[], some "boom"⟩]⟩ : Σ _ : String, List Handler)].Perm
      (newStandardRouter.exec [(.registerHandler "a" fun _ => ⟨[], some "boom"⟩ : Op Handler Empty)]).subscriptions.entries :=
    List.Perm.refl _
  have panics : routePanics ((newStandardRouter.exec [(.registerHandler "a" fun _ => ⟨[], some "boom"⟩ :
      Op Handler Empty)]).route ⟨"a", some ⟨none⟩⟩ [⟨"a", [fun _ => ⟨[], some "boom"⟩]⟩]).2 = true := rfl
  refine ⟨visits, panics, ?_⟩
  rcases (route_panics_iff.1 _ _ _ visits).mp panics with absent | ⟨aliases, topic, resolved, share | selected⟩
  · cases absent
  · obtain ⟨-, rfl⟩ := Prod.mk.inj (Option.some.inj resolved.symm)
    obtain ⟨f, live, -, prefixed, -⟩ := share
    rw [liveHandlers_registerHandler] at live
    split at live
    · subst f
      cases prefixed
    · exact absurd rfl live
  · obtain ⟨-, rfl⟩ := Prod.mk.inj (Option.some.inj resolved.symm)
    exact selected

/-! ## The routers with middlewares -/

/-- With `Recoverer` first, every call `Route` selects is made and none panics. -/
theorem route_recovers :
    (∀ (ops : List (Op Handler (Handler → Handler))) (rest : List (Handler → Handler))
        (pb : Packets.Publish) (order : List (Σ _ : String, List Handler))
        (calls : List (Call Handler)),
      Op.uses ops = recoverer :: rest →
      ((newStandardContextRouter.exec ops).route pb order).2 = some calls →
      perform calls = ⟨calls.flatMap fun c => (c.handler c.publish).records, none⟩) ∧
    (∀ (ops : List (Op Handler (List (Handler → Handler)))) (rest : List (Handler → Handler))
        (pb : Packets.Publish) (order : List (Σ _ : String, List Handler))
        (calls : List (Call Handler)),
      (Op.uses ops).flatten = recoverer :: rest →
      ((RouterContext.newRouter.exec ops).route pb order).2 = some calls →
      perform calls = ⟨calls.flatMap fun c => (c.handler c.publish).records, none⟩) := by
  have recovered : ∀ (rest : List (Handler → Handler)) (calls : List (Call Handler)),
      (∀ c ∈ calls, ∃ h, c.handler = compose (recoverer :: rest) h) →
      perform calls = ⟨calls.flatMap fun c => (c.handler c.publish).records, none⟩ :=
    fun rest calls wrapped => perform_of_returns calls fun c member => by
      obtain ⟨h, wraps⟩ := wrapped c member
      rw [wraps]
      exact congrArg Run.panic (recoverer_eq _ _)
  refine ⟨fun ops rest pb order calls first routed => ?_, fun ops rest pb order calls first routed => ?_⟩
  · rw [StandardContextRouter.exec_route, first] at routed
    exact recovered rest calls fun c member => (route_calls _ _ _ pb order calls routed c member).1
  · rw [RouterContext.Router.exec_route, first] at routed
    exact recovered rest calls fun c member => (route_calls _ _ _ pb order calls routed c member).1

theorem route_recovers_panicking :
    Op.uses [(.use recoverer : Op Handler (Handler → Handler)),
      .registerHandler "a" fun _ => ⟨[], some "boom"⟩] = [recoverer] ∧
    ((newStandardContextRouter.exec [(.use recoverer : Op Handler (Handler → Handler)),
        .registerHandler "a" fun _ => ⟨[], some "boom"⟩]).route ⟨"a", some ⟨none⟩⟩
        [⟨"a", [fun _ => ⟨[], some "boom"⟩]⟩]).2 =
      some [⟨recoverer fun _ => ⟨[], some "boom"⟩, ⟨"a"⟩⟩] ∧
    perform [⟨recoverer fun _ => ⟨[], some "boom"⟩, ⟨"a"⟩⟩] = ⟨[.recovered "boom"], none⟩ :=
  have first : Op.uses [(.use recoverer : Op Handler (Handler → Handler)),
      .registerHandler "a" fun _ => ⟨[], some "boom"⟩] = [recoverer] := rfl
  have routed : ((newStandardContextRouter.exec [(.use recoverer : Op Handler (Handler → Handler)),
      .registerHandler "a" fun _ => ⟨[], some "boom"⟩]).route ⟨"a", some ⟨none⟩⟩
      [⟨"a", [fun _ => ⟨[], some "boom"⟩]⟩]).2 =
      some [⟨recoverer fun _ => ⟨[], some "boom"⟩, ⟨"a"⟩⟩] := rfl
  ⟨first, routed, (route_recovers.1 _ [] _ _ _ first routed).trans rfl⟩

/-- With `Logger` first, every call `Route` makes that returns logs the packet's topic. -/
theorem route_logs_packet_topic :
    (∀ (ops : List (Op Handler (Handler → Handler))) (rest : List (Handler → Handler))
        (pb : Packets.Publish) (order : List (Σ _ : String, List Handler))
        (calls : List (Call Handler)),
      Op.uses ops = logger :: rest →
      ((newStandardContextRouter.exec ops).route pb order).2 = some calls →
      ∀ c ∈ calls, (c.handler c.publish).panic = none →
        (c.handler c.publish).records.getLast? = some (.processed pb.topic)) ∧
    (∀ (ops : List (Op Handler (List (Handler → Handler)))) (rest : List (Handler → Handler))
        (pb : Packets.Publish) (order : List (Σ _ : String, List Handler))
        (calls : List (Call Handler)),
      (Op.uses ops).flatten = logger :: rest →
      ((RouterContext.newRouter.exec ops).route pb order).2 = some calls →
      ∀ c ∈ calls, (c.handler c.publish).panic = none →
        (c.handler c.publish).records.getLast? = some (.processed pb.topic)) := by
  have logged : ∀ (pb : Packets.Publish) (rest : List (Handler → Handler)) (c : Call Handler),
      (∃ h, c.handler = compose (logger :: rest) h) ∧ c.publish = publishFromPacketPublish pb →
      (c.handler c.publish).panic = none →
      (c.handler c.publish).records.getLast? = some (.processed pb.topic) := by
    rintro pb rest c ⟨⟨h, wraps⟩, passed⟩ returns
    rw [wraps] at returns ⊢
    change (logger (compose rest h) c.publish).panic = none at returns
    change (logger (compose rest h) c.publish).records.getLast? = _
    rw [logger_eq] at returns ⊢
    by_cases inner : (compose rest h c.publish).panic = none
    · rw [if_pos inner, List.getLast?_append, passed]
      rfl
    · rw [if_neg inner] at returns
      exact absurd returns inner
  refine ⟨fun ops rest pb order calls first routed c member => ?_,
    fun ops rest pb order calls first routed c member => ?_⟩
  · rw [StandardContextRouter.exec_route, first] at routed
    exact logged pb rest c (route_calls _ _ _ pb order calls routed c member)
  · rw [RouterContext.Router.exec_route, first] at routed
    exact logged pb rest c (route_calls _ _ _ pb order calls routed c member)

theorem route_logs_alias_only_topic :
    Op.uses [(.use logger : Op Handler (Handler → Handler)),
      .registerHandler "x/y" fun _ => ⟨[], none⟩,
      .route ⟨"x/y", some ⟨some 1⟩⟩ [⟨"x/y", [fun _ => ⟨[], none⟩]⟩]] = [logger] ∧
    ((newStandardContextRouter.exec [(.use logger : Op Handler (Handler → Handler)),
        .registerHandler "x/y" fun _ => ⟨[], none⟩,
        .route ⟨"x/y", some ⟨some 1⟩⟩ [⟨"x/y", [fun _ => ⟨[], none⟩]⟩]]).route
        ⟨"", some ⟨some 1⟩⟩ [⟨"x/y", [fun _ => ⟨[], none⟩]⟩]).2 =
      some [⟨logger fun _ => ⟨[], none⟩, ⟨""⟩⟩] ∧
    (logger (fun _ => ⟨[], none⟩) ⟨""⟩).records.getLast? = some (.processed "") :=
  have first : Op.uses [(.use logger : Op Handler (Handler → Handler)),
      .registerHandler "x/y" fun _ => ⟨[], none⟩,
      .route ⟨"x/y", some ⟨some 1⟩⟩ [⟨"x/y", [fun _ => ⟨[], none⟩]⟩]] = [logger] := rfl
  have routed : ((newStandardContextRouter.exec [(.use logger : Op Handler (Handler → Handler)),
      .registerHandler "x/y" fun _ => ⟨[], none⟩,
      .route ⟨"x/y", some ⟨some 1⟩⟩ [⟨"x/y", [fun _ => ⟨[], none⟩]⟩]]).route
      ⟨"", some ⟨some 1⟩⟩ [⟨"x/y", [fun _ => ⟨[], none⟩]⟩]).2 =
      some [⟨logger fun _ => ⟨[], none⟩, ⟨""⟩⟩] := rfl
  ⟨first, routed, route_logs_packet_topic.1 _ [] _ _ _ first routed _
    (List.mem_singleton_self _) rfl⟩

end Paho
