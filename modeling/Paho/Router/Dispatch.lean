import Paho.Router.Model

/-!
# Dispatch

What `Route` invokes after any run of a router, in terms of the run's calls alone: the handlers of
the registrations no later `UnregisterHandler` undid (`liveRegistrations`), filter by filter, and
the default handler set last when none of them ran. The argument is made once for `Registry`:
`exec_subscriptions` describes the state a run leaves, `dispatch_eq` the loops of `Route`, and
`route_dispatches` puts them together.
-/

namespace Paho
variable {H M : Type}

/-! ## The registrations a run leaves -/

def Op.unregisters : Op H M → String → Bool
  | .unregisterHandler topic, f => topic == f
  | _, _ => false

/-- The registrations of `ops` that no later `UnregisterHandler` of the same filter undid. -/
def liveRegistrations : List (Op H M) → List (String × H)
  | [] => []
  | .registerHandler topic h :: ops =>
      (if ops.any (·.unregisters topic) then [] else [(topic, h)]) ++ liveRegistrations ops
  | _ :: ops => liveRegistrations ops

def liveHandlers (ops : List (Op H M)) (topic : String) : List H :=
  ((liveRegistrations ops).filter (·.1 == topic)).map (·.2)

/-- The handler the last `DefaultHandler` of `ops` set, if it set one. -/
def lastDefault (ops : List (Op H M)) : Option H :=
  (ops.filterMap fun | .defaultHandler h => some h | _ => none).getLast?.join

theorem liveRegistrations_append (ops : List (Op H M)) (op : Op H M) :
    liveRegistrations (ops ++ [op]) =
      (liveRegistrations ops).filter (fun e => !op.unregisters e.1) ++ liveRegistrations [op] := by
  induction ops with
  | nil => cases op <;> simp [liveRegistrations]
  | cons x ops ih =>
      cases x with
      | registerHandler topic h =>
          simp only [List.cons_append, liveRegistrations, List.any_append, List.any_cons,
            List.any_nil, Bool.or_false, ih, List.filter_append, List.append_assoc]
          congr 1
          by_cases undone : ops.any (·.unregisters topic) <;>
            by_cases last : op.unregisters topic <;> simp [undone, last]
      | _ => simpa [liveRegistrations] using ih

theorem liveHandlers_append (ops : List (Op H M)) (op : Op H M) (topic : String) :
    liveHandlers (ops ++ [op]) topic =
      (if op.unregisters topic then [] else liveHandlers ops topic) ++ liveHandlers [op] topic := by
  rw [liveHandlers, liveRegistrations_append, List.filter_append, List.map_append, List.filter_filter]
  congr 1
  by_cases undone : op.unregisters topic
  · simp only [undone, if_true, List.map_eq_nil_iff, List.filter_eq_nil_iff]
    intro e _
    by_cases same : e.1 = topic <;> simp [same, undone]
  · simp only [undone, if_false, liveHandlers]
    congr 1
    apply List.filter_congr
    intro e _
    by_cases same : e.1 = topic <;> simp [same, undone]

theorem lastDefault_append (ops : List (Op H M)) (op : Op H M) :
    lastDefault (ops ++ [op]) = match op with
      | .defaultHandler h => h
      | _ => lastDefault ops := by
  cases op <;> simp [lastDefault, List.filterMap_append]

@[simp] theorem liveHandlers_registerHandler (f topic : String) (h : H) :
    liveHandlers [(.registerHandler f h : Op H M)] topic = if f = topic then [h] else [] := by
  by_cases same : f = topic <;> simp [liveHandlers, liveRegistrations, same]

@[simp] theorem liveHandlers_unregisterHandler (f topic : String) :
    liveHandlers [(.unregisterHandler f : Op H M)] topic = [] := rfl

@[simp] theorem liveHandlers_defaultHandler (h : Option H) (topic : String) :
    liveHandlers [(.defaultHandler h : Op H M)] topic = [] := rfl

@[simp] theorem liveHandlers_use (m : M) (topic : String) :
    liveHandlers [(.use m : Op H M)] topic = [] := rfl

@[simp] theorem liveHandlers_route (pb : Packets.Publish) (order : List (Σ _ : String, List H))
    (topic : String) : liveHandlers [(.route pb order : Op H M)] topic = [] := rfl

/-! ## The state a run leaves -/

theorem afterRoute_subscriptions (r : Registry H) (pb : Packets.Publish) :
    (r.afterRoute pb).subscriptions = r.subscriptions := by
  unfold Registry.afterRoute
  split <;> rfl

theorem afterRoute_defaultHandler (r : Registry H) (pb : Packets.Publish) :
    (r.afterRoute pb).defaultHandler = r.defaultHandler := by
  unfold Registry.afterRoute
  split <;> rfl

/-- After any run, a filter is bound to its live handlers, and is present exactly when it has some. -/
theorem exec_subscriptions (ops : List (Op H M)) (topic : String) :
    ((Registry.empty.exec ops).subscriptions.lookup topic).getD [] = liveHandlers ops topic ∧
      (topic ∈ (Registry.empty.exec ops).subscriptions ↔ liveHandlers ops topic ≠ []) := by
  induction ops using List.reverseRecOn generalizing topic with
  | nil => exact ⟨rfl, by simp [Registry.exec, Registry.empty, AList.not_mem_empty, liveHandlers,
      liveRegistrations]⟩
  | append_singleton ops op ih =>
      rw [Registry.exec_append, liveHandlers_append]
      obtain ⟨bound, present⟩ := ih topic
      cases op with
      | registerHandler f h =>
          by_cases same : f = topic
          · subst same
            simp [Registry.step, Registry.registerHandler, AList.lookup_insert, bound, Op.unregisters,
              AList.mem_insert]
          · simp [Registry.step, Registry.registerHandler, AList.lookup_insert_ne (Ne.symm same), bound,
              present, Op.unregisters, same, AList.mem_insert, Ne.symm same]
      | unregisterHandler f =>
          by_cases same : f = topic
          · subst same
            simp [Registry.step, Registry.unregisterHandler, AList.lookup_erase, Op.unregisters,
              AList.mem_erase]
          · simp [Registry.step, Registry.unregisterHandler, AList.lookup_erase_ne (Ne.symm same), bound,
              present, Op.unregisters, same, AList.mem_erase, Ne.symm same]
      | route pb order =>
          simp [Registry.step, afterRoute_subscriptions, bound, present, Op.unregisters]
      | _ => simp [Registry.step, Registry.setDefaultHandler, bound, present, Op.unregisters]

theorem exec_defaultHandler (ops : List (Op H M)) :
    (Registry.empty.exec ops).defaultHandler = lastDefault ops := by
  induction ops using List.reverseRecOn with
  | nil => rfl
  | append_singleton ops op ih =>
      rw [Registry.exec_append, lastDefault_append, ← ih]
      cases op with
      | route pb order => exact afterRoute_defaultHandler _ pb
      | _ => rfl

/-! ## The loops of `Route` -/

section Loops
variable (matcher : String → String → Option Bool) (wrap : H → H) (topic : String) (m : Publish)

private theorem isEmpty_append {α : Type} (a b : List α) : (a ++ b).isEmpty = (a.isEmpty && b.isEmpty) := by
  cases a <;> rfl

private theorem isEmpty_map {α β : Type} (f : α → β) (a : List α) : (a.map f).isEmpty = a.isEmpty := by
  cases a <;> rfl

theorem invokeHandlers_eq (handlers : List H) (calls : List (Call H)) (called : Bool) :
    invokeHandlers wrap m handlers (calls, called) =
      (calls ++ handlers.map fun h => ⟨wrap h, m⟩, called || !handlers.isEmpty) := by
  induction handlers generalizing calls called with
  | nil => simp [invokeHandlers]
  | cons h handlers ih => simp [invokeHandlers, ih]

def matchedCalls (entries : List (Σ _ : String, List H)) : List (Call H) :=
  entries.flatMap fun e => if matcher e.1 topic = some true then e.2.map fun h => ⟨wrap h, m⟩ else []

theorem matchedCalls_cons (e : Σ _ : String, List H) (entries : List (Σ _ : String, List H)) :
    matchedCalls matcher wrap topic m (e :: entries) =
      (if matcher e.1 topic = some true then e.2.map fun h => ⟨wrap h, m⟩ else []) ++
        matchedCalls matcher wrap topic m entries :=
  List.flatMap_cons _ _ _

/-- When no `match` panics, the loops of `Route` make the calls of the matching entries. -/
theorem dispatch_eq (entries : List (Σ _ : String, List H)) (calls : List (Call H)) (called : Bool)
    (total : ∀ e ∈ entries, matcher e.1 topic ≠ none) :
    dispatch matcher wrap topic m entries (calls, called) =
      some (calls ++ matchedCalls matcher wrap topic m entries,
        called || !(matchedCalls matcher wrap topic m entries).isEmpty) := by
  induction entries generalizing calls called with
  | nil => simp [dispatch, matchedCalls]
  | cons e entries ih =>
      obtain ⟨route, handlers⟩ := e
      have rest := fun calls called => ih calls called fun e member => total e (List.mem_cons_of_mem _ member)
      cases matched : matcher route topic with
      | none => exact absurd matched (total _ (List.mem_cons_self _ _))
      | some b =>
          cases b <;> simp [dispatch, matched, invokeHandlers_eq, rest, matchedCalls_cons, Bool.or_assoc,
            isEmpty_append, isEmpty_map]

theorem dispatch_eq_none (entries : List (Σ _ : String, List H)) (acc : List (Call H) × Bool) :
    dispatch matcher wrap topic m entries acc = none ↔ ∃ e ∈ entries, matcher e.1 topic = none := by
  induction entries generalizing acc with
  | nil => simp [dispatch]
  | cons e entries ih =>
      obtain ⟨route, handlers⟩ := e
      cases matched : matcher route topic with
      | none => simp [dispatch, matched]
      | some b => cases b <;> simp [dispatch, matched, ih]

theorem deliver_eq (r : Registry H) (order : List (Σ _ : String, List H))
    (total : ∀ e ∈ order, matcher e.1 topic ≠ none) :
    r.deliver matcher wrap topic m order =
      some (matchedCalls matcher wrap topic m order ++
        if (matchedCalls matcher wrap topic m order).isEmpty
        then (r.defaultHandler.map fun h => ⟨wrap h, m⟩).toList else []) := by
  rw [Registry.deliver, dispatch_eq _ _ _ _ _ _ _ total]
  cases none : (matchedCalls matcher wrap topic m order).isEmpty <;> cases r.defaultHandler <;>
    simp [none]

end Loops

/-! ## What `Route` invokes -/

/-- What `Route` invokes: the live handlers of each matching filter once, else the last default. -/
def Dispatches (ops : List (Op H M)) (matcher : String → String → Option Bool) (wrap : H → H)
    (topic : String) (m : Publish) (calls : List (Call H)) : Prop :=
  ∃ filters : List String, filters.Nodup ∧
    (∀ f, f ∈ filters ↔ matcher f topic = some true ∧ liveHandlers ops f ≠ []) ∧
    calls = filters.flatMap (fun f => (liveHandlers ops f).map fun h => ⟨wrap h, m⟩) ++
      if filters = [] then ((lastDefault ops).map fun h => ⟨wrap h, m⟩).toList else []

private theorem flatMap_matched (p : String → Prop) [DecidablePred p] {g : String → List H}
    {c : H → Call H} (order : List (Σ _ : String, List H)) (values : ∀ e ∈ order, e.2 = g e.1) :
    (order.flatMap fun e => if p e.1 then e.2.map c else []) =
      ((order.filter (p ·.1)).map Sigma.fst).flatMap fun f => (g f).map c := by
  induction order with
  | nil => rfl
  | cons e order ih =>
      rw [List.flatMap_cons, ih fun e member => values e (List.mem_cons_of_mem _ member),
        values e (List.mem_cons_self _ _)]
      by_cases matching : p e.1 <;> simp [matching]

theorem mem_entries_exec {ops : List (Op H M)} {e : Σ _ : String, List H}
    (member : e ∈ (Registry.empty.exec ops).subscriptions.entries) :
    e.2 = liveHandlers ops e.1 ∧ liveHandlers ops e.1 ≠ [] := by
  obtain ⟨bound, present⟩ := exec_subscriptions ops e.1
  have found : (Registry.empty.exec ops).subscriptions.lookup e.1 = some e.2 :=
    AList.mem_lookup_iff.mpr member
  refine ⟨by rw [← bound, found]; rfl, present.mp ?_⟩
  exact AList.lookup_isSome.mp (by rw [found]; rfl)

def matchedFilters (matcher : String → String → Option Bool) (topic : String)
    (order : List (Σ _ : String, List H)) : List String :=
  (order.filter (matcher ·.1 topic = some true)).map Sigma.fst

section Visits
variable {ops : List (Op H M)} {order : List (Σ _ : String, List H)}
  (visits : order.Perm (Registry.empty.exec ops).subscriptions.entries)
  (matcher : String → String → Option Bool) (topic : String)
include visits

theorem matchedCalls_eq (wrap : H → H) (m : Publish) :
    matchedCalls matcher wrap topic m order =
      (matchedFilters matcher topic order).flatMap fun f => (liveHandlers ops f).map fun h => ⟨wrap h, m⟩ :=
  flatMap_matched (matcher · topic = some true) order fun _ member =>
    (mem_entries_exec (visits.subset member)).1

theorem nodup_matchedFilters : (matchedFilters matcher topic order).Nodup :=
  ((visits.map Sigma.fst).nodup_iff.mpr (Registry.empty.exec ops).subscriptions.keys_nodup).sublist
    ((List.filter_sublist order).map Sigma.fst)

theorem mem_matchedFilters (f : String) :
    f ∈ matchedFilters matcher topic order ↔ matcher f topic = some true ∧ liveHandlers ops f ≠ [] := by
  simp only [matchedFilters, List.mem_map, List.mem_filter, decide_eq_true_eq]
  constructor
  · rintro ⟨e, ⟨member, matching⟩, rfl⟩
    exact ⟨matching, (mem_entries_exec (visits.subset member)).2⟩
  · rintro ⟨matching, live⟩
    obtain ⟨handlers, member⟩ :=
      List.mem_keys.mp (AList.mem_keys.mp ((exec_subscriptions ops f).2.mpr live))
    exact ⟨⟨f, handlers⟩, ⟨visits.mem_iff.mpr member, matching⟩, rfl⟩

theorem isEmpty_matchedCalls (wrap : H → H) (m : Publish) :
    (matchedCalls matcher wrap topic m order).isEmpty ↔ matchedFilters matcher topic order = [] := by
  rw [matchedCalls_eq visits, List.isEmpty_iff, List.flatMap_eq_nil_iff]
  constructor
  · intro none
    by_contra nonempty
    obtain ⟨f, member⟩ := List.exists_mem_of_ne_nil _ nonempty
    exact ((mem_matchedFilters visits matcher topic f).mp member).2 (by simpa using none f member)
  · rintro nil f member
    simp [nil] at member

end Visits

theorem deliver_dispatches (ops : List (Op H M)) (matcher : String → String → Option Bool)
    (wrap : H → H) (topic : String) (m : Publish) (order : List (Σ _ : String, List H))
    (visits : order.Perm (Registry.empty.exec ops).subscriptions.entries)
    (total : ∀ f ∈ (Registry.empty.exec ops).subscriptions, matcher f topic ≠ none) :
    ∃ calls, (Registry.empty.exec ops).deliver matcher wrap topic m order = some calls ∧
      Dispatches ops matcher wrap topic m calls := by
  have key : ∀ e ∈ order, e.1 ∈ (Registry.empty.exec ops).subscriptions := fun e member =>
    AList.mem_keys.mpr (List.mem_keys_of_mem (visits.subset member))
  refine ⟨_, deliver_eq matcher wrap topic m _ order fun e member => total e.1 (key e member),
    matchedFilters matcher topic order, nodup_matchedFilters visits matcher topic,
    mem_matchedFilters visits matcher topic, ?_⟩
  rw [exec_defaultHandler]
  by_cases none : matchedFilters matcher topic order = []
  · rw [if_pos ((isEmpty_matchedCalls visits matcher topic wrap m).mpr none), if_pos none,
      matchedCalls_eq visits]
  · rw [if_neg (mt (isEmpty_matchedCalls visits matcher topic wrap m).mp none), if_neg none,
      matchedCalls_eq visits]

/-- `Route` after any run, when no `match` panics, makes exactly the calls `Dispatches` describes. -/
theorem route_dispatches (ops : List (Op H M)) (matcher : String → String → Option Bool)
    (wrap : H → H) (pb : Packets.Publish) (order : List (Σ _ : String, List H))
    (aliases : AList fun _ : UInt16 => String) (topic : String)
    (visits : order.Perm (Registry.empty.exec ops).subscriptions.entries)
    (resolved : resolveTopic (Registry.empty.exec ops).aliases pb (publishFromPacketPublish pb) =
      some (aliases, topic))
    (total : ∀ f, liveHandlers ops f ≠ [] → matcher f topic ≠ none) :
    ∃ calls, ((Registry.empty.exec ops).route matcher wrap pb order).2 = some calls ∧
      Dispatches ops matcher wrap topic (publishFromPacketPublish pb) calls := by
  simp only [Registry.route, resolved]
  exact deliver_dispatches ops matcher wrap topic _ order visits fun f present =>
    total f ((exec_subscriptions ops f).2.mp present)

theorem resolveTopic_eq_none (aliases : AList fun _ : UInt16 => String) (pb : Packets.Publish)
    (m : Publish) : resolveTopic aliases pb m = none ↔ pb.properties = none := by
  unfold resolveTopic
  split
  · simp [*]
  · split <;> simp [*]

/-- `Route` after any run panics exactly on nil `Properties`, or when `match` panics on a live filter. -/
theorem route_eq_none (ops : List (Op H M)) (matcher : String → String → Option Bool)
    (wrap : H → H) (pb : Packets.Publish) (order : List (Σ _ : String, List H))
    (visits : order.Perm (Registry.empty.exec ops).subscriptions.entries) :
    ((Registry.empty.exec ops).route matcher wrap pb order).2 = none ↔
      pb.properties = none ∨ ∃ aliases topic,
        resolveTopic (Registry.empty.exec ops).aliases pb (publishFromPacketPublish pb) =
          some (aliases, topic) ∧ ∃ f, liveHandlers ops f ≠ [] ∧ matcher f topic = none := by
  cases resolved : resolveTopic (Registry.empty.exec ops).aliases pb (publishFromPacketPublish pb) with
  | none => simp [Registry.route, resolved, (resolveTopic_eq_none _ _ _).mp resolved]
  | some result =>
      obtain ⟨aliases, topic⟩ := result
      have present : pb.properties ≠ none := fun absent =>
        by simp [(resolveTopic_eq_none _ _ _).mpr absent] at resolved
      simp only [Registry.route, resolved, Registry.deliver, Option.map_eq_none', dispatch_eq_none,
        present, false_or, Option.some.injEq, Prod.mk.injEq]
      constructor
      · rintro ⟨e, member, panics⟩
        exact ⟨aliases, topic, ⟨rfl, rfl⟩, e.1, (mem_entries_exec (visits.subset member)).2, panics⟩
      · rintro ⟨_, _, ⟨rfl, rfl⟩, f, live, panics⟩
        obtain ⟨handlers, member⟩ :=
          List.mem_keys.mp (AList.mem_keys.mp ((exec_subscriptions ops f).2.mpr live))
        exact ⟨⟨f, handlers⟩, visits.mem_iff.mpr member, panics⟩

theorem route_calls (r : Registry H) (matcher : String → String → Option Bool) (wrap : H → H)
    (pb : Packets.Publish) (order : List (Σ _ : String, List H)) (calls : List (Call H))
    (routed : (r.route matcher wrap pb order).2 = some calls) :
    ∀ c ∈ calls, (∃ h, c.handler = wrap h) ∧ c.publish = publishFromPacketPublish pb := by
  cases resolved : resolveTopic r.aliases pb (publishFromPacketPublish pb) with
  | none => simp [Registry.route, resolved] at routed
  | some result =>
      obtain ⟨aliases, topic⟩ := result
      simp only [Registry.route, resolved] at routed
      have total : ∀ e ∈ order, matcher e.1 topic ≠ none := fun e member panics => by
        have stuck := (dispatch_eq_none matcher wrap topic (publishFromPacketPublish pb) order
          ([], false)).mpr ⟨e, member, panics⟩
        simp [Registry.deliver, stuck] at routed
      rw [deliver_eq matcher wrap topic _ r order total, Option.some.injEq] at routed
      subst routed
      intro c member
      simp only [matchedCalls, List.mem_append, List.mem_flatMap] at member
      rcases member with ⟨e, _, made⟩ | made
      · split at made
        · obtain ⟨h, _, rfl⟩ := List.mem_map.mp made
          exact ⟨⟨h, rfl⟩, rfl⟩
        · cases made
      · split at made
        · cases default : r.defaultHandler with
          | none => simp [default] at made
          | some h =>
              simp only [default, Option.map_some', Option.toList_some, List.mem_singleton] at made
              exact made ▸ ⟨⟨h, rfl⟩, rfl⟩
        · cases made

end Paho
