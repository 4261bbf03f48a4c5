import Paho.Router.Dispatch

/-!
# The three routers

`StandardRouter`, `StandardContextRouter` and `routercontext.Router` each run `Registry`'s code
with their own matcher and handler wrapping. `exec_route` says which: the package's `match`, and no
wrapping for `StandardRouter`, the middlewares `Use` registered, first outermost (`compose`), for
the other two. The results of `Dispatch` then hold of each router as it is built by its
constructor and driven by any run.
-/

namespace Paho
variable {H : Type}

/-! ## Each router runs `Registry` -/

theorem StandardRouter.exec_route (ops : List (Op H Empty)) (pb : Packets.Publish)
    (order : List (Σ _ : String, List H)) :
    ((newStandardRouter.exec ops).route pb order).2 =
      ((Registry.empty.exec ops).route Paho.match id pb order).2 := by
  simp only [StandardRouter.route, StandardRouter.exec_toRegistry]
  rfl

theorem StandardContextRouter.exec_wrapHandler (ops : List (Op H (H → H))) (h : H) :
    (newStandardContextRouter.exec ops).wrapHandler h = compose (Op.uses ops) h := by
  rw [StandardContextRouter.wrapHandler, wrapHandler_eq, StandardContextRouter.exec_middlewares]
  rfl

theorem StandardContextRouter.exec_route (ops : List (Op H (H → H))) (pb : Packets.Publish)
    (order : List (Σ _ : String, List H)) :
    ((newStandardContextRouter.exec ops).route pb order).2 =
      ((Registry.empty.exec ops).route Paho.match (compose (Op.uses ops)) pb order).2 := by
  have wraps : (newStandardContextRouter.exec ops).wrapHandler = compose (Op.uses ops) :=
    funext (StandardContextRouter.exec_wrapHandler ops)
  simp only [StandardContextRouter.route, wraps, StandardContextRouter.exec_toRegistry]
  rfl

theorem RouterContext.Router.exec_wrapHandler (ops : List (Op H (List (H → H)))) (h : H) :
    (RouterContext.newRouter.exec ops).wrapHandler h = compose (Op.uses ops).flatten h := by
  rw [RouterContext.Router.wrapHandler, wrapHandler_eq, RouterContext.Router.exec_middlewares]
  rfl

theorem RouterContext.Router.exec_route (ops : List (Op H (List (H → H)))) (pb : Packets.Publish)
    (order : List (Σ _ : String, List H)) :
    ((RouterContext.newRouter.exec ops).route pb order).2 =
      ((Registry.empty.exec ops).route RouterContext.match (compose (Op.uses ops).flatten) pb
        order).2 := by
  have wraps : (RouterContext.newRouter.exec ops).wrapHandler = compose (Op.uses ops).flatten :=
    funext (RouterContext.Router.exec_wrapHandler ops)
  simp only [RouterContext.Router.route, wraps, RouterContext.Router.exec_toRegistry]
  rfl

/-- The context routers wrap every handler `Route` calls in the middlewares `Use` added, first outermost. -/
theorem route_wraps_uses :
    (∀ (ops : List (Op H (H → H))) (h : H),
      (newStandardContextRouter.exec ops).wrapHandler h = compose (Op.uses ops) h) ∧
    (∀ (ops : List (Op H (H → H))) (pb : Packets.Publish) (order : List (Σ _ : String, List H)),
      ((newStandardContextRouter.exec ops).route pb order).2 =
        ((Registry.empty.exec ops).route Paho.match (compose (Op.uses ops)) pb order).2) ∧
    (∀ (ops : List (Op H (List (H → H)))) (h : H),
      (RouterContext.newRouter.exec ops).wrapHandler h = compose (Op.uses ops).flatten h) ∧
    (∀ (ops : List (Op H (List (H → H)))) (pb : Packets.Publish)
        (order : List (Σ _ : String, List H)),
      ((RouterContext.newRouter.exec ops).route pb order).2 =
        ((Registry.empty.exec ops).route RouterContext.match (compose (Op.uses ops).flatten) pb
          order).2) :=
  ⟨StandardContextRouter.exec_wrapHandler, StandardContextRouter.exec_route,
    RouterContext.Router.exec_wrapHandler, RouterContext.Router.exec_route⟩

/-! ## What `Route` invokes -/

/-- After any run of each router, `Route` invokes what `Dispatches` says when no `match` panics. -/
theorem route_invokes_live_handlers :
    (∀ (ops : List (Op H Empty)) (pb : Packets.Publish) (order : List (Σ _ : String, List H))
        (aliases : AList fun _ : UInt16 => String) (topic : String),
      order.Perm (newStandardRouter.exec ops).subscriptions.entries →
      resolveTopic (newStandardRouter.exec ops).aliases pb (publishFromPacketPublish pb) =
        some (aliases, topic) →
      (∀ f, liveHandlers ops f ≠ [] → Paho.match f topic ≠ none) →
      ∃ calls, ((newStandardRouter.exec ops).route pb order).2 = some calls ∧
        Dispatches ops Paho.match id topic (publishFromPacketPublish pb) calls) ∧
    (∀ (ops : List (Op H (H → H))) (pb : Packets.Publish) (order : List (Σ _ : String, List H))
        (aliases : AList fun _ : UInt16 => String) (topic : String),
      order.Perm (newStandardContextRouter.exec ops).subscriptions.entries →
      resolveTopic (newStandardContextRouter.exec ops).aliases pb (publishFromPacketPublish pb) =
        some (aliases, topic) →
      (∀ f, liveHandlers ops f ≠ [] → Paho.match f topic ≠ none) →
      ∃ calls, ((newStandardContextRouter.exec ops).route pb order).2 = some calls ∧
        Dispatches ops Paho.match (compose (Op.uses ops)) topic (publishFromPacketPublish pb) calls) ∧
    (∀ (ops : List (Op H (List (H → H)))) (pb : Packets.Publish)
        (order : List (Σ _ : String, List H)) (aliases : AList fun _ : UInt16 => String)
        (topic : String),
      order.Perm (RouterContext.newRouter.exec ops).subscriptions.entries →
      resolveTopic (RouterContext.newRouter.exec ops).aliases pb (publishFromPacketPublish pb) =
        some (aliases, topic) →
      (∀ f, liveHandlers ops f ≠ [] → RouterContext.match f topic ≠ none) →
      ∃ calls, ((RouterContext.newRouter.exec ops).route pb order).2 = some calls ∧
        Dispatches ops RouterContext.match (compose (Op.uses ops).flatten) topic
          (publishFromPacketPublish pb) calls) := by
  refine ⟨fun ops pb order aliases topic visits resolved total => ?_,
    fun ops pb order aliases topic visits resolved total => ?_,
    fun ops pb order aliases topic visits resolved total => ?_⟩
  · rw [StandardRouter.exec_route]
    rw [StandardRouter.exec_toRegistry] at visits resolved
    exact route_dispatches ops _ _ pb order aliases topic visits resolved total
  · rw [StandardContextRouter.exec_route]
    rw [StandardContextRouter.exec_toRegistry] at visits resolved
    exact route_dispatches ops _ _ pb order aliases topic visits resolved total
  · rw [RouterContext.Router.exec_route]
    rw [RouterContext.Router.exec_toRegistry] at visits resolved
    exact route_dispatches ops _ _ pb order aliases topic visits resolved total

/-- Overlapping filters, a duplicate, an undone registration and a default handler. -/
theorem route_invokes_live_handlers_overlapping :
    [(⟨"a/b", ["h2", "h2"]⟩ : Σ _ : String, List String), ⟨"a/+", ["h1"]⟩].Perm
        (newStandardRouter.exec [(.registerHandler "a/+" "h1" : Op String Empty), .registerHandler "a/b" "h2",
          .registerHandler "a/b" "h2", .registerHandler "c" "h3", .unregisterHandler "c",
          .defaultHandler (some "d")]).subscriptions.entries ∧
      ((newStandardRouter.exec [(.registerHandler "a/+" "h1" : Op String Empty), .registerHandler "a/b" "h2",
          .registerHandler "a/b" "h2", .registerHandler "c" "h3", .unregisterHandler "c",
          .defaultHandler (some "d")]).route ⟨"a/b", some ⟨none⟩⟩ [⟨"a/b", ["h2", "h2"]⟩, ⟨"a/+", ["h1"]⟩]).2 =
        some [⟨"h2", ⟨"a/b"⟩⟩, ⟨"h2", ⟨"a/b"⟩⟩, ⟨"h1", ⟨"a/b"⟩⟩] ∧
      Dispatches [(.registerHandler "a/+" "h1" : Op String Empty), .registerHandler "a/b" "h2",
          .registerHandler "a/b" "h2", .registerHandler "c" "h3", .unregisterHandler "c",
          .defaultHandler (some "d")] Paho.match id "a/b" ⟨"a/b"⟩
        [⟨"h2", ⟨"a/b"⟩⟩, ⟨"h2", ⟨"a/b"⟩⟩, ⟨"h1", ⟨"a/b"⟩⟩] ∧
      ((newStandardRouter.exec [(.registerHandler "a/+" "h1" : Op String Empty), .registerHandler "a/b" "h2",
          .registerHandler "a/b" "h2", .registerHandler "c" "h3", .unregisterHandler "c",
          .defaultHandler (some "d")]).route ⟨"x", some ⟨none⟩⟩ [⟨"a/b", ["h2", "h2"]⟩, ⟨"a/+", ["h1"]⟩]).2 =
        some [⟨"d", ⟨"x"⟩⟩] ∧
      Dispatches [(.registerHandler "a/+" "h1" : Op String Empty), .registerHandler "a/b" "h2",
          .registerHandler "a/b" "h2", .registerHandler "c" "h3", .unregisterHandler "c",
          .defaultHandler (some "d")] Paho.match id "x" ⟨"x"⟩ [⟨"d", ⟨"x"⟩⟩] := by
  have visits : [(⟨"a/b", ["h2", "h2"]⟩ : Σ _ : String, List String), ⟨"a/+", ["h1"]⟩].Perm
      (newStandardRouter.exec [(.registerHandler "a/+" "h1" : Op String Empty), .registerHandler "a/b" "h2",
        .registerHandler "a/b" "h2", .registerHandler "c" "h3", .unregisterHandler "c",
        .defaultHandler (some "d")]).subscriptions.entries :=
    List.Perm.refl _
  have live : ∀ f, liveHandlers [(.registerHandler "a/+" "h1" : Op String Empty), .registerHandler "a/b" "h2",
      .registerHandler "a/b" "h2", .registerHandler "c" "h3", .unregisterHandler "c",
      .defaultHandler (some "d")] f ≠ [] → f = "a/+" ∨ f = "a/b" := by
    intro f found
    by_contra other
    simp only [not_or] at other
    simp [liveHandlers, liveRegistrations, Op.unregisters, Ne.symm other.1, Ne.symm other.2] at found
  have total : ∀ topic, topic = "a/b" ∨ topic = "x" → ∀ f, liveHandlers [(.registerHandler "a/+" "h1" :
      Op String Empty), .registerHandler "a/b" "h2", .registerHandler "a/b" "h2", .registerHandler "c" "h3",
      .unregisterHandler "c", .defaultHandler (some "d")] f ≠ [] → Paho.match f topic ≠ none := by
    rintro topic named f found
    rcases named with rfl | rfl <;> rcases live f found with rfl | rfl <;> decide
  obtain ⟨calls, routed, dispatches⟩ :=
    route_invokes_live_handlers.1 _ ⟨"a/b", some ⟨none⟩⟩ _ ∅ "a/b" visits rfl (total _ (.inl rfl))
  obtain ⟨calls', routed', dispatches'⟩ :=
    route_invokes_live_handlers.1 _ ⟨"x", some ⟨none⟩⟩ _ ∅ "x" visits rfl (total _ (.inr rfl))
  obtain rfl : calls = [⟨"h2", ⟨"a/b"⟩⟩, ⟨"h2", ⟨"a/b"⟩⟩, ⟨"h1", ⟨"a/b"⟩⟩] := Option.some.inj (routed.symm.trans rfl)
  obtain rfl : calls' = [⟨"d", ⟨"x"⟩⟩] := Option.some.inj (routed'.symm.trans rfl)
  exact ⟨visits, routed, dispatches, routed', dispatches'⟩

/-! ## When `Route` panics -/

/-- With a handler on the filter `$share`, `Route` of each router panics on the topic `a`. -/
theorem route_panics_on_share_filter (h : H) :
    ((newStandardRouter.exec [(.registerHandler "$share" h : Op H Empty)]).route
        ⟨"a", some ⟨none⟩⟩ [⟨"$share", [h]⟩]).2 = none ∧
      ((newStandardContextRouter.exec [(.registerHandler "$share" h : Op H (H → H))]).route
        ⟨"a", some ⟨none⟩⟩ [⟨"$share", [h]⟩]).2 = none ∧
      ((RouterContext.newRouter.exec [(.registerHandler "$share" h : Op H (List (H → H)))]).route
        ⟨"a", some ⟨none⟩⟩ [⟨"$share", [h]⟩]).2 = none :=
  ⟨rfl, rfl, rfl⟩

/-! ## The state a run leaves -/

/-- After any run of each router, each filter is bound to its live handlers, and the default is the last set. -/
theorem router_state_after_run :
    (∀ (ops : List (Op H Empty)) (f : String),
      ((newStandardRouter.exec ops).subscriptions.lookup f).getD [] = liveHandlers ops f ∧
        (f ∈ (newStandardRouter.exec ops).subscriptions ↔ liveHandlers ops f ≠ []) ∧
        (newStandardRouter.exec ops).defaultHandler = lastDefault ops) ∧
    (∀ (ops : List (Op H (H → H))) (f : String),
      ((newStandardContextRouter.exec ops).subscriptions.lookup f).getD [] = liveHandlers ops f ∧
        (f ∈ (newStandardContextRouter.exec ops).subscriptions ↔ liveHandlers ops f ≠ []) ∧
        (newStandardContextRouter.exec ops).defaultHandler = lastDefault ops) ∧
    (∀ (ops : List (Op H (List (H → H)))) (f : String),
      ((RouterContext.newRouter.exec ops).subscriptions.lookup f).getD [] = liveHandlers ops f ∧
        (f ∈ (RouterContext.newRouter.exec ops).subscriptions ↔ liveHandlers ops f ≠ []) ∧
        (RouterContext.newRouter.exec ops).defaultHandler = lastDefault ops) := by
  refine ⟨fun ops f => ?_, fun ops f => ?_, fun ops f => ?_⟩
  · rw [StandardRouter.exec_toRegistry]
    exact ⟨(exec_subscriptions ops f).1, (exec_subscriptions ops f).2, exec_defaultHandler ops⟩
  · rw [StandardContextRouter.exec_toRegistry]
    exact ⟨(exec_subscriptions ops f).1, (exec_subscriptions ops f).2, exec_defaultHandler ops⟩
  · rw [RouterContext.Router.exec_toRegistry]
    exact ⟨(exec_subscriptions ops f).1, (exec_subscriptions ops f).2, exec_defaultHandler ops⟩

end Paho
