import Paho.Router.Dispatch
import Paho.Router.Alias
import Paho.Serial

/-!
# Interleaved calls on a `StandardContextRouter`

The bodies of the methods of `StandardContextRouter` (`paho/router.go`), cut into the reads and
writes of the router's fields they make (`Invocation.body`). `RegisterHandler` reads
`r.subscriptions[topic]` and then writes it with `h` appended, and `Use` does the same with
`r.middlewares`, both under `Lock`. `Route` holds `RLock` while it writes and reads its alias and
ranges over `r.subscriptions` as the state holds it, visiting the entries it finds in the order
its `Iteration` gives; the range is one step, as no call that writes the subscriptions can hold
the mutex meanwhile. `router_calls_serial`: while no `Route` writes an alias, every interleaving
is serial in the order the calls released the mutex, and from `NewStandardContextRouter` each
`Route` called the live handlers of the registrations released before it (`Dispatches`).
-/

namespace Paho
namespace StandardContextRouter
variable {H : Type}

/-- The order one `range` over a map visits the entries it finds in: any permutation of them. -/
structure Iteration (H : Type) where
  arrange : List (Σ _ : String, List H) → List (Σ _ : String, List H)
  perm : ∀ entries, (arrange entries).Perm entries

/-- A call a goroutine makes; `route` carries the order its `range` visits the subscriptions in. -/
inductive Invocation (H : Type)
  | registerHandler (topic : String) (h : H)
  | unregisterHandler (topic : String)
  | defaultHandler (h : Option H)
  | use (m : H → H)
  | route (pb : Packets.Publish) (iteration : Iteration H)

def Invocation.method : Invocation H → RouterMethod
  | .registerHandler _ _ => .registerHandler
  | .unregisterHandler _ => .unregisterHandler
  | .defaultHandler _ => .defaultHandler
  | .use _ => .use
  | .route _ _ => .route

/-- The call as `Op` on `r`: `Route` visits the entries of `r.subscriptions` in its order. -/
def Invocation.op (r : StandardContextRouter H) : Invocation H → Op H (H → H)
  | .registerHandler topic h => .registerHandler topic h
  | .unregisterHandler topic => .unregisterHandler topic
  | .defaultHandler h => .defaultHandler h
  | .use m => .use m
  | .route pb iteration => .route pb (iteration.arrange r.subscriptions.entries)

def Invocation.ops : StandardContextRouter H → List (Invocation H) → List (Op H (H → H))
  | _, [] => []
  | r, c :: cs => c.op r :: Invocation.ops (r.step (c.op r)) cs

/-- The locals of a call: what it read, and for `Route` what it made so far. -/
inductive Locals (H : Type)
  | start
  | handlers (hs : List H)
  | middlewares (ms : List (H → H))
  | routing (topic : String) (calls : List (Call H)) (handlerCalled : Bool)
  | panicked
  | returned
  | routed (calls : Option (List (Call H)))

/-- `RegisterHandler` reads `r.subscriptions[topic]`. -/
def readHandlers (topic : String) (p : StandardContextRouter H × Locals H) :
    StandardContextRouter H × Locals H :=
  (p.1, .handlers ((p.1.subscriptions.lookup topic).getD []))

/-- `RegisterHandler` writes `r.subscriptions[topic]` with `h` appended to what it read. -/
def appendHandler (topic : String) (h : H) (p : StandardContextRouter H × Locals H) :
    StandardContextRouter H × Locals H :=
  match p.2 with
  | .handlers hs =>
      ({ p.1 with toRegistry := { p.1.toRegistry with
          subscriptions := p.1.subscriptions.insert topic (hs ++ [h]) } }, .returned)
  | _ => p

/-- `Use` reads `r.middlewares`. -/
def readMiddlewares (p : StandardContextRouter H × Locals H) : StandardContextRouter H × Locals H :=
  (p.1, .middlewares p.1.middlewares)

/-- `Use` writes `r.middlewares` with `m` appended to what it read. -/
def appendMiddleware (m : H → H) (p : StandardContextRouter H × Locals H) :
    StandardContextRouter H × Locals H :=
  match p.2 with
  | .middlewares ms => ({ p.1 with middlewares := ms ++ [m] }, .returned)
  | _ => p

/-- `r.aliases[*pb.Properties.TopicAlias] = pb.Topic`, for a publish with an alias and a topic. -/
def writeAlias (pb : Packets.Publish) (p : StandardContextRouter H × Locals H) :
    StandardContextRouter H × Locals H :=
  match aliasWrite pb with
  | some (topicAlias, topic) =>
      ({ p.1 with toRegistry := { p.1.toRegistry with aliases := p.1.aliases.insert topicAlias topic } }, p.2)
  | none => p

/-- The topic `Route` matches with, read from `r.aliases` for a publish with an alias. -/
def readAlias (pb : Packets.Publish) (p : StandardContextRouter H × Locals H) :
    StandardContextRouter H × Locals H :=
  match pb.properties with
  | none => (p.1, .panicked)
  | some properties =>
      match properties.topicAlias with
      | none => (p.1, .routing (publishFromPacketPublish pb).topic [] false)
      | some topicAlias => (p.1, .routing ((p.1.aliases.lookup topicAlias).getD "") [] false)

/-- `for route, handlers := range r.subscriptions`, over the entries the state holds. -/
def rangeSubscriptions (pb : Packets.Publish) (iteration : Iteration H)
    (p : StandardContextRouter H × Locals H) : StandardContextRouter H × Locals H :=
  match p.2 with
  | .routing topic calls handlerCalled =>
      match dispatch Paho.match p.1.wrapHandler topic (publishFromPacketPublish pb)
          (iteration.arrange p.1.subscriptions.entries) (calls, handlerCalled) with
      | none => (p.1, .panicked)
      | some (calls, handlerCalled) => (p.1, .routing topic calls handlerCalled)
  | _ => p

/-- The default handler, wrapped, when no handler was called; and what `Route` made. -/
def finish (pb : Packets.Publish) (p : StandardContextRouter H × Locals H) :
    StandardContextRouter H × Locals H :=
  match p.2 with
  | .routing _ calls handlerCalled =>
      (p.1, .routed (some (match handlerCalled, p.1.defaultHandler with
        | false, some defaultHandler => calls ++ [⟨p.1.wrapHandler defaultHandler, publishFromPacketPublish pb⟩]
        | _, _ => calls)))
  | .panicked => (p.1, .routed none)
  | _ => p

/-- The body of each method, taking the router's `sync.RWMutex` as the method does. -/
def Invocation.body (c : Invocation H) : Body (StandardContextRouter H) (Locals H) :=
  ⟨c.method.locking, .start,
    match c with
    | .registerHandler topic h => [readHandlers topic, appendHandler topic h]
    | .unregisterHandler topic => [fun p => (p.1.unregisterHandler topic, .returned)]
    | .defaultHandler h => [fun p => (p.1.setDefaultHandler h, .returned)]
    | .use m => [readMiddlewares, appendMiddleware m]
    | .route pb iteration => [writeAlias pb, readAlias pb, rangeSubscriptions pb iteration, finish pb]⟩

def outcome (r : StandardContextRouter H) : Invocation H → Locals H
  | .route pb iteration => .routed (r.route pb (iteration.arrange r.subscriptions.entries)).2
  | _ => .returned

/-! ## Each body made at once is the call -/

theorem readAlias_writeAlias (pb : Packets.Publish) (r : StandardContextRouter H) (l : Locals H) :
    readAlias pb (writeAlias pb (r, l)) =
      match resolveTopic r.aliases pb (publishFromPacketPublish pb) with
      | none => (r, .panicked)
      | some (aliases, topic) => ({ r with toRegistry := { r.toRegistry with aliases } }, .routing topic [] false) := by
  obtain ⟨topic, properties⟩ := pb
  rcases properties with _ | ⟨_ | topicAlias⟩ <;> by_cases named : topic = "" <;>
    simp [readAlias, writeAlias, resolveTopic, aliasWrite, Packets.Publish.topicAlias, named,
      AList.lookup_insert]

theorem atomic_body (c : Invocation H) (r : StandardContextRouter H) :
    c.body.atomic r = (r.step (c.op r), outcome r c) := by
  cases c with
  | registerHandler topic h => rfl
  | unregisterHandler topic => rfl
  | defaultHandler h => rfl
  | use m => rfl
  | route pb iteration =>
      simp only [Body.atomic, Body.runFrom, Invocation.body, List.take_length, List.foldl_cons,
        List.foldl_nil, readAlias_writeAlias, Invocation.op, step, outcome, route, Registry.route,
        Registry.deliver]
      cases resolve : resolveTopic r.aliases pb (publishFromPacketPublish pb) with
      | none => rfl
      | some result =>
          obtain ⟨aliases, topic⟩ := result
          have same : ({ r with toRegistry := { r.toRegistry with aliases } } :
              StandardContextRouter H).wrapHandler = r.wrapHandler := rfl
          simp only [rangeSubscriptions, same]
          cases dispatch Paho.match r.wrapHandler topic (publishFromPacketPublish pb)
            (iteration.arrange r.subscriptions.entries) ([], false) <;> rfl

theorem exec_ops (r : StandardContextRouter H) (cs : List (Invocation H)) :
    r.exec (Invocation.ops r cs) = cs.foldl (fun r c => r.step (c.op r)) r := by
  induction cs generalizing r with
  | nil => rfl
  | cons c cs ih => exact ih _

/-! ## Which bodies only read -/

theorem writeAlias_fst {pb : Packets.Publish} (unwritten : aliasWrite pb = none)
    (p : StandardContextRouter H × Locals H) : (writeAlias pb p).1 = p.1 := by
  simp [writeAlias, unwritten]

theorem readAlias_fst (pb : Packets.Publish) (p : StandardContextRouter H × Locals H) :
    (readAlias pb p).1 = p.1 := by
  unfold readAlias
  split
  · rfl
  · split <;> rfl

theorem rangeSubscriptions_fst (pb : Packets.Publish) (iteration : Iteration H)
    (p : StandardContextRouter H × Locals H) : (rangeSubscriptions pb iteration p).1 = p.1 := by
  unfold rangeSubscriptions
  split
  · split <;> rfl
  · rfl

theorem finish_fst (pb : Packets.Publish) (p : StandardContextRouter H × Locals H) :
    (finish pb p).1 = p.1 := by
  unfold finish
  split <;> rfl

/-- The writing methods hold the mutex exclusively, and a `Route` that writes no alias only reads. -/
theorem admissible_body {c : Invocation H}
    (unwritten : ∀ pb iteration, c = .route pb iteration → aliasWrite pb = none) : c.body.Admissible := by
  cases c with
  | route pb iteration =>
      refine .inr ⟨rfl, fun step member p => ?_⟩
      simp only [Invocation.body, List.mem_cons, List.mem_singleton, List.not_mem_nil, or_false] at member
      rcases member with rfl | rfl | rfl | rfl
      · exact writeAlias_fst (unwritten pb iteration rfl) p
      · exact readAlias_fst pb p
      · exact rangeSubscriptions_fst pb iteration p
      · exact finish_fst pb p
  | _ => exact .inl rfl

/-! ## Every interleaving is serial -/

/-- The calls of `done` made one after another from `r0`, in the order they released the mutex. -/
def serialOps (r0 : StandardContextRouter H) (done : List (Invocation H × Locals H)) :
    List (Op H (H → H)) :=
  Invocation.ops r0 (done.map Prod.fst)

/-- A `Route` on the router a run from `NewStandardContextRouter` leaves calls what `Dispatches` says. -/
theorem outcome_dispatches (ops : List (Op H (H → H))) (pb : Packets.Publish) (iteration : Iteration H)
    (aliases : AList fun _ : UInt16 => String) (topic : String)
    (resolved : resolveTopic (newStandardContextRouter.exec ops).aliases pb (publishFromPacketPublish pb) =
      some (aliases, topic))
    (total : ∀ f, liveHandlers ops f ≠ [] → Paho.match f topic ≠ none) :
    ∃ calls, outcome (newStandardContextRouter.exec ops) (.route pb iteration) = .routed (some calls) ∧
      Dispatches ops Paho.match (compose (Op.uses ops)) topic (publishFromPacketPublish pb) calls := by
  have registry : (newStandardContextRouter.exec ops).toRegistry = Registry.empty.exec ops :=
    exec_toRegistry newStandardContextRouter ops
  have visits : (iteration.arrange (newStandardContextRouter.exec ops).subscriptions.entries).Perm
      (Registry.empty.exec ops).subscriptions.entries := by
    rw [← registry]
    exact iteration.perm _
  rw [registry] at resolved
  obtain ⟨calls, routed, dispatches⟩ :=
    route_dispatches ops Paho.match (compose (Op.uses ops)) pb _ aliases topic visits resolved total
  exact ⟨calls, by rw [outcome, exec_route, routed], dispatches⟩

/-- Interleaved calls on a `StandardContextRouter` are serial while no `Route` writes an alias. -/
theorem router_calls_serial (n : Nat) (r0 : StandardContextRouter H) :
    ∀ s, Shared.Reachable Invocation.body
        (fun c => ∀ pb iteration, c = .route pb iteration → aliasWrite pb = none) n r0 s →
      (∀ k call, s.done[k]? = some call →
        call.2 = outcome (r0.exec (serialOps r0 (s.done.take k))) call.1) ∧
      (r0 = newStandardContextRouter → ∀ k pb iteration l aliases topic,
        s.done[k]? = some (.route pb iteration, l) →
        resolveTopic (r0.exec (serialOps r0 (s.done.take k))).aliases pb (publishFromPacketPublish pb) =
          some (aliases, topic) →
        (∀ f, liveHandlers (serialOps r0 (s.done.take k)) f ≠ [] → Paho.match f topic ≠ none) →
        ∃ calls, l = .routed (some calls) ∧
          Dispatches (serialOps r0 (s.done.take k)) Paho.match (compose (Op.uses (serialOps r0 (s.done.take k))))
            topic (publishFromPacketPublish pb) calls) ∧
      ((∀ (g : Nat) (p : Progress (Invocation H) (Locals H)), s.calls.inside[g]? ≠ some (some p)) →
        s.state = r0.exec (serialOps r0 s.done) ∧
        (r0 = newStandardContextRouter →
          (∀ topic, (s.state.subscriptions.lookup topic).getD [] = liveHandlers (serialOps r0 s.done) topic) ∧
          s.state.middlewares = Op.uses (serialOps r0 s.done) ∧
          s.state.defaultHandler = lastDefault (serialOps r0 s.done))) := by
  intro s reach
  have serial := Shared.serial_of_reachable (fun _ unwritten => admissible_body unwritten) reach
  have leaves : ∀ done, after Invocation.body r0 done = r0.exec (serialOps r0 done) := fun done => by
    rw [after_eq_foldl Invocation.body (fun r c => r.step (c.op r)) (fun c r => by rw [atomic_body]),
      serialOps, exec_ops]
  have returned : ∀ k call, s.done[k]? = some call →
      call.2 = outcome (r0.exec (serialOps r0 (s.done.take k))) call.1 := fun k call at_k => by
    rw [Returned.eq_of_getElem _ serial.returned at_k, leaves, atomic_body]
  refine ⟨returned, fun fresh k pb iteration l aliases topic at_k resolved total => ?_, fun idle => ?_⟩
  · subst fresh
    obtain ⟨calls, routed, dispatches⟩ := outcome_dispatches _ pb iteration aliases topic resolved total
    exact ⟨calls, (returned k _ at_k).trans routed, dispatches⟩
  have state : s.state = r0.exec (serialOps r0 s.done) := by rw [serial.state_of_idle idle, leaves]
  refine ⟨state, fun fresh => ?_⟩
  subst fresh
  have registry := exec_toRegistry newStandardContextRouter (serialOps newStandardContextRouter s.done)
  refine ⟨fun topic => ?_, ?_, ?_⟩
  · rw [state, registry]
    exact (exec_subscriptions _ topic).1
  · rw [state, exec_middlewares]
    rfl
  · rw [state, registry]
    exact exec_defaultHandler _

/-- `RegisterHandler("a/b", h)`, then two goroutines inside `Route` at once, their steps interleaved. -/
theorem router_calls_serial_routes :
    ∃ s, Shared.Reachable Invocation.body
        (fun c => ∀ pb iteration, c = .route pb iteration → aliasWrite pb = none) 3
        (newStandardContextRouter : StandardContextRouter String) s ∧
      (∀ (g : Nat) (p : Progress (Invocation String) (Locals String)), s.calls.inside[g]? ≠ some (some p)) ∧
      (∃ l, s.done[2]? = some (.route ⟨"a/b", some ⟨none⟩⟩ ⟨id, List.Perm.refl⟩, l) ∧
        ∃ calls, l = .routed (some calls) ∧
          Dispatches (serialOps newStandardContextRouter (s.done.take 2)) Paho.match
            (compose (Op.uses (serialOps newStandardContextRouter (s.done.take 2)))) "a/b" ⟨"a/b"⟩ calls) ∧
      (s.state.subscriptions.lookup "a/b").getD [] =
        liveHandlers (serialOps newStandardContextRouter s.done) "a/b" := by
  obtain ⟨s, made, inside, invoked⟩ : ∃ s, (Shared.init 3 newStandardContextRouter :
      Shared (Invocation String) (StandardContextRouter String) (Locals String)).actAll Invocation.body
      [.enter 0 (.registerHandler "a/b" "h"), .step 0, .step 0, .leave 0,
        .enter 1 (.route ⟨"a/b", some ⟨none⟩⟩ ⟨id, List.Perm.refl⟩),
        .enter 2 (.route ⟨"a/b", some ⟨none⟩⟩ ⟨id, List.Perm.refl⟩),
        .step 1, .step 2, .step 1, .step 2, .step 1, .step 2, .step 1, .step 2, .leave 2, .leave 1] =
      some s ∧ s.calls.inside = [none, none, none] ∧
      s.done.map Prod.fst = [.registerHandler "a/b" "h", .route ⟨"a/b", some ⟨none⟩⟩ ⟨id, List.Perm.refl⟩,
        .route ⟨"a/b", some ⟨none⟩⟩ ⟨id, List.Perm.refl⟩] :=
    ⟨_, rfl, rfl, rfl⟩
  have reach : Shared.Reachable Invocation.body (fun c : Invocation String =>
      ∀ pb iteration, c = .route pb iteration → aliasWrite pb = none) 3 newStandardContextRouter s :=
    Shared.reachable_actAll .init (fun g c member pb iteration routed => by
      subst routed
      simp at member
      obtain ⟨-, rfl, -⟩ | ⟨-, rfl, -⟩ := member <;> rfl) made
  have idle : ∀ (g : Nat) (p : Progress (Invocation String) (Locals String)),
      s.calls.inside[g]? ≠ some (some p) := by
    intro g p
    rw [inside]
    rcases g with _ | _ | _ | g <;> simp
  obtain ⟨⟨c, l⟩, at_two, rfl⟩ := Option.map_eq_some'.mp (show s.done[2]?.map Prod.fst =
      some (.route ⟨"a/b", some ⟨none⟩⟩ ⟨id, List.Perm.refl⟩) by rw [← List.getElem?_map, invoked]; rfl)
  have before : serialOps newStandardContextRouter (s.done.take 2) = Invocation.ops newStandardContextRouter
      [.registerHandler "a/b" "h", .route ⟨"a/b", some ⟨none⟩⟩ ⟨id, List.Perm.refl⟩] := by
    rw [serialOps, List.map_take, invoked]
    rfl
  have resolved : resolveTopic (newStandardContextRouter.exec (serialOps newStandardContextRouter
      (s.done.take 2))).aliases ⟨"a/b", some ⟨none⟩⟩ ⟨"a/b"⟩ = some (∅, "a/b") := by
    rw [before]
    rfl
  have total : ∀ f, liveHandlers (serialOps newStandardContextRouter (s.done.take 2)) f ≠ [] →
      Paho.match f "a/b" ≠ none := by
    intro f live
    by_cases same : f = "a/b"
    · subst same
      decide
    · rw [before] at live
      simp [Invocation.ops, Invocation.op, liveHandlers, liveRegistrations, Op.unregisters, same] at live
      exact absurd live.symm same
  have serial := router_calls_serial 3 _ s reach
  exact ⟨s, reach, idle, ⟨l, at_two, serial.2.1 rfl 2 _ _ l ∅ "a/b" at_two resolved total⟩,
    ((serial.2.2 idle).2 rfl).1 "a/b"⟩

end StandardContextRouter
end Paho
