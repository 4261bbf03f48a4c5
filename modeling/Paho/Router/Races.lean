import Paho.Router.Alias
import Paho.Locking

/-!
# Data races on a router

A call on a router also carries what its body touches: the fields it writes and can read between
taking the lock and releasing it, read off the method bodies of `paho/router.go` and
`routercontext`. Two calls inside at once race on a field when one writes it and the other reads
or writes it. The mutex guards the subscriptions, the default handler and the middlewares, but not
the alias map, which `Route` writes under `RLock`, nor the logger, which `SetDebugLogger` writes
with no lock; `router_races` says that these are the only races.
-/

namespace Paho

/-- A call on a router, with the publish of `Route`, which decides what its body touches. -/
inductive RouterCall
  | registerHandler
  | unregisterHandler
  | defaultHandler
  | use
  | route (pb : Packets.Publish)
  | setDebugLogger
  deriving DecidableEq

def RouterCall.method : RouterCall → RouterMethod
  | .registerHandler => .registerHandler
  | .unregisterHandler => .unregisterHandler
  | .defaultHandler => .defaultHandler
  | .use => .use
  | .route _ => .route
  | .setDebugLogger => .setDebugLogger

def RouterCall.locking (c : RouterCall) : Locking :=
  c.method.locking

/-- The fields of a router. -/
inductive RouterField
  | defaultHandler
  | subscriptions
  | middlewares
  | aliases
  | debug
  deriving DecidableEq

/-- The fields a call's body writes, read off the method bodies. -/
def RouterCall.writes : RouterCall → RouterField → Bool
  | .registerHandler, f => f = .subscriptions
  | .unregisterHandler, f => f = .subscriptions
  | .defaultHandler, f => f = .defaultHandler
  | .use, f => f = .middlewares
  | .route pb, f => f = .aliases && (aliasWrite pb).isSome
  | .setDebugLogger, f => f = .debug

/-- The fields a call's body can read between taking the mutex and releasing it. -/
def RouterCall.reads : RouterCall → RouterField → Bool
  | .registerHandler, f => f = .subscriptions
  | .use, f => f = .middlewares
  | .route pb, f => f ≠ .aliases || pb.topicAlias.isSome
  | _, _ => false

/-- Two calls inside at once race on `f`: one writes it and the other reads or writes it. -/
def Races (c c' : RouterCall) (f : RouterField) : Bool :=
  c.writes f && (c'.reads f || c'.writes f) || c'.writes f && (c.reads f || c.writes f)

theorem aliasWrite_isSome (pb : Packets.Publish) :
    (aliasWrite pb).isSome ↔ pb.topicAlias.isSome ∧ pb.topic ≠ "" := by
  unfold aliasWrite
  split_ifs with named <;> cases pb.topicAlias <;> simp [named]

theorem locking_of_writes {c : RouterCall} {f : RouterField} (writes : c.writes f = true)
    (guarded : f ≠ .aliases) (logger : f ≠ .debug) : c.locking = .exclusive := by
  cases c <;> cases f <;>
    simp_all [RouterCall.writes, RouterCall.locking, RouterCall.method, RouterMethod.locking]

theorem locking_of_reads {c : RouterCall} {f : RouterField} (reads : c.reads f = true) :
    c.locking ≠ .unlocked := by
  cases c <;> simp_all [RouterCall.reads, RouterCall.locking, RouterCall.method, RouterMethod.locking]

/-- A race on a field the mutex guards is between an exclusive call and one that holds the mutex. -/
theorem races_guarded {c c' : RouterCall} {f : RouterField} (races : Races c c' f = true)
    (guarded : f ≠ .aliases) (logger : f ≠ .debug) :
    c.locking = .exclusive ∧ c'.locking ≠ .unlocked ∨
      c'.locking = .exclusive ∧ c.locking ≠ .unlocked := by
  have accessed : ∀ {c : RouterCall}, c.reads f = true ∨ c.writes f = true →
      c.locking ≠ .unlocked := by
    rintro c (reads | writes)
    · exact locking_of_reads reads
    · simp [locking_of_writes writes guarded logger]
  simp only [Races, Bool.or_eq_true, Bool.and_eq_true] at races
  rcases races with ⟨writes, other⟩ | ⟨writes, other⟩
  · exact .inl ⟨locking_of_writes writes guarded logger, accessed other⟩
  · exact .inr ⟨locking_of_writes writes guarded logger, accessed other⟩

/-- Two calls race on the alias map exactly when both are `Route` of aliased publishes, one named. -/
theorem races_aliases (c c' : RouterCall) :
    Races c c' .aliases = true ↔ ∃ pb pb', c = .route pb ∧ c' = .route pb' ∧
      pb.topicAlias.isSome ∧ pb'.topicAlias.isSome ∧ (pb.topic ≠ "" ∨ pb'.topic ≠ "") := by
  cases c <;> cases c' <;> simp [Races, RouterCall.writes, RouterCall.reads, aliasWrite_isSome]
  tauto

theorem races_debug {c c' : RouterCall} (races : Races c c' .debug = true) :
    c = .setDebugLogger ∨ c' = .setDebugLogger := by
  cases c <;> cases c' <;> simp_all [Races, RouterCall.writes, RouterCall.reads]

/-- Calls inside at once race only on the alias map between two `Route`s, or on the logger. -/
theorem router_races (n : Nat) :
    (∀ s, Calls.Reachable RouterCall.locking n s → ∀ (g g' : Nat) (c c' : RouterCall)
      (f : RouterField), g ≠ g' → s.inside[g]? = some (some c) → s.inside[g']? = some (some c') →
      Races c c' f = true →
      f = .aliases ∧ (∃ pb pb', c = .route pb ∧ c' = .route pb' ∧ pb.topicAlias.isSome ∧
          pb'.topicAlias.isSome ∧ (pb.topic ≠ "" ∨ pb'.topic ≠ "")) ∨
        f = .debug ∧ (c = .setDebugLogger ∨ c' = .setDebugLogger)) ∧
    (∀ c c' : RouterCall, Races c c' .aliases = true ↔ ∃ pb pb', c = .route pb ∧ c' = .route pb' ∧
      pb.topicAlias.isSome ∧ pb'.topicAlias.isSome ∧ (pb.topic ≠ "" ∨ pb'.topic ≠ "")) ∧
    (∀ (g g' : Nat) (pb pb' : Packets.Publish), g ≠ g' → g < n → g' < n →
      ∃ s, Calls.Reachable RouterCall.locking n s ∧ s.inside[g]? = some (some (.route pb)) ∧
        s.inside[g']? = some (some (.route pb'))) := by
  refine ⟨fun s reach g g' c c' f distinct inside inside' races => ?_, races_aliases,
    fun g g' pb pb' distinct bound bound' => ?_⟩
  · by_cases aliases : f = .aliases
    · subst aliases
      exact .inl ⟨rfl, (races_aliases c c').mp races⟩
    by_cases logger : f = .debug
    · subst logger
      exact .inr ⟨rfl, races_debug races⟩
    rcases races_guarded races aliases logger with ⟨exclusive, locked⟩ | ⟨exclusive, locked⟩ <;>
      rcases Calls.overlap_locking _ reach distinct inside inside' with kind | kind | ⟨kind, kind'⟩ <;>
      simp_all
  · exact Calls.reachable_pair _ distinct bound bound' (.inr (.inr ⟨rfl, rfl⟩))

/-- Two goroutines inside `Route` at once, one writing alias 1 and one reading it, race. -/
theorem router_races_aliased_routes :
    ((0 : Nat) ≠ 1 ∧ 0 < 2 ∧ 1 < 2) ∧
      (∃ s, Calls.Reachable RouterCall.locking 2 s ∧
        s.inside[0]? = some (some (.route ⟨"a/b", some ⟨some 1⟩⟩)) ∧
        s.inside[1]? = some (some (.route ⟨"", some ⟨some 1⟩⟩))) ∧
      Races (.route ⟨"a/b", some ⟨some 1⟩⟩) (.route ⟨"", some ⟨some 1⟩⟩) .aliases = true :=
  ⟨by decide, (router_races 2).2.2 0 1 _ _ (by decide) (by decide) (by decide), by decide⟩

end Paho
