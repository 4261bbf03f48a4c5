import Mathlib.Data.List.Basic

/-!
# Locking

Each method of the routers and of `MIDs` guards its body with the object's mutex: `Lock`,
`RLock`, or not at all. `Calls` is the mutex with the goroutines, each idle or inside one call
(Go's `sync.RWMutex` also holds back new readers while a writer waits; leaving that out only adds
interleavings). Every reachable state is `Consistent` (`reachable_consistent`), so two calls
overlap only when one takes no lock or both take it shared (`overlap_locking`).
-/

namespace Paho

/-- How a method takes its object's mutex. -/
inductive Locking
  | exclusive
  | shared
  | unlocked
  deriving DecidableEq

/-- The mutex of one object, and for each goroutine the call it is inside, if any. -/
structure Calls (Method : Type) where
  readers : Nat
  writer : Bool
  inside : List (Option Method)

/-- A goroutine entering a call of a method, or leaving its call. -/
inductive Event (Method : Type)
  | enter (g : Nat) (m : Method)
  | leave (g : Nat)

theorem countP_set {α : Type} (p : α → Bool) (l : List α) (g : Nat) (old new : α)
    (at_g : l[g]? = some old) :
    (l.set g new).countP p + (if p old then 1 else 0) = l.countP p + (if p new then 1 else 0) := by
  induction l generalizing g with
  | nil => simp at at_g
  | cons x l ih =>
      cases g with
      | zero =>
          obtain rfl : x = old := by simpa using at_g
          simp only [List.set_cons_zero, List.countP_cons]
          omega
      | succ g =>
          have rest := ih g (by simpa using at_g)
          simp only [List.set_cons_succ, List.countP_cons]
          omega

private theorem two_le_countP {α : Type} (p : α → Bool) {l : List α} {g g' : Nat} {a b : α}
    (distinct : g ≠ g') (at_g : l[g]? = some a) (at_g' : l[g']? = some b) (pa : p a = true)
    (pb : p b = true) : 2 ≤ l.countP p := by
  induction l generalizing g g' with
  | nil => simp at at_g
  | cons x l ih =>
      have one : ∀ {j c}, l[j]? = some c → p c = true → 1 ≤ l.countP p := fun found holds =>
        List.countP_pos_iff.mpr ⟨_, List.getElem?_mem found, holds⟩
      cases g with
      | zero =>
          obtain rfl : x = a := by simpa using at_g
          cases g' with
          | zero => exact absurd rfl distinct
          | succ j' =>
              have := one (by simpa using at_g') pb
              simp only [List.countP_cons, pa, ↓reduceIte]
              omega
      | succ j =>
          cases g' with
          | zero =>
              obtain rfl : x = b := by simpa using at_g'
              have := one (by simpa using at_g) pa
              simp only [List.countP_cons, pb, ↓reduceIte]
              omega
          | succ j' =>
              have := @ih j j' (by omega) (by simpa using at_g) (by simpa using at_g')
              simp only [List.countP_cons]
              omega

namespace Calls
variable {Method : Type} (locking : Method → Locking)

def init (n : Nat) : Calls Method :=
  ⟨0, false, List.replicate n none⟩

/-- Goroutine `g` calls `m`, taking the mutex as `m` does; `none` while it has to wait. -/
def enter (s : Calls Method) (g : Nat) (m : Method) : Option (Calls Method) :=
  match s.inside[g]? with
  | some none =>
      match locking m with
      | .exclusive =>
          if s.readers = 0 ∧ s.writer = false then some ⟨s.readers, true, s.inside.set g (some m)⟩
          else none
      | .shared =>
          if s.writer = false then some ⟨s.readers + 1, s.writer, s.inside.set g (some m)⟩ else none
      | .unlocked => some ⟨s.readers, s.writer, s.inside.set g (some m)⟩
  | _ => none

/-- Goroutine `g` returns from its call and releases the mutex as it took it. -/
def leave (s : Calls Method) (g : Nat) : Option (Calls Method) :=
  match s.inside[g]? with
  | some (some m) =>
      match locking m with
      | .exclusive => some ⟨s.readers, false, s.inside.set g none⟩
      | .shared => some ⟨s.readers - 1, s.writer, s.inside.set g none⟩
      | .unlocked => some ⟨s.readers, s.writer, s.inside.set g none⟩
  | _ => none

def step (s : Calls Method) : Event Method → Option (Calls Method)
  | .enter g m => s.enter locking g m
  | .leave g => s.leave locking g

/-- The states some interleaving of calls reaches from `n` idle goroutines. -/
inductive Reachable (n : Nat) : Calls Method → Prop
  | init : Reachable n (init n)
  | step {s s' : Calls Method} (e : Event Method) :
      Reachable n s → s.step locking e = some s' → Reachable n s'

def holding (k : Locking) : Option Method → Bool
  | some m => decide (locking m = k)
  | none => false

/-- The mutex agrees with the goroutines inside calls. -/
structure Consistent (s : Calls Method) : Prop where
  readers_eq : s.readers = s.inside.countP (holding locking .shared)
  writers_eq : s.inside.countP (holding locking .exclusive) = if s.writer then 1 else 0
  writer_alone : s.writer = true → s.readers = 0

theorem enter_eq_some {s s' : Calls Method} {g : Nat} {m : Method}
    (entered : s.enter locking g m = some s') :
    s.inside[g]? = some none ∧ s'.inside = s.inside.set g (some m) ∧
      (locking m = .exclusive ∧ s.readers = 0 ∧ s.writer = false ∧ s'.readers = 0 ∧ s'.writer = true ∨
        locking m = .shared ∧ s.writer = false ∧ s'.readers = s.readers + 1 ∧ s'.writer = false ∨
        locking m = .unlocked ∧ s'.readers = s.readers ∧ s'.writer = s.writer) := by
  unfold enter at entered
  split at entered
  · rename_i idle
    split at entered
    · rename_i kind
      split at entered
      · cases entered
        simp_all
      · cases entered
    · rename_i kind
      split at entered
      · cases entered
        simp_all
      · cases entered
    · rename_i kind
      cases entered
      simp_all
  · cases entered

theorem leave_eq_some {s s' : Calls Method} {g : Nat} (left : s.leave locking g = some s') :
    ∃ m, s.inside[g]? = some (some m) ∧ s'.inside = s.inside.set g none ∧
      (locking m = .exclusive ∧ s'.readers = s.readers ∧ s'.writer = false ∨
        locking m = .shared ∧ s'.readers = s.readers - 1 ∧ s'.writer = s.writer ∨
        locking m = .unlocked ∧ s'.readers = s.readers ∧ s'.writer = s.writer) := by
  unfold leave at left
  split at left
  · rename_i m inside
    refine ⟨m, inside, ?_⟩
    split at left <;> cases left <;> simp_all
  · cases left

theorem consistent_init (n : Nat) : Consistent locking (init n : Calls Method) where
  readers_eq := by simp [init, List.countP_replicate, holding]
  writers_eq := by simp [init, List.countP_replicate, holding]
  writer_alone := by simp [init]

theorem consistent_enter {s s' : Calls Method} {g : Nat} {m : Method} (c : Consistent locking s)
    (entered : s.enter locking g m = some s') : Consistent locking s' := by
  obtain ⟨idle, inside, kind⟩ := enter_eq_some locking entered
  have shared := countP_set (holding locking .shared) s.inside g none (some m) idle
  have exclusive := countP_set (holding locking .exclusive) s.inside g none (some m) idle
  rw [← inside] at shared exclusive
  obtain ⟨readers, writers, alone⟩ := c
  rcases kind with ⟨kind, zero, free, after, after'⟩ | ⟨kind, free, after, after'⟩ |
      ⟨kind, after, after'⟩ <;>
    simp only [holding, kind, decide_True, decide_False, reduceCtorEq, if_true, if_false,
      Bool.false_eq_true, Nat.add_zero] at shared exclusive <;>
    refine ⟨?_, ?_, ?_⟩ <;> simp_all

theorem consistent_leave {s s' : Calls Method} {g : Nat} (c : Consistent locking s)
    (left : s.leave locking g = some s') : Consistent locking s' := by
  obtain ⟨m, busy, inside, kind⟩ := leave_eq_some locking left
  have shared := countP_set (holding locking .shared) s.inside g (some m) none busy
  have exclusive := countP_set (holding locking .exclusive) s.inside g (some m) none busy
  rw [← inside] at shared exclusive
  obtain ⟨readers, writers, alone⟩ := c
  rcases kind with ⟨kind, after, after'⟩ | ⟨kind, after, after'⟩ | ⟨kind, after, after'⟩ <;>
    simp only [holding, kind, decide_True, decide_False, reduceCtorEq, if_true, if_false,
      Bool.false_eq_true, Nat.add_zero] at shared exclusive <;>
    cases writer : s.writer <;> simp only [writer, if_true, if_false, Bool.false_eq_true] at writers alone <;>
    refine ⟨?_, ?_, ?_⟩ <;> simp_all <;> omega

theorem consistent_set {s : Calls Method} (c : Consistent locking s) {g : Nat} {m m' : Method}
    (inside : s.inside[g]? = some (some m)) (same : locking m' = locking m) :
    Consistent locking ⟨s.readers, s.writer, s.inside.set g (some m')⟩ := by
  have kept : ∀ k, (s.inside.set g (some m')).countP (holding locking k) =
      s.inside.countP (holding locking k) := fun k => by
    have := countP_set (holding locking k) s.inside g (some m) (some m') inside
    simp only [holding, same] at this
    omega
  exact ⟨(kept .shared).symm ▸ c.readers_eq, (kept .exclusive).symm ▸ c.writers_eq, c.writer_alone⟩

/-- Every state an interleaving of calls reaches is consistent. -/
theorem reachable_consistent {n : Nat} {s : Calls Method} (reach : Reachable locking n s) :
    Consistent locking s := by
  induction reach with
  | init => exact consistent_init locking n
  | step e _ stepped c =>
      cases e with
      | enter g m => exact consistent_enter locking c stepped
      | leave g => exact consistent_leave locking c stepped

theorem Consistent.not_exclusive {locking : Method → Locking} {s : Calls Method}
    (c : Consistent locking s) (free : s.writer = false) {g : Nat} {m : Method}
    (inside : s.inside[g]? = some (some m)) : locking m ≠ .exclusive := by
  intro excl
  have held : 1 ≤ s.inside.countP (holding locking .exclusive) :=
    List.countP_pos_iff.mpr ⟨_, List.getElem?_mem inside, by simp [holding, excl]⟩
  have writers := c.writers_eq
  simp only [free, Bool.false_eq_true, if_false] at writers
  omega

theorem Consistent.not_shared {locking : Method → Locking} {s : Calls Method}
    (c : Consistent locking s) (unread : s.readers = 0) {g : Nat} {m : Method}
    (inside : s.inside[g]? = some (some m)) : locking m ≠ .shared := by
  intro shared
  have held : 1 ≤ s.inside.countP (holding locking .shared) :=
    List.countP_pos_iff.mpr ⟨_, List.getElem?_mem inside, by simp [holding, shared]⟩
  have readers := c.readers_eq
  omega

theorem Consistent.exclusive_alone {locking : Method → Locking} {s : Calls Method}
    (c : Consistent locking s) {g g' : Nat} {m m' : Method} (distinct : g ≠ g')
    (inside : s.inside[g]? = some (some m)) (inside' : s.inside[g']? = some (some m'))
    (excl : locking m = .exclusive) : locking m' = .unlocked := by
  cases writer : s.writer
  · exact absurd excl (c.not_exclusive writer inside)
  · cases kind : locking m' with
    | exclusive =>
        have := two_le_countP (holding locking .exclusive) distinct inside inside'
          (by simp [holding, excl]) (by simp [holding, kind])
        have writers := c.writers_eq
        simp only [writer, if_true] at writers
        omega
    | shared => exact absurd kind (c.not_shared (c.writer_alone writer) inside')
    | unlocked => rfl

theorem Consistent.free_of_idle {locking : Method → Locking} {s : Calls Method}
    (c : Consistent locking s) (idle : ∀ (g : Nat) (m : Method), s.inside[g]? ≠ some (some m)) :
    s.readers = 0 ∧ s.writer = false := by
  have none_held : ∀ k : Locking, s.inside.countP (holding locking k) = 0 := by
    intro k
    refine List.countP_eq_zero.mpr fun slot member => ?_
    obtain ⟨g, at_g⟩ := List.getElem?_of_mem member
    cases slot with
    | none => simp [holding]
    | some m => exact absurd at_g (idle g m)
  have writers := c.writers_eq
  rw [none_held] at writers
  refine ⟨by rw [c.readers_eq, none_held], ?_⟩
  cases writer : s.writer
  · rfl
  · simp [writer] at writers

/-- In every interleaving, an exclusive call overlaps only calls that take no lock. -/
theorem exclusive_alone {n : Nat} {s : Calls Method} (reach : Reachable locking n s) {g g' : Nat}
    {m m' : Method} (distinct : g ≠ g') (inside : s.inside[g]? = some (some m))
    (inside' : s.inside[g']? = some (some m')) (excl : locking m = .exclusive) :
    locking m' = .unlocked :=
  (reachable_consistent locking reach).exclusive_alone distinct inside inside' excl

/-- In every interleaving, two calls overlap only when one takes no lock or both take it shared. -/
theorem overlap_locking {n : Nat} {s : Calls Method} (reach : Reachable locking n s) {g g' : Nat}
    {m m' : Method} (distinct : g ≠ g') (inside : s.inside[g]? = some (some m))
    (inside' : s.inside[g']? = some (some m')) :
    locking m = .unlocked ∨ locking m' = .unlocked ∨ locking m = .shared ∧ locking m' = .shared := by
  cases kind : locking m with
  | exclusive => exact .inr (.inl (exclusive_alone locking reach distinct inside inside' kind))
  | unlocked => exact .inl rfl
  | shared =>
      cases kind' : locking m' with
      | exclusive =>
          have unlocked := exclusive_alone locking reach (Ne.symm distinct) inside' inside kind'
          rw [kind] at unlocked
          cases unlocked
      | shared => exact .inr (.inr ⟨rfl, rfl⟩)
      | unlocked => exact .inr (.inl rfl)

theorem enter_shared {s : Calls Method} {g : Nat} {m : Method} (idle : s.inside[g]? = some none)
    (free : s.writer = false) (shared : locking m = .shared) :
    s.enter locking g m = some ⟨s.readers + 1, false, s.inside.set g (some m)⟩ := by
  simp [enter, idle, shared, free]

/-- While a goroutine is inside a shared call, no exclusive call can start. -/
theorem enter_exclusive_blocked {n : Nat} {s : Calls Method} (reach : Reachable locking n s)
    {g g' : Nat} {m m' : Method} (inside : s.inside[g]? = some (some m)) (shared : locking m = .shared)
    (exclusive : locking m' = .exclusive) : s.enter locking g' m' = none := by
  have busy : s.readers ≠ 0 := fun unread =>
    (reachable_consistent locking reach).not_shared unread inside shared
  unfold enter
  split
  · rw [exclusive, if_neg (by omega)]
  · rfl

theorem enter_unlocked {s : Calls Method} {g : Nat} {m : Method} (idle : s.inside[g]? = some none)
    (unlocked : locking m = .unlocked) :
    s.enter locking g m = some ⟨s.readers, s.writer, s.inside.set g (some m)⟩ := by
  simp [enter, idle, unlocked]

theorem enter_exclusive {s : Calls Method} {g : Nat} {m : Method} (idle : s.inside[g]? = some none)
    (free : s.writer = false) (unread : s.readers = 0) (exclusive : locking m = .exclusive) :
    s.enter locking g m = some ⟨s.readers, true, s.inside.set g (some m)⟩ := by
  simp [enter, idle, exclusive, free, unread]

/-- Two goroutines can be inside `m` and `m'` at once when one takes no lock or both take it shared. -/
theorem reachable_pair {n g g' : Nat} {m m' : Method} (distinct : g ≠ g') (bound : g < n)
    (bound' : g' < n) (compatible : locking m = .unlocked ∨ locking m' = .unlocked ∨
      locking m = .shared ∧ locking m' = .shared) :
    ∃ s, Reachable locking n s ∧ s.inside[g]? = some (some m) ∧ s.inside[g']? = some (some m') := by
  have idle : (init n : Calls Method).inside[g]? = some none := by simp [init, bound]
  obtain ⟨s, first, unwritten, unread⟩ : ∃ s, (init n).enter locking g m = some s ∧
      (locking m ≠ .exclusive → s.writer = false) ∧ (locking m = .unlocked → s.readers = 0) := by
    cases kind : locking m
    · exact ⟨_, enter_exclusive locking idle rfl rfl kind, by simp, by simp⟩
    · exact ⟨_, enter_shared locking idle rfl kind, by simp, by simp⟩
    · exact ⟨_, enter_unlocked locking idle kind, by simp [init], by simp [init]⟩
  have inside := (enter_eq_some locking first).2.1
  have idle' : s.inside[g']? = some none := by
    simp [inside, init, List.getElem?_set_ne distinct, bound']
  obtain ⟨s', second⟩ : ∃ s', s.enter locking g' m' = some s' := by
    cases kind' : locking m'
    · have unlocked : locking m = .unlocked := by
        rcases compatible with kind | kind | ⟨-, kind⟩ <;> simp_all
      exact ⟨_, enter_exclusive locking idle' (unwritten (by simp [unlocked])) (unread unlocked) kind'⟩
    · have notExclusive : locking m ≠ .exclusive := by
        rcases compatible with kind | kind | ⟨kind, -⟩ <;> simp_all
      exact ⟨_, enter_shared locking idle' (unwritten notExclusive) kind'⟩
    · exact ⟨_, enter_unlocked locking idle' kind'⟩
  refine ⟨s', .step (.enter g' m') (.step (.enter g m) .init first) second, ?_, ?_⟩
  · simp [(enter_eq_some locking second).2.1, List.getElem?_set_ne (Ne.symm distinct), inside,
      init, bound]
  · simp [(enter_eq_some locking second).2.1, inside, init, bound']

end Calls

/-! ## The routers and `MIDs` -/

/-- The methods of the three routers (`StandardRouter` has no `Use`). -/
inductive RouterMethod
  | registerHandler
  | unregisterHandler
  | defaultHandler
  | use
  | route
  | setDebugLogger
  deriving DecidableEq

/-- How each router method takes the router's `sync.RWMutex`. -/
def RouterMethod.locking : RouterMethod → Locking
  | .route => .shared
  | .setDebugLogger => .unlocked
  | _ => .exclusive

theorem RouterMethod.locking_eq_shared {m : RouterMethod} : m.locking = .shared ↔ m = .route := by
  cases m <;> decide

theorem RouterMethod.locking_eq_unlocked {m : RouterMethod} :
    m.locking = .unlocked ↔ m = .setDebugLogger := by
  cases m <;> decide

/-- The methods of `MIDs`. -/
inductive MIDsMethod
  | request
  | get
  | free
  | clear
  deriving DecidableEq

/-- How each `MIDs` method takes its `sync.Mutex`. -/
def MIDsMethod.locking : MIDsMethod → Locking
  | .clear => .unlocked
  | _ => .exclusive

theorem MIDsMethod.locking_eq_unlocked {m : MIDsMethod} : m.locking = .unlocked ↔ m = .clear := by
  cases m <;> decide

/-- Which router calls overlap: two `Route`s, or `SetDebugLogger` and any call. -/
theorem router_calls_overlap (n : Nat) :
    (∀ s, Calls.Reachable RouterMethod.locking n s → ∀ (g g' : Nat) (m m' : RouterMethod), g ≠ g' →
      s.inside[g]? = some (some m) → s.inside[g']? = some (some m') →
      m = .route ∧ m' = .route ∨ m = .setDebugLogger ∨ m' = .setDebugLogger) ∧
    (∀ s, Calls.Reachable RouterMethod.locking n s → ∀ (g g' : Nat) (m : RouterMethod),
      s.inside[g]? = some (some .route) → m ≠ .route → m ≠ .setDebugLogger →
      s.enter RouterMethod.locking g' m = none) ∧
    (∀ g g' : Nat, g ≠ g' → g < n → g' < n → ∃ s, Calls.Reachable RouterMethod.locking n s ∧
      s.inside[g]? = some (some .route) ∧ s.inside[g']? = some (some .route)) := by
  refine ⟨fun s reach g g' m m' distinct inside inside' => ?_,
    fun s reach g g' m inside other other' => ?_, fun g g' distinct bound bound' => ?_⟩
  · rcases Calls.overlap_locking _ reach distinct inside inside' with kind | kind | ⟨kind, kind'⟩
    · exact .inr (.inl (RouterMethod.locking_eq_unlocked.mp kind))
    · exact .inr (.inr (RouterMethod.locking_eq_unlocked.mp kind))
    · exact .inl ⟨RouterMethod.locking_eq_shared.mp kind, RouterMethod.locking_eq_shared.mp kind'⟩
  · refine Calls.enter_exclusive_blocked _ reach inside rfl ?_
    cases kind : m.locking with
    | exclusive => rfl
    | shared => exact absurd (RouterMethod.locking_eq_shared.mp kind) other
    | unlocked => exact absurd (RouterMethod.locking_eq_unlocked.mp kind) other'
  · exact Calls.reachable_pair _ distinct bound bound' (.inr (.inr ⟨rfl, rfl⟩))

theorem router_calls_overlap_routes :
    ∃ s, Calls.Reachable RouterMethod.locking 2 s ∧
      s.inside[0]? = some (some .route) ∧ s.inside[1]? = some (some .route) :=
  (router_calls_overlap 2).2.2 0 1 (by decide) (by decide) (by decide)

/-- Which `MIDs` calls overlap: only `Clear`, which takes no lock, and another call. -/
theorem mids_calls_overlap (n : Nat) :
    (∀ s, Calls.Reachable MIDsMethod.locking n s → ∀ (g g' : Nat) (m m' : MIDsMethod), g ≠ g' →
      s.inside[g]? = some (some m) → s.inside[g']? = some (some m') → m = .clear ∨ m' = .clear) ∧
    (∀ g g' : Nat, g ≠ g' → g < n → g' < n → ∃ s, Calls.Reachable MIDsMethod.locking n s ∧
      s.inside[g]? = some (some .request) ∧ s.inside[g']? = some (some .clear)) := by
  refine ⟨fun s reach g g' m m' distinct inside inside' => ?_, fun g g' distinct bound bound' => ?_⟩
  · rcases Calls.overlap_locking _ reach distinct inside inside' with kind | kind | ⟨kind, -⟩
    · exact .inl (MIDsMethod.locking_eq_unlocked.mp kind)
    · exact .inr (MIDsMethod.locking_eq_unlocked.mp kind)
    · cases m <;> cases kind
  · exact Calls.reachable_pair _ distinct bound bound' (.inr (.inl rfl))

theorem mids_calls_overlap_clear :
    ∃ s, Calls.Reachable MIDsMethod.locking 2 s ∧
      s.inside[0]? = some (some .request) ∧ s.inside[1]? = some (some .clear) :=
  (mids_calls_overlap 2).2 0 1 (by decide) (by decide) (by decide)

end Paho
