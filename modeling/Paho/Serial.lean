import Paho.Locking

/-!
# Calls made of steps

`Locking` takes a call as one critical section. Here a call is the body the code runs inside it,
its steps each an atomic read or write of the object's state and of the call's locals, and
goroutines interleave their steps in any order the mutex allows (`Shared.act`). When every call
holds the mutex exclusively, or holds it shared and only reads, every interleaving is serial
(`serial_of_reachable`): the calls that returned, in the order they released the mutex, returned
what they return made one after another (`Returned`), and while no goroutine is inside a call the
state is the one they leave (`after`).
-/

namespace Paho

/-- The body of a method: how it takes the mutex, its locals at the start, and its steps. -/
structure Body (σ L : Type) where
  locking : Locking
  start : L
  steps : List (σ × L → σ × L)

namespace Body
variable {σ L : Type}

/-- The first `k` steps of a call, made back to back from the state `s`. -/
def runFrom (b : Body σ L) (k : Nat) (s : σ) : σ × L :=
  (b.steps.take k).foldl (fun acc step => step acc) (s, b.start)

def atomic (b : Body σ L) (s : σ) : σ × L :=
  b.runFrom b.steps.length s

def ReadsOnly (b : Body σ L) : Prop :=
  ∀ step ∈ b.steps, ∀ p : σ × L, (step p).1 = p.1

/-- The calls `serial_of_reachable` is about: exclusive, or shared and reading only. -/
def Admissible (b : Body σ L) : Prop :=
  b.locking = .exclusive ∨ b.locking = .shared ∧ b.ReadsOnly

theorem runFrom_succ (b : Body σ L) {k : Nat} {step : σ × L → σ × L}
    (at_k : b.steps[k]? = some step) (s : σ) : b.runFrom (k + 1) s = step (b.runFrom k s) := by
  rw [runFrom, List.take_succ, at_k, Option.toList_some, List.foldl_append]
  rfl

theorem foldl_fst (steps : List (σ × L → σ × L)) (keeps : ∀ step ∈ steps, ∀ p : σ × L, (step p).1 = p.1)
    (acc : σ × L) : (steps.foldl (fun acc step => step acc) acc).1 = acc.1 := by
  induction steps generalizing acc with
  | nil => rfl
  | cons step steps ih =>
      rw [List.foldl_cons, ih (fun step' member => keeps step' (List.mem_cons_of_mem _ member)),
        keeps step (List.mem_cons_self _ _)]

theorem runFrom_fst {b : Body σ L} (reads : b.ReadsOnly) (k : Nat) (s : σ) :
    (b.runFrom k s).1 = s :=
  foldl_fst _ (fun step member => reads step (List.mem_of_mem_take member)) _

end Body

/-- A goroutine inside a call: its operation, the steps of its body it made, and its locals. -/
structure Progress (Op L : Type) where
  op : Op
  made : Nat
  locals : L

/-- Goroutines calling one object: the mutex, the object's state, and the calls that returned. -/
structure Shared (Op σ L : Type) where
  calls : Calls (Progress Op L)
  state : σ
  done : List (Op × L)

inductive Action (Op : Type)
  | enter (g : Nat) (op : Op)
  | step (g : Nat)
  | leave (g : Nat)

namespace Shared
variable {Op σ L : Type} (body : Op → Body σ L)

def locking (p : Progress Op L) : Locking :=
  (body p.op).locking

def init (n : Nat) (s : σ) : Shared Op σ L :=
  ⟨Calls.init n, s, []⟩

def act (s : Shared Op σ L) : Action Op → Option (Shared Op σ L)
  | .enter g op => (s.calls.enter (locking body) g ⟨op, 0, (body op).start⟩).map fun calls => { s with calls }
  | .step g =>
      match s.calls.inside[g]? with
      | some (some p) =>
          match (body p.op).steps[p.made]? with
          | some step =>
              some ⟨⟨s.calls.readers, s.calls.writer,
                  s.calls.inside.set g (some ⟨p.op, p.made + 1, (step (s.state, p.locals)).2⟩)⟩,
                (step (s.state, p.locals)).1, s.done⟩
          | none => none
      | _ => none
  | .leave g =>
      match s.calls.inside[g]? with
      | some (some p) =>
          if p.made = (body p.op).steps.length then
            (s.calls.leave (locking body) g).map fun calls =>
              ⟨calls, s.state, s.done ++ [(p.op, p.locals)]⟩
          else none
      | _ => none

/-- The actions `acts` made one after another, `none` once one of them cannot be made. -/
def actAll (s : Shared Op σ L) : List (Action Op) → Option (Shared Op σ L)
  | [] => some s
  | a :: acts => (s.act body a).bind fun s' => s'.actAll acts

/-- The states some interleaving of `allowed` calls reaches from `n` idle goroutines and `s0`. -/
inductive Reachable (allowed : Op → Prop) (n : Nat) (s0 : σ) : Shared Op σ L → Prop
  | init : Reachable allowed n s0 (init n s0)
  | enter {s s' : Shared Op σ L} (g : Nat) (op : Op) : allowed op → Reachable allowed n s0 s →
      s.act body (.enter g op) = some s' → Reachable allowed n s0 s'
  | step {s s' : Shared Op σ L} (g : Nat) : Reachable allowed n s0 s → s.act body (.step g) = some s' →
      Reachable allowed n s0 s'
  | leave {s s' : Shared Op σ L} (g : Nat) : Reachable allowed n s0 s → s.act body (.leave g) = some s' →
      Reachable allowed n s0 s'

end Shared

/-! ## Serial histories -/

section History
variable {Op σ L : Type} (body : Op → Body σ L)

/-- The state the calls `done` leave, made one after another from `s`. -/
def after (s : σ) (done : List (Op × L)) : σ :=
  done.foldl (fun st call => ((body call.1).atomic st).1) s

/-- Each call of `done` returned what it returns made at once after the calls before it. -/
def Returned : σ → List (Op × L) → Prop
  | _, [] => True
  | s, call :: done => ((body call.1).atomic s).2 = call.2 ∧ Returned ((body call.1).atomic s).1 done

theorem after_append (s : σ) (done : List (Op × L)) (call : Op × L) :
    after body s (done ++ [call]) = ((body call.1).atomic (after body s done)).1 := by
  simp [after, List.foldl_append]

theorem returned_append (s : σ) (done : List (Op × L)) (call : Op × L) :
    Returned body s (done ++ [call]) ↔
      Returned body s done ∧ ((body call.1).atomic (after body s done)).2 = call.2 := by
  induction done generalizing s with
  | nil => simp [Returned, after]
  | cons first done ih =>
      rw [List.cons_append]
      change ((body first.1).atomic s).2 = first.2 ∧
        Returned body ((body first.1).atomic s).1 (done ++ [call]) ↔ _
      rw [ih]
      simp only [Returned, after, List.foldl_cons, and_assoc]

theorem Returned.eq_of_getElem {s : σ} {done : List (Op × L)} (returned : Returned body s done) {k : Nat}
    {call : Op × L} (at_k : done[k]? = some call) :
    call.2 = ((body call.1).atomic (after body s (done.take k))).2 := by
  induction done generalizing s k with
  | nil => simp at at_k
  | cons first done ih =>
      obtain ⟨now, later⟩ := returned
      cases k with
      | zero =>
          obtain rfl : first = call := by simpa using at_k
          exact now.symm
      | succ k => exact ih later (by simpa using at_k)

theorem after_eq_foldl (step : σ → Op → σ) (atomic : ∀ op st, ((body op).atomic st).1 = step st op)
    (s : σ) (done : List (Op × L)) : after body s done = (done.map Prod.fst).foldl step s := by
  induction done generalizing s with
  | nil => rfl
  | cons first done ih => simp only [after, List.foldl_cons, List.map_cons] at ih ⊢; rw [ih, atomic]

end History

/-! ## Every interleaving is serial -/

namespace Shared
variable {Op σ L : Type} {body : Op → Body σ L}

/-- What every reachable state satisfies: the calls that returned, and those inside, are serial. -/
structure Serial (body : Op → Body σ L) (s0 : σ) (s : Shared Op σ L) : Prop where
  consistent : Calls.Consistent (locking body) s.calls
  admissible : ∀ (g : Nat) (p : Progress Op L), s.calls.inside[g]? = some (some p) →
    (body p.op).Admissible
  returned : Returned body s0 s.done
  exclusive : ∀ (g : Nat) (p : Progress Op L), s.calls.inside[g]? = some (some p) →
    (body p.op).locking = .exclusive →
    (s.state, p.locals) = (body p.op).runFrom p.made (after body s0 s.done)
  shared : ∀ (g : Nat) (p : Progress Op L), s.calls.inside[g]? = some (some p) →
    (body p.op).locking = .shared → p.locals = ((body p.op).runFrom p.made (after body s0 s.done)).2
  settled : s.calls.writer = false → s.state = after body s0 s.done

variable {s0 : σ} {s : Shared Op σ L}

theorem Serial.writer_of_exclusive (serial : Serial body s0 s) {g : Nat} {p : Progress Op L}
    (inside : s.calls.inside[g]? = some (some p)) (kind : (body p.op).locking = .exclusive) :
    s.calls.writer = true := by
  cases writer : s.calls.writer
  · exact absurd kind (serial.consistent.not_exclusive writer inside)
  · rfl

theorem Serial.free_of_shared (serial : Serial body s0 s) {g : Nat} {p : Progress Op L}
    (inside : s.calls.inside[g]? = some (some p)) (kind : (body p.op).locking = .shared) :
    s.calls.writer = false := by
  cases writer : s.calls.writer
  · rfl
  · exact absurd kind (serial.consistent.not_shared (serial.consistent.writer_alone writer) inside)

theorem Serial.alone (serial : Serial body s0 s) {g g' : Nat} {p p' : Progress Op L} (distinct : g ≠ g')
    (inside : s.calls.inside[g]? = some (some p)) (inside' : s.calls.inside[g']? = some (some p'))
    (kind : (body p.op).locking = .exclusive) : False := by
  have unlocked := serial.consistent.exclusive_alone distinct inside inside' kind
  rcases serial.admissible g' p' inside' with kind' | ⟨kind', -⟩ <;>
    simp_all [locking]

theorem Serial.atomic_of_finished (serial : Serial body s0 s) {g : Nat} {p : Progress Op L}
    (inside : s.calls.inside[g]? = some (some p)) (finished : p.made = (body p.op).steps.length) :
    (body p.op).atomic (after body s0 s.done) = (s.state, p.locals) := by
  rw [Body.atomic, ← finished]
  rcases serial.admissible g p inside with kind | ⟨kind, reads⟩
  · exact (serial.exclusive g p inside kind).symm
  · rw [serial.settled (serial.free_of_shared inside kind)]
    exact Prod.ext (Body.runFrom_fst reads _ _) (serial.shared g p inside kind).symm

/-! ## The three actions -/

theorem getElem?_set_cases {α : Type} {l : List α} {g g' : Nat} {old x y : α}
    (at_g : l[g]? = some old) (at_g' : (l.set g x)[g']? = some y) :
    g' = g ∧ y = x ∨ g' ≠ g ∧ l[g']? = some y := by
  by_cases same : g' = g
  · subst same
    simp [List.getElem?_set, (List.getElem?_eq_some_iff.mp at_g).1] at at_g'
    exact .inl ⟨rfl, at_g'.symm⟩
  · exact .inr ⟨same, by rwa [List.getElem?_set_ne (Ne.symm same)] at at_g'⟩

theorem forall_set {α : Type} {P : α → Prop} {l : List (Option α)} {g : Nat} {x : α}
    (all : ∀ (g : Nat) (p : α), l[g]? = some (some p) → P p) (holds : P x) :
    ∀ (g' : Nat) (p : α), (l.set g (some x))[g']? = some (some p) → P p := by
  intro g' p at_g'
  rw [List.getElem?_set] at at_g'
  split_ifs at at_g'
  · cases at_g'
    exact holds
  · exact all g' p at_g'

theorem act_enter {s s' : Shared Op σ L} {g : Nat} {op : Op} (entered : s.act body (.enter g op) = some s') :
    s.calls.inside[g]? = some none ∧ s'.state = s.state ∧ s'.done = s.done ∧
      s.calls.enter (locking body) g ⟨op, 0, (body op).start⟩ = some s'.calls ∧
      ∀ g' p', s'.calls.inside[g']? = some (some p') →
        g' = g ∧ p' = ⟨op, 0, (body op).start⟩ ∨ g' ≠ g ∧ s.calls.inside[g']? = some (some p') := by
  simp only [act, Option.map_eq_some'] at entered
  obtain ⟨calls, took, rfl⟩ := entered
  obtain ⟨idle, inside, -⟩ := Calls.enter_eq_some _ took
  refine ⟨idle, rfl, rfl, took, fun g' p' at_g' => ?_⟩
  rw [inside] at at_g'
  rcases getElem?_set_cases idle at_g' with ⟨same, found⟩ | other
  · exact .inl ⟨same, Option.some.inj found⟩
  · exact .inr other

theorem act_step {s s' : Shared Op σ L} {g : Nat} (stepped : s.act body (.step g) = some s') :
    ∃ p step, s.calls.inside[g]? = some (some p) ∧ (body p.op).steps[p.made]? = some step ∧
      s' = ⟨⟨s.calls.readers, s.calls.writer,
          s.calls.inside.set g (some ⟨p.op, p.made + 1, (step (s.state, p.locals)).2⟩)⟩,
        (step (s.state, p.locals)).1, s.done⟩ := by
  simp only [act] at stepped
  split at stepped
  · rename_i p inside
    split at stepped
    · rename_i step at_made
      exact ⟨p, step, inside, at_made, (Option.some.inj stepped).symm⟩
    · cases stepped
  · cases stepped

theorem act_leave {s s' : Shared Op σ L} {g : Nat} (left : s.act body (.leave g) = some s') :
    ∃ p calls, s.calls.inside[g]? = some (some p) ∧ p.made = (body p.op).steps.length ∧
      s.calls.leave (locking body) g = some calls ∧
      s' = ⟨calls, s.state, s.done ++ [(p.op, p.locals)]⟩ := by
  simp only [act] at left
  split at left
  · rename_i p inside
    split_ifs at left with finished
    obtain ⟨calls, released, rfl⟩ := Option.map_eq_some'.mp left
    exact ⟨p, calls, inside, finished, released, rfl⟩
  · cases left

/-! ## Each action keeps `Serial` -/

theorem init_idle (n : Nat) (s0 : σ) (g : Nat) (p : Progress Op L) :
    (init n s0 : Shared Op σ L).calls.inside[g]? ≠ some (some p) := by
  intro inside
  simp only [init, Calls.init, List.getElem?_replicate] at inside
  split_ifs at inside
  simp at inside

theorem serial_init (n : Nat) (s0 : σ) : Serial body s0 (init n s0 : Shared Op σ L) :=
  ⟨Calls.consistent_init _ n, fun g p inside => absurd inside (init_idle n s0 g p), trivial,
    fun g p inside => absurd inside (init_idle n s0 g p), fun g p inside => absurd inside (init_idle n s0 g p),
    fun _ => rfl⟩

theorem serial_enter {s s' : Shared Op σ L} {g : Nat} {op : Op} (serial : Serial body s0 s)
    (admissible : (body op).Admissible) (entered : s.act body (.enter g op) = some s') :
    Serial body s0 s' := by
  obtain ⟨-, state, done, took, cases⟩ := act_enter entered
  obtain ⟨-, -, kind⟩ := Calls.enter_eq_some _ took
  have free : s.calls.writer = false := by
    rcases kind with ⟨-, -, free, -⟩ | ⟨-, free, -⟩ | ⟨unlocked, -⟩
    · exact free
    · exact free
    · rcases admissible with kind | ⟨kind, -⟩ <;> simp_all [locking]
  have settled : s'.state = after body s0 s'.done := by rw [state, done, serial.settled free]
  obtain ⟨-, inside, -⟩ := Calls.enter_eq_some _ took
  refine ⟨Calls.consistent_enter _ serial.consistent took, ?_, done ▸ serial.returned,
    fun g' p at_g' excl => ?_, fun g' p at_g' kind' => ?_, fun _ => settled⟩
  · rw [inside]
    exact forall_set serial.admissible admissible
  · rcases cases g' p at_g' with ⟨-, rfl⟩ | ⟨-, old⟩
    · simp [settled, Body.runFrom]
    · exact absurd (serial.writer_of_exclusive old excl) (by simp [free])
  · rcases cases g' p at_g' with ⟨-, rfl⟩ | ⟨-, old⟩
    · rfl
    · rw [done]
      exact serial.shared g' p old kind'

theorem serial_step {s s' : Shared Op σ L} {g : Nat} (serial : Serial body s0 s)
    (stepped : s.act body (.step g) = some s') : Serial body s0 s' := by
  obtain ⟨p, step, inside, at_made, rfl⟩ := act_step stepped
  have member : step ∈ (body p.op).steps := List.getElem?_mem at_made
  have cases : ∀ g' p', (s.calls.inside.set g (some ⟨p.op, p.made + 1,
      (step (s.state, p.locals)).2⟩))[g']? = some (some p') →
      g' = g ∧ p' = ⟨p.op, p.made + 1, (step (s.state, p.locals)).2⟩ ∨
        g' ≠ g ∧ s.calls.inside[g']? = some (some p') := fun g' p' at_g' =>
    (getElem?_set_cases inside at_g').imp (fun ⟨same, found⟩ => ⟨same, Option.some.inj found⟩) id
  rcases serial.admissible g p inside with kind | ⟨kind, reads⟩
  · -- an exclusive step: the only call inside moves one step on
    have writer := serial.writer_of_exclusive inside kind
    refine ⟨Calls.consistent_set _ serial.consistent inside rfl,
      forall_set serial.admissible (serial.admissible g p inside), serial.returned, fun g' p' at_g' _ => ?_,
      fun g' p' at_g' kind' => ?_, fun free => absurd writer (by simp_all)⟩
    · rcases cases g' p' at_g' with ⟨-, rfl⟩ | ⟨distinct, old⟩
      · rw [Body.runFrom_succ _ at_made, ← serial.exclusive g p inside kind]
      · exact (serial.alone (Ne.symm distinct) inside old kind).elim
    · rcases cases g' p' at_g' with ⟨-, rfl⟩ | ⟨distinct, old⟩
      · simp_all
      · exact (serial.alone (Ne.symm distinct) inside old kind).elim
  · -- a shared step reads the state the history leaves, and leaves it as it is
    have free := serial.free_of_shared inside kind
    have unchanged : (step (s.state, p.locals)).1 = s.state := reads step member _
    have settled := serial.settled free
    refine ⟨Calls.consistent_set _ serial.consistent inside rfl,
      forall_set serial.admissible (serial.admissible g p inside), serial.returned, fun g' p' at_g' kind' => ?_,
      fun g' p' at_g' kind' => ?_, fun _ => ?_⟩
    · rcases cases g' p' at_g' with ⟨-, rfl⟩ | ⟨-, old⟩
      · simp_all
      · exact absurd (serial.writer_of_exclusive old kind') (by simp [free])
    · rcases cases g' p' at_g' with ⟨-, rfl⟩ | ⟨-, old⟩
      · have before : (body p.op).runFrom p.made (after body s0 s.done) = (s.state, p.locals) := by
          rw [settled]
          exact Prod.ext (Body.runFrom_fst reads _ _) (serial.shared g p inside kind).symm
        rw [Body.runFrom_succ _ at_made, before]
      · exact serial.shared g' p' old kind'
    · rw [unchanged, settled]

theorem serial_leave {s s' : Shared Op σ L} {g : Nat} (serial : Serial body s0 s)
    (left : s.act body (.leave g) = some s') : Serial body s0 s' := by
  obtain ⟨p, calls, inside, finished, released, rfl⟩ := act_leave left
  obtain ⟨m, inside', cleared, -⟩ := Calls.leave_eq_some _ released
  have atomic := serial.atomic_of_finished inside finished
  have settles : after body s0 (s.done ++ [(p.op, p.locals)]) = s.state := by
    rw [after_append, atomic]
  have others : ∀ g' p', calls.inside[g']? = some (some p') →
      g' ≠ g ∧ s.calls.inside[g']? = some (some p') := by
    intro g' p' at_g'
    rw [cleared] at at_g'
    rcases getElem?_set_cases inside' at_g' with ⟨-, found⟩ | other
    · cases found
    · exact other
  refine ⟨Calls.consistent_leave _ serial.consistent released,
    fun g' p' at_g' => serial.admissible g' p' (others g' p' at_g').2,
    (returned_append _ _ _ _).mpr ⟨serial.returned, by rw [atomic]⟩,
    fun g' p' at_g' kind => ?_, fun g' p' at_g' kind => ?_, fun _ => settles.symm⟩
  · obtain ⟨distinct, old⟩ := others g' p' at_g'
    exact (serial.alone distinct old inside kind).elim
  · obtain ⟨-, old⟩ := others g' p' at_g'
    rw [settles, serial.settled (serial.free_of_shared old kind)]
    exact serial.shared g' p' old kind

/-- While no goroutine is inside a call, the state is the one the calls that returned leave. -/
theorem Serial.state_of_idle (serial : Serial body s0 s)
    (idle : ∀ (g : Nat) (p : Progress Op L), s.calls.inside[g]? ≠ some (some p)) :
    s.state = after body s0 s.done :=
  serial.settled (serial.consistent.free_of_idle idle).2

/-- Every state reachable by admissible calls is `Serial`. -/
theorem serial_of_reachable {allowed : Op → Prop} (admissible : ∀ op, allowed op → (body op).Admissible)
    {n : Nat} {s : Shared Op σ L} (reach : Reachable body allowed n s0 s) : Serial body s0 s := by
  induction reach with
  | init => exact serial_init n s0
  | enter g op allowed _ entered serial => exact serial_enter serial (admissible op allowed) entered
  | step g _ stepped serial => exact serial_step serial stepped
  | leave g _ left serial => exact serial_leave serial left

theorem reachable_actAll {allowed : Op → Prop} {n : Nat} {s s' : Shared Op σ L}
    (reach : Reachable body allowed n s0 s) {acts : List (Action Op)}
    (allows : ∀ g op, Action.enter g op ∈ acts → allowed op) (made : s.actAll body acts = some s') :
    Reachable body allowed n s0 s' := by
  induction acts generalizing s with
  | nil => exact Option.some.inj made ▸ reach
  | cons a acts ih =>
      obtain ⟨next, acted, rest⟩ := Option.bind_eq_some.mp made
      have later : ∀ g op, Action.enter g op ∈ acts → allowed op := fun g op member =>
        allows g op (List.mem_cons_of_mem _ member)
      refine ih ?_ later rest
      cases a with
      | enter g op => exact .enter g op (allows g op (List.mem_cons_self _ _)) reach acted
      | step g => exact .step g reach acted
      | leave g => exact .leave g reach acted

end Shared

end Paho
