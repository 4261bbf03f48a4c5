import Paho.MessageIds.Model

/-!
# Runs of the identifier service

A run is any sequence of calls on the `MIDService` interface, recorded as the history of what
each call returned. `Outstanding` says, in terms of that history only, which identifiers are in
use: issued by a successful `Request` and neither freed nor cleared since. `run_correlates` shows
that the index is exactly that at every point of every run from an empty index, whatever the
interleaving of frees and however often `lastIdUsed` wraps.
-/

namespace Paho
namespace MIDs
variable {CPContext : Type}

/-- A call on the `MIDService` interface. -/
inductive Op (CPContext : Type)
  | request (c : Option CPContext)
  | get (i : UInt16)
  | free (i : UInt16)
  | clear

/-- What the caller of a call observes. -/
inductive Event (CPContext : Type)
  | requested (c : Option CPContext) (i : UInt16) (err : Option GoError)
  | got (i : UInt16) (c : Option CPContext)
  | freed (i : UInt16)
  | cleared

def exec (m : MIDs CPContext) : Op CPContext → MIDs CPContext × Event CPContext
  | .request c => ((m.request c).1, .requested c (m.request c).2.1 (m.request c).2.2)
  | .get i => (m, .got i (m.get i))
  | .free i => (m.free i, .freed i)
  | .clear => (m.clear, .cleared)

def record (s : MIDs CPContext × List (Event CPContext)) (op : Op CPContext) :
    MIDs CPContext × List (Event CPContext) :=
  ((s.1.exec op).1, s.2 ++ [(s.1.exec op).2])

/-- The state and the history after the calls `ops`. -/
def run (m : MIDs CPContext) (ops : List (Op CPContext)) :
    MIDs CPContext × List (Event CPContext) :=
  ops.foldl record (m, [])

theorem run_append (m : MIDs CPContext) (ops : List (Op CPContext)) (op : Op CPContext) :
    run m (ops ++ [op]) = record (run m ops) op := by
  simp [run, List.foldl_append]

/-! ## Outstanding identifiers -/

/-- `i` was issued for `c` by a `Request` of `history`, and neither freed nor cleared since. -/
def Outstanding (history : List (Event CPContext)) (i : UInt16) (c : Option CPContext) : Prop :=
  ∃ before after, history = before ++ .requested c i none :: after ∧
    ∀ e ∈ after, e ≠ .freed i ∧ e ≠ .cleared

theorem not_outstanding_nil (i : UInt16) (c : Option CPContext) : ¬ Outstanding [] i c := by
  rintro ⟨before, after, split, -⟩
  simp at split

theorem outstanding_append {history : List (Event CPContext)} {e : Event CPContext}
    {i : UInt16} {c : Option CPContext} :
    Outstanding (history ++ [e]) i c ↔
      e = .requested c i none ∨ (Outstanding history i c ∧ e ≠ .freed i ∧ e ≠ .cleared) := by
  constructor
  · rintro ⟨before, after, split, later⟩
    rcases List.eq_nil_or_concat after with rfl | ⟨after, last, rfl⟩
    · exact .inl (List.singleton_inj.mp (List.append_inj' split rfl).2)
    · rw [List.concat_eq_append] at split later
      rw [← List.cons_append, ← List.append_assoc] at split
      obtain ⟨rfl, tail⟩ := List.append_inj' split rfl
      obtain rfl := List.singleton_inj.mp tail
      refine .inr ⟨⟨before, after, rfl, fun e member => later e (by simp [member])⟩, later _ (by simp)⟩
  · rintro (rfl | ⟨⟨before, after, rfl, later⟩, notFreed, notCleared⟩)
    · exact ⟨history, [], rfl, by simp⟩
    · refine ⟨before, after ++ [e], by simp, fun e' member => ?_⟩
      rcases List.mem_append.mp member with member | member
      · exact later e' member
      · rw [List.mem_singleton.mp member]
        exact ⟨notFreed, notCleared⟩

/-! ## The index is the outstanding set -/

/-- The index holds exactly the identifiers the history leaves outstanding. -/
def Correlates (s : MIDs CPContext × List (Event CPContext)) : Prop :=
  ∀ i c, s.1.index.lookup i = some c ↔ Outstanding s.2 i c

theorem correlates_record {s : MIDs CPContext × List (Event CPContext)} (op : Op CPContext)
    (correlates : Correlates s) : Correlates (record s op) := by
  obtain ⟨m, history⟩ := s
  intro j c'
  cases op with
  | request c =>
      rcases request_result m c with ⟨i, first, result⟩ | ⟨-, result⟩
      · simp only [record, exec, result, outstanding_append, ne_eq, reduceCtorEq, not_false_eq_true, and_true]
        by_cases same : j = i
        · subst same
          have fresh : ∀ c'', ¬ Outstanding history j c'' := fun c'' outstanding =>
            first.1 (AList.lookup_isSome.mp (by rw [(correlates j c'').mpr outstanding]; rfl))
          simp [AList.lookup_insert, fresh, eq_comm]
        · simp [AList.lookup_insert_ne same, Ne.symm same, correlates j c']
      · simpa [record, exec, result, outstanding_append] using correlates j c'
  | get i => simpa [record, exec, outstanding_append] using correlates j c'
  | free i =>
      simp only [record, exec, free, outstanding_append, reduceCtorEq, false_or, ne_eq,
        Event.freed.injEq, not_false_eq_true, and_true]
      by_cases same : j = i
      · subst same
        simp [AList.lookup_erase]
      · simp [AList.lookup_erase_ne same, Ne.symm same, correlates j c']
  | clear => simp [record, exec, clear, outstanding_append, AList.lookup_empty]

theorem correlates_foldl (ops : List (Op CPContext)) {s : MIDs CPContext × List (Event CPContext)}
    (correlates : Correlates s) : Correlates (ops.foldl record s) := by
  induction ops generalizing s with
  | nil => exact correlates
  | cons op ops ih => exact ih (correlates_record op correlates)

theorem run_correlates (lastIdUsed : UInt16) (ops : List (Op CPContext)) :
    Correlates (run ⟨∅, lastIdUsed⟩ ops) :=
  correlates_foldl ops fun i c => by simp [AList.lookup_empty, not_outstanding_nil]

/-- At every point of every run from an empty index, the index maps exactly the outstanding identifiers. -/
theorem run_index_outstanding (lastIdUsed : UInt16) (ops : List (Op CPContext)) :
    (∀ i c, (run ⟨∅, lastIdUsed⟩ ops).1.index.lookup i = some c ↔
      Outstanding (run ⟨∅, lastIdUsed⟩ ops).2 i c) ∧
    (∀ c m' i, (run ⟨∅, lastIdUsed⟩ ops).1.request c = (m', i, none) →
      i ≠ 0 ∧ ∀ c', ¬ Outstanding (run ⟨∅, lastIdUsed⟩ ops).2 i c') ∧
    (∀ c m' i, (run ⟨∅, lastIdUsed⟩ ops).1.request c = (m', i, some errNoMoreIDs) →
      ∀ j, m'.get j = (run ⟨∅, lastIdUsed⟩ ops).1.get j) ∧
    ∀ j, (run ⟨∅, lastIdUsed⟩ ops).1.clear.get j = none := by
  have correlates := run_correlates lastIdUsed ops
  generalize run ⟨∅, lastIdUsed⟩ ops = s at correlates ⊢
  obtain ⟨m, history⟩ := s
  refine ⟨correlates, fun c m' i result => ?_, fun c m' i result j => ?_, fun j => rfl⟩
  · obtain ⟨-, first⟩ := request_ok.mp result
    refine ⟨first.ne_zero, fun c' outstanding => first.1 ?_⟩
    exact AList.lookup_isSome.mp (by rw [(correlates i c').mpr outstanding]; rfl)
  · rcases request_result m c with ⟨_, -, success⟩ | ⟨-, failure⟩
    · rw [success] at result
      simp at result
    · rw [failure] at result
      obtain ⟨rfl, -⟩ := Prod.mk.inj result
      rfl

/-! ## A free identifier `Request` does not find -/

/-- `k ≤ 65535` requests from an empty service issue `1, ..., k` in turn. -/
theorem run_requests (c : Option CPContext) {k : Nat} (bound : k ≤ 65535) :
    (∀ j : UInt16, (run ⟨∅, 0⟩ (List.replicate k (.request c))).1.index.lookup j =
      if 0 < j.toNat ∧ j.toNat ≤ k then some c else none) ∧
    (run ⟨∅, 0⟩ (List.replicate k (.request c))).1.lastIdUsed.toNat = k := by
  induction k with
  | zero => exact ⟨fun j => by rw [if_neg (by omega)]; rfl, rfl⟩
  | succ k ih =>
      obtain ⟨index, last⟩ := ih (by omega)
      rw [List.replicate_succ', run_append]
      generalize run ⟨∅, 0⟩ (List.replicate k (.request c)) = s at index last ⊢
      have below : s.1.lastIdUsed < 65535 := UInt16.lt_65535_iff.mpr (by omega)
      have next : (nextId s.1.lastIdUsed).toNat = k + 1 := by
        rw [nextId, if_pos below, UInt16.toNat_add_one below, last]
      have free : nextId s.1.lastIdUsed ∉ s.1.index := by
        rw [← AList.lookup_eq_none, index, next]
        simp
      simp only [record, exec, request_of_free free]
      refine ⟨fun j => ?_, next⟩
      by_cases same : j = nextId s.1.lastIdUsed
      · subst same
        simp [AList.lookup_insert, next]
      · rw [AList.lookup_insert_ne same, index]
        have := mt UInt16.toNat_inj.mp same
        rw [next] at this
        congr 1
        simp only [eq_iff_iff]
        omega

/-- After 65535 requests and `Free(65535)`, `Request` fails though 65535 is free. -/
theorem request_fails_with_free_id (c : Option CPContext) :
    65535 ∉ (run ⟨∅, 0⟩ (List.replicate 65535 (.request c) ++ [.free 65535])).1.index ∧
    (run ⟨∅, 0⟩ (List.replicate 65535 (.request c) ++ [.free 65535])).1.request c =
      (⟨(run ⟨∅, 0⟩ (List.replicate 65535 (.request c) ++ [.free 65535])).1.index, 1⟩, 0,
        some errNoMoreIDs) := by
  obtain ⟨index, last⟩ := run_requests c (le_refl 65535)
  rw [run_append]
  generalize run ⟨∅, 0⟩ (List.replicate 65535 (.request c)) = s at index last
  have full : s.1.lastIdUsed = 65535 := UInt16.toNat_inj.mp last
  have present : ∀ k : UInt16, 1 ≤ k → k < 65535 → k ∈ (s.1.free 65535).index := by
    intro k low high
    have other : k ≠ 65535 := UInt16.ne_of_lt high
    rw [← AList.lookup_isSome, free, AList.lookup_erase_ne other, index]
    rw [UInt16.le_iff_toNat_le] at low
    rw [UInt16.lt_iff_toNat_lt] at high
    change 1 ≤ k.toNat at low
    change k.toNat < 65535 at high
    simp [show 0 < k.toNat by omega, show k.toNat ≤ 65535 by omega]
  refine ⟨by simp [record, exec, free, AList.mem_erase], ?_⟩
  have exhausted : Exhausted (s.1.free 65535).index (nextId (s.1.free 65535).lastIdUsed) := by
    simp only [free, full]
    exact ⟨present 1 (UInt16.le_refl 1) (by decide), present⟩
  simpa [record, exec, free, full] using request_error.mpr exhausted

end MIDs
end Paho
