import Mathlib.Data.List.AList

/-!
# Packet identifiers

`MIDs` (`paho/message_ids.go`), the library's `MIDService`: a map from each packet identifier in
use to the `*CPContext` waiting for its acknowledgement, and the identifier issued last.
Identifiers are `UInt16` as in Go, a `*CPContext` is an `Option` (`none` is `nil`), and the map is
an `AList`, so that a key is either absent or bound once.

`getNextIdLoop_spec` says what the probe loop returns, and `request_result` what `Request` does
from any state: it takes the identifier after `lastIdUsed` if that one is free, and otherwise
only probes forward from it up to 65534.
-/

namespace Paho

/-! ## `uint16` arithmetic -/

theorem UInt16.lt_iff_toNat_lt {a b : UInt16} : a < b ↔ a.toNat < b.toNat := Iff.rfl

theorem UInt16.le_iff_toNat_le {a b : UInt16} : a ≤ b ↔ a.toNat ≤ b.toNat := Iff.rfl

theorem UInt16.lt_65535_iff {a : UInt16} : a < 65535 ↔ a.toNat < 65535 := Iff.rfl

theorem UInt16.toNat_inj {a b : UInt16} : a.toNat = b.toNat ↔ a = b :=
  ⟨UInt16.toNat.inj, congrArg _⟩

theorem UInt16.le_65535 (a : UInt16) : a ≤ 65535 := by
  have := a.toNat_lt_size
  change a.toNat < 65536 at this
  change a.toNat ≤ 65535
  omega

theorem UInt16.toNat_eq_zero {a : UInt16} : a.toNat = 0 ↔ a = 0 :=
  ⟨@UInt16.toNat.inj a 0, fun h => h ▸ rfl⟩

theorem UInt16.toNat_add_one {a : UInt16} (h : a < 65535) : (a + 1).toNat = a.toNat + 1 := by
  rw [UInt16.lt_65535_iff] at h
  change (a.toBitVec + 1).toNat = _
  rw [BitVec.toNat_add]
  change (a.toNat + 1) % 65536 = _
  omega

/-- A Go `error`, compared by its text. -/
structure GoError where
  msg : String
  deriving DecidableEq

def errNoMoreIDs : GoError := ⟨"no more packet ids available."⟩

/-! ## The service -/

/-- `MIDs`: `index` maps each identifier in use to its `*CPContext`. -/
structure MIDs (CPContext : Type) where
  index : AList (fun _ : UInt16 => Option CPContext)
  lastIdUsed : UInt16

namespace MIDs
variable {CPContext : Type}

/-- The loop of `getNextId`: the first `i` up to 65534 missing from `index`, `0` once it ends. -/
def getNextIdLoop (index : AList (fun _ : UInt16 => Option CPContext)) (i : UInt16) : UInt16 :=
  if h : i < 65535 then
    if i ∉ index then i else getNextIdLoop index (i + 1)
  else 0
termination_by 65535 - i.toNat
decreasing_by
  have next := UInt16.toNat_add_one h
  rw [UInt16.lt_65535_iff] at h
  omega

/-- `getNextId`; the reset of `startFrom` never fires on a `uint16`. -/
def getNextId (m : MIDs CPContext) (startFrom : UInt16) : UInt16 :=
  getNextIdLoop m.index (if startFrom > 65535 then 1 else startFrom)

/-- The identifier `Request` takes first: the one after `lastIdUsed`, wrapping to `1`. -/
def nextId (lastIdUsed : UInt16) : UInt16 :=
  if lastIdUsed < 65535 then lastIdUsed + 1 else 1

/-- `Request`: the identifier issued and the error, `(0, ErrNoMoreIDs)` on failure. -/
def request (m : MIDs CPContext) (c : Option CPContext) :
    MIDs CPContext × UInt16 × Option GoError :=
  let m : MIDs CPContext := { m with lastIdUsed := nextId m.lastIdUsed }
  let i := m.lastIdUsed
  if i ∉ m.index then ({ m with index := m.index.insert i c }, i, none)
  else
    let i := m.getNextId i
    if i > 0 then ({ index := m.index.insert i c, lastIdUsed := i }, i, none)
    else (m, 0, some errNoMoreIDs)

/-- `Get`: the `*CPContext` of `i`, `nil` when `i` is not in use. -/
def get (m : MIDs CPContext) (i : UInt16) : Option CPContext :=
  (m.index.lookup i).getD none

def free (m : MIDs CPContext) (i : UInt16) : MIDs CPContext :=
  { m with index := m.index.erase i }

/-- `Clear`: a fresh map; `lastIdUsed` is kept. -/
def clear (m : MIDs CPContext) : MIDs CPContext :=
  { m with index := ∅ }

/-! ## The probe loop -/

theorem nextId_ne_zero (lastIdUsed : UInt16) : nextId lastIdUsed ≠ 0 := by
  unfold nextId
  split
  · rename_i bound
    intro equal
    have := congrArg UInt16.toNat equal
    rw [UInt16.toNat_add_one bound] at this
    exact Nat.succ_ne_zero _ this
  · decide

/-- The loop of `getNextId` returns the first identifier not in use up to 65534, or `0`. -/
theorem getNextIdLoop_spec (index : AList (fun _ : UInt16 => Option CPContext)) (i : UInt16) :
    (getNextIdLoop index i = 0 ∧ ∀ k : UInt16, i ≤ k → k < 65535 → k ∈ index) ∨
    (i ≤ getNextIdLoop index i ∧ getNextIdLoop index i < 65535 ∧
      getNextIdLoop index i ∉ index ∧ ∀ k : UInt16, i ≤ k → k < getNextIdLoop index i → k ∈ index) := by
  induction i using getNextIdLoop.induct index with
  | case1 i bound free =>
      rw [getNextIdLoop, dif_pos bound, if_pos free]
      exact .inr ⟨UInt16.le_refl i, bound, free, fun k low high => absurd high (UInt16.not_lt.mpr low)⟩
  | case2 i bound used ih =>
      rw [getNextIdLoop, dif_pos bound, if_neg used]
      have next := UInt16.toNat_add_one bound
      have step : ∀ k : UInt16, i ≤ k → k = i ∨ i + 1 ≤ k := by
        intro k low
        rw [UInt16.le_iff_toNat_le] at low ⊢
        rw [← UInt16.toNat_inj]
        omega
      have present : ∀ k : UInt16, i ≤ k → (i + 1 ≤ k → k ∈ index) → k ∈ index := by
        intro k low later
        rcases step k low with rfl | later'
        · exact not_not.mp used
        · exact later later'
      rcases ih with ⟨zero, all⟩ | ⟨low, high, free, before⟩
      · exact .inl ⟨zero, fun k low high => present k low fun later => all k later high⟩
      · refine .inr ⟨?_, high, free, fun k low' high' => present k low' fun later => before k later high'⟩
        rw [UInt16.le_iff_toNat_le] at low ⊢
        omega
  | case3 i bound =>
      rw [getNextIdLoop, dif_neg bound]
      refine .inl ⟨rfl, fun k low high => absurd ?_ bound⟩
      rw [UInt16.le_iff_toNat_le] at low
      rw [UInt16.lt_iff_toNat_lt] at high ⊢
      omega

theorem getNextId_eq (m : MIDs CPContext) (i : UInt16) : m.getNextId i = getNextIdLoop m.index i := by
  rw [getNextId, if_neg (UInt16.not_lt.mpr (UInt16.le_65535 i))]

/-! ## `Request` -/

/-- `i` is the identifier `Request` issues probing from `n`. -/
def FirstFree (index : AList (fun _ : UInt16 => Option CPContext)) (n i : UInt16) : Prop :=
  i ∉ index ∧ (i = n ∨ n ≤ i ∧ i < 65535) ∧ ∀ k : UInt16, n ≤ k → k < i → k ∈ index

/-- Every identifier `Request` probes from `n` is in use. -/
def Exhausted (index : AList (fun _ : UInt16 => Option CPContext)) (n : UInt16) : Prop :=
  n ∈ index ∧ ∀ k : UInt16, n ≤ k → k < 65535 → k ∈ index

theorem FirstFree.le {index : AList (fun _ : UInt16 => Option CPContext)} {n i : UInt16}
    (first : FirstFree index n i) : n ≤ i := by
  rcases first.2.1 with rfl | ⟨low, -⟩
  · exact UInt16.le_refl _
  · exact low

theorem FirstFree.ne_zero {index : AList (fun _ : UInt16 => Option CPContext)} {lastIdUsed i : UInt16}
    (first : FirstFree index (nextId lastIdUsed) i) : i ≠ 0 := by
  intro zero
  have := mt UInt16.toNat_eq_zero.mp (nextId_ne_zero lastIdUsed)
  have := UInt16.le_iff_toNat_le.mp first.le
  rw [zero] at this
  change _ ≤ 0 at this
  omega

theorem FirstFree.unique {index : AList (fun _ : UInt16 => Option CPContext)} {n i j : UInt16}
    (first : FirstFree index n i) (other : FirstFree index n j) : i = j := by
  rw [← UInt16.toNat_inj]
  rcases Nat.lt_trichotomy i.toNat j.toNat with before | same | after
  · exact absurd (other.2.2 i first.le before) first.1
  · exact same
  · exact absurd (first.2.2 j other.le after) other.1

theorem FirstFree.not_exhausted {index : AList (fun _ : UInt16 => Option CPContext)} {n i : UInt16}
    (first : FirstFree index n i) : ¬ Exhausted index n := by
  rintro ⟨used, all⟩
  rcases first.2.1 with rfl | ⟨low, high⟩
  · exact first.1 used
  · exact first.1 (all i low high)

/-- `Request` issues the identifier it finds probing from `nextId lastIdUsed`, or fails. -/
theorem request_result (m : MIDs CPContext) (c : Option CPContext) :
    (∃ i, FirstFree m.index (nextId m.lastIdUsed) i ∧
        m.request c = (⟨m.index.insert i c, i⟩, i, none)) ∨
      (Exhausted m.index (nextId m.lastIdUsed) ∧
        m.request c = (⟨m.index, nextId m.lastIdUsed⟩, 0, some errNoMoreIDs)) := by
  by_cases free : nextId m.lastIdUsed ∈ m.index
  · rcases getNextIdLoop_spec m.index (nextId m.lastIdUsed) with ⟨zero, all⟩ | ⟨low, high, unused, before⟩
    · refine .inr ⟨⟨free, all⟩, ?_⟩
      simp [request, getNextId_eq, free, zero]
    · have positive : 0 < getNextIdLoop m.index (nextId m.lastIdUsed) := by
        have := mt UInt16.toNat_eq_zero.mp (nextId_ne_zero m.lastIdUsed)
        rw [UInt16.le_iff_toNat_le] at low
        rw [UInt16.lt_iff_toNat_lt]
        change 0 < _
        omega
      exact .inl ⟨_, ⟨unused, .inr ⟨low, high⟩, before⟩, by simp [request, getNextId_eq, free, positive]⟩
  · refine .inl ⟨_, ⟨free, .inl rfl, fun k low high => absurd high (UInt16.not_lt.mpr low)⟩, ?_⟩
    simp [request, free]

theorem request_of_free {m : MIDs CPContext} {c : Option CPContext} (free : nextId m.lastIdUsed ∉ m.index) :
    m.request c = (⟨m.index.insert (nextId m.lastIdUsed) c, nextId m.lastIdUsed⟩, nextId m.lastIdUsed, none) := by
  simp [request, free]

theorem request_ok {m m' : MIDs CPContext} {c : Option CPContext} {i : UInt16} :
    m.request c = (m', i, none) ↔
      m' = ⟨m.index.insert i c, i⟩ ∧ FirstFree m.index (nextId m.lastIdUsed) i := by
  rcases request_result m c with ⟨j, first, result⟩ | ⟨exhausted, result⟩
  · rw [result]
    constructor
    · rintro ⟨rfl, rfl, -⟩
      exact ⟨rfl, first⟩
    · rintro ⟨rfl, other⟩
      rw [first.unique other]
  · rw [result]
    constructor
    · rintro ⟨-, -, ⟨⟩⟩
    · rintro ⟨-, other⟩
      exact absurd exhausted other.not_exhausted

theorem request_error {m : MIDs CPContext} {c : Option CPContext} :
    m.request c = (⟨m.index, nextId m.lastIdUsed⟩, 0, some errNoMoreIDs) ↔
      Exhausted m.index (nextId m.lastIdUsed) := by
  rcases request_result m c with ⟨j, first, result⟩ | ⟨exhausted, result⟩
  · rw [result]
    exact ⟨fun equal => by simp at equal, fun exhausted => absurd exhausted first.not_exhausted⟩
  · exact ⟨fun _ => exhausted, fun _ => result⟩

end MIDs
end Paho
