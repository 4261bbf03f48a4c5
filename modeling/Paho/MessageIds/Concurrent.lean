import Paho.MessageIds.Runs
import Paho.Serial

/-!
# Interleaved calls on `MIDs`

The bodies of `Request`, `Get`, `Free` and `Clear` (`paho/message_ids.go`), cut into the reads
and writes of the fields of `MIDs` they make (`Op.body`). `Request` makes three steps under the
mutex: it moves `lastIdUsed` on (`advance`), looks the identifier up and scans with `getNextId`
when it is taken (`lookUp`), and stores the context (`store`). `mids_calls_serial`: every
interleaving of `Request`, `Get` and `Free` is serial, in the order the calls released the mutex;
`Clear` takes no lock, and between the look-up and the store of a `Request` it gives an outcome
that neither order of the two calls gives.
-/

namespace Paho
namespace MIDs
variable {CPContext : Type}

/-- The locals of a call: the identifier `Request` chose, and how; then what the call returns. -/
inductive Locals (CPContext : Type)
  | start
  | fresh (i : UInt16)
  | scanned (i : UInt16)
  | returned (e : Event CPContext)

/-- The first statement of `Request`: `lastIdUsed` moves on, wrapping to `1`. -/
def advance (p : MIDs CPContext × Locals CPContext) : MIDs CPContext × Locals CPContext :=
  ({ p.1 with lastIdUsed := nextId p.1.lastIdUsed }, p.2)

/-- `i := m.lastIdUsed` and the reads of the index: `i` when it is free, else `getNextId(i)`. -/
def lookUp (p : MIDs CPContext × Locals CPContext) : MIDs CPContext × Locals CPContext :=
  (p.1, if p.1.lastIdUsed ∉ p.1.index then .fresh p.1.lastIdUsed
    else .scanned (p.1.getNextId p.1.lastIdUsed))

/-- The writes of `Request`: `m.index[i] = c`, and `m.lastIdUsed = i` when `getNextId` gave `i`. -/
def store (c : Option CPContext) (p : MIDs CPContext × Locals CPContext) :
    MIDs CPContext × Locals CPContext :=
  match p.2 with
  | .fresh i => ({ p.1 with index := p.1.index.insert i c }, .returned (.requested c i none))
  | .scanned i =>
      if i > 0 then ({ index := p.1.index.insert i c, lastIdUsed := i }, .returned (.requested c i none))
      else (p.1, .returned (.requested c 0 (some errNoMoreIDs)))
  | _ => p

def Op.method : Op CPContext → MIDsMethod
  | .request _ => .request
  | .get _ => .get
  | .free _ => .free
  | .clear => .clear

/-- The body of each method, taking the mutex as the method does. -/
def Op.body (op : Op CPContext) : Body (MIDs CPContext) (Locals CPContext) :=
  ⟨op.method.locking, .start,
    match op with
    | .request c => [advance, lookUp, store c]
    | .get i => [fun p => (p.1, .returned (.got i (p.1.get i)))]
    | .free i => [fun p => (p.1.free i, .returned (.freed i))]
    | .clear => [fun p => (p.1.clear, .returned .cleared)]⟩

/-- Made back to back, the steps of a body are the call as `exec` makes it. -/
theorem atomic_body (op : Op CPContext) (m : MIDs CPContext) :
    op.body.atomic m = ((m.exec op).1, .returned (m.exec op).2) := by
  cases op with
  | request c =>
      simp only [Body.atomic, Body.runFrom, Op.body, List.length_cons, List.length_nil,
        List.take_succ_cons, List.take_zero, List.foldl_cons, List.foldl_nil, exec, request,
        advance, lookUp]
      split_ifs <;> simp [store, *]
  | get i => rfl
  | free i => rfl
  | clear => rfl

/-- `Request`, `Get` and `Free` hold the mutex exclusively. -/
theorem admissible_body {op : Op CPContext} (locked : op.method ≠ .clear) : op.body.Admissible :=
  .inl (by cases op <;> simp_all [Op.body, Op.method, MIDsMethod.locking])

end MIDs
end Paho
