import Mathlib.Data.List.Basic

/-!
# UNSUBSCRIBE packets

`Unsubscribe.Unpack` and `Unsubscribe.Buffers` (`packets/unsubscribe.go`). The helpers they call
are not in the sources: `readUint16`, `writeUint16`, `readString` and `writeString` are the MQTT
two-byte big-endian integer and length-prefixed string, and the property block codec is a
`PropPack`. A Go string is its bytes, and a `bytes.Buffer` the bytes not read yet.
`unpack_buffers` is the round trip, and `unpack_accepts` says what else `Unpack` accepts: its
topic loop stops at the first `io.EOF`, which the readers return both at the end of the buffer
and for a string cut short, so an incomplete last topic is dropped without an error.
-/

namespace Packets

/-- The unread bytes of a `bytes.Buffer`, and a Go string. -/
abbrev Bytes := List UInt8

/-- An error of a read: `io.EOF`, or another with its text. -/
inductive ReadError
  | eof
  | other (msg : String)
  deriving DecidableEq

/-! ## The helpers -/

/-- Modelled from the spec: `writeUint16`, two bytes, high byte first. -/
def writeUint16 (i : UInt16) : Bytes :=
  [UInt8.ofNat (i.toNat / 256), UInt8.ofNat (i.toNat % 256)]

/-- Modelled from the spec: `readUint16`, two bytes, high byte first; `0, io.EOF` when they run out. -/
def readUint16 : Bytes → Except ReadError (UInt16 × Bytes)
  | b1 :: b2 :: rest => .ok (UInt16.ofNat (b1.toNat * 256 + b2.toNat), rest)
  | _ => .error .eof

/-- Modelled from the spec: `writeString`, the length as `uint16(len(s))`, then the bytes. -/
def writeString (s : Bytes) : Bytes :=
  writeUint16 (UInt16.ofNat s.length) ++ s

/-- Modelled from the spec: `readString`, a length, then that many bytes; `io.EOF` when they run out. -/
def readString (r : Bytes) : Except ReadError (Bytes × Bytes) :=
  match readUint16 r with
  | .error err => .error err
  | .ok (size, rest) =>
      if size.toNat ≤ rest.length then .ok (rest.take size.toNat, rest.drop size.toNat)
      else .error .eof

/-- Modelled from the spec: `genPropPack(t)`, whose `Unpack` reads back what its `Pack` wrote. -/
structure PropPack (P : Type) where
  pack : P → Bytes
  unpack : Bytes → Except ReadError (P × Bytes)
  unpack_pack : ∀ p rest, unpack (pack p ++ rest) = .ok (p, rest)

theorem readUint16_writeUint16 (i : UInt16) (rest : Bytes) :
    readUint16 (writeUint16 i ++ rest) = .ok (i, rest) := by
  have bound : i.toNat < 65536 := UInt16.toNat_lt_size i
  have high : (UInt8.ofNat (i.toNat / 256)).toNat = i.toNat / 256 :=
    UInt8.toNat_ofNat_of_lt (by change _ < 256; omega)
  have low : (UInt8.ofNat (i.toNat % 256)).toNat = i.toNat % 256 :=
    UInt8.toNat_ofNat_of_lt (by change _ < 256; omega)
  have value : UInt16.ofNat (i.toNat / 256 * 256 + i.toNat % 256) = i :=
    UInt16.toNat.inj (by rw [UInt16.toNat_ofNat_of_lt (by change _ < 65536; omega)]; omega)
  simp only [writeUint16, List.cons_append, List.nil_append, readUint16, high, low, value]

theorem readString_writeString (s rest : Bytes) (short : s.length ≤ 65535) :
    readString (writeString s ++ rest) = .ok (s, rest) := by
  have size : (UInt16.ofNat s.length).toNat = s.length :=
    UInt16.toNat_ofNat_of_lt (by change _ < 65536; omega)
  simp [readString, writeString, readUint16_writeUint16, size]

theorem readString_length {r t rest : Bytes} (read : readString r = .ok (t, rest)) :
    rest.length < r.length := by
  unfold readString at read
  match r, read with
  | b1 :: b2 :: bytes, read =>
      simp only [readUint16] at read
      split at read
      · cases read
        simp
        omega
      · cases read

theorem writeUint16_readUint16 (b1 b2 : UInt8) :
    writeUint16 (UInt16.ofNat (b1.toNat * 256 + b2.toNat)) = [b1, b2] := by
  have high : b1.toNat < 256 := UInt8.toNat_lt_size b1
  have low : b2.toNat < 256 := UInt8.toNat_lt_size b2
  have value : (UInt16.ofNat (b1.toNat * 256 + b2.toNat)).toNat = b1.toNat * 256 + b2.toNat :=
    UInt16.toNat_ofNat_of_lt (by change _ < 65536; omega)
  simp only [writeUint16, value, List.cons.injEq, and_true]
  constructor <;> apply UInt8.toNat.inj <;>
    rw [UInt8.toNat_ofNat_of_lt (by change _ < 256; omega)] <;> omega

theorem readUint16_eq_ok {r rest : Bytes} {i : UInt16} :
    readUint16 r = .ok (i, rest) ↔ r = writeUint16 i ++ rest := by
  constructor
  · intro read
    match r, read with
    | b1 :: b2 :: bytes, read =>
        cases read
        rw [writeUint16_readUint16]
        rfl
  · rintro rfl
    exact readUint16_writeUint16 i rest

theorem readString_eq_ok {r t rest : Bytes} :
    readString r = .ok (t, rest) ↔ r = writeString t ++ rest ∧ t.length ≤ 65535 := by
  constructor
  · intro read
    unfold readString at read
    split at read
    · cases read
    · rename_i size bytes header
      split at read
      · rename_i fits
        cases read
        have short : size.toNat < 65536 := UInt16.toNat_lt_size size
        have length : (bytes.take size.toNat).length = size.toNat := List.length_take_of_le fits
        refine ⟨?_, by omega⟩
        rw [readUint16_eq_ok.mp header, writeString, length, List.append_assoc,
          List.take_append_drop, UInt16.toNat.inj (UInt16.toNat_ofNat_of_lt short)]
      · cases read
  · rintro ⟨rfl, short⟩
    exact readString_writeString t rest short

/-- Bytes that are not a string: fewer than two, or fewer after the length prefix than it gives. -/
def Incomplete (tail : Bytes) : Prop :=
  tail.length < 2 ∨ ∃ size body, tail = writeUint16 size ++ body ∧ body.length < size.toNat

/-- `readString` fails only with `io.EOF`, and exactly on an incomplete string. -/
theorem readString_eq_error {r : Bytes} {err : ReadError} :
    readString r = .error err ↔ err = .eof ∧ Incomplete r := by
  simp only [Incomplete, ← readUint16_eq_ok]
  match r with
  | b1 :: b2 :: bytes =>
      simp only [readString, readUint16]
      split_ifs with fits <;> simp [fits, and_assoc, eq_comm]
      omega
  | [] => simp [readString, readUint16, eq_comm]
  | [b] => simp [readString, readUint16, eq_comm]

/-! ## `Unpack` and `Buffers` -/

/-- `packets.Unsubscribe`, with its `Properties` of type `P`. -/
structure Unsubscribe (P : Type) where
  topics : List Bytes
  properties : P
  packetID : UInt16
  deriving DecidableEq

/-- The loop of `Unpack`: read topics until `readString` returns `io.EOF`. -/
def readTopics (topics : List Bytes) (r : Bytes) : List Bytes × Option ReadError :=
  match read : readString r with
  | .error .eof => (topics, none)
  | .error err => (topics, some err)
  | .ok (t, rest) => readTopics (topics ++ [t]) rest
termination_by r.length
decreasing_by exact readString_length read

variable {P : Type}

/-- `Unpack` into `u`: the packet left and the error returned; a failed `readUint16` gives `PacketID` 0. -/
def Unsubscribe.unpack (codec : PropPack P) (u : Unsubscribe P) (r : Bytes) :
    Unsubscribe P × Option ReadError :=
  match readUint16 r with
  | .error err => ({ u with packetID := 0 }, some err)
  | .ok (packetID, r) =>
      match codec.unpack r with
      | .error err => ({ u with packetID }, some err)
      | .ok (properties, r) =>
          let (topics, err) := readTopics u.topics r
          ({ u with packetID, properties, topics }, err)

/-- `Buffers`: the packet identifier, the property block, and the topics. -/
def Unsubscribe.buffers (codec : PropPack P) (u : Unsubscribe P) : List Bytes :=
  [writeUint16 u.packetID, codec.pack u.properties, (u.topics.map writeString).flatten]

theorem readTopics_append (topics written : List Bytes) (tail : Bytes)
    (short : ∀ t ∈ written, t.length ≤ 65535) (incomplete : Incomplete tail) :
    readTopics topics ((written.map writeString).flatten ++ tail) = (topics ++ written, none) := by
  induction written generalizing topics with
  | nil =>
      have stop := readString_eq_error.mpr ⟨rfl, incomplete⟩
      rw [List.map_nil, List.flatten_nil, List.nil_append, List.append_nil, readTopics]
      split <;> simp_all
  | cons t written ih =>
      have rest := ih (topics ++ [t]) fun t' member => short t' (List.mem_cons_of_mem _ member)
      rw [List.map_cons, List.flatten_cons, List.append_assoc, readTopics,
        readString_writeString _ _ (short t (List.mem_cons_self _ _))]
      simpa using rest

theorem readTopics_writeString (topics written : List Bytes)
    (short : ∀ t ∈ written, t.length ≤ 65535) :
    readTopics topics (written.map writeString).flatten = (topics ++ written, none) := by
  simpa using readTopics_append topics written [] short (.inl (by decide))

/-- Any bytes are complete strings followed by an incomplete rest. -/
theorem exists_topics (r : Bytes) : ∃ (written : List Bytes) (tail : Bytes),
    (∀ t ∈ written, t.length ≤ 65535) ∧ Incomplete tail ∧
      r = (written.map writeString).flatten ++ tail := by
  match read : readString r with
  | .error _ => exact ⟨[], r, by simp, (readString_eq_error.mp read).2, rfl⟩
  | .ok (t, rest) =>
      obtain ⟨written, tail, short, incomplete, split⟩ := exists_topics rest
      obtain ⟨first, bound⟩ := readString_eq_ok.mp read
      exact ⟨t :: written, tail, by simp_all, incomplete, by simp [first, split]⟩
termination_by r.length
decreasing_by exact readString_length read

/-- `Unpack` of the concatenated `Buffers` gives back the packet, when its topics fit a `uint16` length. -/
theorem unpack_buffers (codec : PropPack P) (u : Unsubscribe P) (fresh : P) (packetID : UInt16)
    (short : ∀ t ∈ u.topics, t.length ≤ 65535) :
    (Unsubscribe.mk [] fresh packetID).unpack codec (u.buffers codec).flatten = (u, none) := by
  simp only [Unsubscribe.buffers, List.flatten_cons, List.flatten_nil, List.append_nil,
    Unsubscribe.unpack, readUint16_writeUint16, codec.unpack_pack,
    readTopics_writeString [] u.topics short, List.nil_append]

def emptyProperties : PropPack Unit where
  pack _ := [0]
  unpack
    | 0 :: rest => .ok ((), rest)
    | _ => .error (.other "malformed property block")
  unpack_pack _ _ := rfl

theorem unpack_buffers_two_topics :
    (∀ t ∈ [[0x61, 0x2f, 0x62], []], List.length t ≤ 65535) ∧
      (Unsubscribe.mk [] () 0).unpack emptyProperties
        ((Unsubscribe.mk [[0x61, 0x2f, 0x62], []] () 7).buffers emptyProperties).flatten =
        (⟨[[0x61, 0x2f, 0x62], []], (), 7⟩, none) :=
  ⟨by decide, unpack_buffers emptyProperties ⟨[[0x61, 0x2f, 0x62], []], (), 7⟩ () 0 (by decide)⟩

/-! ## What `Unpack` accepts -/

/-- After a packet identifier and a property block, `Unpack` accepts any bytes. -/
theorem unpack_accepts (codec : PropPack P) (u : Unsubscribe P) :
    (∀ packetID properties written tail, (∀ t ∈ written, t.length ≤ 65535) → Incomplete tail →
      u.unpack codec (writeUint16 packetID ++ codec.pack properties ++
        (written.map writeString).flatten ++ tail) =
        ({ u with packetID, properties, topics := u.topics ++ written }, none)) ∧
    (∀ r packetID afterId properties rest, readUint16 r = .ok (packetID, afterId) →
      codec.unpack afterId = .ok (properties, rest) →
      ∃ written tail, (∀ t ∈ written, t.length ≤ 65535) ∧ Incomplete tail ∧
        rest = (written.map writeString).flatten ++ tail ∧
        u.unpack codec r = ({ u with packetID, properties, topics := u.topics ++ written }, none)) ∧
    (∀ r err, (u.unpack codec r).2 = some err →
      readUint16 r = .error err ∨
        ∃ packetID afterId, readUint16 r = .ok (packetID, afterId) ∧
          codec.unpack afterId = .error err) := by
  refine ⟨fun packetID properties written tail short incomplete => ?_,
    fun r packetID afterId properties rest header block => ?_, fun r err failed => ?_⟩
  · simp only [Unsubscribe.unpack, List.append_assoc, readUint16_writeUint16, codec.unpack_pack,
      readTopics_append _ _ _ short incomplete]
  · obtain ⟨written, tail, short, incomplete, rfl⟩ := exists_topics rest
    refine ⟨written, tail, short, incomplete, rfl, ?_⟩
    simp only [Unsubscribe.unpack, header, block, readTopics_append _ _ _ short incomplete]
  · unfold Unsubscribe.unpack at failed
    split at failed
    · rename_i e header
      cases failed
      exact .inl header
    · rename_i packetID afterId header
      split at failed
      · rename_i e block
        cases failed
        exact .inr ⟨packetID, afterId, header, block⟩
      · rename_i properties rest block
        obtain ⟨written, tail, short, incomplete, rfl⟩ := exists_topics rest
        simp [readTopics_append _ _ _ short incomplete] at failed

/-- A topic cut short after its length prefix is dropped, and `Unpack` returns no error. -/
theorem unpack_accepts_truncated_topic :
    (∀ t ∈ ([[0x61, 0x2f, 0x62]] : List Bytes), t.length ≤ 65535) ∧ Incomplete [0, 5, 0x78] ∧
      (Unsubscribe.mk [] () 0).unpack emptyProperties
        [0, 7, 0, 0, 3, 0x61, 0x2f, 0x62, 0, 5, 0x78] = (⟨[[0x61, 0x2f, 0x62]], (), 7⟩, none) :=
  have short : ∀ t ∈ ([[0x61, 0x2f, 0x62]] : List Bytes), t.length ≤ 65535 := by decide
  have incomplete : Incomplete [0, 5, 0x78] := .inr ⟨5, [0x78], rfl, by decide⟩
  ⟨short, incomplete,
    (unpack_accepts emptyProperties ⟨[], (), 0⟩).1 7 () [[0x61, 0x2f, 0x62]] [0, 5, 0x78] short
      incomplete⟩

end Packets
