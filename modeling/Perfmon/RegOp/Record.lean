import Perfmon.LittleEndian
import Perfmon.RegOp
/-!
# Records

The form in which register operations lie in a caller's memory: 24 bytes each, little-endian.

| bytes    | field    |
|----------|----------|
| 0        | code     |
| 1        | status   |
| 2 to 3   | reserved |
| 4 to 7   | offset   |
| 8 to 15  | value    |
| 16 to 23 | mask     |

The reserved bytes are written as zero and ignored when read.
-/

namespace Perfmon.RegOp

open LittleEndian

/-- The length of a record in bytes. -/
def recordSize : Nat := 24

/-- The record of an operation. -/
def toRecord (op : RegOp) : List UInt8 :=
  bytes 1 op.code.toNat ++ (bytes 1 op.status.toNat ++ (bytes 2 0 ++ (bytes 4 op.offset.toNat ++
    (bytes 8 op.value.toNat ++ bytes 8 op.mask.toNat))))

@[simp] theorem length_toRecord (op : RegOp) : op.toRecord.length = recordSize := by
  simp [toRecord, recordSize]

/-- The operation at the front of a byte string, if a whole record is there. -/
def ofRecord? (bs : List UInt8) : Option RegOp := do
  let (code, bs) ← field? 1 bs
  let (status, bs) ← field? 1 bs
  let (_, bs) ← field? 2 bs
  let (offset, bs) ← field? 4 bs
  let (value, bs) ← field? 8 bs
  let (mask, _) ← field? 8 bs
  return ⟨.ofNat code, .ofNat status, .ofNat offset, .ofNat value, .ofNat mask⟩

/-- Why a byte string of the given length holds no record. -/
def truncatedRecord (length : Nat) : String :=
  s!"register op record truncated: {length} < {recordSize} bytes"

/-- A written record is read back, whatever lies behind it. -/
theorem ofRecord?_toRecord_append (op : RegOp) (r : List UInt8) :
    ofRecord? (op.toRecord ++ r) = some op := by
  have h₁ := op.code.toNat_lt
  have h₂ := op.status.toNat_lt
  have h₃ := op.offset.toNat_lt
  have h₄ := op.value.toNat_lt
  have h₅ := op.mask.toNat_lt
  simp only [ofRecord?, toRecord, List.append_assoc, field?_append, Option.bind_eq_bind,
    Option.bind_some]
  simp only [Option.pure_def, Option.some.injEq]
  simp only [range]
  rw [Nat.mod_eq_of_lt (by omega), Nat.mod_eq_of_lt (by omega), Nat.mod_eq_of_lt (by omega),
    Nat.mod_eq_of_lt (by omega), Nat.mod_eq_of_lt (by omega)]
  simp

/-- A whole record can be read, whatever lies behind it. -/
theorem ofRecord?_of_le {bs : List UInt8} (h : recordSize ≤ bs.length) :
    ∃ op, ∀ r, ofRecord? (bs ++ r) = some op := by
  simp only [recordSize] at h
  -- The six fields end where the record ends, so none of them reaches into the rest.
  apply Exists.intro
  intro r
  simp (disch := grind) only [ofRecord?, field?_append_of_le,
    Option.bind_eq_bind, Option.bind_some, Option.pure_def]
  exact rfl

/-! ## Lists of records -/

/-- The records of a list of operations, one behind the other. -/
def toRecords (ops : List RegOp) : List UInt8 :=
  ops.flatMap toRecord

/-- The operations of the whole records in a byte string; a partial record at the end is left out.
-/
def ofRecords (bs : List UInt8) : List RegOp :=
  if bs.length < recordSize then [] else (ofRecord? bs).toList ++ ofRecords (bs.drop recordSize)
termination_by bs.length
decreasing_by
  simp only [List.length_drop, recordSize] at *
  omega

theorem ofRecords_of_short {bs : List UInt8} (h : bs.length < recordSize) : ofRecords bs = [] := by
  rw [ofRecords, if_pos h]

/-- The first record of a byte string stands for the first operation. -/
theorem ofRecords_toRecord_append (op : RegOp) (r : List UInt8) :
    ofRecords (op.toRecord ++ r) = op :: ofRecords r := by
  have hd : (op.toRecord ++ r).drop recordSize = r := List.drop_left' (length_toRecord op)
  rw [ofRecords, if_neg (by simp), ofRecord?_toRecord_append, hd]
  rfl

@[simp] theorem ofRecords_nil : ofRecords [] = [] :=
  ofRecords_of_short (by decide)

/-- Written records are read back, whatever lies behind them. -/
theorem ofRecords_toRecords_append (ops : List RegOp) (r : List UInt8) :
    ofRecords (toRecords ops ++ r) = ops ++ ofRecords r := by
  induction ops with
  | nil => rfl
  | cons op ops ih =>
    rw [toRecords, List.flatMap_cons, List.append_assoc, ofRecords_toRecord_append, ← toRecords, ih]
    rfl

theorem ofRecords_toRecords (ops : List RegOp) : ofRecords (toRecords ops) = ops := by
  have h := ofRecords_toRecords_append ops []
  rw [List.append_nil, ofRecords_nil, List.append_nil] at h
  exact h

/-- So many whole records can be read, whatever lies behind them. -/
theorem ofRecords_of_length {n : Nat} {bs : List UInt8} (h : bs.length = recordSize * n) :
    ∃ ops, ops.length = n ∧ ∀ r, ofRecords (bs ++ r) = ops ++ ofRecords r := by
  induction n generalizing bs with
  | zero =>
    rw [List.eq_nil_of_length_eq_zero h]
    exact ⟨[], rfl, fun _ => rfl⟩
  | succ n ih =>
    have hl : recordSize ≤ bs.length := by
      rw [h, Nat.mul_succ]
      omega
    obtain ⟨op, hop⟩ := ofRecord?_of_le hl
    have hd : (bs.drop recordSize).length = recordSize * n := by
      rw [List.length_drop, h, Nat.mul_succ]
      omega
    obtain ⟨ops, hn, hops⟩ := ih hd
    refine ⟨op :: ops, by rw [List.length_cons, hn], fun r => ?_⟩
    rw [ofRecords, if_neg (by rw [List.length_append]; omega), hop r,
      List.drop_append_of_le_length hl, hops r]
    rfl

theorem length_ofRecords {n : Nat} {bs : List UInt8} (h : bs.length = recordSize * n) :
    (ofRecords bs).length = n := by
  obtain ⟨ops, hn, hops⟩ := ofRecords_of_length h
  have hb := hops []
  rw [List.append_nil, ofRecords_nil, List.append_nil] at hb
  rw [hb, hn]

/-- A partial record at the end does not count. -/
theorem length_ofRecords_eq_div (bs : List UInt8) :
    (ofRecords bs).length = bs.length / recordSize := by
  have hwhole : (bs.take (recordSize * (bs.length / recordSize))).length
      = recordSize * (bs.length / recordSize) := by
    simp only [List.length_take, recordSize]
    omega
  have hrest : (bs.drop (recordSize * (bs.length / recordSize))).length < recordSize := by
    simp only [List.length_drop, recordSize]
    omega
  obtain ⟨ops, hn, hops⟩ := ofRecords_of_length hwhole
  have hb := hops (bs.drop (recordSize * (bs.length / recordSize)))
  rw [List.take_append_drop, ofRecords_of_short hrest, List.append_nil] at hb
  rw [hb, hn]

/-- Records that stand one behind the other are read one after the other. -/
theorem ofRecords_append {n : Nat} {bs : List UInt8} (h : bs.length = recordSize * n)
    (r : List UInt8) : ofRecords (bs ++ r) = ofRecords bs ++ ofRecords r := by
  obtain ⟨ops, -, hops⟩ := ofRecords_of_length h
  have hb := hops []
  rw [List.append_nil, ofRecords_nil, List.append_nil] at hb
  rw [hops r, hb]

/-- The operations of the first `n` records, and those of the records behind them. -/
theorem split_ofRecords {n : Nat} {bs : List UInt8} (h : recordSize * n ≤ bs.length) :
    (ofRecords bs).take n = ofRecords (bs.take (recordSize * n)) ∧
      (ofRecords bs).drop n = ofRecords (bs.drop (recordSize * n)) := by
  have hlen : (bs.take (recordSize * n)).length = recordSize * n := List.length_take_of_le h
  have hsplit := ofRecords_append hlen (bs.drop (recordSize * n))
  rw [List.take_append_drop] at hsplit
  rw [hsplit, List.take_left' (length_ofRecords hlen), List.drop_left' (length_ofRecords hlen)]
  exact ⟨rfl, rfl⟩

theorem toRecords_append (xs ys : List RegOp) :
    toRecords (xs ++ ys) = toRecords xs ++ toRecords ys :=
  List.flatMap_append

theorem length_toRecords (ops : List RegOp) : (toRecords ops).length = recordSize * ops.length := by
  induction ops with
  | nil => rfl
  | cons op ops ih =>
    rw [toRecords, List.flatMap_cons, List.length_append, length_toRecord, ← toRecords, ih,
      List.length_cons, Nat.mul_succ, Nat.add_comm]

end Perfmon.RegOp
