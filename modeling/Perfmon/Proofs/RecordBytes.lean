import Mathlib.Data.List.Basic
import Perfmon.RegOp.Record
/-!
# Records as bytes

What can be said of operations and their records in both directions. Operations that are written are
read back as they were. Of bytes that are read, whatever they are, all that writing gives back
differently is the reserved bytes, which come back as zero, and a partial record at the end, which
does not come back (`records_and_operations`).

A byte string is gone through record by record; that reading one never fails on the way is part of
the statement, and `ofRecords`, which would pass over such a record, is not taken at its word
(`mapM_wholeRecords`).
-/

namespace Perfmon.RegOp

open LittleEndian

variable {op : RegOp} {bs cs : List UInt8}

/-! ## One record -/

/-- The record of an operation with something in its reserved bytes. -/
def recordWith (op : RegOp) (reserved : List UInt8) : List UInt8 :=
  (bytes 1 op.code.toNat ++ bytes 1 op.status.toNat) ++ (reserved ++
    (bytes 4 op.offset.toNat ++ (bytes 8 op.value.toNat ++ bytes 8 op.mask.toNat)))

theorem recordWith_zero (op : RegOp) : op.recordWith (bytes 2 0) = op.toRecord := by
  simp only [recordWith, toRecord, List.append_assoc]

theorem length_recordWith (op : RegOp) {reserved : List UInt8} (h : reserved.length = 2) :
    (op.recordWith reserved).length = recordSize := by
  simp [recordWith, recordSize, h]

/-- Whatever is read as an operation begins with its record, but for the reserved bytes. -/
theorem recordWith_of_ofRecord? (h : ofRecord? bs = some op) :
    ∃ reserved r, reserved.length = 2 ∧ bs = op.recordWith reserved ++ r := by
  unfold ofRecord? at h
  obtain ⟨code, bs, rfl, hcode, h⟩ := append_of_field?_bind h
  obtain ⟨status, bs, rfl, hstatus, h⟩ := append_of_field?_bind h
  obtain ⟨reserved, bs, rfl, -, h⟩ := append_of_field?_bind h
  obtain ⟨offset, bs, rfl, hoffset, h⟩ := append_of_field?_bind h
  obtain ⟨value, bs, rfl, hvalue, h⟩ := append_of_field?_bind h
  obtain ⟨mask, r, rfl, hmask, h⟩ := append_of_field?_bind h
  cases h
  refine ⟨bytes 2 reserved, r, length_bytes 2 reserved, ?_⟩
  simp only [recordWith, List.append_assoc]
  rw [UInt8.toNat_ofNat_of_lt' hcode, UInt8.toNat_ofNat_of_lt' hstatus,
    UInt32.toNat_ofNat_of_lt' hoffset, UInt64.toNat_ofNat_of_lt' hvalue,
    UInt64.toNat_ofNat_of_lt' hmask]

/-- Only a string that is too short holds no record. -/
theorem ofRecord?_eq_none_iff : ofRecord? bs = none ↔ bs.length < recordSize := by
  constructor
  · intro h
    refine Nat.lt_of_not_le fun hl => ?_
    obtain ⟨op, hop⟩ := ofRecord?_of_le hl
    have hr := hop []
    rw [List.append_nil, h] at hr
    cases hr
  · intro hl
    cases hop : ofRecord? bs with
    | none => rfl
    | some op =>
      obtain ⟨reserved, r, hr, rfl⟩ := recordWith_of_ofRecord? hop
      rw [List.length_append, length_recordWith op hr] at hl
      omega

/-- What lies behind the first record has no say. -/
theorem ofRecord?_take (bs : List UInt8) : ofRecord? (bs.take recordSize) = ofRecord? bs := by
  by_cases hl : bs.length < recordSize
  · rw [List.take_of_length_le (Nat.le_of_lt hl)]
  · have hlen : recordSize ≤ (bs.take recordSize).length :=
      Nat.le_of_eq (List.length_take_of_le (Nat.not_lt.mp hl)).symm
    obtain ⟨op, hop⟩ := ofRecord?_of_le hlen
    have hfront := hop []
    have hwhole := hop (bs.drop recordSize)
    rw [List.append_nil] at hfront
    rw [List.take_append_drop] at hwhole
    rw [hfront, hwhole]

/-! ## The reserved bytes -/

/-- Records one behind the other, with the reserved bytes set to zero, which are the third and the
fourth one of each. -/
def clearReserved (bs : List UInt8) : List UInt8 :=
  bs.mapIdx fun i b => if i % recordSize = 2 ∨ i % recordSize = 3 then 0 else b

/-- The bytes of a record, and those of what lies behind it. -/
theorem clearReserved_append (h : bs.length = recordSize) :
    clearReserved (bs ++ cs) = clearReserved bs ++ clearReserved cs := by
  simp only [clearReserved, List.mapIdx_append, h, Nat.add_mod_right]

theorem clearReserved_recordWith (op : RegOp) {reserved : List UInt8} (h : reserved.length = 2) :
    clearReserved (op.recordWith reserved) = op.toRecord := by
  rw [← recordWith_zero]
  obtain ⟨b₂, b₃, rfl⟩ := List.length_eq_two.mp h
  -- The fields stand in front of the two bytes and behind them, as one piece each.
  have hparts : ∀ front behind : List UInt8, front.length = 2 → behind.length = 20 →
      clearReserved (front ++ ([b₂, b₃] ++ behind)) = front ++ ([0, 0] ++ behind) := by
    intro front behind hf hb
    obtain ⟨b₀, b₁, rfl⟩ := List.length_eq_two.mp hf
    have hbehind : behind.mapIdx (fun i b =>
        if (i + 4) % recordSize = 2 ∨ (i + 4) % recordSize = 3 then 0 else b) = behind := by
      refine List.ext_getElem (by simp) fun i _ hi => ?_
      rw [List.getElem_mapIdx, if_neg]
      rw [recordSize, Nat.mod_eq_of_lt (by omega)]
      omega
    simpa [clearReserved, List.mapIdx_cons, recordSize] using hbehind
  exact hparts _ _ (by simp) (by simp)

/-- Writing back an operation that was read gives the record that was there, cleared. -/
theorem toRecord_of_ofRecord? (h : ofRecord? bs = some op) :
    op.toRecord = clearReserved (bs.take recordSize) := by
  obtain ⟨reserved, r, hr, rfl⟩ := recordWith_of_ofRecord? h
  rw [List.take_left' (length_recordWith op hr), clearReserved_recordWith op hr]

/-! ## Lists of records -/

/-- The whole records in a byte string, one after the other. -/
def wholeRecords (bs : List UInt8) : List (List UInt8) :=
  (List.range (bs.length / recordSize)).map fun i =>
    (bs.drop (recordSize * i)).take recordSize

/-- A string that holds a record begins with it, and goes on with the others. -/
theorem wholeRecords_of_le (h : recordSize ≤ bs.length) :
    wholeRecords bs = bs.take recordSize :: wholeRecords (bs.drop recordSize) := by
  have hcount : bs.length / recordSize = (bs.length - recordSize) / recordSize + 1 :=
    Nat.div_eq_sub_div (by decide) h
  unfold wholeRecords
  rw [hcount, List.range_succ_eq_map, List.map_cons, List.map_map, List.length_drop]
  simp only [Nat.mul_zero, List.drop_zero, List.drop_drop]
  congr 1
  refine List.map_congr_left fun i _ => ?_
  simp only [Function.comp, Nat.mul_succ, Nat.add_comm]

/-- **Every whole record can be read,** and what is read are the operations. -/
theorem mapM_wholeRecords (bs : List UInt8) :
    (wholeRecords bs).mapM ofRecord? = some (ofRecords bs) := by
  fun_induction ofRecords bs with
  | case1 bs h => simp [wholeRecords, Nat.div_eq_of_lt h]
  | case2 bs h ih =>
    have hle : recordSize ≤ bs.length := Nat.not_lt.mp h
    obtain ⟨op, hop⟩ := Option.ne_none_iff_exists'.mp (mt ofRecord?_eq_none_iff.mp h)
    rw [wholeRecords_of_le hle, List.mapM_cons, ofRecord?_take, hop, ih]
    rfl

/-- Writing back what was read from a byte string gives its whole records, cleared. -/
theorem toRecords_ofRecords (bs : List UInt8) : toRecords (ofRecords bs)
    = clearReserved (bs.take (recordSize * (bs.length / recordSize))) := by
  fun_induction ofRecords bs with
  | case1 bs h => simp [Nat.div_eq_of_lt h, toRecords, clearReserved]
  | case2 bs h ih =>
    have hle : recordSize ≤ bs.length := Nat.not_lt.mp h
    have hcount : recordSize * (bs.length / recordSize)
        = recordSize + recordSize * ((bs.drop recordSize).length / recordSize) := by
      rw [List.length_drop, Nat.div_eq_sub_div (by decide) hle, Nat.mul_succ, Nat.add_comm]
    obtain ⟨op, hop⟩ := Option.ne_none_iff_exists'.mp (mt ofRecord?_eq_none_iff.mp h)
    rw [hcount, List.take_add, clearReserved_append (List.length_take_of_le hle), ← ih,
      ← toRecord_of_ofRecord? hop, hop]
    rfl

/-- Twenty-five set bytes are a record, whose reserved bytes come back as zero, and one more. -/
example : toRecords (ofRecords (List.replicate 25 0xff))
    = [0xff, 0xff, 0, 0] ++ List.replicate 20 0xff := by
  rw [toRecords_ofRecords]
  decide

/-- **Records are operations, and operations records.** Operations are written as 24 bytes each, and
these are read back, record by record, as the operations that they were. Any bytes can be read, as
far as there are whole records, and writing back what was read gives the same bytes up to the end of
the last whole record, with zeros in the reserved bytes. A single record cannot be read exactly if
there are less than 24 bytes, and the bytes behind these have no say. -/
theorem records_and_operations :
    (∀ ops, (toRecords ops).length = recordSize * ops.length ∧
      (wholeRecords (toRecords ops)).mapM ofRecord? = some ops) ∧
    (∀ bs, ∃ ops, (wholeRecords bs).mapM ofRecord? = some ops ∧ ofRecords bs = ops ∧
      toRecords ops = clearReserved (bs.take (recordSize * (bs.length / recordSize)))) ∧
    (∀ bs, (ofRecord? bs = none ↔ bs.length < recordSize) ∧
      ofRecord? (bs.take recordSize) = ofRecord? bs) := by
  refine ⟨fun ops => ⟨length_toRecords ops, ?_⟩, fun bs => ?_, fun bs => ?_⟩
  · rw [mapM_wholeRecords, ofRecords_toRecords]
  · exact ⟨ofRecords bs, mapM_wholeRecords bs, rfl, toRecords_ofRecords bs⟩
  · exact ⟨ofRecord?_eq_none_iff, ofRecord?_take bs⟩

end Perfmon.RegOp
