import Perfmon.Error
import Perfmon.RegOp.Record
/-!
# Buffers of operations

The memory of a caller that holds the operations of a batch, either as a list or as raw records.
Windows are copied in and out by index. A copy that does not fit, or that touches operations which
cannot be read or written, fails before anything is copied.
-/

namespace Perfmon

/-- What a caller's memory holds. -/
inductive OpsMemory where
  /-- Operations. -/
  | list (ops : List RegOp)
  /-- Bytes, 24 for each operation; a partial record at the end is no operation. -/
  | records (raw : List UInt8)
  deriving DecidableEq, Repr

namespace OpsMemory

/-- How many operations there are. -/
def size : OpsMemory → Nat
  | .list ops => ops.length
  | .records raw => raw.length / RegOp.recordSize

/-- The operations as a list. -/
def toList : OpsMemory → List RegOp
  | .list ops => ops
  | .records raw => RegOp.ofRecords raw

/-- The operations from `start` on, `len` of them. -/
def slice (m : OpsMemory) (start len : Nat) : List RegOp :=
  match m with
  | .list ops => (ops.drop start).take len
  | .records raw =>
    RegOp.ofRecords ((raw.drop (RegOp.recordSize * start)).take (RegOp.recordSize * len))

/-- The memory with operations put in the place of those from `start` on. -/
def splice (m : OpsMemory) (start : Nat) (ops : List RegOp) : OpsMemory :=
  match m with
  | .list old => .list (old.take start ++ (ops ++ old.drop (start + ops.length)))
  | .records raw =>
    .records (raw.take (RegOp.recordSize * start) ++
      (RegOp.toRecords ops ++ raw.drop (RegOp.recordSize * (start + ops.length))))

/-- What stands behind the first `n` operations. -/
def behind (m : OpsMemory) (n : Nat) : OpsMemory :=
  match m with
  | .list ops => .list (ops.drop n)
  | .records raw => .records (raw.drop (RegOp.recordSize * n))

/-! ## Memory as a list -/

variable {m : OpsMemory} {done : List RegOp}

theorem length_toList (m : OpsMemory) : m.toList.length = m.size := by
  cases m with
  | list ops => rfl
  | records raw => exact RegOp.length_ofRecords_eq_div raw

/-- What a window holds is a piece of the list. -/
theorem slice_eq {start len : Nat} (h : start + len ≤ m.size) :
    m.slice start len = (m.toList.drop start).take len := by
  cases m with
  | list ops => rfl
  | records raw =>
    simp only [size, RegOp.recordSize] at h
    have hfront : RegOp.recordSize * start ≤ raw.length := by
      simp only [RegOp.recordSize]
      omega
    have hwin : RegOp.recordSize * len ≤ (raw.drop (RegOp.recordSize * start)).length := by
      simp only [List.length_drop, RegOp.recordSize]
      omega
    simp only [slice, toList]
    rw [(RegOp.split_ofRecords hfront).2, (RegOp.split_ofRecords hwin).1]

theorem slice_zero {n : Nat} (h : n ≤ m.size) : m.slice 0 n = m.toList.take n := by
  rw [slice_eq (by omega), List.drop_zero]

/-- What a window holds are the operations at its indices. -/
theorem mem_slice {start len : Nat} {op : RegOp} (h : start + len ≤ m.size) :
    op ∈ m.slice start len ↔ ∃ n, start ≤ n ∧ n < start + len ∧ m.toList[n]? = some op := by
  rw [slice_eq h, List.mem_iff_getElem?]
  constructor
  · rintro ⟨i, hi⟩
    rw [List.getElem?_take] at hi
    split at hi
    · rw [List.getElem?_drop] at hi
      exact ⟨start + i, by omega, by omega, hi⟩
    · cases hi
  · rintro ⟨n, hle, hlt, hn⟩
    refine ⟨n - start, ?_⟩
    rw [List.getElem?_take, if_pos (by omega), List.getElem?_drop, Nat.add_sub_cancel' hle]
    exact hn

/-- Putting operations into the memory is putting them into the list. -/
theorem toList_splice {start : Nat} {ops : List RegOp} (h : start + ops.length ≤ m.size) :
    (m.splice start ops).toList = ((OpsMemory.list m.toList).splice start ops).toList := by
  cases m with
  | list old => rfl
  | records raw =>
    simp only [size, RegOp.recordSize] at h
    have hpast : RegOp.recordSize * (start + ops.length) ≤ raw.length := by
      simp only [RegOp.recordSize]
      omega
    have hfront : RegOp.recordSize * start ≤ raw.length :=
      Nat.le_trans (Nat.mul_le_mul_left _ (Nat.le_add_right _ _)) hpast
    simp only [splice, toList]
    rw [RegOp.ofRecords_append (List.length_take_of_le hfront), RegOp.ofRecords_toRecords_append,
      (RegOp.split_ofRecords hfront).1, (RegOp.split_ofRecords hpast).2]

/-! ## Windows in a row -/

theorem length_slice {start len : Nat} (h : start + len ≤ m.size) :
    (m.slice start len).length = len := by
  cases m with
  | list ops =>
    simp only [size] at h
    simp only [slice, List.length_take, List.length_drop]
    omega
  | records raw =>
    simp only [size, RegOp.recordSize] at h
    refine RegOp.length_ofRecords ?_
    simp only [List.length_take, List.length_drop, RegOp.recordSize]
    omega

/-- What two windows in a row hold is what the one window over both of them holds. -/
theorem slice_append {p len : Nat} (h : p + len ≤ m.size) :
    m.slice 0 (p + len) = m.slice 0 p ++ m.slice p len := by
  cases m with
  | list ops => exact List.take_add
  | records raw =>
    simp only [size, RegOp.recordSize] at h
    simp only [slice, Nat.mul_zero, List.drop_zero]
    rw [Nat.mul_add, List.take_add]
    refine RegOp.ofRecords_append (n := p) ?_ _
    simp only [List.length_take, RegOp.recordSize]
    omega

theorem splice_nil (m : OpsMemory) (start : Nat) : m.splice start [] = m := by
  cases m with
  | list ops => simp [splice]
  | records raw => simp [splice, RegOp.toRecords]

/-- What was put at the front does not change what lies behind it. -/
theorem slice_splice (m : OpsMemory) (done : List RegOp) (len : Nat) :
    (m.splice 0 done).slice done.length len = m.slice done.length len := by
  cases m with
  | list ops => simp [splice, slice]
  | records raw =>
    have hd : ((RegOp.toRecords done) ++ raw.drop (RegOp.recordSize * done.length)).drop
        (RegOp.recordSize * done.length) = raw.drop (RegOp.recordSize * done.length) :=
      List.drop_left' (RegOp.length_toRecords done)
    simp only [splice, slice, Nat.mul_zero, List.take_zero, List.nil_append, Nat.zero_add]
    rw [hd]

theorem splice_splice (m : OpsMemory) (done new : List RegOp) :
    (m.splice 0 done).splice done.length new = m.splice 0 (done ++ new) := by
  cases m with
  | list ops =>
    simp [splice, List.drop_append]
  | records raw =>
    have ht : (RegOp.toRecords done ++ raw.drop (RegOp.recordSize * done.length)).take
        (RegOp.recordSize * done.length) = RegOp.toRecords done :=
      List.take_left' (RegOp.length_toRecords done)
    have hd : (RegOp.toRecords done ++ raw.drop (RegOp.recordSize * done.length)).drop
        (RegOp.recordSize * (done.length + new.length))
          = raw.drop (RegOp.recordSize * (done ++ new).length) := by
      rw [Nat.mul_add, ← List.drop_drop, List.drop_left' (RegOp.length_toRecords done),
        List.drop_drop, ← Nat.mul_add, List.length_append]
    simp only [splice, Nat.mul_zero, List.take_zero, List.nil_append, Nat.zero_add]
    rw [ht, hd, RegOp.toRecords_append, List.append_assoc]

/-- What was put at the front does not change what stands behind it. -/
theorem behind_splice (m : OpsMemory) (done : List RegOp) :
    (m.splice 0 done).behind done.length = m.behind done.length := by
  cases m with
  | list ops => simp [splice, behind]
  | records raw =>
    simp only [splice, behind, Nat.mul_zero, List.take_zero, List.nil_append, Nat.zero_add]
    rw [List.drop_left' (RegOp.length_toRecords done)]

theorem behind_behind (m : OpsMemory) (k n : Nat) : (m.behind k).behind n = m.behind (k + n) := by
  cases m with
  | list ops => simp only [behind, List.drop_drop]
  | records raw => simp only [behind, List.drop_drop, Nat.mul_add]

theorem size_splice (h : done.length ≤ m.size) : (m.splice 0 done).size = m.size := by
  cases m with
  | list ops =>
    simp only [size] at h
    simp only [splice, size, List.length_append, List.length_drop, List.length_take]
    omega
  | records raw =>
    simp only [size, RegOp.recordSize] at h
    simp only [splice, size, List.length_append, List.length_drop, List.length_take,
      RegOp.length_toRecords, RegOp.recordSize]
    congr 1
    omega

/-- What was put at the front is found there. -/
theorem take_splice_zero (h : done.length ≤ m.size) :
    (m.splice 0 done).toList.take done.length = done := by
  rw [toList_splice (by omega)]
  simp only [splice, toList, List.take_zero, List.nil_append]
  exact List.take_left

end OpsMemory

/-- The memory of a caller, and how far it can be accessed. -/
structure OpsBuffer where
  /-- What the memory holds. -/
  memory : OpsMemory
  /-- The index from which on operations cannot be read. -/
  unreadableFrom : Option Nat := none
  /-- The index from which on operations cannot be written. -/
  unwritableFrom : Option Nat := none
  deriving DecidableEq, Repr

namespace OpsBuffer

/-- The fault of an access to operations that a limit puts out of reach. -/
def injected? (limit : Option Nat) (start len : Nat) : Option Error :=
  match limit with
  | some k => if k < start + len then some (.transferFault (max k start) "injected") else none
  | none => none

/-- The fault of an access behind the end. -/
def outside (size start len : Nat) : Error :=
  .transferFault start s!"ops [{start}, {start + len}) outside caller buffer of {size} ops"

/-- Why an access to the operations from `start` on fails, if it does. -/
def accessFault? (m : OpsMemory) (limit : Option Nat) (start len : Nat) : Option Error :=
  match injected? limit start len with
  | some e => some e
  | none => if m.size < start + len then some (outside m.size start len) else none

/-- Reads `len` operations from `start` on. -/
def copyIn (b : OpsBuffer) (start len : Nat) : Except Error (List RegOp) :=
  match accessFault? b.memory b.unreadableFrom start len with
  | some e => .error e
  | none => .ok (b.memory.slice start len)

/-- Writes operations from `start` on. -/
def copyOut (b : OpsBuffer) (start : Nat) (ops : List RegOp) : Except Error OpsBuffer :=
  match accessFault? b.memory b.unwritableFrom start ops.length with
  | some e => .error e
  | none => .ok { b with memory := b.memory.splice start ops }

/-- Whether an access fails depends on the length of the memory only. -/
theorem accessFault?_congr {m m' : OpsMemory} (h : m'.size = m.size) {limit : Option Nat}
    {start len : Nat} : accessFault? m' limit start len = accessFault? m limit start len := by
  unfold accessFault?
  rw [h]

/-- An access that does not fail stays inside the memory. -/
theorem le_size_of_accessFault? {m : OpsMemory} {limit : Option Nat} {start len : Nat}
    (h : accessFault? m limit start len = none) : start + len ≤ m.size := by
  unfold accessFault? at h
  split at h
  · cases h
  · split at h
    · cases h
    · omega

/-- A window that was read stands inside the memory. -/
theorem le_size_of_copyIn {b : OpsBuffer} {start len : Nat} {ops : List RegOp}
    (h : b.copyIn start len = .ok ops) : start + len ≤ b.memory.size := by
  unfold copyIn at h
  split at h
  · cases h
  · rename_i hf
    exact le_size_of_accessFault? hf

theorem eq_of_copyOut {b b' : OpsBuffer} {start : Nat} {ops : List RegOp}
    (h : b.copyOut start ops = .ok b') :
    b' = { b with memory := b.memory.splice start ops } := by
  unfold copyOut at h
  split at h
  · cases h
  · exact (Except.ok.inj h).symm

/-- What an access fails with is a fault of the transfer. -/
theorem transferFault_of_accessFault? {m : OpsMemory} {limit : Option Nat} {start len : Nat}
    {err : Error} (h : accessFault? m limit start len = some err) :
    ∃ n reason, err = .transferFault n reason := by
  unfold accessFault? injected? at h
  grind [outside]

/-! ## Access without faults -/

/-- The memory has operations up to an index, and all of them can be read and written. -/
structure Holds (n : Nat) (b : OpsBuffer) : Prop where
  size : n ≤ b.memory.size
  readable : ∀ k, b.unreadableFrom = some k → n ≤ k
  writable : ∀ k, b.unwritableFrom = some k → n ≤ k

theorem Holds.mono {b : OpsBuffer} {m n : Nat} (h : b.Holds n) (hm : m ≤ n) : b.Holds m :=
  ⟨Nat.le_trans hm h.size, fun k hk => Nat.le_trans hm (h.readable k hk),
    fun k hk => Nat.le_trans hm (h.writable k hk)⟩

theorem Holds.of_unlimited {b : OpsBuffer} {n : Nat} (hu : b.unreadableFrom = none)
    (hw : b.unwritableFrom = none) (h : n ≤ b.memory.size) : b.Holds n := by
  refine ⟨h, fun k hk => ?_, fun k hk => ?_⟩
  · rw [hu] at hk
    cases hk
  · rw [hw] at hk
    cases hk

/-- An access below the limit and below the end does not fail. -/
theorem accessFault?_eq_none {m : OpsMemory} {limit : Option Nat} {start len : Nat}
    (hs : start + len ≤ m.size) (hl : ∀ k, limit = some k → start + len ≤ k) :
    accessFault? m limit start len = none := by
  have hi : injected? limit start len = none := by
    cases limit with
    | none => rfl
    | some k =>
      have hk := hl k rfl
      exact if_neg (by omega)
  unfold accessFault?
  rw [hi]
  exact if_neg (by omega)

theorem Holds.copyIn {b : OpsBuffer} {start len : Nat} (h : b.Holds (start + len)) :
    b.copyIn start len = .ok (b.memory.slice start len) := by
  rw [OpsBuffer.copyIn, accessFault?_eq_none h.size h.readable]

theorem Holds.copyOut {b : OpsBuffer} {start : Nat} {ops : List RegOp}
    (h : b.Holds (start + ops.length)) :
    b.copyOut start ops = .ok { b with memory := b.memory.splice start ops } := by
  rw [OpsBuffer.copyOut, accessFault?_eq_none h.size h.writable]

end OpsBuffer

end Perfmon
