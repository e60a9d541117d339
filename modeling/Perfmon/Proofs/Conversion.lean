import Perfmon.Staging
/-!
# Two forms of an operation

Operations are taken apart on their way to the device and put together on their way back. Nothing is
lost on the way there and back but a status without a meaning, which comes back as success
(`DeviceOp.toRegOp_ofRegOp`); and on the way back and there nothing at all, as long as an operation
has nothing that only the device knows of (`DeviceOp.Plain`, `DeviceOp.ofRegOp_toRegOp`).

Lists are converted into memory that is there already, and what does not fit is left out
(`putDevice_eq`, `putCallers_eq`). Staging memory is filled in this way, so a window that passes
through it unchanged comes out as it went in (`Staging.unload_load`).
-/

namespace Perfmon

/-! ## Operations -/

namespace RegOp

/-- The statuses with a meaning. -/
def statuses : List UInt8 :=
  [success, invalidOp, invalidType, invalidOffset, unsupportedOp, invalidMask]

/-- The operation, with success in the place of a status without a meaning. -/
def withKnownStatus (op : RegOp) : RegOp :=
  { op with status := if op.status ∈ statuses then op.status else success }

end RegOp

/-- A status byte stands for itself on the device, if it has a meaning. -/
theorem DeviceStatus.toByte_ofByte (b : UInt8) :
    (ofByte b).toByte = if b ∈ RegOp.statuses then b else RegOp.success := by
  by_cases h : b ∈ RegOp.statuses
  · rw [if_pos h]
    simp only [RegOp.statuses, List.mem_cons, List.not_mem_nil, or_false] at h
    rcases h with rfl | rfl | rfl | rfl | rfl | rfl <;> rfl
  · rw [if_neg h]
    simp only [RegOp.statuses, List.mem_cons, List.not_mem_nil, or_false, not_or] at h
    simp [ofByte, h, toByte]

/-- A code is resolved as one without a meaning only if it has none. -/
theorem DeviceCode.lt_of_ofByte_eq_invalid {c n : UInt8} (h : ofByte c = .invalid n) : 5 < n := by
  unfold ofByte at h
  split at h
  · cases h
  · rename_i hc
    cases h
    exact RegOp.Kind.ofCode?_eq_none_iff.mp hc

theorem DeviceCode.ofByte_toByte {c : DeviceCode} (h : ∀ n, c = .invalid n → 5 < n) :
    ofByte c.toByte = c := by
  cases c with
  | known k => exact ofByte_code k
  | invalid n =>
    have hn : RegOp.Kind.ofCode? n = none := RegOp.Kind.ofCode?_eq_none_iff.mpr (h n rfl)
    unfold ofByte toByte
    rw [hn]

namespace DeviceOp

/-- An operation of a class that has nothing that only the device knows of: it is meant for all
units, and a code without a meaning is none of those that have one. -/
structure Plain (cls : AccessClass) (op : DeviceOp) : Prop where
  cls : op.cls = cls
  quad : op.quad = 0
  groupMask : op.groupMask = 0
  subGroupMask : op.subGroupMask = 0
  code : ∀ n, op.code = .invalid n → 5 < n

/-- A caller's operation is plain on the device. -/
theorem plain_ofRegOp (cls : AccessClass) (op : RegOp) : (ofRegOp cls op).Plain cls :=
  ⟨rfl, rfl, rfl, rfl, fun _ => DeviceCode.lt_of_ofByte_eq_invalid⟩

/-- **There and back,** an operation is the same but for a status without a meaning. -/
theorem toRegOp_ofRegOp (cls : AccessClass) (op : RegOp) :
    (ofRegOp cls op).toRegOp = op.withKnownStatus := by
  simp only [toRegOp, ofRegOp, RegOp.withKnownStatus, DeviceCode.toByte_ofByte,
    DeviceStatus.toByte_ofByte, Word.join_high_low]

/-- **Back and there,** a plain operation is the same. -/
theorem ofRegOp_toRegOp {cls : AccessClass} {op : DeviceOp} (h : op.Plain cls) :
    ofRegOp cls op.toRegOp = op := by
  cases op
  obtain ⟨rfl, rfl, rfl, rfl, hc⟩ := h
  simp only [ofRegOp, toRegOp, DeviceCode.ofByte_toByte hc, DeviceStatus.ofByte_toByte,
    Word.low_join, Word.high_join]

end DeviceOp

/-! ## Lists -/

theorem putDevice_eq (cls : AccessClass) (ops : List RegOp) (memory : List DeviceOp) :
    putDevice cls ops memory
      = (ops.take memory.length).map (.ofRegOp cls) ++ memory.drop ops.length := by
  rw [putDevice, overlay_eq, List.map_take, List.length_map]

theorem putCallers_eq (ops : List DeviceOp) (memory : List RegOp) :
    putCallers ops memory
      = (ops.take memory.length).map DeviceOp.toRegOp ++ memory.drop ops.length := by
  rw [putCallers, overlay_eq, List.map_take, List.length_map]

/-- What was converted is plain, also when there was not room for all of it. -/
theorem plain_of_mem_putDevice {cls : AccessClass} {ops : List RegOp} {memory : List DeviceOp}
    {op : DeviceOp} (h : op ∈ (putDevice cls ops memory).take ops.length) : op.Plain cls := by
  have hlen : ops.length ≤ (ops.map (DeviceOp.ofRegOp cls)).length := by simp
  obtain ⟨x, -, rfl⟩ := List.mem_map.mp (mem_take_overlay hlen h)
  exact DeviceOp.plain_ofRegOp cls x

theorem there_and_back {cls : AccessClass} {ops : List RegOp} {there : List DeviceOp}
    {back : List RegOp} (ht : ops.length ≤ there.length) (hb : ops.length ≤ back.length) {n : Nat}
    (hn : ops.length ≤ n) :
    (putCallers ((putDevice cls ops there).take n) back).take ops.length
      = ops.map RegOp.withKnownStatus := by
  have hlen : ops.length ≤ ((putDevice cls ops there).take n).length := by
    rw [List.length_take, length_putDevice]
    exact Nat.le_min.mpr ⟨hn, ht⟩
  rw [take_putCallers hlen hb, List.take_take, Nat.min_eq_left hn,
    take_putDevice (Nat.le_refl _) ht, List.take_length, List.map_map]
  exact List.map_congr_left fun op _ => DeviceOp.toRegOp_ofRegOp cls op

theorem back_and_there {cls : AccessClass} {ops : List DeviceOp} {there : List DeviceOp}
    {back : List RegOp} (hp : ∀ op ∈ ops, op.Plain cls) (hb : ops.length ≤ back.length)
    (ht : ops.length ≤ there.length) {n : Nat} (hn : ops.length ≤ n) :
    (putDevice cls ((putCallers ops back).take n) there).take ops.length = ops := by
  have hlen : ops.length ≤ ((putCallers ops back).take n).length := by
    rw [List.length_take, length_putCallers]
    exact Nat.le_min.mpr ⟨hn, hb⟩
  rw [take_putDevice hlen ht, List.take_take, Nat.min_eq_left hn,
    take_putCallers (Nat.le_refl _) hb, List.take_length, List.map_map]
  exact (List.map_congr_left fun op hop => DeviceOp.ofRegOp_toRegOp (hp op hop)).trans
    (List.map_id ops)

/-- Staging memory is filled in this way, so a window that is put in and taken out again has come
through, and left what lies behind it alone. -/
theorem Staging.unload_load {s : Staging} {ops : List RegOp} (hu : ops.length ≤ s.user.length)
    (hd : ops.length ≤ s.device.length) (cls : AccessClass) :
    ((s.load cls ops).unload ops.length).user
      = ops.map RegOp.withKnownStatus ++ s.user.drop ops.length := by
  have hunload : ((s.load cls ops).unload ops.length).user
      = putCallers ((putDevice cls ops s.device).take ops.length) (overlay ops s.user) := rfl
  have hroom : ops.length ≤ (overlay ops s.user).length := by
    rw [length_overlay]
    exact hu
  have hwindow : (putDevice cls ops s.device).take ops.length = ops.map (.ofRegOp cls) := by
    rw [take_putDevice (Nat.le_refl _) hd, List.take_length]
  have hfront : (putCallers (ops.map (.ofRegOp cls)) (overlay ops s.user)).take ops.length
      = ops.map RegOp.withKnownStatus := by
    rw [← hwindow]
    exact there_and_back hd hroom (Nat.le_refl _)
  have hbehind : (putCallers (ops.map (.ofRegOp cls)) (overlay ops s.user)).drop ops.length
      = s.user.drop ops.length := by
    rw [putCallers_eq, List.take_of_length_le (by simpa using hu), List.length_map,
      List.drop_left' (by simp), overlay_eq, List.take_of_length_le hu, List.drop_left]
  rw [hunload, hwindow, ← hfront, ← hbehind, List.take_append_drop]

/-- **An operation survives its conversion.** As many operations are converted as there is room for,
and what lies behind them in memory is left alone. What the device gets is plain. There and back,
operations keep their codes, offsets, values and masks bit by bit, and those of their statuses that
have a meaning; back and there, plain operations are the same. -/
theorem operations_survive_conversion (cls : AccessClass) :
    (∀ ops memory, putDevice cls ops memory
      = (ops.take memory.length).map (.ofRegOp cls) ++ memory.drop ops.length) ∧
    (∀ ops memory, putCallers ops memory
      = (ops.take memory.length).map DeviceOp.toRegOp ++ memory.drop ops.length) ∧
    (∀ ops memory, ∀ op ∈ (putDevice cls ops memory).take ops.length, op.Plain cls) ∧
    (∀ (ops : List RegOp) there back n, ops.length ≤ there.length → ops.length ≤ back.length →
      ops.length ≤ n → (putCallers ((putDevice cls ops there).take n) back).take ops.length
        = ops.map RegOp.withKnownStatus) ∧
    (∀ (ops : List DeviceOp) there back n, (∀ op ∈ ops, op.Plain cls) →
      ops.length ≤ back.length → ops.length ≤ there.length → ops.length ≤ n →
      (putDevice cls ((putCallers ops back).take n) there).take ops.length = ops) :=
  ⟨putDevice_eq cls, putCallers_eq, fun _ _ _ => plain_of_mem_putDevice,
    fun _ _ _ _ ht hb hn => there_and_back ht hb hn,
    fun _ _ _ _ hp hb ht hn => back_and_there hp hb ht hn⟩

/-- Operations with an unknown code and with odd statuses, one of which has a meaning. -/
def oddlyMarked : List RegOp :=
  [⟨0x7f, 0x55, 0x419001, 0x8000000080000001, 0xffffffffffffffff⟩, ⟨3, 0x10, 0, 1, 0⟩]

theorem operations_survive_conversion_with_room_to_spare :
    (putCallers ((putDevice .grContext oddlyMarked (.replicate 3 .blank)).take 3)
      (.replicate 2 .blank)).take 2
      = [⟨0x7f, 0, 0x419001, 0x8000000080000001, 0xffffffffffffffff⟩, ⟨3, 0x10, 0, 1, 0⟩] ∧
    (putDevice .grContext ((putCallers [.ofRegOp .grContext (.read64 8)] [.blank]).take 1)
      [.blank]).take 1 = [.ofRegOp .grContext (.read64 8)] := by
  obtain ⟨-, -, -, hthere, hback⟩ := operations_survive_conversion .grContext
  constructor
  · exact hthere oddlyMarked (.replicate 3 .blank) (.replicate 2 .blank) 3 (by decide) (by decide)
      (by decide)
  · refine hback [.ofRegOp .grContext (.read64 8)] [.blank] [.blank] 1 ?_ (by decide) (by decide)
      (by decide)
    intro op hop
    rw [List.mem_singleton.mp hop]
    exact DeviceOp.plain_ofRegOp .grContext _

end Perfmon
