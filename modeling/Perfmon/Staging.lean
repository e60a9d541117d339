import Perfmon.Device.Op
import Perfmon.Error
/-!
# Staging memory

The fixed memory of a session through which the windows of a batch pass: one half in the callers'
form, one in the device's. A window takes the front of both halves; what lies behind it is left from
earlier windows and never looked at.

How much memory can be had is not up to the engine. All that is known of it is that no piece of
memory is larger than half of what can be addressed (`Memory.limit_le`).
-/

namespace Perfmon

/-- Writes a list over the front of another one, whose length stays as it is. -/
def overlay {α : Type} : List α → List α → List α
  | a :: new, _ :: old => a :: overlay new old
  | _, old => old

@[simp] theorem length_overlay {α : Type} (new old : List α) :
    (overlay new old).length = old.length := by
  fun_induction overlay new old <;> simp_all

/-- What is written over the front of a list, and what is left of it. -/
theorem overlay_eq {α : Type} (new old : List α) :
    overlay new old = new.take old.length ++ old.drop new.length := by
  fun_induction overlay new old with
  | case1 a new b old ih => simp [ih]
  | case2 new old hn =>
    cases new with
    | nil => simp
    | cons a new =>
      cases old with
      | nil => simp
      | cons b old => exact absurd rfl (hn a new b old rfl)

/-- As much of a list is found at the front as there is room for. -/
theorem take_overlay_of_le {α : Type} {new old : List α} {n : Nat} (hn : n ≤ new.length)
    (ho : n ≤ old.length) : (overlay new old).take n = new.take n := by
  rw [overlay_eq, List.take_append_of_le_length, List.take_take, Nat.min_eq_left ho]
  rw [List.length_take]
  exact Nat.le_min.mpr ⟨ho, hn⟩

/-- A list that fits is found at the front again. -/
theorem take_overlay {α : Type} {new old : List α} (h : new.length ≤ old.length) :
    (overlay new old).take new.length = new := by
  rw [take_overlay_of_le (Nat.le_refl _) h, List.take_length]

/-- What is read from the front of a memory that was written over. -/
theorem mem_take_overlay {α : Type} {a : α} {new old : List α} {n : Nat} (h : n ≤ new.length)
    (ha : a ∈ (overlay new old).take n) : a ∈ new := by
  rw [overlay_eq] at ha
  by_cases hl : new.length ≤ old.length
  · rw [List.take_of_length_le hl, List.take_append_of_le_length h] at ha
    exact List.mem_of_mem_take ha
  · rw [List.drop_of_length_le (Nat.le_of_not_le hl), List.append_nil] at ha
    exact List.mem_of_mem_take (List.mem_of_mem_take ha)

/-- Memory with callers' operations put over its front, in the device's form. -/
def putDevice (cls : AccessClass) (ops : List RegOp) (memory : List DeviceOp) : List DeviceOp :=
  overlay (ops.map (.ofRegOp cls)) memory

/-- Memory with operations of the device put over its front, in the callers' form. -/
def putCallers (ops : List DeviceOp) (memory : List RegOp) : List RegOp :=
  overlay (ops.map DeviceOp.toRegOp) memory

@[simp] theorem length_putDevice (cls : AccessClass) (ops : List RegOp) (memory : List DeviceOp) :
    (putDevice cls ops memory).length = memory.length :=
  length_overlay _ _

@[simp] theorem length_putCallers (ops : List DeviceOp) (memory : List RegOp) :
    (putCallers ops memory).length = memory.length :=
  length_overlay _ _

theorem take_putDevice {ops : List RegOp} {memory : List DeviceOp} {n : Nat}
    (hn : n ≤ ops.length) (hm : n ≤ memory.length) (cls : AccessClass) :
    (putDevice cls ops memory).take n = (ops.take n).map (.ofRegOp cls) := by
  rw [putDevice, take_overlay_of_le (by rwa [List.length_map]) hm, List.map_take]

theorem take_putCallers {ops : List DeviceOp} {memory : List RegOp} {n : Nat}
    (hn : n ≤ ops.length) (hm : n ≤ memory.length) :
    (putCallers ops memory).take n = (ops.take n).map DeviceOp.toRegOp := by
  rw [putCallers, take_overlay_of_le (by rwa [List.length_map]) hm, List.map_take]

/-- The largest size of a piece of memory, in bytes. -/
def largestPiece : Nat := 0x7fffffffffffffff

/-- The memory of a machine. -/
structure Memory where
  /-- The size of the largest piece that can be had, in bytes. -/
  limit : Nat
  limit_le : limit ≤ largestPiece

/-- Memory with pieces of up to four gibibytes. -/
def Memory.ordinary : Memory where
  limit := 0x100000000
  limit_le := by decide

/-- The staging memory of a session. -/
structure Staging where
  /-- The half in the callers' form. -/
  user : List RegOp
  /-- The half in the device's form. -/
  device : List DeviceOp
  deriving DecidableEq, Repr

namespace Staging

/-- The memory that is not there. -/
def empty : Staging :=
  ⟨[], []⟩

/-- How many operations fit. -/
def capacity (s : Staging) : Nat :=
  s.user.length

/-- The size of an operation in the device's form, in bytes. -/
def deviceOpSize : Nat := 36

/-- The size of an operation in the callers' form, in bytes. -/
def callerOpSize : Nat := 24

/-- Memory for so many operations, if both halves of it can be had. -/
def allocate (memory : Memory) (capacity : Nat) : Except Error Staging :=
  if memory.limit < capacity * callerOpSize then .error (.noMemory "register op copy window")
  else if memory.limit < capacity * deviceOpSize then
    .error (.noMemory "register op staging window")
  else .ok ⟨List.replicate capacity .blank, List.replicate capacity .blank⟩

/-- Whatever memory there is, a half that is too large for any piece cannot be had. -/
theorem allocate_of_vast (memory : Memory) {capacity : Nat}
    (h : largestPiece < capacity * callerOpSize) :
    allocate memory capacity = .error (.noMemory "register op copy window") :=
  if_pos (Nat.lt_of_le_of_lt memory.limit_le h)

/-- Puts a window in, in both forms. -/
def load (s : Staging) (cls : AccessClass) (ops : List RegOp) : Staging where
  user := overlay ops s.user
  device := putDevice cls ops s.device

/-- Puts back what the device made of a window. -/
def putBack (s : Staging) (ops : List DeviceOp) : Staging :=
  { s with device := overlay ops s.device }

/-- Brings the callers' form of the first `n` operations in line with the device's form. -/
def unload (s : Staging) (n : Nat) : Staging :=
  { s with user := putCallers (s.device.take n) s.user }

@[simp] theorem capacity_load (s : Staging) (cls : AccessClass) (ops : List RegOp) :
    (s.load cls ops).capacity = s.capacity := by
  simp [load, capacity]

@[simp] theorem capacity_putBack (s : Staging) (ops : List DeviceOp) :
    (s.putBack ops).capacity = s.capacity := rfl

@[simp] theorem capacity_unload (s : Staging) (n : Nat) : (s.unload n).capacity = s.capacity := by
  simp [unload, capacity]

end Staging

end Perfmon
