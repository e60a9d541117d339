import Perfmon.Assoc
import Perfmon.Device.Op
/-!
# Register files

The registers that operations work on: those of the device itself, or the image of them that is
saved and restored with a context. A register that was never written holds zero, and the only thing
that can be seen of a file is what is read from it (`read_write`).
-/

namespace Perfmon

/-- A file of 64-bit registers. -/
structure RegisterFile where
  /-- The registers that were written. -/
  written : Assoc UInt32 UInt64

namespace RegisterFile

/-- The file whose registers are all zero. -/
def zero : RegisterFile :=
  ⟨.empty⟩

instance : Inhabited RegisterFile := ⟨zero⟩

/-- The content of a register. -/
def read (f : RegisterFile) (offset : UInt32) : UInt64 :=
  (f.written.find? offset).getD 0

/-- The file with a register changed. -/
def write (f : RegisterFile) (offset : UInt32) (v : UInt64) : RegisterFile :=
  ⟨f.written.insert offset v⟩

@[simp] theorem read_zero (o : UInt32) : zero.read o = 0 := rfl

theorem read_write (f : RegisterFile) (o p : UInt32) (v : UInt64) :
    (f.write o v).read p = if p = o then v else f.read p := by
  unfold read write
  rw [Assoc.find?_insert]
  split <;> rfl

/-! ## One operation -/

/-- The low half of a register after a write of its low half. A mask of all ones replaces the half;
any other mask names the bits to clear before those of the value are set. -/
def mergeLow (old mask value : UInt32) : UInt32 :=
  if mask = 0xffffffff then value else (old &&& ~~~mask) ||| value

/-- A whole register after a write, by the same rule. -/
def merge (old mask value : UInt64) : UInt64 :=
  if mask = 0xffffffffffffffff then value else (old &&& ~~~mask) ||| value

/-- A mask of all ones is no exception to the rule. -/
theorem mergeLow_eq (old mask value : UInt32) :
    mergeLow old mask value = (old &&& ~~~mask) ||| value := by
  unfold mergeLow
  split
  · rename_i h
    rw [h, show ~~~(0xffffffff : UInt32) = 0 from by decide]
    simp
  · rfl

theorem merge_eq (old mask value : UInt64) :
    merge old mask value = (old &&& ~~~mask) ||| value := by
  unfold merge
  split
  · rename_i h
    rw [h, show ~~~(0xffffffffffffffff : UInt64) = 0 from by decide]
    simp
  · rfl

/-- Carries out an operation that may be carried out: the operation with what it read, and the
file. A read of a low half reads zero as its high half; a write of a low half keeps the high one. -/
def apply (f : RegisterFile) (op : DeviceOp) : DeviceOp × RegisterFile :=
  let old := f.read op.offset
  match op.code with
  | .known .read32 => ({ op with valueLow := Word.low old, valueHigh := 0 }, f)
  | .known .read64 => ({ op with valueLow := Word.low old, valueHigh := Word.high old }, f)
  | .known .write32 =>
    (op, f.write op.offset
      (Word.join (Word.high old) (mergeLow (Word.low old) op.maskLow op.valueLow)))
  | .known .write64 => (op, f.write op.offset (merge old op.mask op.value))
  | .known .read08 | .known .write08 | .invalid _ => (op, f)

end RegisterFile

end Perfmon
