import Perfmon.RegOp
import Perfmon.Scope
import Perfmon.Word
/-!
# Operations as the device takes them

The device takes a register operation with its code resolved, its value and mask in halves, and an
access class, which says whether the live registers or the image of a context is meant. `ofRegOp`
and `toRegOp` pass between this form and the callers' form. They lose nothing but two things that
only one side has: a status that is none of the six defined ones becomes success, and the class and
the unit masks do not come back.
-/

namespace Perfmon

/-- Which registers an operation is meant for. -/
inductive AccessClass where
  /-- The live registers of the device. -/
  | global
  /-- The image of the context that is bound. -/
  | grContext
  deriving DecidableEq, Repr

namespace AccessClass

/-- The name of a class. -/
def label : AccessClass → String
  | .global => "global"
  | .grContext => "gr_context"

/-- The class of every operation of a session. Only a device session that is bound to no context
works on the live registers. -/
def ofSession (scope : Scope) (contextBound : Bool) : AccessClass :=
  match scope, contextBound with
  | .device, false => .global
  | _, _ => .grContext

end AccessClass

/-- The outcome of one operation on the device. -/
inductive DeviceStatus where
  | success
  | invalidOp
  | invalidType
  | invalidOffset
  | unsupportedOp
  | invalidMask
  deriving DecidableEq, Repr

namespace DeviceStatus

/-- The status byte of an outcome. -/
def toByte : DeviceStatus → UInt8
  | .success => RegOp.success
  | .invalidOp => RegOp.invalidOp
  | .invalidType => RegOp.invalidType
  | .invalidOffset => RegOp.invalidOffset
  | .unsupportedOp => RegOp.unsupportedOp
  | .invalidMask => RegOp.invalidMask

/-- The outcome that a status byte stands for; a byte without a meaning stands for success. -/
def ofByte (b : UInt8) : DeviceStatus :=
  if b = RegOp.invalidOp then .invalidOp
  else if b = RegOp.invalidType then .invalidType
  else if b = RegOp.invalidOffset then .invalidOffset
  else if b = RegOp.unsupportedOp then .unsupportedOp
  else if b = RegOp.invalidMask then .invalidMask
  else .success

@[simp] theorem ofByte_toByte (s : DeviceStatus) : ofByte s.toByte = s := by
  cases s <;> rfl

/-- Every outcome. -/
def all : List DeviceStatus :=
  [.success, .invalidOp, .invalidType, .invalidOffset, .unsupportedOp, .invalidMask]

/-- The name of an outcome. -/
def label (s : DeviceStatus) : String :=
  RegOp.statusName s.toByte

end DeviceStatus

/-- A resolved operation code. -/
inductive DeviceCode where
  /-- A code with a meaning. -/
  | known (kind : RegOp.Kind)
  /-- A code without one. -/
  | invalid (code : UInt8)
  deriving DecidableEq, Repr

namespace DeviceCode

/-- The resolved form of a code. -/
def ofByte (c : UInt8) : DeviceCode :=
  match RegOp.Kind.ofCode? c with
  | some k => .known k
  | none => .invalid c

/-- The code that was resolved. -/
def toByte : DeviceCode → UInt8
  | .known k => k.code
  | .invalid c => c

@[simp] theorem ofByte_code (k : RegOp.Kind) : ofByte k.code = .known k := by
  simp [ofByte]

@[simp] theorem toByte_ofByte (c : UInt8) : (ofByte c).toByte = c := by
  unfold ofByte
  cases h : RegOp.Kind.ofCode? c with
  | none => rfl
  | some k => exact RegOp.Kind.code_of_ofCode? h

/-- The number of bytes that an operation accesses. -/
def width? : DeviceCode → Option Nat
  | .known .read32 | .known .write32 => some 4
  | .known .read64 | .known .write64 => some 8
  | .known .read08 | .known .write08 => some 1
  | .invalid _ => none

end DeviceCode

/-- A register operation in the form in which the device takes it. -/
structure DeviceOp where
  /-- The resolved code. -/
  code : DeviceCode
  /-- Which registers are meant. -/
  cls : AccessClass
  /-- The outcome. -/
  status : DeviceStatus
  /-- The unit that is meant; zero for all. -/
  quad : UInt32
  /-- The groups that are meant; zero for all. -/
  groupMask : UInt32
  /-- The subgroups that are meant; zero for all. -/
  subGroupMask : UInt32
  /-- The offset of the register. -/
  offset : UInt32
  /-- The low half of the value. -/
  valueLow : UInt32
  /-- The high half of the value. -/
  valueHigh : UInt32
  /-- The low half of the mask. -/
  maskLow : UInt32
  /-- The high half of the mask. -/
  maskHigh : UInt32
  deriving DecidableEq, Repr

namespace DeviceOp

/-- The operation that empty memory stands for: a read of live register zero. -/
def blank : DeviceOp :=
  ⟨.known .read32, .global, .success, 0, 0, 0, 0, 0, 0, 0, 0⟩

instance : Inhabited DeviceOp := ⟨blank⟩

/-- A caller's operation in the device's form. -/
def ofRegOp (cls : AccessClass) (op : RegOp) : DeviceOp where
  code := .ofByte op.code
  cls := cls
  status := .ofByte op.status
  quad := 0
  groupMask := 0
  subGroupMask := 0
  offset := op.offset
  valueLow := Word.low op.value
  valueHigh := Word.high op.value
  maskLow := Word.low op.mask
  maskHigh := Word.high op.mask

/-- An operation of the device in the callers' form. -/
def toRegOp (op : DeviceOp) : RegOp where
  code := op.code.toByte
  status := op.status.toByte
  offset := op.offset
  value := Word.join op.valueHigh op.valueLow
  mask := Word.join op.maskHigh op.maskLow

/-- The value as one word. -/
def value (op : DeviceOp) : UInt64 :=
  Word.join op.valueHigh op.valueLow

/-- The mask as one word. -/
def mask (op : DeviceOp) : UInt64 :=
  Word.join op.maskHigh op.maskLow

/-- Whether an operation was carried out. -/
def succeeded (op : DeviceOp) : Bool :=
  op.status == .success

end DeviceOp

end Perfmon
