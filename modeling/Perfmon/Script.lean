import Perfmon.Error
import Perfmon.RegOp
/-!
# Scripts

A script is a list of steps, each of them one operation of the engine, on a session that the script
names, together with the outcome that is expected of it.
-/

namespace Perfmon

/-- A register operation as a script has it. -/
structure ScriptOp where
  /-- What is done. -/
  kind : RegOp.Kind
  /-- The offset of the register, which need not be one. -/
  offset : UInt64
  /-- The value to write. -/
  value : UInt64
  /-- The mask of a write that changes some bits only. -/
  mask : Option UInt64
  deriving DecidableEq, Repr

/-- What a step does. -/
inductive ScriptAction where
  | createContext (fd : Descriptor)
  | destroyContext (fd : Descriptor)
  | openSession (session : String) (scope : Scope)
  | close (session : String)
  | bindContext (session : String) (fd : Option Descriptor)
  | unbindContext (session : String)
  | reserve (session : String) (resource : Resource) (contextSwitched : Bool)
  | release (session : String) (resource : Resource)
  | bindPm (session : String)
  | unbindPm (session : String)
  | info (session : String)
  | exec (session : String) (mode : ExecMode) (count : Option UInt32) (ops : List ScriptOp)
  deriving DecidableEq, Repr

/-- One step of a script. -/
structure ScriptStep where
  /-- What the step does. -/
  action : ScriptAction
  /-- The kind of error that is expected; none if the step is expected to succeed. -/
  expect : Option String
  deriving DecidableEq, Repr

/-- A script. -/
structure Script where
  /-- The steps, in their order. -/
  steps : List ScriptStep
  deriving DecidableEq, Repr

/-- What is wrong with an operation of a script. -/
inductive ScriptOpFault where
  /-- The offset is larger than any register's. -/
  | offsetTooLarge (offset : UInt64)
  /-- A read has a mask. -/
  | maskOnRead (kind : RegOp.Kind) (offset : UInt32)
  deriving DecidableEq, Repr

namespace ScriptOpFault

/-- The name of a kind as messages have it. -/
def kindName : RegOp.Kind → String
  | .read32 => "Read32"
  | .write32 => "Write32"
  | .read64 => "Read64"
  | .write64 => "Write64"
  | .read08 => "Read08"
  | .write08 => "Write08"

/-- The messages of a fault, the one that says most about the place first. -/
def messages : ScriptOpFault → List String
  | .offsetTooLarge offset =>
    ["offset 0x" ++ Text.hex offset.toNat ++ " does not fit in 32 bits",
      "number too large to fit in target type"]
  | .maskOnRead kind offset =>
    ["mask given for " ++ kindName kind ++ " at 0x" ++ Text.hex offset.toNat ++
      "; only writes take a mask"]

end ScriptOpFault

namespace ScriptOp

/-- The operation for the engine. Without a mask a write replaces its whole register. -/
def toRegOp (op : ScriptOp) : Except ScriptOpFault RegOp :=
  if UInt32.size ≤ op.offset.toNat then .error (.offsetTooLarge op.offset)
  else if op.mask.isSome && !op.kind.isWrite then
    .error (.maskOnRead op.kind op.offset.toUInt32)
  else .ok (.ofKind op.kind op.offset.toUInt32 op.value (op.mask.getD op.kind.plainMask))

end ScriptOp

end Perfmon
