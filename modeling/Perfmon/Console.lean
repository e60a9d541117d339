import Perfmon.Cause
import Perfmon.RegOp
import Perfmon.Text.Hex
/-!
# The console

The lines that commands print. A line has a mark in front that says how it is meant; what went wrong
goes to the stream for errors, all else to the one for output. A batch is printed as a table with a
row for each operation.
-/

namespace Perfmon

/-- A line on the console. -/
inductive Line where
  /-- A line without a mark. -/
  | plain (text : String)
  /-- Something was done. -/
  | success (text : String)
  /-- Something is worth knowing. -/
  | note (text : String)
  /-- Something was refused, as it should be. -/
  | warning (text : String)
  /-- Something went wrong. -/
  | failure (text : String)
  deriving DecidableEq, Repr

namespace Line

/-- The line as it is printed. -/
def text : Line → String
  | .plain text => text
  | .success text => "✓ " ++ text
  | .note text => "ℹ " ++ text
  | .warning text => "⚠ " ++ text
  | .failure text => "✗ " ++ text

/-- Whether a line goes to the stream for errors. -/
def isFailure : Line → Bool
  | .failure _ => true
  | .plain _ | .success _ | .note _ | .warning _ => false

end Line

/-- What a command has come to: the lines that it has printed, and the causes of its failure if it
has failed. -/
structure CommandResult where
  /-- The lines, in their order. -/
  lines : List Line
  /-- Why the command has failed; none if it has not. -/
  failure : Option (List Cause)
  deriving DecidableEq, Repr

namespace CommandResult

/-- The texts that go to the stream for output. -/
def output (r : CommandResult) : List String :=
  (r.lines.filter (!·.isFailure)).map Line.text

/-- The texts that go to the stream for errors, without the causes of a failure. -/
def errors (r : CommandResult) : List String :=
  (r.lines.filter Line.isFailure).map Line.text

/-- The number that the command ends with. -/
def exitCode (r : CommandResult) : UInt32 :=
  if r.failure.isSome then 1 else 0

end CommandResult

/-! ## Tables of operations -/

namespace RegOp

/-- The cells of a row, each moved to the right of its column. -/
def row (index kind offset value status : String) : String :=
  "    " ++ " ".intercalate
    [Text.alignRight 4 index, Text.alignRight 6 kind, Text.alignRight 10 offset,
      Text.alignRight 18 value, Text.alignRight 14 status]

/-- The name of an operation's kind, or its code if that means nothing. -/
def kindText (op : RegOp) : String :=
  match op.kind? with
  | some k => k.label
  | none => "0x" ++ Text.hexPadded 2 op.code.toNat

/-- The row of an operation. -/
def toRow (index : Nat) (op : RegOp) : String :=
  row (toString index) op.kindText ("0x" ++ Text.hex op.offset.toNat)
    ("0x" ++ Text.hex op.value.toNat) (statusName op.status)

/-- The table of a batch. -/
def table (ops : List RegOp) : List String :=
  row "#" "OP" "OFFSET" "VALUE" "STATUS" :: ops.zipIdx.map fun (op, i) => op.toRow i

end RegOp

end Perfmon
