import Perfmon.Text.Blank
import Perfmon.Text.Number
/-!
# Numbers in scripts

A 64-bit number as a text: decimal, or hexadecimal behind `0x` or `0X`. White space around it does
not count, nor do underscores anywhere behind the prefix; one plus sign may stand in front of the
digits.
-/

namespace Perfmon.ScriptNumber

/-- Numbers are below this bound. -/
def bound : Nat := UInt64.size

/-- The base that a text is written in, and the text behind the mark of it. -/
def splitBase : List Char → Nat × List Char
  | '0' :: 'x' :: r => (16, r)
  | '0' :: 'X' :: r => (16, r)
  | r => (10, r)

/-- The number that a list of characters stands for. -/
def read? (cs : List Char) : Option Nat :=
  let (base, digits) := splitBase (Text.trim cs)
  Text.readUnsigned? base bound (digits.filter (· ≠ '_'))

/-- The number that a text stands for. -/
def ofString? (s : String) : Option UInt64 :=
  (read? s.toList).map .ofNat

end Perfmon.ScriptNumber
