import Perfmon.Decimal
import Perfmon.Text.Number
import Perfmon.Toml
/-!
# Plain values

The values that are written without quotes and brackets: integers, floating-point numbers, truth
values, dates and times. Digits may be grouped by underscores, one between two digits at a time.
-/

namespace Perfmon.Toml.Scalar

/-! ## Digits -/

/-- The digits of a grouped number behind a digit. -/
def ungroupRest (isDigit : Char → Bool) : List Char → Option (List Char)
  | [] => some []
  | '_' :: c :: r => if isDigit c then (ungroupRest isDigit r).map (c :: ·) else none
  | c :: r => if isDigit c then (ungroupRest isDigit r).map (c :: ·) else none

/-- The digits of a grouped number: at least one, and no underscore but between two of them. -/
def ungroup (isDigit : Char → Bool) : List Char → Option (List Char)
  | [] => none
  | c :: r => if isDigit c then (ungroupRest isDigit r).map (c :: ·) else none

/-- A sign at the front: whether it is a minus, and the rest. -/
def splitSign : List Char → Bool × List Char
  | '-' :: r => (true, r)
  | '+' :: r => (false, r)
  | r => (false, r)

/-- The number that digits of a base stand for. -/
def ofDigits (base : Nat) (ds : List Char) : Nat :=
  (Text.readDigits? base 0 ds).getD 0

/-- The digits of a decimal integer without its sign. It has no leading zero. -/
def decimalDigits (cs : List Char) : Option (List Char) :=
  match ungroup Char.isDigit cs with
  | some ds => if ds.head? = some '0' ∧ cs.length ≠ 1 then none else some ds
  | none => none

/-! ## Integers -/

/-- The base that a prefixed integer is written in, and what stands behind the prefix. -/
def splitBase : List Char → Option (Nat × List Char)
  | '0' :: 'x' :: r => some (16, r)
  | '0' :: 'o' :: r => some (8, r)
  | '0' :: 'b' :: r => some (2, r)
  | _ => none

/-- An integer of 64 bits. -/
def inRange (n : Int) : Option Value :=
  if Int64.minValue.toInt ≤ n ∧ n ≤ Int64.maxValue.toInt then some (.integer n) else none

/-- An integer: with a prefix and no sign, or decimal. -/
def integer? (cs : List Char) : Option Value :=
  match splitBase cs with
  | some (base, r) =>
    (ungroup (fun c => (Text.digit? base c).isSome) r).bind fun ds => inRange (ofDigits base ds)
  | none =>
    let (negative, r) := splitSign cs
    (decimalDigits r).bind fun ds =>
      inRange (if negative then -(ofDigits 10 ds : Int) else ofDigits 10 ds)

/-! ## Floating-point numbers -/

/-- A text up to a character, and what stands behind that one if it is there. -/
def splitAt (p : Char → Bool) (cs : List Char) : List Char × Option (List Char) :=
  match cs.dropWhile (!p ·) with
  | _ :: r => (cs.takeWhile (!p ·), some r)
  | [] => (cs, none)

/-- The exponent of a number: none written is zero. -/
def exponent? : Option (List Char) → Option Int
  | none => some 0
  | some cs =>
    let (negative, r) := splitSign cs
    (ungroup Char.isDigit r).map fun ds =>
      if negative then -(ofDigits 10 ds : Int) else ofDigits 10 ds

/-- The digits of a fraction: none written has none. -/
def fraction? : Option (List Char) → Option (List Char)
  | none => some []
  | some cs => ungroup Char.isDigit cs

/-- A floating-point number. It has a fraction, an exponent or both, or it is one of the special
ones; a positive one must not be too large for a double. -/
def float? (cs : List Char) : Option Value :=
  let (negative, unsigned) := splitSign cs
  if unsigned = ['i', 'n', 'f'] ∨ unsigned = ['n', 'a', 'n'] then some .float
  else
    let (mantissa, exponent) := splitAt (fun c => c == 'e' || c == 'E') unsigned
    let (whole, fraction) := splitAt (· == '.') mantissa
    if exponent = none ∧ fraction = none then none
    else do
      let whole ← decimalDigits whole
      let fraction ← fraction? fraction
      let exponent ← exponent? exponent
      if negative || Decimal.isFinite (ofDigits 10 (whole ++ fraction)) (exponent - fraction.length)
      then some .float
      else none

/-! ## Dates and times -/

/-- A number of exactly so many digits between two bounds. -/
def fixed? (digits low high : Nat) (cs : List Char) : Option Nat :=
  if cs.length = digits ∧ cs.all Char.isDigit then
    let n := ofDigits 10 cs
    if low ≤ n ∧ n ≤ high then some n else none
  else none

/-- The number of days of a month. -/
def daysOf (year month : Nat) : Nat :=
  if month = 2 then
    if year % 4 = 0 ∧ (year % 100 ≠ 0 ∨ year % 400 = 0) then 29 else 28
  else if month = 4 ∨ month = 6 ∨ month = 9 ∨ month = 11 then 30
  else 31

/-- Whether a text is a date: year, month and day. -/
def isDate (cs : List Char) : Bool :=
  match fixed? 4 0 9999 (cs.take 4), fixed? 2 1 12 ((cs.drop 5).take 2) with
  | some year, some month =>
    (cs.drop 4).head? == some '-' && (cs.drop 7).head? == some '-' &&
      (fixed? 2 1 (daysOf year month) (cs.drop 8)).isSome
  | _, _ => false

/-- Whether a text is an hour and a minute. -/
def isHourMinute (cs : List Char) : Bool :=
  (fixed? 2 0 23 (cs.take 2)).isSome && (cs.drop 2).head? == some ':' &&
    (fixed? 2 0 59 (cs.drop 3)).isSome

/-- Whether a text is a fraction of a second, or nothing. -/
def isSecondFraction : List Char → Bool
  | [] => true
  | '.' :: r => !r.isEmpty && r.all Char.isDigit
  | _ => false

/-- Whether a text is a time of day. A second may be a leap second. -/
def isTime (cs : List Char) : Bool :=
  isHourMinute (cs.take 5) && (cs.drop 5).head? == some ':' &&
    (fixed? 2 0 60 ((cs.drop 6).take 2)).isSome && isSecondFraction (cs.drop 8)

/-- Whether a text is a time of day, with or without the offset of its zone. -/
def isZonedTime (cs : List Char) : Bool :=
  match splitAt (fun c => c == 'Z' || c == 'z' || c == '+' || c == '-') cs with
  | (_, none) => isTime cs
  | (time, some zone) =>
    isTime time &&
      match (cs.drop time.length).head? with
      | some '+' | some '-' => isHourMinute zone
      | _ => zone.isEmpty

/-- Whether a character may stand between a date and a time. -/
def isDelimiter (c : Char) : Bool :=
  c == 'T' || c == 't' || c == ' '

/-- A date, a time of day, or both. -/
def datetime? (cs : List Char) : Option Value :=
  let dated :=
    isDate (cs.take 10) &&
      match cs.drop 10 with
      | [] => true
      | c :: time => isDelimiter c && isZonedTime time
  if dated || isTime cs then some .datetime else none

/-! ## All of them -/

/-- The plain value that a text stands for. -/
def ofChars? (cs : List Char) : Option Value :=
  if cs = ['t', 'r', 'u', 'e'] then some (.boolean true)
  else if cs = ['f', 'a', 'l', 's', 'e'] then some (.boolean false)
  else datetime? cs <|> float? cs <|> integer? cs

end Perfmon.Toml.Scalar
