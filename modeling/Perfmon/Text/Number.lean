/-!
# Unsigned numbers in text

Reading digits in a base up to 16. A number may have one plus sign in front; it has at least one
digit, nothing behind the digits, and a value below a bound. Letters are digits in either case.
-/

namespace Perfmon.Text

/-- The value of a digit: `0` to `9`, then letters of either case from ten on. -/
def digit? (base : Nat) (c : Char) : Option Nat :=
  let n :=
    if '0' ≤ c ∧ c ≤ '9' then c.toNat - '0'.toNat
    else if 'a' ≤ c ∧ c ≤ 'f' then c.toNat - 'a'.toNat + 10
    else if 'A' ≤ c ∧ c ≤ 'F' then c.toNat - 'A'.toNat + 10
    else base
  if n < base then some n else none

/-- The value of digits behind a number that has been read already. -/
def readDigits? (base : Nat) : (acc : Nat) → List Char → Option Nat
  | acc, [] => some acc
  | acc, c :: cs =>
    match digit? base c with
    | some d => readDigits? base (acc * base + d) cs
    | none => none

/-- The number below a bound that a text stands for. -/
def readUnsigned? (base bound : Nat) (cs : List Char) : Option Nat :=
  let digits :=
    match cs with
    | '+' :: r => r
    | _ => cs
  if digits.isEmpty then none
  else (readDigits? base 0 digits).filter (· < bound)

end Perfmon.Text
