/-!
# Hexadecimal text

Numbers as lower-case hexadecimal digits, bare or filled up with zeros on the left.
-/

namespace Perfmon.Text

/-- The lower-case hexadecimal digits of a number, without leading zeros; zero is `0`. -/
def hex (n : Nat) : String :=
  String.ofList (Nat.toDigits 16 n)

/-- The hexadecimal digits of a number, filled up with zeros to at least `width` digits. -/
def hexPadded (width n : Nat) : String :=
  let ds := Nat.toDigits 16 n
  String.ofList (List.replicate (width - ds.length) '0' ++ ds)

/-- A text moved to the right of a column of the given width; a longer text is left as it is. -/
def alignRight (width : Nat) (s : String) : String :=
  String.ofList (List.replicate (width - s.length) ' ') ++ s

end Perfmon.Text
