import Perfmon.Json
/-!
# From JSON to the values of a program

How records and enumerations are written. A record is an object, or an array of its fields in their
order; an object may have other fields too, but none of the record's own twice, and an array has no
more items than the record has fields. An enumeration is the name of a case, as a string or as the
only field of an object.
-/

namespace Perfmon.Json

/-- The text of a string. -/
def text? : Json → Option String
  | .string s => s
  | _ => none

/-- A truth value. -/
def bool? : Json → Option Bool
  | .bool b => some b
  | _ => none

/-- An integer between two bounds, the lower one included. -/
def int? (low high : Int) : Json → Option Int
  | .number (.integer n) => if low ≤ n ∧ n < high then some n else none
  | _ => none

/-- A natural number below a bound. -/
def nat? (bound : Nat) (j : Json) : Option Nat :=
  (j.int? 0 bound).map Int.toNat

/-- A value that may be null. -/
def nullable? {α : Type} (read : Json → Option α) : Json → Option (Option α)
  | .null => some none
  | j => (read j).map some

/-- The items of an array. -/
def items? : Json → Option (List Json)
  | .array items => some items
  | _ => none

/-! ## Records -/

/-- The fields of a record as they were found, by name. -/
abbrev Fields := List (String × Json)

/-- The fields of an object whose names are texts. -/
def named? (fields : List (Option String × Json)) : Option Fields :=
  fields.mapM fun (k, v) => k.map (·, v)

/-- Whether no name of a record is given to two fields. -/
def distinct (names : List String) (fields : Fields) : Bool :=
  names.all fun name => fields.countP (·.1 == name) ≤ 1

/-- The fields of a record with the given names, from an object or from an array. -/
def record? (names : List String) : Json → Option Fields
  | .object fields =>
    match named? fields with
    | some fields => if distinct names fields then some fields else none
    | none => none
  | .array items => if items.length ≤ names.length then some (names.zip items) else none
  | _ => none

/-- A field that has to be there. -/
def required? {α : Type} (fields : Fields) (name : String) (read : Json → Option α) : Option α :=
  (fields.lookup name).bind read

/-- A field that may be left out. -/
def optional? {α : Type} (fields : Fields) (name : String) (read : Json → Option α) (default : α) :
    Option α :=
  match fields.lookup name with
  | some j => read j
  | none => some default

/-! ## Enumerations -/

/-- The case of an enumeration that has a name. What may stand behind the name in an object is for
the caller to say. -/
def case? {α : Type} (all : List α) (label : α → String) (allowed : Json → Bool) : Json → Option α
  | .string (some s) => all.find? (label · == s)
  | .object [(some s, v)] => if allowed v then all.find? (label · == s) else none
  | _ => none

/-- Whether a value is null. -/
def isNull : Json → Bool
  | .null => true
  | _ => false

/-- Whether a value is null or an empty object. -/
def isNothing : Json → Bool
  | .null | .object [] => true
  | _ => false

end Perfmon.Json
