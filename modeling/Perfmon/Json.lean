import Perfmon.Decimal
/-!
# JSON values

A JSON value as it was written: the fields of an object in their order, with repetitions, and
numbers as integers or as digits with a power of ten, both of at most 64 bits. Two things that a
text can express have no value, and are kept apart so that a reader can decide whether they matter:
a string in which an escape stands for half of a surrogate pair (`none` instead of a text), and a
number whose magnitude no double reaches (`Json.Number.isFinite`). A value without either is
`sound`.
-/

namespace Perfmon

/-- A number, with as many of its digits as 64 bits hold. -/
inductive Json.Number where
  /-- An integer, written without fraction or exponent, that has lost no digit. -/
  | integer (n : Int)
  /-- The leading digits of any other number, times a power of ten, possibly below zero. -/
  | decimal (negative : Bool) (digits : Nat) (exponent : Int)
  deriving DecidableEq, Repr

/-- A JSON value. -/
inductive Json where
  | null
  | bool (b : Bool)
  | number (n : Json.Number)
  | string (text : Option String)
  | array (items : List Json)
  | object (fields : List (Option String × Json))
  deriving Repr

namespace Json

/-! ## Building values -/

/-- A natural number. -/
def ofNat (n : Nat) : Json :=
  .number (.integer n)

/-- A text. -/
def ofString (s : String) : Json :=
  .string (some s)

/-- An object. -/
def ofFields (fields : List (String × Json)) : Json :=
  .object (fields.map fun (k, v) => (some k, v))

/-! ## Soundness and depth -/

/-- Whether a number is an integer or, computed from its digits and its power of ten, a finite
double. -/
def Number.isFinite : Number → Bool
  | .integer _ => true
  | .decimal _ digits exponent => Decimal.productIsFinite digits exponent

mutual

/-- Whether every string is a text and every number is finite. -/
def sound : Json → Bool
  | .null | .bool _ => true
  | .number n => n.isFinite
  | .string text => text.isSome
  | .array items => soundItems items
  | .object fields => soundFields fields

/-- Whether every value of a list is sound. -/
def soundItems : List Json → Bool
  | [] => true
  | v :: vs => v.sound && soundItems vs

/-- Whether every name and every value of an object is sound. -/
def soundFields : List (Option String × Json) → Bool
  | [] => true
  | (k, v) :: fs => k.isSome && v.sound && soundFields fs

end

mutual

/-- How many arrays and objects are nested in each other. -/
def depth : Json → Nat
  | .null | .bool _ | .number _ | .string _ => 0
  | .array items => depthItems items + 1
  | .object fields => depthFields fields + 1

/-- The greatest depth of the values of a list. -/
def depthItems : List Json → Nat
  | [] => 0
  | v :: vs => max v.depth (depthItems vs)

/-- The greatest depth of the values of an object. -/
def depthFields : List (Option String × Json) → Nat
  | [] => 0
  | (_, v) :: fs => max v.depth (depthFields fs)

end

end Json

end Perfmon
