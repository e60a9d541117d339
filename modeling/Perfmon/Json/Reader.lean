import Perfmon.Json.Token
/-!
# Reading JSON

The value that a sequence of tokens stands for. The reader goes through the tokens one by one and
keeps the arrays and objects that have been opened on a stack, so it needs no recursion on the
value, and there is no limit to the nesting.
-/

namespace Perfmon.Json

/-- An array or an object that has been opened, with what has been read of it, the last first. -/
inductive Frame where
  /-- An array. -/
  | array (items : List Json)
  /-- An object, and the name of the field whose value is being read. -/
  | object (fields : List (Option String × Json)) (name : Option String)

/-- What the reader is waiting for. -/
inductive ReaderState where
  /-- A value. -/
  | value (stack : List Frame)
  /-- The first value of an array, or its end. -/
  | firstItem (stack : List Frame)
  /-- A name. -/
  | nextName (fields : List (Option String × Json)) (stack : List Frame)
  /-- The first name of an object, or its end. -/
  | firstName (stack : List Frame)
  /-- The colon behind a name. -/
  | colon (fields : List (Option String × Json)) (name : Option String) (stack : List Frame)
  /-- What comes behind a value. -/
  | behind (v : Json) (stack : List Frame)

namespace ReaderState

/-- A token where a value begins. -/
def beginValue (stack : List Frame) : Token → Option ReaderState
  | .null => some (.behind .null stack)
  | .bool b => some (.behind (.bool b) stack)
  | .number n => some (.behind (.number n) stack)
  | .string s => some (.behind (.string s) stack)
  | .openBracket => some (.firstItem stack)
  | .openBrace => some (.firstName stack)
  | _ => none

/-- A token behind a value. -/
def afterValue (v : Json) : List Frame → Token → Option ReaderState
  | .array items :: stack, .comma => some (.value (.array (v :: items) :: stack))
  | .array items :: stack, .closeBracket => some (.behind (.array (v :: items).reverse) stack)
  | .object fields name :: stack, .comma => some (.nextName ((name, v) :: fields) stack)
  | .object fields name :: stack, .closeBrace =>
    some (.behind (.object ((name, v) :: fields).reverse) stack)
  | _, _ => none

/-- The state behind a token; none if the token cannot come here. -/
def step : ReaderState → Token → Option ReaderState
  | .value stack, t => beginValue stack t
  | .firstItem stack, .closeBracket => some (.behind (.array []) stack)
  | .firstItem stack, t => beginValue (.array [] :: stack) t
  | .firstName stack, .closeBrace => some (.behind (.object []) stack)
  | .firstName stack, .string s => some (.colon [] s stack)
  | .nextName fields stack, .string s => some (.colon fields s stack)
  | .colon fields name stack, .colon => some (.value (.object fields name :: stack))
  | .behind v stack, t => afterValue v stack t
  | _, _ => none

end ReaderState

/-- The value that tokens stand for: exactly one, with nothing behind it. -/
def ofTokens? (ts : List Token) : Option Json :=
  match ts.foldlM ReaderState.step (.value []) with
  | some (.behind v []) => some v
  | _ => none

/-- The value that a text stands for. -/
def ofText? (text : String) : Option Json :=
  (Token.ofText text).bind ofTokens?

end Perfmon.Json
