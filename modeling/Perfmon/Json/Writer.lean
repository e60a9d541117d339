import Perfmon.Json
import Perfmon.Text.Hex
/-!
# Writing JSON

The compact text of a value: no white space, the fields of an object in their order, and escapes
only where the format asks for them. A string that is no text is written as an empty one.
-/

namespace Perfmon.Json

/-- A character of a string as it is written. -/
def escape (c : Char) : String :=
  match c with
  | '"' => "\\\""
  | '\\' => "\\\\"
  | '\n' => "\\n"
  | '\r' => "\\r"
  | '\t' => "\\t"
  | '\x08' => "\\b"
  | '\x0c' => "\\f"
  | c => if c.toNat < 0x20 then "\\u" ++ Text.hexPadded 4 c.toNat else c.toString

/-- A string with its quotes. -/
def quote (s : String) : String :=
  "\"" ++ String.join (s.toList.map escape) ++ "\""

/-- A number as it is written. -/
def Number.render : Number → String
  | .integer n => toString n
  | .decimal negative digits exponent =>
    (if negative then "-" else "") ++ toString digits ++ "e" ++ toString exponent

mutual

/-- The text of a value. -/
def render : Json → String
  | .null => "null"
  | .bool b => toString b
  | .number n => n.render
  | .string s => quote (s.getD "")
  | .array items => "[" ++ ",".intercalate (renderItems items) ++ "]"
  | .object fields => "\x7b" ++ ",".intercalate (renderFields fields) ++ "\x7d"

/-- The texts of the values of a list. -/
def renderItems : List Json → List String
  | [] => []
  | v :: vs => v.render :: renderItems vs

/-- The texts of the fields of an object. -/
def renderFields : List (Option String × Json) → List String
  | [] => []
  | (k, v) :: fs => (quote (k.getD "") ++ ":" ++ v.render) :: renderFields fs

end

end Perfmon.Json
