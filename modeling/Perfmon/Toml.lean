/-!
# TOML values

The values of a TOML document, as far as a configuration looks at them: of a floating-point number
and of a date it is known only that it is one.
-/

namespace Perfmon.Toml

/-- A value of a document. -/
inductive Value where
  | string (s : String)
  | integer (n : Int)
  | float
  | boolean (b : Bool)
  | datetime
  | array (items : List Value)
  | table (fields : List (String × Value))
  deriving Repr

/-- The value of a key of a table. -/
def Value.get? : Value → String → Option Value
  | .table fields, key => fields.lookup key
  | _, _ => none

end Perfmon.Toml
