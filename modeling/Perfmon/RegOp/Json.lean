import Perfmon.Json.Decode
import Perfmon.RegOp
/-!
# Register operations in JSON

An operation as a JSON record. Its code and its offset have to be there; the other fields are zero
when they are left out.
-/

namespace Perfmon.RegOp

/-- The names of the fields, in their order. -/
def fieldNames : List String :=
  ["op", "status", "offset", "value", "and_n_mask"]

/-- The operation that a JSON value stands for. -/
def ofJson? (j : Json) : Option RegOp := do
  let fields ← j.record? fieldNames
  let byte := Json.nat? UInt8.size
  let word := Json.nat? UInt64.size
  let code ← Json.required? fields "op" byte
  let status ← Json.optional? fields "status" byte 0
  let offset ← Json.required? fields "offset" (Json.nat? UInt32.size)
  let value ← Json.optional? fields "value" word 0
  let mask ← Json.optional? fields "and_n_mask" word 0
  return ⟨.ofNat code, .ofNat status, .ofNat offset, .ofNat value, .ofNat mask⟩

/-- An operation as a JSON value. -/
def toJson (op : RegOp) : Json :=
  .ofFields [("op", .ofNat op.code.toNat), ("status", .ofNat op.status.toNat),
    ("offset", .ofNat op.offset.toNat), ("value", .ofNat op.value.toNat),
    ("and_n_mask", .ofNat op.mask.toNat)]

end Perfmon.RegOp
