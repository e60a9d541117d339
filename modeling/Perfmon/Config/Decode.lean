import Perfmon.Config
import Perfmon.Toml.Reader
/-!
# Configurations in TOML

A configuration is a table with a key for each limit and one for the device. Keys that are missing
have the values that nothing configures, and other keys do not count. The device is a table as well,
or an array of its flags in their order; what an array has behind the last flag does not count.
-/

namespace Perfmon

namespace Toml

/-- The fields of a record: those of a table, or the items of an array under the record's names. A
date is a record of which nothing is given. -/
def Value.record? (names : List String) : Value → Option (List (String × Value))
  | .table fields => some fields
  | .array items => some (names.zip items)
  | .datetime => some []
  | _ => none

/-- A truth value. -/
def Value.bool? : Value → Option Bool
  | .boolean b => some b
  | _ => none

/-- A natural number below a bound. -/
def Value.nat? (bound : Nat) : Value → Option Nat
  | .integer n => if 0 ≤ n ∧ n < bound then some n.toNat else none
  | _ => none

/-- The value of a field of a record, or another one if the field is missing. -/
def optional? {α : Type} (fields : List (String × Value)) (name : String)
    (read : Value → Option α) (default : α) : Option α :=
  match fields.lookup name with
  | some v => read v
  | none => some default

end Toml

/-- The capabilities that a TOML value stands for. -/
def Capabilities.ofToml? (v : Toml.Value) : Option Capabilities := do
  let fields ← v.record? ["profiler_device", "profiler_context", "smpc_global_mode"]
  let flag (name : String) := Toml.optional? fields name Toml.Value.bool?
  let default : Capabilities := {}
  return {
    profilerDevice := ← flag "profiler_device" default.profilerDevice
    profilerContext := ← flag "profiler_context" default.profilerContext
    smpcGlobalMode := ← flag "smpc_global_mode" default.smpcGlobalMode }

namespace Config

/-- The configuration that a document stands for, on top of what holds where it says nothing. -/
def ofToml? (default : Config) (v : Toml.Value) : Option Config := do
  let fields ← v.record? ["window_bytes", "max_reg_ops", "max_arg_size", "device"]
  let number (name : String) (bound : Nat) := Toml.optional? fields name (Toml.Value.nat? bound)
  return {
    windowBytes := ← number "window_bytes" sizeBound default.windowBytes
    maxRegOps := ← number "max_reg_ops" countBound default.maxRegOps
    maxArgSize := ← number "max_arg_size" sizeBound default.maxArgSize
    device := ← Toml.optional? fields "device" Capabilities.ofToml? default.device }

end Config

end Perfmon
