import Perfmon.Json.Decode
import Perfmon.Json.Reader
import Perfmon.Script
import Perfmon.Script.Number
/-!
# Scripts in JSON

A script is a record with the list of its steps. A step is an object: `step` names what it does, or
gives its place in the list of all actions, `expect` is the expected outcome, and the other fields
are those of the action.

A step has to be sound as a whole, and nested less deep than `depthLimit`, also where it says things
that nobody asks for. Outside of the steps only what is asked for is looked at.
-/

namespace Perfmon

/-- The depth of nesting from which on a step is refused. -/
def ScriptStep.depthLimit : Nat := 126

/-! ## Operations -/

namespace ScriptOp

/-- The names of the fields, in their order. -/
def fieldNames : List String :=
  ["kind", "offset", "value", "mask"]

/-- A number, or a text that stands for one. -/
def number? : Json → Option UInt64
  | .string (some s) => ScriptNumber.ofString? s
  | j => (j.nat? ScriptNumber.bound).map .ofNat

/-- The operation that a JSON value stands for. -/
def ofJson? (allowed : Json → Bool) (j : Json) : Option ScriptOp := do
  let fields ← j.record? fieldNames
  let kind ← Json.required? fields "kind" (Json.case? RegOp.Kind.all RegOp.Kind.label allowed)
  let offset ← Json.required? fields "offset" number?
  let value ← Json.optional? fields "value" number? 0
  let mask ← Json.optional? fields "mask" (fun j => (number? j).map some) none
  return ⟨kind, offset, value, mask⟩

end ScriptOp

/-! ## Actions -/

namespace ScriptAction

/-- The names of the actions, in their order. -/
def names : List String :=
  ["create_context", "destroy_context", "open", "close", "bind_context", "unbind_context",
    "reserve", "release", "bind_pm", "unbind_pm", "info", "exec"]

/-- The name of an action. -/
def name : ScriptAction → String
  | .createContext _ => "create_context"
  | .destroyContext _ => "destroy_context"
  | .openSession _ _ => "open"
  | .close _ => "close"
  | .bindContext _ _ => "bind_context"
  | .unbindContext _ => "unbind_context"
  | .reserve _ _ _ => "reserve"
  | .release _ _ => "release"
  | .bindPm _ => "bind_pm"
  | .unbindPm _ => "unbind_pm"
  | .info _ => "info"
  | .exec _ _ _ _ => "exec"

/-- The name of an action as a step gives it: by itself, or by its place in the list. -/
def nameOfTag? : Json → Option String
  | .string (some s) => if s ∈ names then some s else none
  | j => (j.nat? names.length).bind fun i => names[i]?

/-- The names of the fields of an action. -/
def fieldNames : String → List String
  | "create_context" | "destroy_context" => ["fd"]
  | "open" => ["session", "scope"]
  | "bind_context" => ["session", "fd"]
  | "reserve" => ["session", "resource", "ctxsw"]
  | "release" => ["session", "resource"]
  | "exec" => ["session", "mode", "count", "ops"]
  | _ => ["session"]

/-- A descriptor. -/
def descriptor? (j : Json) : Option Descriptor :=
  (j.int? Int32.minValue.toInt (Int32.maxValue.toInt + 1)).map .ofInt

/-- The action of the given name with the given fields. -/
def ofFields? (name : String) (fields : Json.Fields) : Option ScriptAction := do
  let fd (_ : Unit) := Json.required? fields "fd" descriptor?
  let session (_ : Unit) := Json.required? fields "session" Json.text?
  let resource (_ : Unit) :=
    Json.required? fields "resource" (Json.case? Resource.all Resource.label Json.isNothing)
  match name with
  | "create_context" => return .createContext (← fd ())
  | "destroy_context" => return .destroyContext (← fd ())
  | "open" =>
    let scope ← Json.required? fields "scope" (Json.case? Scope.all Scope.label Json.isNothing)
    return .openSession (← session ()) scope
  | "close" => return .close (← session ())
  | "bind_context" =>
    let fd ← Json.optional? fields "fd" (Json.nullable? descriptor?) none
    return .bindContext (← session ()) fd
  | "unbind_context" => return .unbindContext (← session ())
  | "reserve" =>
    let contextSwitched ← Json.optional? fields "ctxsw" Json.bool? false
    return .reserve (← session ()) (← resource ()) contextSwitched
  | "release" => return .release (← session ()) (← resource ())
  | "bind_pm" => return .bindPm (← session ())
  | "unbind_pm" => return .unbindPm (← session ())
  | "info" => return .info (← session ())
  | "exec" =>
    let mode ← Json.optional? fields "mode"
      (Json.case? ExecMode.all ExecMode.label Json.isNothing) .allOrNone
    let count ← Json.optional? fields "count" (Json.nullable? (Json.nat? UInt32.size)) none
    let ops ← Json.required? fields "ops" fun j =>
      j.items?.bind (·.mapM (ScriptOp.ofJson? Json.isNothing))
    return .exec (← session ()) mode (count.map .ofNat) ops
  | _ => none

end ScriptAction

/-! ## Steps and scripts -/

namespace ScriptStep

/-- The step that a JSON value stands for. -/
def ofJson? (j : Json) : Option ScriptStep :=
  match j with
  | .object fields =>
    if !j.sound || depthLimit ≤ j.depth then none
    else do
      let fields ← Json.named? fields
      let name ← Json.required? fields "step" ScriptAction.nameOfTag?
      if !Json.distinct ("step" :: "expect" :: ScriptAction.fieldNames name) fields then none
      let expect ← Json.optional? fields "expect" (Json.nullable? Json.text?) none
      let action ← ScriptAction.ofFields? name fields
      return ⟨action, expect⟩
  | _ => none

end ScriptStep

namespace Script

/-- The script that a JSON value stands for. -/
def ofJson? (j : Json) : Option Script := do
  let fields ← j.record? ["steps"]
  let steps ← Json.optional? fields "steps"
    (fun j => j.items?.bind (·.mapM ScriptStep.ofJson?)) []
  return ⟨steps⟩

/-- The script that a text stands for. -/
def ofText? (text : String) : Option Script :=
  (Json.ofText? text).bind ofJson?

end Script

end Perfmon
