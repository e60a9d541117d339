import Perfmon.Config.Load
import Perfmon.Console
import Perfmon.Json.Writer
import Perfmon.Replay
import Perfmon.Script.Decode
import Perfmon.Session.Json
/-!
# The report of a replay

What a replay prints: a line for each step that was carried out, behind the table of its operations
if it executed a batch, and how it all ended. A replay fails when a step is at fault, or else when
its counter says that steps have not come to what was expected.

However a replay ends, its sessions are closed; the metrics are those after that.
-/

namespace Perfmon

/-- The line about what a step has done. -/
def Deed.message : Deed → String
  | .createdContext ctx fd => s!"created {ctx} behind fd {fd}"
  | .destroyedContext ctx => s!"destroyed {ctx}"
  | .opened scope name h => s!"opened {scope} session '{name}' as {h}"
  | .closed name => s!"closed '{name}'"
  | .boundContext name (some fd) => s!"'{name}' bound to fd {fd}"
  | .boundContext name none => s!"'{name}' bound to no context"
  | .unboundContext name => s!"'{name}' unbound"
  | .reserved name r held => s!"'{name}' reserved {r} (context switched: {held.contextSwitched})"
  | .released name r => s!"'{name}' released {r}"
  | .boundPm name => s!"'{name}' PM resources bound"
  | .unboundPm name => s!"'{name}' PM resources unbound"
  | .looked info => info.toJson.render
  | .executed name report _ =>
    s!"'{name}' executed {report.ops} op(s) in {report.windows} window(s) " ++
      s!"(direct: {report.directOps}, all passed: {report.allPassed})"

/-- The lines in front of the one about what a step has done. -/
def Deed.details : Deed → List Line
  | .executed _ _ ops => (RegOp.table ops).map .plain
  | _ => []

namespace StepRecord

/-- The lines about a step that has been carried out, which has a place in its script. -/
def lines (r : StepRecord) (index : Nat) : List Line :=
  match r.outcome, r.isMatch with
  | .ok deed, true => deed.details ++ [.success s!"[{index}] {deed.message}"]
  | .ok deed, false =>
    deed.details ++ [.failure s!"[{index}] expected {r.step.expected}, but: {deed.message}"]
  | .error e, true => [.warning s!"[{index}] expected failure: {e.message}"]
  | .error e, false =>
    [.failure
      s!"[{index}] expected {r.step.expected}, got {e.kind} (errno {e.errno}): {e.message}"]

end StepRecord

namespace Transcript

/-- The lines about the steps that were carried out. -/
def stepLines (t : Transcript) : List Line :=
  t.records.zipIdx.flatMap fun (record, i) => record.lines i

/-- The engine after the end, with every session closed. -/
def closedEngine (t : Transcript) : Engine :=
  t.last.engine.shutdown

/-- The line about the sessions that the script has left open. -/
def leftOpenLines (t : Transcript) : List Line :=
  if t.last.engine.sessionCount = 0 then []
  else [.note s!"{t.last.engine.sessionCount} session(s) left open; closing"]

/-- Why the replay has failed, if it has. -/
def failure (t : Transcript) : Option (List Cause) :=
  match t.fault with
  | some fault =>
    some (.message s!"step {t.records.length} is invalid" :: fault.messages.map .message)
  | none =>
    if 0 < t.mismatches then
      some [.message s!"{t.mismatches} step(s) did not match their expected outcome"]
    else none

/-- All that a replay prints about its steps and its end. -/
def lines (t : Transcript) (metrics : Bool) : List Line :=
  t.stepLines ++
    if t.fault.isSome then []
    else
      t.leftOpenLines ++ if metrics then t.closedEngine.metrics.lines.map .plain else []

end Transcript

/-- How a script is to be replayed. -/
structure RunOptions where
  /-- The file with the script. -/
  script : String
  /-- The file with the configuration. -/
  config : Option String
  /-- Whether the metrics are printed in the end. -/
  metrics : Bool
  /-- Whether the replay stops at the first step that does not come to what was expected. -/
  failFast : Bool
  deriving DecidableEq, Repr

namespace RunOptions

/-- Replays a script with a configuration. -/
def replay (o : RunOptions) (script : Script) (config : Config) (memory : Memory := .ordinary) :
    CommandResult :=
  let heading := Line.note <|
    s!"replaying {script.steps.length} step(s), window capacity {config.windowCapacity} ops"
  match Engine.start config memory with
  | .error reason => ⟨[heading], some reason.startCauses⟩
  | .ok engine =>
    let t := Replay.run o.failFast script.steps (.start engine)
    ⟨heading :: t.lines o.metrics, t.failure⟩

/-- The script of a replay. -/
def loadScript (o : RunOptions) (files : Files) : Except (List Cause) Script :=
  match files.read? o.script with
  | none => .error [.message s!"Failed to read script {o.script}", .unreadable]
  | some text =>
    match Script.ofText? text with
    | none => .error [.message "Failed to parse script", .badJson]
    | some script => .ok script

/-- Replays a script from a file. -/
def execute (o : RunOptions) (env : Environment) (files : Files)
    (memory : Memory := .ordinary) : CommandResult :=
  match o.loadScript files with
  | .error causes => ⟨[], some causes⟩
  | .ok script =>
    match Config.load env files o.config with
    | .error failure => ⟨[], some failure.causes⟩
    | .ok config => o.replay script config memory

end RunOptions

end Perfmon
