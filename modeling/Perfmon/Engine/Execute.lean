import Perfmon.Batch
import Perfmon.Engine
/-!
# Executing batches

The gate in front of a batch, and what surrounds it: the device is powered on, the windows are
processed, the power is given back. A batch that the gate refuses changes nothing; a failure to
power on uses up the failure and nothing else.
-/

namespace Perfmon

/-- What an attempt to execute a batch has come to. -/
structure Execution where
  /-- What the batch has come to, or why it ended early. -/
  result : Except Error ExecReport
  /-- The caller's memory afterwards. -/
  buffer : OpsBuffer
  /-- The windows that were handed to the executor, the oldest first. -/
  submitted : List Submission

namespace Engine

/-- Whether a session may execute a batch of so many operations. -/
def checkExec (e : Engine) (s : Session) (count : Nat) : Except Error Unit :=
  if count = 0 then .error (.invalidArgument "register op count must be non-zero")
  else if e.config.maxRegOps < count then
    .error (.invalidArgument s!"regops limit exceeded: {count} > {e.config.maxRegOps}")
  else if !s.pmBound then .error (.invalidState "PM resources are not bound to profiler")
  else s.checkContext e.contexts

/-- The report of a batch of which no window has been processed. -/
def emptyReport (mode : ExecMode) : ExecReport :=
  ⟨false, mode == .continueOnError, 0, 0⟩

/-- Processes a batch that has passed the gate, with the device powered on. -/
def runBatch (e : Engine) (h : Handle) (s : Session) (buffer : OpsBuffer) (count : Nat)
    (mode : ExecMode) : Execution × Engine :=
  let job : BatchJob := ⟨s.binding.context?, s.accessClass, mode, e.power.refs⟩
  let batch : Batch := ⟨e.executor, s.staging, buffer, e.metrics, emptyReport mode, []⟩
  let (result, batch) := batch.run job (.ofBatch count s.staging.capacity)
  (⟨result.map fun () => batch.report, batch.buffer, batch.submitted.reverse⟩, { e with
    sessions := e.sessions.insert h { s with staging := batch.staging }
    executor := batch.executor
    metrics := { batch.metrics with batchesTimed := batch.metrics.batchesTimed + 1 } })

/-- Executes the first `count` operations of a caller's memory, which gets the outcomes. -/
def execute (e : Engine) (h : Handle) (buffer : OpsBuffer) (count : Nat) (mode : ExecMode) :
    Execution × Engine :=
  match e.sessions.find? h with
  | none => (⟨.error (.unknownSession h), buffer, []⟩, e)
  | some s =>
    match e.checkExec s count with
    | .error err => (⟨.error err, buffer, []⟩, e)
    | .ok () =>
      match e.power.busy with
      | (.error err, power) => (⟨.error err, buffer, []⟩, { e with power })
      | (.ok (), power) =>
        let (execution, e) := { e with power }.runBatch h s buffer count mode
        (execution, { e with power := e.power.idle })

end Engine

end Perfmon
