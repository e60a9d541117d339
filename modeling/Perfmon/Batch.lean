import Perfmon.Executor
import Perfmon.Metrics
import Perfmon.OpsBuffer
import Perfmon.Staging
import Perfmon.Window
/-!
# Batches

A batch of register operations on its way through the staging memory, window by window: copied in
from the caller, put into the device's form, executed, put back into the callers' form and copied
out, before the next window is looked at. The first failure ends the batch. What earlier windows did
stays done: in all-or-none mode, too, it is a window that is all or none, not the batch.

`Batch.run` follows the position in the windows, which moves on with every window.
-/

namespace Perfmon

/-- What a batch has come to. -/
structure ExecReport where
  /-- Whether the first window went straight to the hardware. -/
  directOps : Bool
  /-- Whether every operation passed; never said of an all-or-none batch. -/
  allPassed : Bool
  /-- How many windows were processed. -/
  windows : Nat
  /-- How many operations were processed. -/
  ops : Nat
  deriving DecidableEq, Repr

/-- A window handed to the executor. -/
structure Submission where
  /-- The context in which it is executed. -/
  context : Option ContextId
  /-- The operations as they are handed over. -/
  ops : List DeviceOp
  /-- How many references on the device's power are held meanwhile. -/
  powerRefs : Nat
  deriving DecidableEq, Repr

/-- What is the same for every window of a batch. -/
structure BatchJob where
  /-- The context in which the batch is executed. -/
  context : Option ContextId
  /-- The class of all its operations. -/
  cls : AccessClass
  /-- What it promises when an operation fails. -/
  mode : ExecMode
  /-- How many references on the device's power are held. -/
  powerRefs : Nat
  deriving DecidableEq, Repr

/-- A batch on its way. -/
structure Batch where
  /-- The device behind its switch. -/
  executor : Executor
  /-- The staging memory of the session. -/
  staging : Staging
  /-- The memory of the caller. -/
  buffer : OpsBuffer
  /-- What has been counted. -/
  metrics : Metrics
  /-- What the windows so far have come to. -/
  report : ExecReport
  /-- The windows handed to the executor so far, the newest first. -/
  submitted : List Submission

namespace Batch

/-- Counts a window that has been executed. -/
def count (m : Metrics) (ops : List RegOp) : Metrics :=
  { m with
    opsExecuted := m.opsExecuted + ops.length
    opsFailed := m.opsFailed + ops.countP (!·.succeeded)
    windows := m.windows + 1 }

/-- Hands the front of the staging memory to the executor. -/
def submit (j : BatchJob) (len : Nat) (b : Batch) : Device.Executed × Batch :=
  let ops := b.staging.device.take len
  let (done, executor) := b.executor.execute j.context j.mode ops
  (done, { b with
    executor
    staging := b.staging.putBack done.ops
    submitted := ⟨j.context, ops, j.powerRefs⟩ :: b.submitted })

/-- Takes back what the executor has made of a window: the window in the callers' form, and the
batch with the window counted and reported. -/
def collect (w : Window) (done : Device.Executed) (b : Batch) : List RegOp × Batch :=
  let staging := b.staging.unload w.len
  let ops := staging.user.take w.len
  (ops, { b with
    staging
    metrics := count b.metrics ops
    report := { b.report with
      directOps := if w.start = 0 then done.directOps else b.report.directOps
      allPassed := b.report.allPassed && done.allPassed } })

/-- Processes one window. -/
def runWindow (j : BatchJob) (w : Window) (b : Batch) : Except Error Unit × Batch :=
  match b.buffer.copyIn w.start w.len with
  | .error e => (.error e, b)
  | .ok ops =>
    let (done, b) := submit j w.len { b with staging := b.staging.load j.cls ops }
    match done.outcome with
    | .error failure => (.error (.hardwareExecution w.start failure.message), b)
    | .ok () =>
      let (ops, b) := collect w done b
      match b.buffer.copyOut w.start ops with
      | .error e => (.error e, b)
      | .ok buffer => (.ok (), { b with
          buffer
          report := { b.report with windows := b.report.windows + 1, ops := w.stop } })

/-- Processes the windows from a position on. -/
def run (j : BatchJob) (c : Windows) (b : Batch) : Except Error Unit × Batch :=
  match h : c.next? with
  | none => (.ok (), b)
  | some (w, d) =>
    have := Windows.next?_decreases h
    match runWindow j w b with
    | (.error e, b) => (.error e, b)
    | (.ok (), b) => run j d b
termination_by c.total - c.position

/-- Processes the windows of a list. -/
def runList (j : BatchJob) : List Window → Batch → Except Error Unit × Batch
  | [], b => (.ok (), b)
  | w :: ws, b =>
    match runWindow j w b with
    | (.error e, b) => (.error e, b)
    | (.ok (), b) => runList j ws b

/-- Following the position is the same as going through the list of the windows. -/
theorem run_eq_runList (j : BatchJob) (c : Windows) (b : Batch) :
    run j c b = runList j c.toList b := by
  fun_induction run j c b with
  | case1 c b h =>
    rw [Windows.toList_of_next?_eq_none h]
    rfl
  | case2 c b w d h _ e b' hw =>
    rw [Windows.toList_of_next?_eq_some h, runList, hw]
  | case3 c b w d h _ b' hw ih =>
    rw [Windows.toList_of_next?_eq_some h, runList, hw, ih]

end Batch

end Perfmon
