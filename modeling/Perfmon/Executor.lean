import Perfmon.Device
/-!
# The executor

The device as the session engine reaches it. In front of the device is a switch on which failures
can be armed: a call that is due to fail fails once, without reaching the device. Calls are counted
by their kind, so any one of those to come can be chosen.
-/

namespace Perfmon

/-- The kinds of call that can be made to fail. -/
inductive ExecutorCall where
  | reserve
  | release
  | releaseAll
  | bind
  | unbind
  | exec
  deriving DecidableEq, Repr

namespace ExecutorCall

/-- The name of a kind of call. -/
def label : ExecutorCall → String
  | .reserve => "reserve"
  | .release => "release"
  | .releaseAll => "release_all"
  | .bind => "bind"
  | .unbind => "unbind"
  | .exec => "exec"

/-- Every kind of call. -/
def all : List ExecutorCall :=
  [.reserve, .release, .releaseAll, .bind, .unbind, .exec]

/-- The error of a call that was made to fail. -/
def injectedError (c : ExecutorCall) : Error :=
  .unsupported s!"injected {c.label} failure"

end ExecutorCall

/-- The device behind its switch. -/
structure Executor where
  /-- The device. -/
  device : Device
  /-- The calls that are due to fail: the kind of each, and how many calls of that kind come before
  it. -/
  armed : List (ExecutorCall × Nat)

namespace Executor

/-- A device without armed failures. -/
def ofDevice (d : Device) : Executor :=
  ⟨d, []⟩

/-- Makes a call of a kind fail, the one behind the next `after` calls of that kind. -/
def arm (x : Executor) (c : ExecutorCall) (after : Nat) : Executor :=
  { x with armed := (c, after) :: x.armed }

/-- Whether the next call of a kind fails. -/
def strikes (x : Executor) (c : ExecutorCall) : Bool :=
  x.armed.contains (c, 0)

/-- What is left of an armed failure behind a call of a kind. -/
def countDown (c : ExecutorCall) : ExecutorCall × Nat → Option (ExecutorCall × Nat)
  | (k, n) => if k ≠ c then some (k, n) else if n = 0 then none else some (k, n - 1)

/-- The executor behind a call of a kind. -/
def pass (x : Executor) (c : ExecutorCall) : Executor :=
  { x with armed := x.armed.filterMap (countDown c) }

/-- Makes a call on the device, unless it is due to fail. -/
def call {α : Type} (x : Executor) (c : ExecutorCall) (failed : α) (f : Device → α × Device) :
    α × Executor :=
  if x.strikes c then (failed, x.pass c)
  else
    let (result, device) := f x.device
    (result, { x.pass c with device })

/-- Reserves a resource for a session. -/
def reserve (x : Executor) (s : Handle) (r : Resource) (mode : ReservationMode) :
    Except Error Grant × Executor :=
  x.call .reserve (.error (ExecutorCall.injectedError .reserve)) (·.reserve s r mode)

/-- Gives up a resource of a session. -/
def release (x : Executor) (s : Handle) (r : Resource) : Except Error Release × Executor :=
  x.call .release (.error (ExecutorCall.injectedError .release)) fun d =>
    let (outcome, d) := d.release s r
    (.ok outcome, d)

/-- Gives up every resource of a session. -/
def releaseAll (x : Executor) (s : Handle) : Except Error (List Resource) × Executor :=
  x.call .releaseAll (.error (ExecutorCall.injectedError .releaseAll)) fun d =>
    let (freed, d) := d.releaseAll s
    (.ok freed, d)

/-- Opens the register windows of resources for a session. -/
def bind (x : Executor) (s : Handle) (rs : List Resource) : Except Error Unit × Executor :=
  x.call .bind (.error (ExecutorCall.injectedError .bind)) (·.bind s rs)

/-- Closes the register windows of resources for a session. -/
def unbind (x : Executor) (s : Handle) (rs : List Resource) : Except Error Unit × Executor :=
  x.call .unbind (.error (ExecutorCall.injectedError .unbind)) fun d => (.ok (), d.unbind s rs)

/-- The offset named by an execution that was made to fail. -/
def injectedFault : UInt32 := 0xdead0000

/-- Executes operations in order. -/
def execute (x : Executor) (ctx : Option ContextId) (mode : ExecMode) (ops : List DeviceOp) :
    Device.Executed × Executor :=
  x.call .exec ⟨.error (.fault injectedFault), ops, false, false⟩ (·.execute ctx mode ops)

end Executor

end Perfmon
