import Perfmon.Handle
import Perfmon.Resource
import Perfmon.Scope
import Perfmon.Text.Hex
/-!
# Errors

Why an operation on a session is refused or fails. The constructors are the causes; `message` has
all the texts, `kind` the short names used in metrics, `errno` the numbers for the control channel.
-/

namespace Perfmon

/-- Why an operation on a session is refused or fails. -/
inductive Error where
  /-- The caller passed something that can never work. -/
  | invalidArgument (reason : String)
  /-- The session is in a state in which the operation is not allowed. -/
  | invalidState (reason : String)
  /-- The session has its context already. -/
  | alreadyBound (session : Handle)
  /-- Another session holds the resource. -/
  | resourceBusy (resource : Resource) (reason : String)
  /-- The device cannot do what is asked for. -/
  | unsupported (what : String)
  /-- The device has no sessions of this scope. -/
  | unsupportedScope (scope : Scope)
  /-- There is no memory for a buffer. -/
  | noMemory (buffer : String)
  /-- The caller's memory could not be read or written. -/
  | transferFault (opIndex : Nat) (reason : String)
  /-- The device gave up on a window of operations. -/
  | hardwareExecution (windowStart : Nat) (reason : String)
  /-- The device did not power on. -/
  | powerOn (reason : String)
  /-- The handle names no open session. -/
  | unknownSession (session : Handle)
  /-- The request word names no request. -/
  | unknownRequest (word : UInt32)
  deriving DecidableEq, Repr

namespace Error

/-- The error of a session whose context has gone. -/
def staleContext (ctx : ContextId) : Error :=
  .invalidState s!"bound context {ctx} no longer exists"

/-- The text of an error. -/
def message : Error → String
  | .invalidArgument reason => s!"invalid argument: {reason}"
  | .invalidState reason => s!"invalid state: {reason}"
  | .alreadyBound session => s!"context is already bound to session {session}"
  | .resourceBusy resource reason => s!"{resource} is busy: {reason}"
  | .unsupported what => s!"unsupported: {what}"
  | .unsupportedScope scope => s!"{scope} scope profiling is not supported on this device"
  | .noMemory buffer => s!"out of memory allocating {buffer}"
  | .transferFault opIndex reason => s!"transfer fault at op {opIndex}: {reason}"
  | .hardwareExecution windowStart reason =>
    s!"register op execution failed in window starting at op {windowStart}: {reason}"
  | .powerOn reason => s!"device power-on failed: {reason}"
  | .unknownSession session => s!"unknown session handle {session}"
  | .unknownRequest word => "unrecognized request code 0x" ++ Text.hexPadded 8 word.toNat

/-- The short name of an error's cause. -/
def kind : Error → String
  | .invalidArgument _ => "invalid_argument"
  | .invalidState _ => "invalid_state"
  | .alreadyBound _ => "already_bound"
  | .resourceBusy _ _ => "resource_busy"
  | .unsupported _ => "unsupported"
  | .unsupportedScope _ => "unsupported_scope"
  | .noMemory _ => "no_memory"
  | .transferFault _ _ => "transfer_fault"
  | .hardwareExecution _ _ => "hardware_execution"
  | .powerOn _ => "power_on"
  | .unknownSession _ => "unknown_session"
  | .unknownRequest _ => "unknown_request"

/-- The number by which the control channel reports an error. -/
def errno : Error → Nat
  | .invalidArgument _ | .invalidState _ | .alreadyBound _ | .unsupportedScope _ => 22
  | .resourceBusy _ _ => 16
  | .unsupported _ => 95
  | .noMemory _ => 12
  | .transferFault _ _ => 14
  | .hardwareExecution _ _ | .powerOn _ => 5
  | .unknownSession _ => 9
  | .unknownRequest _ => 25

/-- Whether an error comes from the hardware or from another session, so that the same call may
succeed later, and not from misuse. -/
def isContention : Error → Bool
  | .resourceBusy _ _ | .hardwareExecution _ _ | .powerOn _ => true
  | _ => false

end Error

end Perfmon
