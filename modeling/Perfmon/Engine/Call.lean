import Perfmon.Engine.Control
/-!
# Calls

The calls of an engine as data. A run is a list of calls; `perform` carries one out, `performAll` a
whole run.
-/

namespace Perfmon

/-- Something that happens to an engine. -/
inductive Call where
  /-- Opens a session. -/
  | openSession (scope : Scope)
  /-- Closes a session. -/
  | close (h : Handle)
  /-- Tells a session about its context. -/
  | bindContext (h : Handle) (fd : Option Descriptor)
  /-- Makes a session forget its context. -/
  | unbindContext (h : Handle)
  /-- Reserves a resource. -/
  | reserve (h : Handle) (r : Resource) (contextSwitched : Bool)
  /-- Gives up a resource. -/
  | release (h : Handle) (r : Resource)
  /-- Opens the register windows of a session. -/
  | bindPm (h : Handle)
  /-- Closes the register windows of a session. -/
  | unbindPm (h : Handle)
  /-- Looks at a session. -/
  | info (h : Handle)
  /-- Executes a batch. -/
  | execute (h : Handle) (buffer : OpsBuffer) (count : Nat) (mode : ExecMode)
  /-- Serves a control request. -/
  | control (h : Handle) (word : UInt32) (arg : List UInt8) (buffer : Option OpsBuffer)
  /-- Creates a context. -/
  | createContext (fd : Descriptor)
  /-- Destroys a context. -/
  | destroyContext (fd : Descriptor)
  /-- Sets a live register from outside. -/
  | poke (offset : UInt32) (value : UInt64)
  /-- Makes an offset fault. -/
  | injectFault (offset : UInt32)
  /-- Makes no offset fault. -/
  | clearFaults
  /-- Makes the next attempt to power the device on fail. -/
  | armPowerFailure
  /-- Makes an executor call of a kind fail: the next one, or one behind it. -/
  | armFailure (call : ExecutorCall) (after : Nat := 0)

/-- The answer to a call. -/
inductive Reply where
  /-- Done, or refused. -/
  | done (result : Except Error Unit)
  /-- The handle of a new session. -/
  | opened (result : Except Error Handle)
  /-- How a resource was reserved. -/
  | reserved (result : Except Error Reserved)
  /-- What can be seen of a session. -/
  | info (result : Except Error SessionInfo)
  /-- What a batch has come to. -/
  | executed (execution : Execution)
  /-- What a control request has come to. -/
  | controlled (reply : Controlled)
  /-- The context that was created, or destroyed if there was one. -/
  | context (ctx : Option ContextId)

namespace Engine

/-- Carries out a call. -/
def perform (e : Engine) : Call → Reply × Engine
  | .openSession scope => let (r, e) := e.openSession scope; (.opened r, e)
  | .close h => let (r, e) := e.close h; (.done r, e)
  | .bindContext h fd => let (r, e) := e.bindContext h fd; (.done r, e)
  | .unbindContext h => let (r, e) := e.unbindContext h; (.done r, e)
  | .reserve h r c => let (r, e) := e.reserve h r c; (.reserved r, e)
  | .release h r => let (r, e) := e.release h r; (.done r, e)
  | .bindPm h => let (r, e) := e.bindPm h; (.done r, e)
  | .unbindPm h => let (r, e) := e.unbindPm h; (.done r, e)
  | .info h => (.info (e.info h), e)
  | .execute h buffer count mode =>
    let (x, e) := e.execute h buffer count mode
    (.executed x, e)
  | .control h word arg buffer =>
    let (x, e) := e.control h word arg buffer
    (.controlled x, e)
  | .createContext fd => let (ctx, e) := e.createContext fd; (.context (some ctx), e)
  | .destroyContext fd => let (ctx, e) := e.destroyContext fd; (.context ctx, e)
  | .poke offset value => (.done (.ok ()), e.mapDevice (·.poke offset value))
  | .injectFault offset => (.done (.ok ()), e.mapDevice (·.injectFault offset))
  | .clearFaults => (.done (.ok ()), e.mapDevice (·.clearFaults))
  | .armPowerFailure => (.done (.ok ()), e.armPowerFailure)
  | .armFailure call after => (.done (.ok ()), e.armFailure call after)

/-- Carries out the calls of a run, one after the other. -/
def performAll (e : Engine) (calls : List Call) : Engine :=
  calls.foldl (fun e c => (e.perform c).2) e

end Engine

end Perfmon
