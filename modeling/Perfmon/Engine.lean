import Perfmon.Audit
import Perfmon.Config
import Perfmon.Metrics
import Perfmon.Power
import Perfmon.Session
/-!
# The engine

The sessions of one device, together with everything that they work on: the executor, the registry
of contexts, the power controller, the metrics and the audit trail. Every operation takes the engine
and gives back a result and the engine; an operation that fails gives an engine back as well,
because a refusal is counted and audited too.

`withSession` is the one way to an open session: it looks the session up, lets an operation work on
it and on the executor, and writes both back.
-/

namespace Perfmon

/-- The sessions of one device and what they work on. -/
structure Engine where
  /-- The limits. -/
  config : Config
  /-- Where the memory of the sessions comes from. -/
  memory : Memory
  /-- The open sessions. -/
  sessions : Assoc Handle Session
  /-- The handle of the next session. -/
  nextHandle : UInt32
  /-- The device behind its switch. -/
  executor : Executor
  /-- The contexts that exist. -/
  contexts : ContextRegistry
  /-- The power of the device. -/
  power : Power
  /-- What has been counted. -/
  metrics : Metrics
  /-- What has happened to sessions and reservations. -/
  trail : AuditTrail

namespace Engine

/-- An engine for a device that nobody has used yet. -/
def fresh (config : Config) (memory : Memory := .ordinary) : Engine where
  config := config
  memory := memory
  sessions := .empty
  nextHandle := 1
  executor := .ofDevice (.new config.device)
  contexts := .empty
  power := .off
  metrics := .zero
  trail := .empty

/-- Starts an engine; the configuration has to be valid. -/
def start (config : Config) (memory : Memory := .ordinary) : Except Config.Invalid Engine :=
  match config.validate with
  | .error e => .error e
  | .ok () => .ok (fresh config memory)

/-- The device. -/
def device (e : Engine) : Device :=
  e.executor.device

/-- The engine with its device changed from outside. -/
def mapDevice (e : Engine) (f : Device → Device) : Engine :=
  { e with executor := { e.executor with device := f e.executor.device } }

/-- Enters events in the audit trail. -/
def audit (e : Engine) (events : List AuditEvent) : Engine :=
  { e with trail := e.trail.recordAll events }

/-- How many sessions are open. -/
def sessionCount (e : Engine) : Nat :=
  e.sessions.size

/-! ## Opening and closing -/

/-- Opens a session. -/
def openSession (e : Engine) (scope : Scope) : Except Error Handle × Engine :=
  if !e.device.capabilities.allows scope then (.error (.unsupportedScope scope), e)
  else
    match Staging.allocate e.memory e.config.windowCapacity with
    | .error err => (.error err, e)
    | .ok staging =>
      let h : Handle := ⟨e.nextHandle⟩
      (.ok h, { e with
        sessions := e.sessions.insert h (.new h scope staging)
        nextHandle := e.nextHandle + 1
        metrics := { e.metrics with sessionsOpen := e.metrics.sessionsOpen + 1 }
        trail := e.trail.record (.sessionOpened h scope) })

/-- Closes a session: its windows are closed and its reservations given up. -/
def close (e : Engine) (h : Handle) : Except Error Unit × Engine :=
  match e.sessions.find? h with
  | none => (.error (.unknownSession h), e)
  | some s =>
    let (freed, executor) := s.teardown e.executor
    (.ok (), { e with
      sessions := e.sessions.erase h
      executor
      metrics := { e.metrics with sessionsOpen := e.metrics.sessionsOpen - 1 }
      trail := e.trail.recordAll (freed.map (.released h) ++ [.sessionClosed h freed.length]) })

/-- Closes sessions one after the other; a handle that names none is passed over. -/
def closeAll (e : Engine) (hs : List Handle) : Engine :=
  hs.foldl (fun e h => (e.close h).2) e

/-- Closes every session. -/
def shutdown (e : Engine) : Engine :=
  e.closeAll e.sessions.keys

/-! ## Operations on a session -/

/-- Lets an operation work on an open session and on the executor. -/
def withSession {α : Type} (e : Engine) (h : Handle)
    (f : Session → Executor → Except Error α × Session × Executor) : Except Error α × Engine :=
  match e.sessions.find? h with
  | none => (.error (.unknownSession h), e)
  | some s =>
    let (result, s, executor) := f s e.executor
    (result, { e with sessions := e.sessions.insert h s, executor })

/-- Tells a session about its context. -/
def bindContext (e : Engine) (h : Handle) (fd : Option Descriptor) : Except Error Unit × Engine :=
  e.withSession h fun s x =>
    match s.bindContext e.contexts fd with
    | .error err => (.error err, s, x)
    | .ok s => (.ok (), s, x)

/-- Makes a session forget its context. -/
def unbindContext (e : Engine) (h : Handle) : Except Error Unit × Engine :=
  e.withSession h fun s x => (.ok (), s.unbindContext, x)

/-- The metrics after a reservation came out in some way: only contention is counted. -/
def countDenied (m : Metrics) (r : Resource) : Error → Metrics
  | .resourceBusy _ _ => m.countConflict r
  | _ => m

/-- Reserves a resource for a session. -/
def reserve (e : Engine) (h : Handle) (r : Resource) (contextSwitched : Bool) :
    Except Error Reserved × Engine :=
  if !e.sessions.contains h then (.error (.unknownSession h), e)
  else
    match e.withSession h fun s x => s.reserve x r contextSwitched with
    | (.ok held, e) => (.ok held, e.audit [.granted h r held.contextSwitched])
    | (.error err, e) =>
      let counted := { e with metrics := countDenied e.metrics r err }
      (.error err, counted.audit [.denied h r err.message])

/-- Gives up a resource of a session. -/
def release (e : Engine) (h : Handle) (r : Resource) : Except Error Unit × Engine :=
  match e.withSession h fun s x => s.release x r with
  | (.ok (), e) => (.ok (), e.audit [.released h r])
  | (.error err, e) => (.error err, e)

/-- Opens the register windows of what a session has reserved. -/
def bindPm (e : Engine) (h : Handle) : Except Error Unit × Engine :=
  e.withSession h fun s x => s.bindPm e.contexts x

/-- Closes the register windows of a session. -/
def unbindPm (e : Engine) (h : Handle) : Except Error Unit × Engine :=
  e.withSession h fun s x => s.unbindPm x

/-- What callers can see of a session. -/
def info (e : Engine) (h : Handle) : Except Error SessionInfo :=
  match e.sessions.find? h with
  | none => .error (.unknownSession h)
  | some s => .ok s.toSessionInfo

/-! ## Contexts, power and failures -/

/-- Creates a context behind a descriptor. -/
def createContext (e : Engine) (fd : Descriptor) : ContextId × Engine :=
  let (ctx, contexts) := e.contexts.create fd
  (ctx, { e with contexts })

/-- Destroys the context behind a descriptor. -/
def destroyContext (e : Engine) (fd : Descriptor) : Option ContextId × Engine :=
  let (ctx, contexts) := e.contexts.destroy fd
  (ctx, { e with contexts })

/-- Makes the next attempt to power the device on fail. -/
def armPowerFailure (e : Engine) : Engine :=
  { e with power := e.power.armFailure }

/-- Makes an executor call of a kind fail, the one behind the next `after` calls of that kind. -/
def armFailure (e : Engine) (c : ExecutorCall) (after : Nat) : Engine :=
  { e with executor := e.executor.arm c after }

end Engine

end Perfmon
