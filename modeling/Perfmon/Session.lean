import Perfmon.ContextRegistry
import Perfmon.Executor
import Perfmon.Staging
/-!
# Sessions

One session: its scope, the context it is bound to, the resources it has reserved, whether their
register windows are open, and its staging memory. The operations follow one life:

* a session is bound to a context, or, in device scope, to none;
* then it reserves resources and gives them up again;
* while its windows are open its reservations are frozen.

A context may go away, or be exchanged for another one, while the session holds reservations that
follow it. `checkContext` is what keeps such a session from touching registers.
-/

namespace Perfmon

/-- What a session has been told about its context. -/
inductive ContextBinding where
  /-- Nothing yet. -/
  | unbound
  /-- That it works without one. -/
  | noContext
  /-- Which one it is. -/
  | context (ctx : ContextId)
  deriving DecidableEq, Repr

namespace ContextBinding

/-- Whether a session has been told about its context. -/
def isBound : ContextBinding → Bool
  | .unbound => false
  | .noContext | .context _ => true

/-- The context, if there is one. -/
def context? : ContextBinding → Option ContextId
  | .context ctx => some ctx
  | .unbound | .noContext => none

end ContextBinding

/-- How a resource is reserved, as callers see it. -/
structure Reserved where
  /-- Whether the reservation follows a context. -/
  contextSwitched : Bool
  deriving DecidableEq, Repr

namespace Reserved

/-- What callers see of a mode. -/
def ofMode (mode : ReservationMode) : Reserved :=
  ⟨mode.isContextSwitched⟩

/-- Whether the reservation follows a context, under the name that modes have for it. -/
def isContextSwitched (s : Reserved) : Bool :=
  s.contextSwitched

end Reserved

/-- What callers can see of a session. -/
structure SessionInfo where
  /-- The number by which callers name the session. -/
  handle : Handle
  /-- What it reserves for. -/
  scope : Scope
  /-- Its context. -/
  binding : ContextBinding
  /-- How each of its resources is reserved. -/
  reservations : PerResource (Option Reserved)
  /-- Whether the register windows of its resources are open. -/
  pmBound : Bool
  deriving DecidableEq, Repr

/-- All of a session but its staging memory. -/
structure SessionRecord extends SessionInfo where
  /-- The context that each context-switched reservation follows. -/
  reservedFor : PerResource (Option ContextId)
  deriving DecidableEq, Repr

/-- A session. -/
structure Session extends SessionRecord where
  /-- The memory through which its batches pass. -/
  staging : Staging
  deriving DecidableEq, Repr

/-- The resources that a session has reserved, in their fixed order. -/
def SessionInfo.reserved (s : SessionInfo) : List Resource :=
  Resource.all.filter fun r => (s.reservations.get r).isSome

namespace SessionRecord

/-- The record of a session that has just been opened. -/
def new (handle : Handle) (scope : Scope) : SessionRecord where
  handle := handle
  scope := scope
  binding := .unbound
  reservations := .const none
  pmBound := false
  reservedFor := .const none

/-- The record with a reservation written down. -/
def record (s : SessionRecord) (r : Resource) (mode : ReservationMode) : SessionRecord :=
  { s with
    reservations := s.reservations.set r (some (.ofMode mode))
    reservedFor := s.reservedFor.set r mode.context? }

/-- The record with a reservation struck out. -/
def strike (s : SessionRecord) (r : Resource) : SessionRecord :=
  { s with
    reservations := s.reservations.set r none
    reservedFor := s.reservedFor.set r none }

end SessionRecord

namespace Session

/-- A session that has just been opened. -/
def new (handle : Handle) (scope : Scope) (staging : Staging) : Session :=
  { SessionRecord.new handle scope with staging }

/-- The class of every operation that a session issues. -/
def accessClass (s : Session) : AccessClass :=
  .ofSession s.scope s.binding.context?.isSome

/-! ## Contexts -/

/-- The error of an operation that needs to know about the context first. -/
def contextMissing : Error :=
  .invalidState "context info not initialized"

/-- The error of an operation that would change frozen reservations. -/
def reservationsFrozen : Error :=
  .invalidState "PM resources are bound; unbind before changing reservations"

/-- Tells a session about its context. -/
def bindContext (s : Session) (contexts : ContextRegistry) (fd : Option Descriptor) :
    Except Error Session :=
  if s.binding.isBound then .error (.alreadyBound s.handle)
  else
    match fd, s.scope with
    | none, .device => .ok { s with binding := .noContext }
    | none, .context => .error (.invalidArgument "context scope session needs a context")
    | some fd, _ =>
      match contexts.resolve fd with
      | some ctx => .ok { s with binding := .context ctx }
      | none => .error (.invalidArgument s!"invalid context fd {fd.toInt}")

/-- Makes a session forget its context. Its reservations stay. -/
def unbindContext (s : Session) : Session :=
  { s with binding := .unbound }

/-- Fails unless the context still exists and every reservation that follows a context follows this
one. -/
def checkContext (s : Session) (contexts : ContextRegistry) : Except Error Unit :=
  match s.binding.context? with
  | none =>
    match Resource.all.findSome? fun r => (s.reservedFor.get r).map (r, ·) with
    | some (r, c) =>
      .error (.invalidState s!"{r} is reserved for {c} but no context is bound")
    | none => .ok ()
  | some ctx =>
    if !contexts.isLive ctx then .error (.staleContext ctx)
    else
      match Resource.all.findSome? fun r =>
        ((s.reservedFor.get r).filter (· ≠ ctx)).map (r, ·) with
      | some (r, c) =>
        .error (.invalidState s!"{r} is reserved for {c}, session is bound to {ctx}")
      | none => .ok ()

/-! ## Reservations -/

/-- The mode in which a session may ask for a resource. A session of context scope always asks for a
context-switched reservation. -/
def requestedMode (s : Session) (caps : Capabilities) (r : Resource) (contextSwitched : Bool) :
    Except Error ReservationMode :=
  match s.scope, contextSwitched, s.binding.context? with
  | .context, _, some ctx | .device, true, some ctx => .ok (.contextSwitched ctx)
  | .context, _, none => .error (.invalidState "context must be bound for context session")
  | .device, true, none =>
    .error (.invalidState "context must be bound to enable context switch")
  | .device, false, _ =>
    if r = .smpc ∧ !caps.smpcGlobalMode then .error (.unsupported "SMPC global mode not supported")
    else .ok .global

/-- The mode for which a session goes to the device, or why it does not go there. -/
def checkReserve (s : Session) (caps : Capabilities) (r : Resource) (contextSwitched : Bool) :
    Except Error ReservationMode :=
  if !s.binding.isBound then .error contextMissing
  else if s.pmBound then .error reservationsFrozen
  else s.requestedMode caps r contextSwitched

/-- The session with its record changed. -/
def mapRecord (s : Session) (f : SessionRecord → SessionRecord) : Session :=
  { s with toSessionRecord := f s.toSessionRecord }

/-- Reserves a resource. A session that holds it already keeps the mode it has. -/
def reserve (s : Session) (x : Executor) (r : Resource) (contextSwitched : Bool) :
    Except Error Reserved × Session × Executor :=
  match s.checkReserve x.device.capabilities r contextSwitched with
  | .error e => (.error e, s, x)
  | .ok mode =>
    match x.reserve s.handle r mode with
    | (.error e, x) => (.error e, s, x)
    | (.ok .granted, x) => (.ok (.ofMode mode), s.mapRecord (·.record r mode), x)
    | (.ok (.alreadyHeld held), x) => (.ok (.ofMode held), s.mapRecord (·.record r held), x)

/-- Gives up a resource; one that is not held is given up too. -/
def release (s : Session) (x : Executor) (r : Resource) : Except Error Unit × Session × Executor :=
  if s.pmBound then (.error reservationsFrozen, s, x)
  else
    match x.release s.handle r with
    | (.error e, x) => (.error e, s, x)
    | (.ok _, x) => (.ok (), s.mapRecord (·.strike r), x)

/-! ## Register windows -/

/-- Opens the register windows of everything that is reserved. Without reservations, or with the
windows open already, nothing happens. -/
def bindPm (s : Session) (contexts : ContextRegistry) (x : Executor) :
    Except Error Unit × Session × Executor :=
  if !s.binding.isBound then (.error contextMissing, s, x)
  else if s.pmBound ∨ s.reserved = [] then (.ok (), s, x)
  else
    match s.checkContext contexts with
    | .error e => (.error e, s, x)
    | .ok () =>
      match x.bind s.handle s.reserved with
      | (.error e, x) => (.error e, s, x)
      | (.ok (), x) => (.ok (), { s with pmBound := true }, x)

/-- Closes the register windows. -/
def unbindPm (s : Session) (x : Executor) : Except Error Unit × Session × Executor :=
  if !s.pmBound then (.ok (), s, x)
  else
    match x.unbind s.handle s.reserved with
    | (.error e, x) => (.error e, s, x)
    | (.ok (), x) => (.ok (), { s with pmBound := false }, x)

/-- Closes the register windows of a session that goes; a failure is passed over. -/
def closeWindows (s : Session) (x : Executor) : Executor :=
  if s.pmBound then (x.unbind s.handle s.reserved).2 else x

/-- Gives up everything that a session holds, and says what that was; a failure is passed over. -/
def giveUpAll (s : Session) (x : Executor) : List Resource × Executor :=
  match x.releaseAll s.handle with
  | (.ok freed, x) => (freed, x)
  | (.error _, x) => ([], x)

/-- Takes a session down: its windows are closed and its reservations given up, and a failure of
either does not keep it from going. Says which resources were given up. -/
def teardown (s : Session) (x : Executor) : List Resource × Executor :=
  s.giveUpAll (s.closeWindows x)

end Session

end Perfmon
