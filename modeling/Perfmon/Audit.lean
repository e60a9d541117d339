import Perfmon.Handle
import Perfmon.Resource
import Perfmon.Scope
/-!
# The audit trail

What has happened to sessions and reservations, one event after the other. The trail is kept with
the newest event first, so that entering an event costs the same however long it is; `events` is the
view in order.
-/

namespace Perfmon

/-- Something that happened to a session or a reservation. -/
inductive AuditEvent where
  /-- A session was opened. -/
  | sessionOpened (session : Handle) (scope : Scope)
  /-- A session was closed, and gave up so many reservations. -/
  | sessionClosed (session : Handle) (released : Nat)
  /-- A reservation was granted. -/
  | granted (session : Handle) (resource : Resource) (contextSwitched : Bool)
  /-- A reservation was refused. -/
  | denied (session : Handle) (resource : Resource) (reason : String)
  /-- A reservation was given up. -/
  | released (session : Handle) (resource : Resource)
  deriving DecidableEq, Repr

namespace AuditEvent

/-- The session that an event is about. -/
def session : AuditEvent → Handle
  | .sessionOpened s _ | .sessionClosed s _ | .granted s _ _ | .denied s _ _ | .released s _ => s

/-- The name of an event. -/
def label : AuditEvent → String
  | .sessionOpened _ _ => "session_opened"
  | .sessionClosed _ _ => "session_closed"
  | .granted _ _ _ => "reservation_granted"
  | .denied _ _ _ => "reservation_denied"
  | .released _ _ => "reservation_released"

end AuditEvent

/-- A sequence of events. -/
structure AuditTrail where
  /-- The events, the newest first. -/
  newestFirst : List AuditEvent
  deriving DecidableEq, Repr

namespace AuditTrail

/-- The trail without events. -/
def empty : AuditTrail :=
  ⟨[]⟩

/-- Enters an event. -/
def record (t : AuditTrail) (e : AuditEvent) : AuditTrail :=
  ⟨e :: t.newestFirst⟩

/-- Enters events in their order. -/
def recordAll (t : AuditTrail) (es : List AuditEvent) : AuditTrail :=
  es.foldl record t

/-- The events in the order in which they happened. -/
def events (t : AuditTrail) : List AuditEvent :=
  t.newestFirst.reverse

/-- How many events there are. -/
def size (t : AuditTrail) : Nat :=
  t.newestFirst.length

/-- The events behind the first `n`. -/
def since (t : AuditTrail) (n : Nat) : List AuditEvent :=
  (t.newestFirst.take (t.size - n)).reverse

@[simp] theorem events_record (t : AuditTrail) (e : AuditEvent) :
    (t.record e).events = t.events ++ [e] := by
  simp [record, events]

theorem recordAll_append (t : AuditTrail) (es fs : List AuditEvent) :
    t.recordAll (es ++ fs) = (t.recordAll es).recordAll fs :=
  List.foldl_append

@[simp] theorem events_recordAll (t : AuditTrail) (es : List AuditEvent) :
    (t.recordAll es).events = t.events ++ es := by
  induction es generalizing t with
  | nil => simp [recordAll]
  | cons e es ih =>
    rw [recordAll, List.foldl_cons, ← recordAll, ih]
    simp

end AuditTrail

end Perfmon
