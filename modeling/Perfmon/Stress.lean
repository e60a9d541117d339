import Perfmon.Engine
/-!
# Racing sessions

Rounds in which many sessions go for the same resource at once. A round opens its sessions, tells
each about its context, has all of them reserve the resource, and closes them again. How many
reservations are granted follows from the rules of the table alone: one for each context where they
follow contexts, else one. Which sessions get them depends on who comes first; the order in which
the reservations take effect is therefore handed to a round, as a rearrangement of its sessions.
-/

namespace Perfmon

/-- What is raced for, and how often. -/
structure StressOptions where
  /-- The number of sessions of a round. -/
  sessions : Nat
  /-- The resource. -/
  resource : Resource
  /-- Whether the reservations follow contexts. -/
  contextSwitched : Bool
  /-- The number of contexts, over which the sessions are spread in turn. -/
  contexts : Nat
  /-- The number of rounds. -/
  rounds : Nat
  /-- The file with the configuration. -/
  config : Option String
  deriving DecidableEq, Repr

/-- How the reservations of one round or of several have come out. -/
structure Tally where
  /-- How many were granted. -/
  granted : Nat
  /-- How many were refused because another session holds the resource. -/
  busy : Nat
  deriving DecidableEq, Repr

namespace Tally

/-- No reservations. -/
def zero : Tally :=
  ⟨0, 0⟩

/-- The reservations of both. -/
def add (s t : Tally) : Tally :=
  ⟨s.granted + t.granted, s.busy + t.busy⟩

end Tally

/-- Why a race cannot be run, or what went wrong in one. -/
inductive StressFault where
  /-- There are no sessions or no rounds. -/
  | nothingToDo
  /-- There are no contexts for the reservations to follow. -/
  | noContexts
  /-- A session could not be opened, bound or closed. -/
  | session (e : Error)
  /-- A reservation failed for another reason than that the resource is held. -/
  | reservation (e : Error)
  /-- Reservations are left when all sessions are closed. -/
  | leftOver (count : Nat)
  /-- Another number of reservations was granted than there should be. -/
  | unexpected (round granted expected : Nat)
  deriving DecidableEq, Repr

namespace StressOptions

/-- How many sessions of a round get the resource. -/
def winners (o : StressOptions) : Nat :=
  if o.contextSwitched then min o.contexts o.sessions else 1

/-- The descriptors of the contexts. Their number has to fit into a descriptor; of a larger one the
low bits count, and a number that comes out negative leaves none. -/
def descriptors (o : StressOptions) : List Descriptor :=
  if o.contextSwitched then
    (List.range (Int32.ofNat o.contexts).toInt.toNat).map Int32.ofNat
  else []

/-- Whether a race can be run at all. -/
def check (o : StressOptions) : Except StressFault Unit :=
  if o.sessions = 0 ∨ o.rounds = 0 then .error .nothingToDo
  else if o.contextSwitched ∧ o.contexts = 0 then .error .noContexts
  else .ok ()

end StressOptions

namespace Stress

/-- Creates a context behind each descriptor. -/
def createContexts (fds : List Descriptor) (e : Engine) : Engine :=
  fds.foldl (fun e fd => (e.createContext fd).2) e

/-- Opens sessions and tells each about its context, the one whose turn it is. -/
def openSessions (fds : List Descriptor) :
    (left turn : Nat) → Engine → Except StressFault (List Handle × Engine)
  | 0, _, e => .ok ([], e)
  | left + 1, turn, e =>
    match e.openSession .device with
    | (.error err, _) => .error (.session err)
    | (.ok h, e) =>
      match e.bindContext h fds[turn % fds.length]? with
      | (.error err, _) => .error (.session err)
      | (.ok (), e) => (openSessions fds left (turn + 1) e).map fun (hs, e) => (h :: hs, e)

/-- Has sessions reserve the resource, one after the other. -/
def reserveAll (r : Resource) (contextSwitched : Bool) :
    List Handle → Tally → Engine → Except StressFault (Tally × Engine)
  | [], t, e => .ok (t, e)
  | h :: hs, t, e =>
    match e.reserve h r contextSwitched with
    | (.ok _, e) => reserveAll r contextSwitched hs { t with granted := t.granted + 1 } e
    | (.error (.resourceBusy _ _), e) =>
      reserveAll r contextSwitched hs { t with busy := t.busy + 1 } e
    | (.error err, _) => .error (.reservation err)

/-- Closes sessions. -/
def closeSessions : List Handle → Engine → Except StressFault Engine
  | [], e => .ok e
  | h :: hs, e =>
    match e.close h with
    | (.ok (), e) => closeSessions hs e
    | (.error err, _) => .error (.session err)

/-- A round in which the reservations take effect in the given order. -/
def race (o : StressOptions) (fds : List Descriptor) (order : List Handle → List Handle)
    (e : Engine) : Except StressFault (Tally × Engine) := do
  let (hs, e) ← openSessions fds o.sessions 0 e
  let (tally, e) ← reserveAll o.resource o.contextSwitched (order hs) .zero e
  let e ← closeSessions hs e
  match (e.device.reservations.holders o.resource).length with
  | 0 => return (tally, e)
  | n + 1 => .error (.leftOver (n + 1))

/-- Rounds from a number on; each must grant as many reservations as there are winners. -/
def raceAll (o : StressOptions) (fds : List Descriptor) (order : Nat → List Handle → List Handle) :
    (left round : Nat) → Tally → Engine → Except StressFault (Tally × Engine)
  | 0, _, total, e => .ok (total, e)
  | left + 1, round, total, e =>
    match race o fds (order round) e with
    | .error fault => .error fault
    | .ok (tally, e) =>
      if tally.granted = o.winners then raceAll o fds order left (round + 1) (total.add tally) e
      else .error (.unexpected round tally.granted o.winners)

/-- All rounds on an engine: what they have come to together, and the engine afterwards. -/
def run (o : StressOptions) (order : Nat → List Handle → List Handle) (e : Engine) :
    Except StressFault (Tally × Engine) :=
  raceAll o o.descriptors order o.rounds 0 .zero (createContexts o.descriptors e)

end Stress

end Perfmon
