import Perfmon.Error
/-!
# The reservation table

Who holds which resource. A global reservation is exclusive. A context-switched one is saved and
restored together with its context, so several of them live side by side as long as their contexts
differ.

The table keeps the holders of each resource in the order in which they were granted, and nothing
else; a refusal names the oldest holder that stands in the way.
-/

namespace Perfmon

/-- How a reservation is held. -/
inductive ReservationMode where
  /-- By the whole device, whatever context runs. -/
  | global
  /-- Together with one context. -/
  | contextSwitched (ctx : ContextId)
  deriving DecidableEq, Repr

namespace ReservationMode

/-- Whether the reservation follows a context. -/
def isContextSwitched : ReservationMode → Bool
  | .global => false
  | .contextSwitched _ => true

/-- The context that the reservation follows. -/
def context? : ReservationMode → Option ContextId
  | .global => none
  | .contextSwitched ctx => some ctx

instance : ToString ReservationMode where
  toString
    | .global => "global"
    | .contextSwitched ctx => s!"ctxsw({ctx})"

/-- Whether two sessions cannot hold one resource in these modes at the same time. -/
def conflicts : ReservationMode → ReservationMode → Bool
  | .contextSwitched a, .contextSwitched b => a == b
  | _, _ => true

theorem conflicts_comm (a b : ReservationMode) : a.conflicts b = b.conflicts a := by
  cases a <;> cases b <;> simp [conflicts, Bool.beq_comm]

end ReservationMode

/-- A session that holds a resource. -/
structure Holder where
  /-- The session. -/
  session : Handle
  /-- How it holds the resource. -/
  mode : ReservationMode
  deriving DecidableEq, Repr

/-- A reservation that was refused, and the holder in its way. -/
structure Conflict where
  /-- The resource that was asked for. -/
  resource : Resource
  /-- The oldest holder in the way. -/
  holder : Holder
  deriving DecidableEq, Repr

namespace Conflict

/-- The text of a refusal. -/
def message (c : Conflict) : String :=
  s!"{c.resource} held by session {c.holder.session} in {c.holder.mode} mode"

/-- The refusal as an error of a session. -/
def toError (c : Conflict) : Error :=
  .resourceBusy c.resource c.message

end Conflict

/-- What a reservation that was not refused amounts to. -/
inductive Grant where
  /-- The session holds the resource now, in the mode it asked for. -/
  | granted
  /-- The session held the resource before; the mode is the one it had. -/
  | alreadyHeld (mode : ReservationMode)
  deriving DecidableEq, Repr

/-- What a release amounts to. -/
inductive Release where
  /-- The session has given the resource up. -/
  | released
  /-- The session did not hold the resource. -/
  | notHeld
  deriving DecidableEq, Repr

/-- The holders of every resource, the oldest first. -/
structure ReservationTable where
  /-- The holders of each resource. -/
  entries : PerResource (List Holder)
  deriving DecidableEq, Repr

namespace ReservationTable

/-- The table without holders. -/
def empty : ReservationTable :=
  ⟨.const []⟩

/-- The holders of a resource, the oldest first. -/
def holders (t : ReservationTable) (r : Resource) : List Holder :=
  t.entries.get r

/-- The mode in which a session holds a resource. -/
def modeOf? (t : ReservationTable) (r : Resource) (s : Handle) : Option ReservationMode :=
  ((t.holders r).find? (·.session == s)).map (·.mode)

/-- Whether a session holds a resource. -/
def holds (t : ReservationTable) (r : Resource) (s : Handle) : Bool :=
  (t.holders r).any (·.session == s)

/-- The oldest holder in the way of a reservation. -/
def blocker? (t : ReservationTable) (r : Resource) (mode : ReservationMode) : Option Holder :=
  (t.holders r).find? (fun h => mode.conflicts h.mode)

/-- The table with a session entered as the last holder of a resource. -/
def enter (t : ReservationTable) (r : Resource) (s : Handle) (mode : ReservationMode) :
    ReservationTable :=
  ⟨t.entries.set r (t.holders r ++ [⟨s, mode⟩])⟩

/-- Reserves a resource. Asking again for what is held changes nothing; otherwise the session is
entered last, unless a holder is in the way. -/
def reserve (t : ReservationTable) (r : Resource) (s : Handle) (mode : ReservationMode) :
    Except Conflict Grant × ReservationTable :=
  match t.modeOf? r s with
  | some held => (.ok (.alreadyHeld held), t)
  | none =>
    match t.blocker? r mode with
    | some h => (.error ⟨r, h⟩, t)
    | none => (.ok .granted, t.enter r s mode)

/-- The holders of a resource without a session. -/
def without (t : ReservationTable) (r : Resource) (s : Handle) : List Holder :=
  (t.holders r).filter (·.session != s)

/-- Whether there are fewer holders of a resource without a session. -/
def loses (t : ReservationTable) (r : Resource) (s : Handle) : Bool :=
  decide ((t.without r s).length < (t.holders r).length)

/-- Gives up a resource, and says whether it was held. -/
def release (t : ReservationTable) (r : Resource) (s : Handle) : Release × ReservationTable :=
  (if t.loses r s then .released else .notHeld, ⟨t.entries.set r (t.without r s)⟩)

/-- Gives up every resource of a session, and says which those were, in their fixed order. -/
def releaseAll (t : ReservationTable) (s : Handle) : List Resource × ReservationTable :=
  (Resource.all.filter (t.loses · s), ⟨t.entries.map (·.filter (·.session != s))⟩)

/-- The resources that a session holds, in their fixed order. -/
def heldBy (t : ReservationTable) (s : Handle) : List Resource :=
  Resource.all.filter (t.holds · s)

@[simp] theorem holders_empty (r : Resource) : empty.holders r = [] := by
  simp [holders, empty]

/-- Tables with the same holders are the same. -/
theorem ext_holders {t u : ReservationTable} (h : ∀ r, t.holders r = u.holders r) : t = u := by
  cases t
  cases u
  congr
  exact PerResource.ext_get h

/-- A release leaves the holders of every other resource alone. -/
theorem holders_release (t : ReservationTable) (r q : Resource) (s : Handle) :
    (t.release r s).2.holders q = if q = r then t.without r s else t.holders q := by
  simp [release, holders, PerResource.get_set]

/-- A resource loses a holder when somebody gives it up who holds it. -/
theorem loses_eq_holds (t : ReservationTable) (r : Resource) (s : Handle) :
    t.loses r s = t.holds r s := by
  rw [Bool.eq_iff_iff, loses, holds, without, decide_eq_true_iff,
    List.length_filter_lt_length_iff_exists, List.any_eq_true]
  simp

theorem releaseAll_fst (t : ReservationTable) (s : Handle) : (t.releaseAll s).1 = t.heldBy s := by
  unfold releaseAll heldBy
  simp only [loses_eq_holds]

theorem holders_releaseAll (t : ReservationTable) (r : Resource) (s : Handle) :
    (t.releaseAll s).2.holders r = t.without r s := by
  simp [releaseAll, holders, without]

end ReservationTable

end Perfmon
