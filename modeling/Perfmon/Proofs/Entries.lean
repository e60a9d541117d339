import Perfmon.Proofs.Bookkeeping
/-!
# What a call enters in the trail

The roster says which sessions are open and who holds which resource. A direct call is answered,
leaves a roster and enters events in the trail, and these belong together: `Booked` lists what can
be. Three entries are made where the roster stays as it was: when a session asks again for what it
holds, when it is denied a resource, and when it gives up what it does not hold. A session that goes
gives up what the table says it holds, and the trail names just that (`Booked.closed`), unless its
end was disturbed (`Booked.stranded`).
-/

namespace Perfmon

/-! ## Operations of a session -/

namespace Session

theorem bindPm_table (s : Session) (contexts : ContextRegistry) (x : Executor) :
    (s.bindPm contexts x).2.2.device.reservations = x.device.reservations := by
  rcases s.bindPm_cases contexts x with ⟨result, x', hi, hx⟩ | ⟨-, -, -, -, hx⟩
  · rw [hx, hi.device]
  · rw [hx]

theorem unbindPm_table (s : Session) (x : Executor) :
    (s.unbindPm x).2.2.device.reservations = x.device.reservations := by
  rcases s.unbindPm_cases x with ⟨result, x', hi, hx⟩ | ⟨-, hx⟩
  · rw [hx, hi.device]
  · rw [hx]

/-- A session that goes gives up what it holds and says so, or its end was disturbed and the table
stays as it was. -/
theorem teardown_table (s : Session) (x : Executor) :
    ((s.teardown x).1 = x.device.reservations.heldBy s.handle ∧
      (s.teardown x).2.device.reservations = (x.device.reservations.releaseAll s.handle).2) ∨
    (x.armed ≠ [] ∧ (s.teardown x).1 = [] ∧
      (s.teardown x).2.device.reservations = x.device.reservations) := by
  obtain ⟨unbound, hu, hd⟩ := s.closeWindows_cases x
  rw [teardown]
  unfold giveUpAll
  rcases (s.closeWindows x).releaseAll_cases s.handle with ⟨ha, err, hx⟩ | hx
  · rw [hx]
    refine Or.inr ⟨fun hq => ha (hu hq).2, rfl, ?_⟩
    rw [show ((s.closeWindows x).pass .releaseAll).device = _ from hd]
  · rw [hx, hd]
    exact Or.inl ⟨rfl, rfl⟩

end Session

/-! ## The roster -/

/-- Which sessions are open, and who holds which resource. -/
structure Roster where
  /-- The sessions that are open. -/
  isOpen : Handle → Bool
  /-- Who holds which resource. -/
  table : ReservationTable

namespace Roster

/-- The roster with one more open session. -/
def enroll (ro : Roster) (h : Handle) : Roster :=
  { ro with isOpen := fun k => k == h || ro.isOpen k }

/-- The roster with one open session less. -/
def dismiss (ro : Roster) (h : Handle) : Roster :=
  { ro with isOpen := fun k => k != h && ro.isOpen k }

/-- An open session holds a resource in a mode. -/
def Holds (ro : Roster) (r : Resource) (h : Handle) (mode : ReservationMode) : Prop :=
  ro.isOpen h = true ∧ ro.table.modeOf? r h = some mode

end Roster

namespace Engine

/-- The roster of an engine. -/
def roster (e : Engine) : Roster :=
  ⟨e.sessions.contains, e.device.reservations⟩

/-- The answer to a direct call, the roster behind it, and what it has entered in the trail. -/
inductive Booked (e : Engine) : Call → Reply → Roster → List AuditEvent → Prop
  /-- Nothing has happened that is worth an entry. -/
  | silent {c : Call} {reply : Reply} : Booked e c reply e.roster []
  /-- A session was opened. -/
  | opened (scope : Scope) :
      Booked e (.openSession scope) (.opened (.ok ⟨e.nextHandle⟩)) (e.roster.enroll ⟨e.nextHandle⟩)
        [.sessionOpened ⟨e.nextHandle⟩ scope]
  /-- A session has become a holder of a resource, in the mode for which it went to the device. -/
  | granted {h : Handle} {s : Session} {r : Resource} {contextSwitched : Bool}
      {mode : ReservationMode} (hs : e.sessions.find? h = some s)
      (hc : s.checkReserve e.device.capabilities r contextSwitched = .ok mode)
      (hm : e.roster.table.modeOf? r h = none) :
      Booked e (.reserve h r contextSwitched) (.reserved (.ok (.ofMode mode)))
        { e.roster with table := e.roster.table.enter r h mode }
        [.granted h r mode.isContextSwitched]
  /-- A session was a holder of the resource already. -/
  | already {h : Handle} {r : Resource} {contextSwitched : Bool} {held : ReservationMode}
      (hm : e.roster.table.modeOf? r h = some held) :
      Booked e (.reserve h r contextSwitched) (.reserved (.ok (.ofMode held))) e.roster
        [.granted h r held.isContextSwitched]
  /-- A session was denied a resource. -/
  | denied {h : Handle} {r : Resource} {contextSwitched : Bool} (err : Error) :
      Booked e (.reserve h r contextSwitched) (.reserved (.error err)) e.roster
        [.denied h r err.message]
  /-- A session has given up a resource, or did not hold it. -/
  | released {h : Handle} {r : Resource} :
      Booked e (.release h r) (.done (.ok ()))
        { e.roster with table := (e.roster.table.release r h).2 } [.released h r]
  /-- A session has gone with everything that it held. -/
  | closed {h : Handle} (ho : e.sessions.contains h = true) :
      Booked e (.close h) (.done (.ok ()))
        { e.roster.dismiss h with table := (e.roster.table.releaseAll h).2 }
        ((e.roster.table.heldBy h).map (.released h)
          ++ [.sessionClosed h (e.roster.table.heldBy h).length])
  /-- A session has gone and has left behind what it held. -/
  | stranded {h : Handle} (hq : e.executor.armed ≠ []) :
      Booked e (.close h) (.done (.ok ())) (e.roster.dismiss h) [.sessionClosed h 0]

/-- What comes of a direct call, and what it has entered in the trail. -/
def BookedBy (e : Engine) (c : Call) (out : Reply × Engine) : Prop :=
  ∃ events, out.2.trail = e.trail.recordAll events ∧ Booked e c out.1 out.2.roster events

variable {e : Engine} {h : Handle} {s : Session} {c : Call}

theorem BookedBy.silent {out : Reply × Engine} (ht : out.2.trail = e.trail)
    (hr : out.2.roster = e.roster) : BookedBy e c out := by
  refine ⟨[], ht, ?_⟩
  rw [hr]
  exact .silent

/-- Working on an open session opens none and closes none. -/
theorem contains_insert (hs : e.sessions.find? h = some s) (s' : Session) :
    (e.sessions.insert h s').contains = e.sessions.contains := by
  funext k
  unfold Assoc.contains
  rw [Assoc.find?_insert]
  split
  · rename_i hk
    rw [hk, hs]
    rfl
  · rfl

theorem openSession_booked (e : Engine) (scope : Scope) :
    BookedBy e (.openSession scope) (e.perform (.openSession scope)) := by
  show BookedBy e _ (.opened (e.openSession scope).1, (e.openSession scope).2)
  rcases e.openSession_cases scope with ⟨err, ho⟩ | ⟨staging, metrics, -, ho⟩
  · rw [ho]
    exact .silent rfl rfl
  · rw [ho]
    refine ⟨[.sessionOpened ⟨e.nextHandle⟩ scope], rfl, ?_⟩
    have hopen : (e.sessions.insert ⟨e.nextHandle⟩ (.new ⟨e.nextHandle⟩ scope staging)).contains
        = (e.roster.enroll ⟨e.nextHandle⟩).isOpen := by
      funext k
      simp only [Assoc.contains, Assoc.find?_insert, roster, Roster.enroll]
      by_cases hk : k = ⟨e.nextHandle⟩ <;> simp [hk]
    dsimp only [roster, device] at hopen ⊢
    rw [hopen]
    exact .opened scope

theorem close_booked (hk : s.handle = h) (hs : e.sessions.find? h = some s) :
    BookedBy e (.close h) (e.perform (.close h)) := by
  have ho : e.sessions.contains h = true := by simp [Assoc.contains, hs]
  have hc : (e.sessions.erase h).contains = (e.roster.dismiss h).isOpen := by
    funext k
    simp only [Assoc.contains, Assoc.find?_erase, roster, Roster.dismiss]
    by_cases hk : k = h <;> simp [hk]
  have htable := s.teardown_table e.executor
  rw [hk] at htable
  rw [perform]
  unfold close
  rw [hs]
  refine ⟨_, rfl, ?_⟩
  dsimp only [roster, device] at hc ⊢
  rcases htable with ⟨hfreed, ht⟩ | ⟨ha, hfreed, ht⟩
  · rw [hc, hfreed, ht]
    exact .closed ho
  · rw [hc, hfreed, ht]
    exact .stranded ha

theorem reserve_booked (hk : s.handle = h) (hs : e.sessions.find? h = some s) (r : Resource)
    (contextSwitched : Bool) :
    BookedBy e (.reserve h r contextSwitched) (e.perform (.reserve h r contextSwitched)) := by
  have hopen : (!e.sessions.contains h) = false := by simp [Assoc.contains, hs]
  simp only [perform, reserve, hopen, Bool.false_eq_true, if_false, withSession_of_open hs]
  subst hk
  rcases s.reserve_cases e.executor r contextSwitched with
    ⟨err, x', hi, hx⟩ | ⟨mode, hc, ⟨held, hm, hx⟩ | ⟨hm, -, hx⟩⟩
  · rw [hx]
    refine ⟨[.denied s.handle r err.message], rfl, ?_⟩
    dsimp only [roster, device, audit]
    rw [contains_insert hs, hi.device]
    exact .denied err
  · rw [hx]
    refine ⟨[.granted s.handle r held.isContextSwitched], rfl, ?_⟩
    dsimp only [roster, device, audit]
    rw [contains_insert hs]
    exact .already hm
  · rw [hx]
    refine ⟨[.granted s.handle r mode.isContextSwitched], rfl, ?_⟩
    dsimp only [roster, device, audit]
    rw [contains_insert hs]
    exact .granted hs hc hm

theorem release_booked (hk : s.handle = h) (hs : e.sessions.find? h = some s) (r : Resource) :
    BookedBy e (.release h r) (e.perform (.release h r)) := by
  simp only [perform, release, withSession_of_open hs]
  subst hk
  rcases s.release_cases e.executor r with ⟨err, x', hi, hx⟩ | ⟨-, hx⟩
  · rw [hx]
    refine .silent rfl ?_
    dsimp only [roster, device]
    rw [contains_insert hs, hi.device]
  · rw [hx]
    refine ⟨[.released s.handle r], rfl, ?_⟩
    dsimp only [roster, device, audit]
    rw [contains_insert hs]
    exact .released

/-- An operation that leaves the table alone is not worth an entry. -/
theorem withSession_silent {α : Type} (hs : e.sessions.find? h = some s)
    {f : Session → Executor → Except Error α × Session × Executor}
    (hf : (f s e.executor).2.2.device.reservations = e.device.reservations) :
    (e.withSession h f).2.trail = e.trail ∧ (e.withSession h f).2.roster = e.roster := by
  rw [withSession_of_open hs]
  refine ⟨rfl, ?_⟩
  dsimp only [roster, device] at hf ⊢
  rw [contains_insert hs, hf]

/-- **What comes of a direct call** goes with what it has entered in the trail. -/
theorem perform_booked (hkey : ∀ h s, e.sessions.find? h = some s → s.handle = h)
    (hd : c.isRequest = false) : BookedBy e c (e.perform c) := by
  cases ht : c.target? with
  | none =>
    cases c with
    | openSession scope => exact openSession_booked e scope
    | createContext | destroyContext | poke | injectFault | clearFaults | armPowerFailure
      | armFailure => exact .silent rfl rfl
    | _ => cases ht
  | some h =>
    cases hs : e.sessions.find? h with
    | none =>
      rw [perform_of_not_open hs ht hd]
      exact .silent rfl rfl
    | some s =>
      have hk := hkey h s hs
      cases c with
      | close k =>
        cases ht
        exact close_booked hk hs
      | reserve k r contextSwitched =>
        cases ht
        exact reserve_booked hk hs r contextSwitched
      | release k r =>
        cases ht
        exact release_booked hk hs r
      | bindContext k fd =>
        cases ht
        have hsilent : (e.bindContext h fd).2.trail = e.trail ∧
            (e.bindContext h fd).2.roster = e.roster :=
          withSession_silent hs (by cases s.bindContext e.contexts fd <;> rfl)
        exact .silent hsilent.1 hsilent.2
      | unbindContext k =>
        cases ht
        obtain ⟨htrail, hroster⟩ := withSession_silent hs (f := fun s x =>
          (.ok (), s.unbindContext, x)) rfl
        exact .silent htrail hroster
      | bindPm k =>
        cases ht
        obtain ⟨htrail, hroster⟩ := withSession_silent hs (f := fun s x => s.bindPm e.contexts x)
          (s.bindPm_table e.contexts e.executor)
        exact .silent htrail hroster
      | unbindPm k =>
        cases ht
        obtain ⟨htrail, hroster⟩ := withSession_silent hs (f := fun s x => s.unbindPm x)
          (s.unbindPm_table e.executor)
        exact .silent htrail hroster
      | info => exact .silent rfl rfl
      | execute k buffer count mode =>
        cases ht
        obtain ⟨staging, x', metrics, power, hx, he⟩ := execute_touched hs buffer count mode
        have hp : (e.perform (.execute h buffer count mode)).2 = _ := he
        refine .silent (by rw [hp]) ?_
        rw [hp]
        dsimp only [roster, device]
        rw [contains_insert hs, hx.device.reservations]
      | control => cases hd
      | openSession | createContext | destroyContext | poke | injectFault | clearFaults
        | armPowerFailure | armFailure => cases ht

/-- **What any call has entered in the trail:** nothing, if it is refused for what it says, and
otherwise what the direct call enters to which it comes. -/
theorem perform_entries (hkey : ∀ h s, e.sessions.find? h = some s → s.handle = h) (c : Call) :
    ∃ events, (e.perform c).2.trail = e.trail.recordAll events ∧
      (events = [] ∧ (e.perform c).2.roster = e.roster ∨
        ∃ d, e.asDirect? c = some d ∧ d.target? = c.target? ∧
          (e.perform c).1.error? = (e.perform d).1.error? ∧
          Booked e d (e.perform d).1 (e.perform c).2.roster events) := by
  rcases e.perform_cases c with ⟨-, -, metrics, hc⟩ | ⟨d, had, hd, ht, herr, metrics, hc⟩
  · rw [hc]
    exact ⟨[], rfl, Or.inl ⟨rfl, rfl⟩⟩
  · obtain ⟨events, htrail, hb⟩ := perform_booked hkey hd
    rw [hc]
    exact ⟨events, htrail, Or.inr ⟨d, had, ht, herr, hb⟩⟩

/-- An entry is about the session to which the call is addressed, or says that one was opened. -/
theorem Booked.about {reply : Reply} {ro : Roster} {events : List AuditEvent}
    (hb : Booked e c reply ro events) {ev : AuditEvent} (hev : ev ∈ events) :
    c.target? = some ev.session ∨ ∃ scope, ev = .sessionOpened ev.session scope := by
  cases hb with
  | silent => cases hev
  | opened scope =>
    rw [List.mem_singleton.mp hev]
    exact Or.inr ⟨scope, rfl⟩
  | granted | already | denied | released | stranded =>
    rw [List.mem_singleton.mp hev]
    exact Or.inl rfl
  | closed =>
    rcases List.mem_append.mp hev with hev | hev
    · obtain ⟨r, -, rfl⟩ := List.mem_map.mp hev
      exact Or.inl rfl
    · rw [List.mem_singleton.mp hev]
      exact Or.inl rfl

/-- What the last call of a run has entered in the trail. -/
theorem Run.entries {allowed : Call → Prop} {config : Config} {start : Engine} {calls : List Call}
    (hr : Run allowed config start (calls ++ [c])) :
    ∃ events, (start.performAll (calls ++ [c])).trail
        = (start.performAll calls).trail.recordAll events ∧
      (events = [] ∧ (start.performAll (calls ++ [c])).roster = (start.performAll calls).roster ∨
        ∃ d, (start.performAll calls).asDirect? c = some d ∧ d.target? = c.target? ∧
          ((start.performAll calls).perform c).1.error?
            = ((start.performAll calls).perform d).1.error? ∧
          Booked (start.performAll calls) d ((start.performAll calls).perform d).1
            (start.performAll (calls ++ [c])).roster events) := by
  rw [performAll_concat]
  exact perform_entries (fun _ _ hs => (ReachedBy.settled hr.of_append.reached hs).1) c

end Engine

end Perfmon
