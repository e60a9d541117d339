import Perfmon.Proofs.Entries
import Perfmon.Proofs.Granting
/-!
# Modes are fixed while they are held

The mode of a reservation is chosen once, by the call that makes the session a holder
(`Engine.Grants`), from the context that the session has at that time. Whatever the session is told
about contexts afterwards, and however it asks for the resource again, the table answers with what
it has, and the session writes down the answer. So a reservation keeps its mode until the session
gives the resource up or is closed (`Booked.holds`), and every entry of the table goes back to a
grant behind which it has not changed (`Run.granted`).
-/

namespace Perfmon.Engine

variable {e : Engine} {h : Handle} {r : Resource} {mode : ReservationMode} {c d : Call}
  {reply : Reply} {ro : Roster} {events : List AuditEvent}

/-! ## One call -/

/-- A call by which a session gives a resource up: it is closed, or releases the resource, and is
not refused. -/
def GivesUp (e : Engine) (h : Handle) (r : Resource) (c : Call) : Prop :=
  c = .close h ∨ e.asDirect? c = some (.release h r) ∧ (e.perform c).1.error? = none

/-- No call of a run is one by which a session gives a resource up. -/
def Keeps (e : Engine) (h : Handle) (r : Resource) : List Call → Prop
  | [] => True
  | c :: cs => ¬e.GivesUp h r c ∧ (e.perform c).2.Keeps h r cs

/-- A call by which an open session that does not hold a resource asks for it and becomes a holder
of it, in the mode that stands for what it asks for. -/
structure Grants (e : Engine) (c : Call) (r : Resource) (h : Handle) (mode : ReservationMode) :
    Prop where
  asks : ∃ s contextSwitched, e.sessions.find? h = some s ∧
    e.asDirect? c = some (.reserve h r contextSwitched) ∧
    s.checkReserve e.device.capabilities r contextSwitched = .ok mode
  answer : (e.perform c).1.error? = none
  fresh : e.device.reservations.modeOf? r h = none
  held : (e.perform c).2.device.reservations.modeOf? r h = some mode

/-- **A holder stays one in the same mode** unless it gives the resource up. -/
theorem Booked.holds (hb : Booked e d reply ro events) (hh : e.roster.Holds r h mode)
    (hclose : d ≠ .close h) (hrelease : d = .release h r → reply.error? ≠ none) :
    ro.Holds r h mode := by
  obtain ⟨hopen, hmode⟩ := hh
  cases hb with
  | silent | already | denied => exact ⟨hopen, hmode⟩
  | opened => exact ⟨by simp [Roster.enroll, hopen], hmode⟩
  | granted hs hc hm =>
    refine ⟨hopen, ?_⟩
    dsimp only
    -- Who is entered did not hold the resource, so it is somebody else, or something else.
    rw [ReservationTable.modeOf?_enter hm, if_neg, hmode]
    rintro ⟨rfl, rfl⟩
    cases hm.symm.trans hmode
  | released =>
    refine ⟨hopen, ?_⟩
    dsimp only
    rw [ReservationTable.modeOf?_release, if_neg, hmode]
    rintro ⟨rfl, rfl⟩
    exact hrelease rfl rfl
  | @closed k =>
    have hk : h ≠ k := fun hk => hclose (hk ▸ rfl)
    refine ⟨by simp [Roster.dismiss, hopen, hk], ?_⟩
    dsimp only
    rw [ReservationTable.modeOf?_releaseAll, if_neg hk, hmode]
  | @stranded k =>
    have hk : h ≠ k := fun hk => hclose (hk ▸ rfl)
    exact ⟨by simp [Roster.dismiss, hopen, hk], hmode⟩

/-- What the table has behind a call was there before, or has been granted by the call. -/
theorem Booked.granted_or_old (hb : Booked e d reply ro events)
    (hmode : ro.table.modeOf? r h = some mode) :
    e.roster.table.modeOf? r h = some mode ∨
      ∃ s contextSwitched, e.sessions.find? h = some s ∧ d = .reserve h r contextSwitched ∧
        s.checkReserve e.device.capabilities r contextSwitched = .ok mode ∧
        reply.error? = none ∧ e.roster.table.modeOf? r h = none := by
  cases hb with
  | silent | opened | already | denied | stranded => exact Or.inl hmode
  | granted hs hc hm =>
    dsimp only at hmode
    rw [ReservationTable.modeOf?_enter hm] at hmode
    split at hmode
    · rename_i hrh
      obtain ⟨rfl, rfl⟩ := hrh
      cases hmode
      exact Or.inr ⟨_, _, hs, rfl, hc, rfl, hm⟩
    · exact Or.inl hmode
  | released =>
    dsimp only at hmode
    rw [ReservationTable.modeOf?_release] at hmode
    split at hmode
    · cases hmode
    · exact Or.inl hmode
  | closed =>
    dsimp only at hmode
    rw [ReservationTable.modeOf?_releaseAll] at hmode
    split at hmode
    · cases hmode
    · exact Or.inl hmode

/-- A session that holds a resource and asks for it again is told how it holds it. -/
theorem reserve_again {s : Session} (hs : e.sessions.find? h = some s) (hk : s.handle = h)
    (hmode : e.device.reservations.modeOf? r h = some mode) {contextSwitched : Bool}
    {held : Reserved} (hheld : (e.reserve h r contextSwitched).1 = .ok held) :
    held = .ofMode mode := by
  obtain ⟨metrics, trail, hx⟩ := reserve_of_open hs r contextSwitched
  rw [hx] at hheld
  subst hk
  rcases s.reserve_cases e.executor r contextSwitched with
    ⟨err, x', -, hx⟩ | ⟨asked, -, ⟨own, hm, hx⟩ | ⟨hm, -⟩⟩
  · rw [hx] at hheld
    cases hheld
  · obtain rfl : own = mode := Option.some.inj (hm.symm.trans hmode)
    rw [hx] at hheld
    cases hheld
    rfl
  · cases hm.symm.trans hmode

/-! ## Runs -/

variable {allowed : Call → Prop} {config : Config} {start : Engine}
  {calls before later : List Call}

theorem ReachedBy.heldBy_iff_holds (he : ReachedBy allowed config e) :
    e.HeldBy r h mode ↔ e.roster.Holds r h mode :=
  and_congr_right fun _ => (ReservationTable.modeOf?_eq_some_iff he.wellFormed).symm

/-- What stays while a call does not give it up, stays along a run that does not. -/
theorem Run.holds (hr : Run allowed config start (before ++ later))
    (hh : (start.performAll before).roster.Holds r h mode)
    (hkeeps : (start.performAll before).Keeps h r later) :
    (start.performAll (before ++ later)).roster.Holds r h mode := by
  induction later generalizing before with
  | nil => rwa [List.append_nil]
  | cons c later ih =>
    obtain ⟨hkeep, hkeeps⟩ := hkeeps
    rw [List.append_cons] at hr ⊢
    rw [← performAll_concat] at hkeeps
    refine ih hr ?_ hkeeps
    obtain ⟨events, -, ⟨-, hro⟩ | ⟨d, hd, -, herr, hb⟩⟩ := hr.of_append.entries
    · rwa [hro]
    · refine hb.holds hh ?_ ?_
      · rintro rfl
        exact hkeep (Or.inl (eq_close_of_asDirect? hd))
      · rintro rfl hok
        exact hkeep (Or.inr ⟨hd, herr.trans hok⟩)

/-- A session was granted a resource in a mode at some point of a run, and the table has had it in
this mode ever since. -/
def GrantedSince (start : Engine) (calls : List Call) (r : Resource) (h : Handle)
    (mode : ReservationMode) : Prop :=
  ∃ past c rest, calls = past ++ c :: rest ∧ (start.performAll past).Grants c r h mode ∧
    ∀ mid, mid <+: rest →
      (start.performAll (past ++ c :: mid)).device.reservations.modeOf? r h = some mode

theorem GrantedSince.concat (hg : GrantedSince start calls r h mode)
    (hmode : (start.performAll (calls ++ [c])).device.reservations.modeOf? r h = some mode) :
    GrantedSince start (calls ++ [c]) r h mode := by
  obtain ⟨past, g, rest, rfl, hg, hsince⟩ := hg
  refine ⟨past, g, rest ++ [c], by simp, hg, fun mid hmid => ?_⟩
  rcases List.prefix_concat_iff.mp hmid with rfl | hmid
  · rwa [List.append_assoc, List.cons_append] at hmode
  · exact hsince mid hmid

/-- **Every entry of the table goes back to a grant,** since which it has been there unchanged. -/
theorem Run.granted (hr : Run allowed config start calls)
    (hmode : (start.performAll calls).device.reservations.modeOf? r h = some mode) :
    GrantedSince start calls r h mode := by
  revert hmode
  refine hr.induction (motive := fun calls =>
    (start.performAll calls).device.reservations.modeOf? r h = some mode →
      GrantedSince start calls r h mode) ?_ ?_
  · obtain ⟨memory, rfl⟩ := hr.eq_fresh
    intro hmode
    cases (ReservationTable.modeOf?_empty (r := r) (s := h)).symm.trans hmode
  · intro cs c hr ih hmode
    -- Either the entry was there before this call, or this call is the grant.
    have hnew : (start.performAll cs).device.reservations.modeOf? r h = some mode ∨
        (start.performAll cs).Grants c r h mode := by
      obtain ⟨events, -, ⟨-, hro⟩ | ⟨d, hd, -, herr, hb⟩⟩ := hr.entries
      · rw [← show _ = (start.performAll cs).device.reservations from congrArg Roster.table hro]
        exact Or.inl hmode
      · rcases hb.granted_or_old hmode with
          hold | ⟨s, contextSwitched, hs, rfl, hc, hok, hm⟩
        · exact Or.inl hold
        · rw [performAll_concat] at hmode
          exact Or.inr ⟨⟨s, contextSwitched, hs, hd, hc⟩, herr.trans hok, hm, hmode⟩
    rcases hnew with hold | hgrants
    · exact (ih hold).concat hmode
    · refine ⟨cs, c, [], rfl, hgrants, fun mid hmid => ?_⟩
      rwa [List.prefix_nil.mp hmid]

/-- **A reservation keeps its mode from the grant on until it is given up.** If an open session
holds a resource in a mode at some point of a run, then it was granted the resource in this mode,
and since then nothing has changed about it. And as long as no call gives the resource up, whatever
else happens, the session holds it in this mode and in no other one; what it has written down of it
is this mode with its context; and when it asks again and is not refused, it is told this mode. -/
theorem mode_fixed_until_given_up (hr : Run (fun _ => True) config start (before ++ later))
    (hheld : (start.performAll before).HeldBy r h mode)
    (hkeeps : (start.performAll before).Keeps h r later) :
    GrantedSince start before r h mode ∧
    (∀ other, (start.performAll (before ++ later)).HeldBy r h other ↔ other = mode) ∧
    (∃ s, (start.performAll (before ++ later)).sessions.find? h = some s ∧
      s.reservations.get r = some ⟨mode.isContextSwitched⟩ ∧
      s.reservedFor.get r = mode.context?) ∧
    ∀ contextSwitched held,
      ((start.performAll (before ++ later)).reserve h r contextSwitched).1 = .ok held →
        held = ⟨mode.isContextSwitched⟩ := by
  have he := hr.reached
  have hold := (ReachedBy.heldBy_iff_holds hr.of_append.reached).mp hheld
  obtain ⟨hopen, hmode⟩ := hr.holds hold hkeeps
  obtain ⟨s, hs⟩ : ∃ s, (start.performAll (before ++ later)).sessions.find? h = some s :=
    Option.isSome_iff_exists.mp hopen
  obtain ⟨hk, hset⟩ := ReachedBy.settled he hs
  refine ⟨hr.of_append.granted hold.2, fun other => ?_, ⟨s, hs, ?_, ?_⟩, fun cs held hok => ?_⟩
  · rw [ReachedBy.heldBy_iff_holds he]
    constructor
    · rintro ⟨-, hother⟩
      exact Option.some.inj (hother.symm.trans hmode)
    · rintro rfl
      exact ⟨hopen, hmode⟩
  · rw [hset.reservations, hk]
    exact congrArg (Option.map Reserved.ofMode) hmode
  · rw [hset.reservedFor, hk]
    exact congrArg (Option.bind · (·.context?)) hmode
  · exact reserve_again hs hk hmode hok

/-- A run in which a session reserves counters for its context. -/
def grantingRun : List Call :=
  [.createContext 3, .openSession .device, .bindContext ⟨1⟩ (some 3),
    .reserve ⟨1⟩ .hwpmLegacy true]

/-- It is in vain that the session tries to give the counters up while its windows are open, and
then the descriptor of its context comes to stand for another one, to which the session moves. -/
def movingRun : List Call :=
  [.bindPm ⟨1⟩, .release ⟨1⟩ .hwpmLegacy, .unbindPm ⟨1⟩, .unbindContext ⟨1⟩, .createContext 3,
    .bindContext ⟨1⟩ (some 3), .reserve ⟨1⟩ .hwpmLegacy false, .openSession .context,
    .bindContext ⟨2⟩ (some 3), .reserve ⟨2⟩ .hwpmLegacy false, .release ⟨2⟩ .hwpmLegacy,
    .destroyContext 3]

theorem mode_fixed_until_given_up_of_moved_session :
    ((small (grantingRun ++ movingRun)).sessions.find? ⟨1⟩).map (·.binding)
        = some (.context ⟨2⟩) ∧
      (small (grantingRun ++ movingRun)).HeldBy .hwpmLegacy ⟨1⟩ (.contextSwitched ⟨1⟩) ∧
      ((small (grantingRun ++ movingRun)).reserve ⟨1⟩ .hwpmLegacy false).1 = .ok ⟨true⟩ := by
  have hr : Run (fun _ => True) .small (fresh .small) (grantingRun ++ movingRun) :=
    run_small (fun _ _ => trivial) (by decide)
  have hkeeps : (small grantingRun).Keeps ⟨1⟩ .hwpmLegacy movingRun := by
    have hrefused : (((small grantingRun).perform (.bindPm ⟨1⟩)).2.perform
        (.release ⟨1⟩ .hwpmLegacy)).1.error? = some Session.reservationsFrozen := rfl
    simp [Keeps, GivesUp, movingRun, asDirect?, hrefused]
  have hgranted : (small grantingRun).HeldBy .hwpmLegacy ⟨1⟩ (.contextSwitched ⟨1⟩) := by decide
  obtain ⟨-, hheld, -, hagain⟩ := mode_fixed_until_given_up hr hgranted hkeeps
  refine ⟨rfl, (hheld _).mpr rfl, ?_⟩
  cases hx : ((small (grantingRun ++ movingRun)).reserve ⟨1⟩ .hwpmLegacy false).1 with
  | error err => cases hx
  | ok held => rw [hagain false held hx]; rfl

end Perfmon.Engine
