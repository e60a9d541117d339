import Perfmon.Proofs.Entries
import Perfmon.Proofs.Granting
/-!
# What the trail tells

The audit trail of an undisturbed run is enough to know which sessions are open and who holds which
resource. A session is open if it was opened and has not been closed since
(`AuditTrail.SaysOpen`); it holds a resource if the last that was granted or given up of it is a
grant (`AuditTrail.SaysHeld`), and the entry says whether the reservation follows a context. That
the two agree with the roster (`Roster.ToldBy`) is kept by every entry, also by those of sessions
that ask again for what they hold and give up what they do not hold.

When a session is closed, the trail has first one entry for each resource that it held, and before
these nothing about it since the last call that was addressed to it (`Engine.TakesLeave`).
-/

namespace Perfmon

/-! ## Events with none of another kind behind them -/

/-- There is an event of one kind, and none of another kind behind it. -/
def Standing (p q : AuditEvent → Prop) (events : List AuditEvent) : Prop :=
  ∃ before ev after, events = before ++ ev :: after ∧ p ev ∧ ∀ x ∈ after, ¬q x

section

variable {p q : AuditEvent → Prop} {es fs earlier later : List AuditEvent} {ev : AuditEvent}

/-- An event of two sequences is in the first one or in the second one. -/
theorem split_append (h : es ++ fs = earlier ++ ev :: later) :
    (∃ l, es = earlier ++ ev :: l ∧ later = l ++ fs) ∨
      ∃ l, earlier = es ++ l ∧ fs = l ++ ev :: later := by
  rcases List.append_eq_append_iff.mp h with ⟨l, he, hf⟩ | ⟨l, he, hf⟩
  · exact Or.inr ⟨l, he, hf⟩
  · cases l with
    | nil => exact Or.inr ⟨[], by simpa using he.symm, hf.symm⟩
    | cons x l =>
      obtain ⟨rfl, rfl⟩ := List.cons.inj hf
      exact Or.inl ⟨l, he, rfl⟩

theorem standing_append :
    Standing p q (es ++ fs) ↔ Standing p q fs ∨ Standing p q es ∧ ∀ x ∈ fs, ¬q x := by
  constructor
  · rintro ⟨before, ev, after, heq, hp, hq⟩
    rcases split_append heq with ⟨l, rfl, rfl⟩ | ⟨l, -, rfl⟩
    · rw [List.forall_mem_append] at hq
      exact Or.inr ⟨⟨before, ev, l, rfl, hp, hq.1⟩, hq.2⟩
    · exact Or.inl ⟨l, ev, after, rfl, hp, hq⟩
  · rintro (⟨before, ev, after, rfl, hp, hq⟩ | ⟨⟨before, ev, after, rfl, hp, hq⟩, hfs⟩)
    · exact ⟨es ++ before, ev, after, by simp, hp, hq⟩
    · exact ⟨before, ev, after ++ fs, by simp, hp, List.forall_mem_append.mpr ⟨hq, hfs⟩⟩

theorem not_standing_of_forall (hp : ∀ x ∈ fs, ¬p x) : ¬Standing p q fs := by
  rintro ⟨before, ev, after, rfl, hev, -⟩
  exact hp ev (by simp) hev

/-- Events of which none is of the kind that is looked for can only be in its way. -/
theorem standing_append_of_forall (hp : ∀ x ∈ fs, ¬p x) :
    Standing p q (es ++ fs) ↔ Standing p q es ∧ ∀ x ∈ fs, ¬q x := by
  rw [standing_append, or_iff_right (not_standing_of_forall hp)]

theorem standing_concat :
    Standing p q (es ++ [ev]) ↔ p ev ∨ Standing p q es ∧ ¬q ev := by
  have hlast : Standing p q [ev] ↔ p ev := by
    constructor
    · rintro ⟨before, x, after, heq, hx, -⟩
      rcases List.cons_eq_append_iff.mp heq with ⟨rfl, h⟩ | ⟨l, rfl, h⟩
      · rwa [← (List.cons.inj h).1]
      · simp at h
    · exact fun hp => ⟨[], ev, [], rfl, hp, by simp⟩
  rw [standing_append, hlast, List.forall_mem_singleton]

end

/-! ## Reading the trail -/

namespace AuditTrail

/-- A session was opened, and has not been closed since. -/
def SaysOpen (t : AuditTrail) (h : Handle) : Prop :=
  Standing (fun ev => ∃ scope, ev = .sessionOpened h scope) (fun ev => ∃ n, ev = .sessionClosed h n)
    t.events

/-- A resource was granted to a session in a mode of this kind, and has neither been granted to it
again nor been given up by it since. -/
def SaysHeld (t : AuditTrail) (r : Resource) (h : Handle) (contextSwitched : Bool) : Prop :=
  Standing (fun ev => ev = .granted h r contextSwitched)
    (fun ev => (∃ other, ev = .granted h r other) ∨ ev = .released h r) t.events

variable {t : AuditTrail} {h k : Handle} {r q : Resource} {c contextSwitched : Bool}
  {events : List AuditEvent}

theorem saysOpen_opened {scope : Scope} :
    (t.recordAll [.sessionOpened k scope]).SaysOpen h ↔ h = k ∨ t.SaysOpen h := by
  rw [SaysOpen, events_recordAll, standing_concat]
  simp [SaysOpen, eq_comm]

/-- Unless sessions are opened, it only matters whether the session is closed. -/
theorem saysOpen_recordAll (hn : ∀ k scope, .sessionOpened k scope ∉ events) :
    (t.recordAll events).SaysOpen h ↔ t.SaysOpen h ∧ ∀ n, .sessionClosed h n ∉ events := by
  rw [SaysOpen, events_recordAll, standing_append_of_forall]
  · refine and_congr_right fun _ => ⟨fun hc n hev => hc _ hev ⟨n, rfl⟩, ?_⟩
    rintro hc ev hev ⟨n, rfl⟩
    exact hc n hev
  · rintro ev hev ⟨scope, rfl⟩
    exact hn h scope hev

theorem saysHeld_granted :
    (t.recordAll [.granted h r contextSwitched]).SaysHeld q k c ↔
      if q = r ∧ k = h then contextSwitched = c else t.SaysHeld q k c := by
  rw [SaysHeld, events_recordAll, standing_concat]
  by_cases hqk : q = r ∧ k = h
  · obtain ⟨rfl, rfl⟩ := hqk
    simp
  · rw [if_neg hqk]
    have hkq : ¬(h = k ∧ r = q) := fun hx => hqk ⟨hx.2.symm, hx.1.symm⟩
    simp only [AuditEvent.granted.injEq, reduceCtorEq, or_false, SaysHeld]
    constructor
    · rintro (⟨hk, hq, -⟩ | ⟨ht, -⟩)
      · exact absurd ⟨hk, hq⟩ hkq
      · exact ht
    · intro ht
      refine Or.inr ⟨ht, ?_⟩
      rintro ⟨-, hk, hq, -⟩
      exact hkq ⟨hk, hq⟩

/-- Unless resources are granted, it only matters whether the resource is given up. -/
theorem saysHeld_recordAll (hn : ∀ h r c, .granted h r c ∉ events) :
    (t.recordAll events).SaysHeld r h c ↔ t.SaysHeld r h c ∧ .released h r ∉ events := by
  rw [SaysHeld, events_recordAll, standing_append_of_forall]
  · refine and_congr_right fun _ => ⟨fun hr hev => hr _ hev (Or.inr rfl), ?_⟩
    rintro hr ev hev (⟨other, rfl⟩ | rfl)
    · exact hn h r other hev
    · exact hr hev
  · rintro ev hev rfl
    exact hn h r c hev

end AuditTrail

/-- A roster is what a trail tells. -/
structure Roster.ToldBy (ro : Roster) (t : AuditTrail) : Prop where
  isOpen : ∀ h, ro.isOpen h = true ↔ t.SaysOpen h
  held : ∀ r h c, (ro.table.modeOf? r h).map (·.isContextSwitched) = some c ↔ t.SaysHeld r h c

namespace Engine

variable {e : Engine} {h : Handle} {c : Call} {reply : Reply} {ro : Roster}
  {events : List AuditEvent}

/-- **An entry keeps the trail true,** while no executor call is made to fail. -/
theorem Booked.toldBy (hb : Booked e c reply ro events) (hq : e.executor.armed = [])
    (ht : e.roster.ToldBy e.trail) : ro.ToldBy (e.trail.recordAll events) := by
  obtain ⟨hopen, hheld⟩ := ht
  cases hb with
  | silent => exact ⟨hopen, hheld⟩
  | opened scope =>
    refine ⟨fun k => ?_, fun q k c => ?_⟩
    · rw [AuditTrail.saysOpen_opened, ← hopen]
      simp [Roster.enroll]
    · rw [AuditTrail.saysHeld_recordAll (by simp), ← hheld]
      simp [Roster.enroll]
  | granted hs hc hm =>
    refine ⟨fun k => ?_, fun q k c => ?_⟩
    · rw [AuditTrail.saysOpen_recordAll (by simp), ← hopen]
      simp
    · rw [AuditTrail.saysHeld_granted, ← hheld]
      dsimp only
      rw [ReservationTable.modeOf?_enter hm]
      split <;> simp
  | already hm =>
    refine ⟨fun k => ?_, fun q k c => ?_⟩
    · rw [AuditTrail.saysOpen_recordAll (by simp), ← hopen]
      simp
    · rw [AuditTrail.saysHeld_granted, ← hheld]
      split
      · rename_i hqk
        obtain ⟨rfl, rfl⟩ := hqk
        rw [show e.roster.table.modeOf? _ _ = _ from hm]
        simp
      · rfl
  | denied err =>
    refine ⟨fun k => ?_, fun q k c => ?_⟩
    · rw [AuditTrail.saysOpen_recordAll (by simp), ← hopen]
      simp
    · rw [AuditTrail.saysHeld_recordAll (by simp), ← hheld]
      simp
  | released =>
    rename_i h r
    refine ⟨fun k => ?_, fun q k c => ?_⟩
    · rw [AuditTrail.saysOpen_recordAll (by simp), ← hopen]
      simp
    · have hev : AuditEvent.released k q ∈ [AuditEvent.released h r] ↔ q = r ∧ k = h := by
        simp [and_comm]
      rw [AuditTrail.saysHeld_recordAll (by simp), ← hheld, hev]
      dsimp only
      rw [ReservationTable.modeOf?_release]
      by_cases hqk : q = r ∧ k = h <;> simp [hqk]
  | closed ho =>
    rename_i h
    refine ⟨fun k => ?_, fun q k c => ?_⟩
    · rw [AuditTrail.saysOpen_recordAll (by simp), ← hopen]
      by_cases hk : k = h <;> simp [Roster.dismiss, hk]
    · rw [AuditTrail.saysHeld_recordAll (by simp), ← hheld]
      dsimp only
      rw [ReservationTable.modeOf?_releaseAll]
      by_cases hk : k = h
      · -- Whatever the session holds is given up, so nothing is left to be told.
        have hheldBy := ReservationTable.mem_heldBy_iff (t := e.roster.table) (r := q) (s := h)
        cases hm : e.roster.table.modeOf? q h <;> simp [hk, hm, hheldBy]
      · have hk' : h ≠ k := fun hx => hk hx.symm
        simp [hk, hk']
  | stranded ha => exact absurd hq ha

/-- Only the end of a session is entered as one, behind what the session gives up with it. -/
theorem Booked.close_of_mem (hb : Booked e c reply ro events) (hq : e.executor.armed = []) {n : Nat}
    (hev : .sessionClosed h n ∈ events) :
    c = .close h ∧ e.sessions.contains h = true ∧
      events = (e.roster.table.heldBy h).map (.released h)
        ++ [.sessionClosed h (e.roster.table.heldBy h).length] := by
  cases hb with
  | silent => cases hev
  | opened | granted | already | denied | released => simp at hev
  | closed ho =>
    rename_i k
    obtain rfl : h = k := by
      simp at hev
      exact hev.1
    exact ⟨rfl, ho, rfl⟩
  | stranded ha => exact absurd hq ha

/-! ## Runs -/

variable {allowed : Call → Prop} {config : Config} {start : Engine}
  {calls before past rest : List Call}

theorem toldBy_fresh (config : Config) (memory : Memory) :
    (fresh config memory).roster.ToldBy (fresh config memory).trail where
  isOpen h := by
    refine iff_of_false Bool.false_ne_true ?_
    exact not_standing_of_forall fun _ hev => nomatch hev
  held r h c := by
    refine iff_of_false ?_ (not_standing_of_forall fun _ hev => nomatch hev)
    rw [show (fresh config memory).roster.table.modeOf? r h = none from
      ReservationTable.modeOf?_empty]
    nofun

/-- **The trail of an undisturbed run tells the roster.** -/
theorem Run.toldBy (hr : Run (fun c => c.disturbs = false) config start calls) :
    (start.performAll calls).roster.ToldBy (start.performAll calls).trail := by
  refine hr.induction (motive := fun calls =>
    (start.performAll calls).roster.ToldBy (start.performAll calls).trail) ?_ ?_
  · obtain ⟨memory, rfl⟩ := hr.eq_fresh
    exact toldBy_fresh config memory
  · intro cs c hr ih
    obtain ⟨events, htrail, ⟨rfl, hro⟩ | ⟨d, -, -, -, hb⟩⟩ := hr.entries
    · rw [htrail, hro]
      exact ih
    · rw [htrail]
      exact hb.toldBy (ReachedUndisturbed.quietly hr.of_append.reached).quiet ih

/-- While no call is addressed to a session, nothing about it is entered but that it is opened. -/
theorem Run.nothing_about (hr : Run allowed config start (past ++ rest))
    (hrest : ∀ c ∈ rest, c.target? ≠ some h) :
    ∃ others, (start.performAll (past ++ rest)).trail.events
        = (start.performAll past).trail.events ++ others ∧
      ∀ ev ∈ others, ev.session = h → ∃ scope, ev = .sessionOpened h scope := by
  induction rest using List.reverseRecOn with
  | nil => exact ⟨[], by simp, fun _ hev => nomatch hev⟩
  | append_singleton rest c ih =>
    rw [← List.append_assoc] at hr ⊢
    obtain ⟨others, hothers, hno⟩ := ih hr.of_append fun d hd => hrest d (by simp [hd])
    obtain ⟨events, htrail, hb⟩ := hr.entries
    refine ⟨others ++ events, ?_, fun ev hev => ?_⟩
    · rw [htrail, AuditTrail.events_recordAll, hothers, List.append_assoc]
    · rcases List.mem_append.mp hev with hev | hev
      · exact hno ev hev
      · rintro rfl
        rcases hb with ⟨rfl, -⟩ | ⟨d, -, ht, -, hb⟩
        · cases hev
        · -- The call is addressed to somebody else.
          refine (hb.about hev).resolve_left fun htarget => ?_
          exact hrest c (by simp) (ht.symm.trans htarget)

/-- What the trail has when a session is closed: at the end an entry for each resource that the
session holds, as many as are counted, and before these nothing about it since the last call that
was addressed to it. -/
structure TakesLeave (start : Engine) (before : List Call) (h : Handle) (n : Nat)
    (earlier : List AuditEvent) : Prop where
  isOpen : (start.performAll before).sessions.contains h = true
  released : ∃ freed : List Resource, freed.Nodup ∧ n = freed.length ∧
    (∀ r, r ∈ freed ↔ ∃ mode, (start.performAll before).HeldBy r h mode) ∧
    earlier = (start.performAll before).trail.events ++ freed.map (.released h)
  nothing : ∀ past rest, before = past ++ rest → (∀ c ∈ rest, c.target? ≠ some h) →
    ∃ others, (start.performAll before).trail.events
        = (start.performAll past).trail.events ++ others ∧
      ∀ ev ∈ others, ev.session = h → ∃ scope, ev = .sessionOpened h scope

/-- Where the end of a session is entered, the session was closed. -/
theorem Run.takesLeave (hr : Run (fun c => c.disturbs = false) config start calls) {n : Nat}
    {earlier later : List AuditEvent}
    (hev : (start.performAll calls).trail.events = earlier ++ .sessionClosed h n :: later) :
    ∃ before after, calls = before ++ .close h :: after ∧
      start.TakesLeave before h n earlier := by
  revert earlier later
  refine hr.induction (motive := fun calls => ∀ {earlier later : List AuditEvent},
    (start.performAll calls).trail.events = earlier ++ .sessionClosed h n :: later →
    ∃ before after, calls = before ++ .close h :: after ∧
      start.TakesLeave before h n earlier) ?_ ?_
  · obtain ⟨memory, rfl⟩ := hr.eq_fresh
    intro earlier later hev
    simp [performAll, fresh, AuditTrail.events, AuditTrail.empty] at hev
  · intro cs c hr ih earlier later hev
    have he := hr.of_append.reached
    obtain ⟨events, htrail, hb⟩ := hr.entries
    rw [htrail, AuditTrail.events_recordAll] at hev
    rcases split_append hev with ⟨l, hold, -⟩ | ⟨l, rfl, hnew⟩
    · -- The end was entered before this call.
      obtain ⟨before, after, rfl, hleave⟩ := ih hold
      exact ⟨before, after ++ [c], by simp, hleave⟩
    · rcases hb with ⟨rfl, -⟩ | ⟨d, had, -, -, hb⟩
      · simp at hnew
      · have hmem : .sessionClosed h n ∈ events := by simp [hnew]
        obtain ⟨rfl, ho, hevents⟩ := hb.close_of_mem (ReachedUndisturbed.quietly he).quiet hmem
        obtain rfl := eq_close_of_asDirect? had
        rw [hevents] at hnew
        rcases split_append hnew with ⟨l', hl', -⟩ | ⟨l', rfl, hlast⟩
        · have hclosed : AuditEvent.sessionClosed h n ∈
              ((start.performAll cs).roster.table.heldBy h).map (.released h) := by simp [hl']
          simp at hclosed
        · obtain ⟨rfl, hn⟩ :
              l' = [] ∧ n = ((start.performAll cs).roster.table.heldBy h).length := by
            cases l' <;> simp_all
          have hheld : ∀ r, r ∈ (start.performAll cs).roster.table.heldBy h ↔
              ∃ mode, (start.performAll cs).HeldBy r h mode := by
            intro r
            rw [ReservationTable.mem_heldBy_iff, Option.ne_none_iff_exists']
            exact exists_congr fun _ => (ReachedUndisturbed.heldBy_iff_modeOf? he).symm
          refine ⟨cs, [], rfl, ho, ⟨_, ReservationTable.nodup_heldBy _ h, hn, hheld, by simp⟩, ?_⟩
          rintro past rest rfl hrest
          exact hr.of_append.nothing_about hrest

/-- **The trail tells all about reservations.** At every point of an undisturbed run, a session is
open exactly if the trail says so, and holds a resource in a mode of some kind exactly if the trail
says so. And wherever the trail has that a session was closed, this was done by a call, the entry
counts what the session held when it was made, and stands behind one entry for each of these
resources, with nothing else about the session since the last call addressed to it. -/
theorem trail_tells_all (hr : Run (fun c => c.disturbs = false) config start calls) :
    (∀ h, (start.performAll calls).sessions.contains h = true ↔
      (start.performAll calls).trail.SaysOpen h) ∧
    (∀ r h contextSwitched, (start.performAll calls).trail.SaysHeld r h contextSwitched ↔
      ∃ mode, (start.performAll calls).HeldBy r h mode ∧
        mode.isContextSwitched = contextSwitched) ∧
    ∀ earlier h n later,
      (start.performAll calls).trail.events = earlier ++ .sessionClosed h n :: later →
      ∃ before after, calls = before ++ .close h :: after ∧
        start.TakesLeave before h n earlier := by
  have htold := hr.toldBy
  refine ⟨htold.isOpen, fun r h c => ?_, fun earlier h n later hev => hr.takesLeave hev⟩
  rw [← htold.held, Option.map_eq_some_iff]
  exact exists_congr fun mode =>
    and_congr_left' (ReachedUndisturbed.heldBy_iff_modeOf? hr.reached).symm

/-- A run in which a session is denied what another one holds, and gives up what it does not hold;
the other one asks again for what it holds, once in vain, and is closed. -/
def toldRun : List Call :=
  [.createContext 3, .openSession .device, .openSession .context, .bindContext ⟨1⟩ (some 3),
    .bindContext ⟨2⟩ (some 3), .reserve ⟨1⟩ .smpc true, .reserve ⟨2⟩ .smpc true,
    .reserve ⟨1⟩ .hwpmLegacy true, .reserve ⟨1⟩ .hwpmLegacy false, .reserve ⟨1⟩ .smpc false,
    .release ⟨2⟩ .hwpmLegacy, .close ⟨1⟩, .reserve ⟨2⟩ .smpc false]

theorem trail_tells_all_of_two_sessions :
    ((small toldRun).trail.events.map (·.label)) = ["session_opened", "session_opened",
      "reservation_granted", "reservation_denied", "reservation_granted", "reservation_granted",
      "reservation_denied", "reservation_released", "reservation_released",
      "reservation_released", "session_closed", "reservation_granted"] ∧
    ¬(small toldRun).trail.SaysOpen ⟨1⟩ ∧ (small toldRun).trail.SaysOpen ⟨2⟩ ∧
    (small toldRun).trail.SaysHeld .smpc ⟨2⟩ true ∧
    ∃ before after, toldRun = before ++ .close ⟨1⟩ :: after ∧
      (fresh .small).TakesLeave before ⟨1⟩ 2 ((small toldRun).trail.events.take 10) := by
  have hr : Run (fun c => c.disturbs = false) .small (fresh .small) toldRun :=
    run_small (by decide) (by decide)
  obtain ⟨hopen, hheld, hclosed⟩ := trail_tells_all hr
  refine ⟨by decide, fun h => ?_, (hopen ⟨2⟩).mp rfl, (hheld .smpc ⟨2⟩ true).mpr ?_, ?_⟩
  · have := (hopen ⟨1⟩).mpr h
    exact absurd this (by decide)
  · exact ⟨.contextSwitched ⟨1⟩, by decide, rfl⟩
  · exact hclosed _ ⟨1⟩ 2 [.granted ⟨2⟩ .smpc true] rfl

end Engine

end Perfmon
