import Mathlib.Data.Finset.Card
import Mathlib.Data.Finset.SDiff
import Perfmon.Proofs.Granting
import Perfmon.Proofs.Vacancy
import Perfmon.Stress
/-!
# A round of racing sessions

A round has three phases, each of which is a row of undisturbed calls (`Phase`). In the first one the
sessions come in, one after the other, and each is told about the context whose turn it is
(`openSessions_lined`). In the second one they reserve. Two of them are in each other's way exactly
if they ask for the same mode, so whoever is the first to ask for a mode gets the resource and
everybody else finds it busy: in whatever order they come, there are as many grants as modes
(`reserveAll_tally`). In the third one they are closed.
-/

namespace Perfmon

namespace Engine

variable {e e' e'' : Engine} {n m : Nat} {h k : Handle}

/-- Undisturbed calls lead from one engine to another, and open so many sessions. -/
def Passes (e : Engine) (opened : Nat) (e' : Engine) : Prop :=
  ∃ calls, (∀ c ∈ calls, c.disturbs = false) ∧ e.openings calls = opened ∧ e' = e.performAll calls

theorem Passes.trans (hp : Passes e n e') (hp' : Passes e' m e'') : Passes e (n + m) e'' := by
  obtain ⟨calls, hc, hn, rfl⟩ := hp
  obtain ⟨more, hc', hm, rfl⟩ := hp'
  refine ⟨calls ++ more, ?_, ?_, (performAll_append e calls more).symm⟩
  · intro c hmem
    rcases List.mem_append.mp hmem with hmem | hmem
    · exact hc c hmem
    · exact hc' c hmem
  · rw [openings_append, hn, hm]

theorem Passes.admits {scope : Scope} {staging : Staging} (hp : Passes e n e')
    (ha : e.Admits scope staging) : e'.Admits scope staging := by
  obtain ⟨calls, -, -, rfl⟩ := hp
  induction calls generalizing e with
  | nil => exact ha
  | cons c cs ih => exact ih (ha.perform c)

theorem Passes.capabilities (hp : Passes e n e') :
    e'.device.capabilities = e.device.capabilities := by
  obtain ⟨calls, -, -, rfl⟩ := hp
  induction calls generalizing e with
  | nil => rfl
  | cons c cs ih => exact (ih (e := (e.perform c).2)).trans (perform_capabilities e c)

theorem Passes.consistent (hp : Passes e m e') (hc : e.ledger.Consistent n)
    (hn : n + m < UInt32.size) : e'.ledger.Consistent (n + m) := by
  obtain ⟨calls, -, rfl, rfl⟩ := hp
  exact performAll_induction (motive := fun n e => e.ledger.Consistent n)
    (fun _ e c _ hn hc => hc.step (perform_step e c) hn) calls n e (fun _ _ => trivial) hn hc

/-- Calls that leave the contexts alone besides. -/
structure Phase (e : Engine) (opened : Nat) (e' : Engine) : Prop where
  passes : Passes e opened e'
  contexts : e'.contexts = e.contexts

theorem Phase.refl (e : Engine) : Phase e 0 e :=
  ⟨⟨[], by simp, rfl, rfl⟩, rfl⟩

theorem Phase.trans (hp : Phase e n e') (hp' : Phase e' m e'') : Phase e (n + m) e'' :=
  ⟨hp.passes.trans hp'.passes, hp'.contexts.trans hp.contexts⟩

/-- A single call. -/
theorem Phase.of_perform {c : Call} (hc : c.disturbs = false) (hctx : e'.contexts = e.contexts)
    (hp : e' = (e.perform c).2) : Phase e (e.perform c).1.openings e' :=
  ⟨⟨[c], by simpa using hc, rfl, hp⟩, hctx⟩

end Engine

namespace Stress

open Engine

variable {e e' : Engine} {fds : List Descriptor} {staging : Staging} {h k : Handle} {r : Resource}
  {contextSwitched : Bool} {n : Nat}

/-! ## Coming in -/

/-- What a session is told about its context when it is some turn. -/
def bindingOf (contexts : ContextRegistry) (fds : List Descriptor) (turn : Nat) : ContextBinding :=
  match fds[turn % fds.length]?.bind contexts.resolve with
  | some ctx => .context ctx
  | none => .noContext

/-- The session that comes in when it is some turn. -/
def entrant (contexts : ContextRegistry) (fds : List Descriptor) (staging : Staging) (h : Handle)
    (turn : Nat) : Session :=
  { Session.new h .device staging with binding := bindingOf contexts fds turn }

theorem bindContext_entrant {contexts : ContextRegistry}
    (hf : ∀ fd ∈ fds, (contexts.resolve fd).isSome = true) (h : Handle) (turn : Nat) :
    (Session.new h .device staging).bindContext contexts fds[turn % fds.length]?
      = .ok (entrant contexts fds staging h turn) := by
  cases hfd : fds[turn % fds.length]? with
  | none => simp [Session.bindContext, entrant, bindingOf, hfd, Session.new, SessionRecord.new,
      ContextBinding.isBound]
  | some fd =>
    obtain ⟨ctx, hctx⟩ := Option.isSome_iff_exists.mp (hf fd (List.mem_of_getElem? hfd))
    simp [Session.bindContext, entrant, bindingOf, hfd, hctx, Session.new, SessionRecord.new,
      ContextBinding.isBound]

/-- Sessions have come in, the first one when it was some turn. -/
structure Lined (e : Engine) (fds : List Descriptor) (staging : Staging) (turn : Nat)
    (hs : List Handle) (e' : Engine) : Prop where
  phase : Phase e hs.length e'
  executor : e'.executor = e.executor
  nodup : hs.Nodup
  unused : ∀ h ∈ hs, e.sessions.contains h = false
  entered : ∀ i h, hs[i]? = some h →
    e'.sessions.find? h = some (entrant e.contexts fds staging h (turn + i))
  kept : ∀ h, h ∉ hs → e'.sessions.find? h = e.sessions.find? h

theorem lined_nil (e : Engine) (turn : Nat) : Lined e fds staging turn [] e where
  phase := .refl e
  executor := rfl
  nodup := List.nodup_nil
  unused h hh := by cases hh
  entered i h hh := by cases hh
  kept _ _ := rfl

/-- One session comes in. -/
theorem enter (ha : e.Admits .device staging)
    (hf : ∀ fd ∈ fds, (e.contexts.resolve fd).isSome = true) (turn : Nat) :
    ∃ e₁ e₂, e.openSession .device = (.ok ⟨e.nextHandle⟩, e₁) ∧
      e₁.bindContext ⟨e.nextHandle⟩ fds[turn % fds.length]? = (.ok (), e₂) ∧
      Phase e 1 e₂ ∧ e₂.executor = e.executor ∧
      ∀ k, e₂.sessions.find? k = if k = ⟨e.nextHandle⟩ then
        some (entrant e.contexts fds staging ⟨e.nextHandle⟩ turn) else e.sessions.find? k := by
  obtain ⟨e₁, hopen, hs₁, hctx₁, hx₁⟩ : ∃ e₁, e.openSession .device = (.ok ⟨e.nextHandle⟩, e₁) ∧
      e₁.sessions = e.sessions.insert ⟨e.nextHandle⟩ (.new ⟨e.nextHandle⟩ .device staging) ∧
      e₁.contexts = e.contexts ∧ e₁.executor = e.executor :=
    ⟨_, ha.openSession, rfl, rfl, rfl⟩
  have hthere : e₁.sessions.find? ⟨e.nextHandle⟩ = some (.new ⟨e.nextHandle⟩ .device staging) := by
    rw [hs₁, Assoc.find?_insert_self]
  obtain ⟨e₂, hbind, hs₂, hctx₂, hx₂⟩ : ∃ e₂,
      e₁.bindContext ⟨e.nextHandle⟩ fds[turn % fds.length]? = (.ok (), e₂) ∧
      e₂.sessions = e₁.sessions.insert ⟨e.nextHandle⟩
        (entrant e.contexts fds staging ⟨e.nextHandle⟩ turn) ∧
      e₂.contexts = e₁.contexts ∧ e₂.executor = e₁.executor := by
    rw [bindContext, withSession_of_open hthere, hctx₁, bindContext_entrant hf]
    exact ⟨_, rfl, rfl, rfl, rfl⟩
  have hp₁ : Phase e 1 e₁ := by
    have hp := Phase.of_perform (e := e) (c := .openSession .device) rfl hctx₁
      (by rw [perform, hopen])
    rwa [perform, hopen] at hp
  have hp₂ : Phase e₁ 0 e₂ :=
    Phase.of_perform (c := .bindContext ⟨e.nextHandle⟩ fds[turn % fds.length]?) rfl hctx₂
      (by rw [perform, hbind])
  refine ⟨e₁, e₂, hopen, hbind, hp₁.trans hp₂, hx₂.trans hx₁, ?_⟩
  intro k
  rw [hs₂, Assoc.find?_insert, hs₁, Assoc.find?_insert]
  split <;> rfl

theorem openSessions_lined (left turn : Nat) (ha : e.Admits .device staging)
    (hf : ∀ fd ∈ fds, (e.contexts.resolve fd).isSome = true) (hc : e.ledger.Consistent n)
    (hn : n + left < UInt32.size) :
    ∃ hs e', openSessions fds left turn e = .ok (hs, e') ∧ hs.length = left ∧
      Lined e fds staging turn hs e' := by
  induction left generalizing turn e n with
  | zero => exact ⟨[], e, rfl, rfl, lined_nil e turn⟩
  | succ left ih =>
    obtain ⟨e₁, e₂, hopen, hbind, hphase, hx, hfind⟩ := enter ha hf turn
    have hfree := not_open_next hc (by omega)
    have hin : e₂.sessions.contains ⟨e.nextHandle⟩ = true := by
      simp [Assoc.contains, hfind]
    obtain ⟨hs, e', hrest, hlen, hl⟩ := ih (turn + 1) (hphase.passes.admits ha)
      (by rwa [hphase.contexts]) (hphase.passes.consistent hc (by omega)) (by omega)
    have hnot : ⟨e.nextHandle⟩ ∉ hs := by
      intro hmem
      have hout := hl.unused _ hmem
      rw [hin] at hout
      cases hout
    refine ⟨⟨e.nextHandle⟩ :: hs, e', ?_, by rw [List.length_cons, hlen], ?_⟩
    · rw [openSessions, hopen]
      dsimp only
      rw [hbind]
      dsimp only
      rw [hrest]
      rfl
    · refine ⟨?_, hl.executor.trans hx, List.nodup_cons.mpr ⟨hnot, hl.nodup⟩, ?_, ?_, ?_⟩
      · rw [List.length_cons, Nat.add_comm]
        exact hphase.trans hl.phase
      · intro h hmem
        rcases List.mem_cons.mp hmem with rfl | hmem
        · exact hfree
        · have hout := hl.unused h hmem
          have hne : h ≠ ⟨e.nextHandle⟩ := by
            rintro rfl
            exact hnot hmem
          simpa [Assoc.contains, hfind, hne] using hout
      · intro i h hi
        cases i with
        | zero =>
          cases hi
          rw [hl.kept _ hnot, hfind, if_pos rfl, Nat.add_zero]
        | succ i =>
          have hent := hl.entered i h hi
          rwa [hphase.contexts, Nat.add_assoc, Nat.add_comm 1 i] at hent
      · intro h hmem
        rw [List.mem_cons, not_or] at hmem
        rw [hl.kept h hmem.2, hfind, if_neg hmem.1]

theorem Lined.contains {turn : Nat} {hs : List Handle} (hl : Lined e fds staging turn hs e')
    (hh : h ∈ hs) : e'.sessions.contains h = true := by
  obtain ⟨i, hi⟩ := List.mem_iff_getElem?.mp hh
  rw [Assoc.contains, hl.entered i h hi]
  rfl

/-! ## Reserving -/

/-- A session is about to ask for a resource in a mode, and does not hold it yet. -/
structure Waits (e : Engine) (r : Resource) (contextSwitched : Bool) (h : Handle)
    (mode : ReservationMode) : Prop where
  session : ∃ s, e.sessions.find? h = some s ∧ s.handle = h ∧
    s.checkReserve e.device.capabilities r contextSwitched = .ok mode
  free : e.device.reservations.modeOf? r h = none

/-- The modes in which a resource is held. -/
def heldModes (e : Engine) (r : Resource) : Finset ReservationMode :=
  ((e.device.reservations.holders r).map (·.mode)).toFinset

/-- A session that waits has asked. -/
structure Asked (e : Engine) (h : Handle) (e' : Engine) : Prop where
  phase : Phase e 0 e'
  quiet : e'.executor.armed = []
  sessions : ∃ s', e'.sessions = e.sessions.insert h s'
  capabilities : e'.device.capabilities = e.device.capabilities

theorem Waits.asked {mode : ReservationMode} (hw : Waits e r contextSwitched h mode)
    (ha : e.executor.armed = []) : Asked e h (e.reserve h r contextSwitched).2 := by
  obtain ⟨s, hs, -, -⟩ := hw.session
  obtain ⟨metrics, trail, hr⟩ := reserve_of_open hs r contextSwitched
  have hchanged := s.reserve_changed e.executor r contextSwitched
  have hctx : (e.reserve h r contextSwitched).2.contexts = e.contexts := by rw [hr]
  refine ⟨?_, ?_, ?_, ?_⟩
  · exact Phase.of_perform (c := .reserve h r contextSwitched) rfl hctx rfl
  · rw [hr]
    exact hchanged.quiet ha
  · rw [hr]
    exact ⟨_, rfl⟩
  · exact perform_capabilities e (.reserve h r contextSwitched)

/-- A session that waits gets the resource, unless somebody is in its way. -/
theorem Waits.reserve {mode : ReservationMode} (hw : Waits e r contextSwitched h mode)
    (ha : e.executor.armed = []) :
    (e.device.reservations.blocker? r mode = none ∧
      (∃ held, (e.reserve h r contextSwitched).1 = .ok held) ∧
      (e.reserve h r contextSwitched).2.device.reservations
        = e.device.reservations.enter r h mode) ∨
    (e.device.reservations.blocker? r mode ≠ none ∧
      (∃ q reason, (e.reserve h r contextSwitched).1 = .error (.resourceBusy q reason)) ∧
      (e.reserve h r contextSwitched).2.device.reservations = e.device.reservations) := by
  obtain ⟨s, hs, hkey, hcheck⟩ := hw.session
  obtain ⟨metrics, trail, hr⟩ := reserve_of_open hs r contextSwitched
  have hfree := hw.free
  simp only [device] at hcheck hfree ⊢
  rw [hr]
  dsimp only
  unfold Session.reserve
  rw [hcheck, hkey]
  dsimp only
  rcases e.executor.reserve_cases h r mode with ⟨err, hx, hq⟩ | ⟨held, hm, hx⟩ | ⟨-, hb, hx⟩
  · obtain ⟨b, -, hb, rfl⟩ := hq ha
    rw [hx]
    exact Or.inr ⟨by rw [hb]; exact Option.some_ne_none b, ⟨_, _, rfl⟩, rfl⟩
  · rw [hfree] at hm
    cases hm
  · rw [hx]
    exact Or.inl ⟨hb, ⟨_, rfl⟩, rfl⟩

/-- Others that wait go on waiting when a session has asked. -/
theorem Waits.after {mode mode' : ReservationMode} (hw : Waits e r contextSwitched k mode')
    (hne : k ≠ h) (hwh : Waits e r contextSwitched h mode) (ha : e.executor.armed = []) :
    Waits (e.reserve h r contextSwitched).2 r contextSwitched k mode' := by
  have hasked := hwh.asked ha
  obtain ⟨s', hs'⟩ := hasked.sessions
  obtain ⟨s, hs, hkey, hcheck⟩ := hw.session
  refine ⟨⟨s, ?_, hkey, ?_⟩, ?_⟩
  · rw [hs', Assoc.find?_insert, if_neg hne, hs]
  · rw [hasked.capabilities, hcheck]
  · rcases hwh.reserve ha with ⟨-, -, ht⟩ | ⟨-, -, ht⟩
    · rw [ht, ReservationTable.modeOf?_enter hwh.free, if_neg (fun hk => hne hk.2), hw.free]
    · rw [ht, hw.free]

/-- Among modes that all follow contexts, or none does, only equal ones are in each other's way. -/
theorem conflicts_iff_eq {a b : ReservationMode} (ha : a.isContextSwitched = contextSwitched)
    (hb : b.isContextSwitched = contextSwitched) : a.conflicts b = true ↔ a = b := by
  subst ha
  cases a <;> cases b <;> simp_all [ReservationMode.conflicts, ReservationMode.isContextSwitched]

theorem blocker?_eq_none_iff_not_mem {mode : ReservationMode}
    (hheld : ∀ m ∈ heldModes e r, m.isContextSwitched = contextSwitched)
    (hmode : mode.isContextSwitched = contextSwitched) :
    e.device.reservations.blocker? r mode = none ↔ mode ∉ heldModes e r := by
  have hmem : ∀ m, m ∈ heldModes e r ↔ ∃ x ∈ e.device.reservations.holders r, x.mode = m := by
    intro m
    simp [heldModes]
  rw [ReservationTable.blocker?_eq_none_iff, hmem]
  constructor
  · rintro hnone ⟨x, hx, rfl⟩
    have hself := hnone x hx
    rw [Bool.eq_false_iff] at hself
    exact hself ((conflicts_iff_eq hmode hmode).mpr rfl)
  · intro hnot x hx
    have hxm := hheld x.mode ((hmem _).mpr ⟨x, hx, rfl⟩)
    rw [Bool.eq_false_iff, Ne, conflicts_iff_eq hmode hxm]
    rintro rfl
    exact hnot ⟨x, hx, rfl⟩

/-- The first of those who ask gets the resource exactly if nobody holds it in the mode asked for. -/
theorem Waits.first {mode : ReservationMode} (hw : Waits e r contextSwitched h mode)
    (ha : e.executor.armed = []) (hmode : mode.isContextSwitched = contextSwitched)
    (hheld : ∀ m ∈ heldModes e r, m.isContextSwitched = contextSwitched) (hs : List Handle)
    (t : Tally) :
    (mode ∉ heldModes e r ∧
      heldModes (e.reserve h r contextSwitched).2 r = insert mode (heldModes e r) ∧
      reserveAll r contextSwitched (h :: hs) t e = reserveAll r contextSwitched hs
        { t with granted := t.granted + 1 } (e.reserve h r contextSwitched).2) ∨
    (mode ∈ heldModes e r ∧
      heldModes (e.reserve h r contextSwitched).2 r = heldModes e r ∧
      reserveAll r contextSwitched (h :: hs) t e = reserveAll r contextSwitched hs
        { t with busy := t.busy + 1 } (e.reserve h r contextSwitched).2) := by
  rcases hw.reserve ha with ⟨hb, ⟨held, hres⟩, ht⟩ | ⟨hb, ⟨q, reason, hres⟩, ht⟩
  · have hpair : e.reserve h r contextSwitched
        = (.ok held, (e.reserve h r contextSwitched).2) := Prod.ext hres rfl
    refine Or.inl ⟨(blocker?_eq_none_iff_not_mem hheld hmode).mp hb, ?_, ?_⟩
    · ext m
      simp [heldModes, ht, ReservationTable.holders_enter]
    · rw [reserveAll, hpair]
  · have hpair : e.reserve h r contextSwitched
        = (.error (.resourceBusy q reason), (e.reserve h r contextSwitched).2) := Prod.ext hres rfl
    rw [Ne, blocker?_eq_none_iff_not_mem hheld hmode, not_not] at hb
    refine Or.inr ⟨hb, ?_, ?_⟩
    · rw [heldModes, ht, heldModes]
    · rw [reserveAll, hpair]

theorem card_insert_sdiff {a : ReservationMode} {asked held : Finset ReservationMode}
    (ha : a ∉ held) : (insert a asked \ held).card = (asked \ insert a held).card + 1 := by
  have hsplit : insert a asked \ held = insert a (asked \ insert a held) := by
    ext m
    by_cases hm : m = a <;> simp [hm, ha]
  rw [hsplit, Finset.card_insert_of_notMem (by simp)]

/-- **There are as many grants as modes** that are asked for and not held yet, in whatever order the
sessions come; all others find the resource busy. -/
theorem reserveAll_tally {asks : Handle → ReservationMode} {hs : List Handle} {t : Tally}
    (hnodup : hs.Nodup) (ha : e.executor.armed = [])
    (hw : ∀ h ∈ hs, Waits e r contextSwitched h (asks h))
    (hasks : ∀ h ∈ hs, (asks h).isContextSwitched = contextSwitched)
    (hheld : ∀ m ∈ heldModes e r, m.isContextSwitched = contextSwitched) :
    ∃ e', reserveAll r contextSwitched hs t e
        = .ok (⟨t.granted + ((hs.map asks).toFinset \ heldModes e r).card,
            t.busy + (hs.length - ((hs.map asks).toFinset \ heldModes e r).card)⟩, e') ∧
      Phase e 0 e' ∧ e'.sessions.contains = e.sessions.contains := by
  induction hs generalizing e t with
  | nil => exact ⟨e, by simp [reserveAll], .refl e, rfl⟩
  | cons h hs ih =>
    have hwh := hw h List.mem_cons_self
    have hmode := hasks h List.mem_cons_self
    have hasked := hwh.asked ha
    obtain ⟨hnot, hnodup⟩ := List.nodup_cons.mp hnodup
    have hopen : (e.reserve h r contextSwitched).2.sessions.contains = e.sessions.contains := by
      obtain ⟨s, hs, -, -⟩ := hwh.session
      obtain ⟨s', hins⟩ := hasked.sessions
      rw [hins, contains_insert hs]
    have hrest : ∀ k ∈ hs, Waits (e.reserve h r contextSwitched).2 r contextSwitched k (asks k) := by
      intro k hk
      have hne : k ≠ h := by
        rintro rfl
        exact hnot hk
      exact (hw k (List.mem_cons_of_mem h hk)).after hne hwh ha
    have hrestAsks : ∀ k ∈ hs, (asks k).isContextSwitched = contextSwitched :=
      fun k hk => hasks k (List.mem_cons_of_mem h hk)
    rcases hwh.first ha hmode hheld hs t with ⟨hb, hmodes, hfirst⟩ | ⟨hb, hmodes, hfirst⟩
    · have hheld' : ∀ m ∈ heldModes (e.reserve h r contextSwitched).2 r,
          m.isContextSwitched = contextSwitched := by
        intro m hm
        rw [hmodes] at hm
        rcases Finset.mem_insert.mp hm with rfl | hm
        · exact hmode
        · exact hheld m hm
      obtain ⟨e', hrun, hphase, hsessions⟩ := ih (t := { t with granted := t.granted + 1 }) hnodup
        hasked.quiet hrest hrestAsks hheld'
      refine ⟨e', ?_, hasked.phase.trans hphase, hsessions.trans hopen⟩
      rw [hfirst, hrun, hmodes, List.map_cons, List.toFinset_cons, card_insert_sdiff hb,
        List.length_cons, Nat.add_sub_add_right, Nat.add_assoc, Nat.add_comm 1]
    · obtain ⟨e', hrun, hphase, hsessions⟩ := ih (t := { t with busy := t.busy + 1 }) hnodup
        hasked.quiet hrest hrestAsks (by rwa [hmodes])
      refine ⟨e', ?_, hasked.phase.trans hphase, hsessions.trans hopen⟩
      -- There are no more modes than sessions that are left.
      have hle : ((hs.map asks).toFinset \ heldModes e r).card ≤ hs.length :=
        (Finset.card_le_card Finset.sdiff_subset).trans
          ((List.toFinset_card_le _).trans (List.length_map _).le)
      rw [hfirst, hrun, hmodes, List.map_cons, List.toFinset_cons, Finset.insert_sdiff_of_mem _ hb,
        List.length_cons, Nat.sub_add_comm hle, Nat.add_assoc, Nat.add_comm 1]

/-! ## Going -/

theorem closeSessions_of_open {hs : List Handle} (hnodup : hs.Nodup)
    (ho : ∀ h ∈ hs, e.sessions.contains h = true) : closeSessions hs e = .ok (e.closeAll hs) := by
  induction hs generalizing e with
  | nil => rfl
  | cons h hs ih =>
    obtain ⟨hnot, hnodup⟩ := List.nodup_cons.mp hnodup
    obtain ⟨s, hs⟩ := Option.isSome_iff_exists.mp (ho h List.mem_cons_self)
    obtain ⟨executor, trail, hc⟩ := close_of_open hs
    have hpair : e.close h = (.ok (), (e.close h).2) := by rw [hc]
    rw [closeSessions, hpair]
    refine ih hnodup ?_
    intro k hk
    have hne : k ≠ h := by
      rintro rfl
      exact hnot hk
    rw [contains_close, ho k (List.mem_cons_of_mem h hk)]
    simpa using hne

/-- When those who have come in are gone, nobody is left if nobody was there before. -/
theorem Lined.nobody_left {e'' : Engine} {turn : Nat} {hs : List Handle}
    (hl : Lined e fds staging turn hs e') (hn : ∀ h, e.sessions.contains h = false)
    (hstill : e''.sessions.contains = e'.sessions.contains) (h : Handle) :
    (e''.closeAll hs).sessions.contains h = false := by
  rw [contains_closeAll, hstill]
  by_cases hh : h ∈ hs
  · simp [hh]
  · rw [Assoc.contains, hl.kept h hh, ← Assoc.contains, hn h, Bool.and_false]

theorem closeAll_phase (e : Engine) (hs : List Handle) : Phase e 0 (e.closeAll hs) := by
  induction hs generalizing e with
  | nil => exact .refl e
  | cons h hs ih =>
    have hctx : (e.close h).2.contexts = e.contexts := by
      unfold close
      split <;> rfl
    exact Phase.trans (.of_perform (c := .close h) rfl hctx rfl) (ih (e.close h).2)

end Stress

end Perfmon
