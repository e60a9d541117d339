import Perfmon.Proofs.Arbitration
import Perfmon.Proofs.Calls
/-!
# Who gets a resource

A session that asks for a resource may be barred from asking (`Session.Barred`), or the device cannot
do what it asks for (`Capabilities.Lacks`), or another session is in its way (`Engine.Contended`);
otherwise it gets what it asks for, unless it has the resource already. `Answered` lists the answers
with what they say about the state, and because the reasons exclude each other, each answer is given
exactly when it is due (`reserve_decides`).

The table answers by what is in it. That whoever it names as being in the way is open comes from the
ledger being orderly: no session leaves an entry behind.
-/

namespace Perfmon

namespace ReservationMode

/-- Modes in which two sessions cannot hold one resource: one of them is global, or both follow the
same context. -/
def Incompatible (a b : ReservationMode) : Prop :=
  a = .global ∨ b = .global ∨ ∃ ctx, a = .contextSwitched ctx ∧ b = .contextSwitched ctx

theorem conflicts_iff {a b : ReservationMode} : a.conflicts b = true ↔ a.Incompatible b := by
  cases a <;> cases b <;> simp [conflicts, Incompatible]
  exact eq_comm

end ReservationMode

/-! ## Asking -/

/-- A device cannot reserve a resource in a mode. -/
def Capabilities.Lacks (caps : Capabilities) (r : Resource) (mode : ReservationMode) : Prop :=
  mode = .global ∧ r = .smpc ∧ caps.smpcGlobalMode = false

theorem Capabilities.not_lacks_contextSwitched {caps : Capabilities} {r : Resource}
    (ctx : ContextId) : ¬caps.Lacks r (.contextSwitched ctx) :=
  fun h => nomatch h.1

instance (caps : Capabilities) (r : Resource) (mode : ReservationMode) :
    Decidable (caps.Lacks r mode) :=
  inferInstanceAs (Decidable (_ ∧ _))

namespace Session

/-- The mode that a session asks for: it follows the context if the session has context scope or
wants it to, and there is none without a context to follow. -/
def asks? (s : Session) (contextSwitched : Bool) : Option ReservationMode :=
  if s.scope = .context ∨ contextSwitched = true then s.binding.context?.map .contextSwitched
  else some .global

/-- A session may not ask for a resource. -/
def Barred (s : Session) (contextSwitched : Bool) : Prop :=
  s.binding.isBound = false ∨ s.pmBound = true ∨ s.asks? contextSwitched = none

instance (s : Session) (contextSwitched : Bool) : Decidable (s.Barred contextSwitched) :=
  inferInstanceAs (Decidable (_ ∨ _))

/-- Without a context to follow there is no mode; otherwise the device has to be able to do it. -/
theorem requestedMode_cases (s : Session) (caps : Capabilities) (r : Resource)
    (contextSwitched : Bool) :
    (s.asks? contextSwitched = none ∧
      ∃ reason, s.requestedMode caps r contextSwitched = .error (.invalidState reason)) ∨
    ∃ mode, s.asks? contextSwitched = some mode ∧
      ((caps.Lacks r mode ∧
          ∃ what, s.requestedMode caps r contextSwitched = .error (.unsupported what)) ∨
        (¬caps.Lacks r mode ∧ s.requestedMode caps r contextSwitched = .ok mode)) := by
  unfold requestedMode asks?
  cases s.scope with
  | context =>
    rw [if_pos (Or.inl rfl)]
    cases s.binding.context? with
    | none => exact Or.inl ⟨rfl, _, rfl⟩
    | some ctx => exact Or.inr ⟨_, rfl, Or.inr ⟨Capabilities.not_lacks_contextSwitched ctx, rfl⟩⟩
  | device =>
    cases contextSwitched with
    | true =>
      rw [if_pos (Or.inr rfl)]
      cases s.binding.context? with
      | none => exact Or.inl ⟨rfl, _, rfl⟩
      | some ctx => exact Or.inr ⟨_, rfl, Or.inr ⟨Capabilities.not_lacks_contextSwitched ctx, rfl⟩⟩
    | false =>
      refine Or.inr ⟨_, if_neg (by simp), ?_⟩
      dsimp only
      by_cases hl : r = .smpc ∧ !caps.smpcGlobalMode
      · rw [if_pos hl]
        exact Or.inl ⟨⟨rfl, hl.1, by simpa using hl.2⟩, _, rfl⟩
      · rw [if_neg hl]
        exact Or.inr ⟨fun h => hl ⟨h.2.1, by simpa using h.2.2⟩, rfl⟩

/-- Why a session does not go to the device, or the mode for which it goes there. -/
theorem checkReserve_cases (s : Session) (caps : Capabilities) (r : Resource)
    (contextSwitched : Bool) :
    (s.Barred contextSwitched ∧
      ∃ reason, s.checkReserve caps r contextSwitched = .error (.invalidState reason)) ∨
    (¬s.Barred contextSwitched ∧ ∃ mode, s.asks? contextSwitched = some mode ∧
      ((caps.Lacks r mode ∧
          ∃ what, s.checkReserve caps r contextSwitched = .error (.unsupported what)) ∨
        (¬caps.Lacks r mode ∧ s.checkReserve caps r contextSwitched = .ok mode))) := by
  unfold checkReserve Barred
  cases hb : s.binding.isBound with
  | false => exact Or.inl ⟨Or.inl rfl, _, rfl⟩
  | true =>
    cases hp : s.pmBound with
    | true => exact Or.inl ⟨Or.inr (Or.inl rfl), _, rfl⟩
    | false =>
      rcases s.requestedMode_cases caps r contextSwitched with ⟨hn, hr⟩ | ⟨mode, hm, hr⟩
      · exact Or.inl ⟨Or.inr (Or.inr hn), hr⟩
      · exact Or.inr ⟨by simp [hm], mode, hm, hr⟩

end Session

/-! ## Being answered -/

namespace Engine

/-- An open session holds a resource in a mode. -/
def HeldBy (e : Engine) (r : Resource) (h : Handle) (mode : ReservationMode) : Prop :=
  e.sessions.contains h = true ∧ ⟨h, mode⟩ ∈ e.device.reservations.holders r

instance (e : Engine) (r : Resource) (h : Handle) (mode : ReservationMode) :
    Decidable (e.HeldBy r h mode) :=
  inferInstanceAs (Decidable (_ ∧ _))

/-- A session does not hold a resource, and another open session holds it in a mode that cannot be
had together with the one that is asked for. -/
def Contended (e : Engine) (r : Resource) (h : Handle) (mode : ReservationMode) : Prop :=
  (∀ own, ¬e.HeldBy r h own) ∧
    ∃ k held, k ≠ h ∧ e.HeldBy r k held ∧ mode.Incompatible held

/-- The answer to a session that asks for a resource and the state behind it, with what the answer
says about the state in which it is given. -/
inductive Answered (e : Engine) (h : Handle) (s : Session) (r : Resource) (contextSwitched : Bool) :
    Except Error Reserved → Engine → Prop
  /-- The session may not ask. -/
  | barred {e' : Engine} (reason : String) (hb : s.Barred contextSwitched) :
      Answered e h s r contextSwitched (.error (.invalidState reason)) e'
  /-- The device cannot do it. -/
  | lacking {e' : Engine} {mode : ReservationMode} (what : String)
      (hb : ¬s.Barred contextSwitched) (hm : s.asks? contextSwitched = some mode)
      (hl : e.device.capabilities.Lacks r mode) :
      Answered e h s r contextSwitched (.error (.unsupported what)) e'
  /-- Another session is in the way. -/
  | contended {e' : Engine} {mode : ReservationMode} (reason : String)
      (hb : ¬s.Barred contextSwitched) (hm : s.asks? contextSwitched = some mode)
      (hl : ¬e.device.capabilities.Lacks r mode) (hc : e.Contended r h mode) :
      Answered e h s r contextSwitched (.error (.resourceBusy r reason)) e'
  /-- The session has the resource already. -/
  | already {e' : Engine} {mode own : ReservationMode} (hb : ¬s.Barred contextSwitched)
      (hm : s.asks? contextSwitched = some mode) (hl : ¬e.device.capabilities.Lacks r mode)
      (ho : e.HeldBy r h own) (ho' : e'.HeldBy r h own) :
      Answered e h s r contextSwitched (.ok (.ofMode own)) e'
  /-- The session gets the resource. -/
  | granted {e' : Engine} {mode : ReservationMode} (hb : ¬s.Barred contextSwitched)
      (hm : s.asks? contextSwitched = some mode) (hl : ¬e.device.capabilities.Lacks r mode)
      (hn : ∀ own, ¬e.HeldBy r h own)
      (hf : ∀ k held, e.HeldBy r k held → ¬mode.Incompatible held) (ho' : e'.HeldBy r h mode) :
      Answered e h s r contextSwitched (.ok (.ofMode mode)) e'

/-- Whoever the table names is open, in an undisturbed run. -/
theorem ReachedUndisturbed.heldBy_iff {config : Config} {e : Engine}
    (he : e.ReachedUndisturbed config) {r : Resource} {h : Handle} {mode : ReservationMode} :
    e.HeldBy r h mode ↔ ⟨h, mode⟩ ∈ e.device.reservations.holders r := by
  refine ⟨fun hh => hh.2, fun hh => ⟨?_, hh⟩⟩
  cases hs : e.sessions.find? h with
  | some s => simp [Assoc.contains, hs]
  | none =>
    have hu := (he.orderly h (by simp [ledger, hs]) r).1
    exact absurd rfl (ReservationTable.modeOf?_eq_none_iff.mp hu _ hh)

/-- The table finds the mode, so a session holds a resource in one mode only. -/
theorem ReachedUndisturbed.heldBy_iff_modeOf? {config : Config} {e : Engine}
    (he : e.ReachedUndisturbed config) {r : Resource} {h : Handle} {mode : ReservationMode} :
    e.HeldBy r h mode ↔ e.device.reservations.modeOf? r h = some mode :=
  he.heldBy_iff.trans (ReservationTable.modeOf?_eq_some_iff (ReachedBy.wellFormed he)).symm

/-- **An open session is answered for a reason that holds.** -/
theorem ReachedUndisturbed.reserve_answered {config : Config} {e : Engine}
    (he : e.ReachedUndisturbed config) {h : Handle} {s : Session}
    (hs : e.sessions.find? h = some s) (r : Resource) (contextSwitched : Bool) :
    e.Answered h s r contextSwitched (e.reserve h r contextSwitched).1
      (e.reserve h r contextSwitched).2 := by
  obtain ⟨rfl, -⟩ := ReachedBy.settled he hs
  obtain ⟨metrics, trail, heq⟩ := reserve_of_open hs r contextSwitched
  have hmode : ∀ own, e.HeldBy r s.handle own ↔
      e.device.reservations.modeOf? r s.handle = some own := fun own => he.heldBy_iff_modeOf?
  rw [heq]
  dsimp only
  rcases s.checkReserve_cases e.executor.device.capabilities r contextSwitched with
    ⟨hb, reason, hc⟩ | ⟨hb, mode, hm, ⟨hl, what, hc⟩ | ⟨hl, hc⟩⟩
  · simp only [Session.reserve, hc]
    exact .barred reason hb
  · simp only [Session.reserve, hc]
    exact .lacking what hb hm hl
  · have hopen : ∀ s' : Session, (e.sessions.insert s.handle s').contains s.handle = true := by
      intro s'
      rw [Assoc.contains, Assoc.find?_insert_self]
      rfl
    rcases e.executor.reserve_cases s.handle r mode with
      ⟨err, hx, hq⟩ | ⟨own, hown, hx⟩ | ⟨hnone, hfree, hx⟩
    · -- No failure is armed, so it is a holder that is in the way.
      obtain ⟨b, hnone, hblock, rfl⟩ := hq he.quietly.quiet
      simp only [Session.reserve, hc, hx]
      have hnot : ∀ own, ¬e.HeldBy r s.handle own := fun own ho => by
        cases ((hmode own).mp ho).symm.trans hnone
      obtain ⟨hmem, hconf⟩ := ReservationTable.blocker?_eq_some hblock
      have hheld : e.HeldBy r b.session b.mode := he.heldBy_iff.mpr hmem
      refine .contended _ hb hm hl ⟨hnot, b.session, b.mode, ?_, hheld, ?_⟩
      · intro hk
        rw [hk] at hheld
        exact hnot b.mode hheld
      · exact ReservationMode.conflicts_iff.mp hconf
    · simp only [Session.reserve, hc, hx]
      have ho := (hmode own).mpr hown
      exact .already hb hm hl ho ⟨hopen _, ho.2⟩
    · simp only [Session.reserve, hc, hx]
      refine .granted hb hm hl (fun own ho => ?_) (fun k held hk hi => ?_) ⟨hopen _, ?_⟩
      · cases ((hmode own).mp ho).symm.trans hnone
      · rw [← ReservationMode.conflicts_iff,
          ReservationTable.blocker?_eq_none_iff.mp hfree _ hk.2] at hi
        cases hi
      · show _ ∈ (e.device.reservations.enter r s.handle mode).holders r
        rw [ReservationTable.holders_enter, if_pos rfl]
        exact List.mem_append_right _ (List.mem_singleton_self _)

/-- **A resource is refused for a reason, and granted without one.** An open session that asks for a
resource is told that it may not ask exactly if it may not; otherwise that the device cannot do it
exactly if the device cannot; otherwise that the resource is busy exactly if the session does not
hold it and another open session holds it in a mode that cannot be had together with the one asked
for; and otherwise it gets the resource, in the mode in which it had it, or else in the mode that it
asked for. -/
theorem reserve_decides {config : Config} {e : Engine} (he : e.ReachedUndisturbed config)
    {h : Handle} {s : Session} (hs : e.sessions.find? h = some s) (r : Resource)
    (contextSwitched : Bool) :
    ((∃ reason, (e.reserve h r contextSwitched).1 = .error (.invalidState reason)) ↔
      s.Barred contextSwitched) ∧
    ((∃ what, (e.reserve h r contextSwitched).1 = .error (.unsupported what)) ↔
      ¬s.Barred contextSwitched ∧ ∃ mode, s.asks? contextSwitched = some mode ∧
        e.device.capabilities.Lacks r mode) ∧
    ((∃ reason, (e.reserve h r contextSwitched).1 = .error (.resourceBusy r reason)) ↔
      ¬s.Barred contextSwitched ∧ ∃ mode, s.asks? contextSwitched = some mode ∧
        ¬e.device.capabilities.Lacks r mode ∧ e.Contended r h mode) ∧
    ∀ mode, ¬s.Barred contextSwitched → s.asks? contextSwitched = some mode →
      ¬e.device.capabilities.Lacks r mode → ¬e.Contended r h mode →
      ∃ own, (e.reserve h r contextSwitched).1 = .ok ⟨own.isContextSwitched⟩ ∧
        (e.reserve h r contextSwitched).2.HeldBy r h own ∧
        (∀ held, e.HeldBy r h held → own = held) ∧
        ((∀ held, ¬e.HeldBy r h held) → own = mode) := by
  have ha := he.reserve_answered hs r contextSwitched
  generalize (e.reserve h r contextSwitched).1 = result at ha ⊢
  -- The reasons exclude each other, so the one that was given is the only one that holds.
  cases ha with
  | barred reason hb => simp [hb]
  | lacking what hb hm hl => simp [hb, hm, hl]
  | contended reason hb hm hl hc => simp [hb, hm, hl, hc]
  | already hb hm hl ho ho' =>
    rename_i mode own
    have hc : ¬e.Contended r h mode := fun hc => hc.1 own ho
    refine ⟨by simp [hb], by simp [hb, hm, hl], by simp [hb, hm, hl, hc], fun _ _ _ _ _ => ?_⟩
    refine ⟨own, rfl, ho', fun held hh => ?_, fun hn => absurd ho (hn own)⟩
    have hown := he.heldBy_iff_modeOf?.mp ho
    rw [he.heldBy_iff_modeOf?.mp hh] at hown
    exact (Option.some.inj hown).symm
  | granted hb hm hl hn hf ho' =>
    rename_i mode
    have hc : ¬e.Contended r h mode := fun ⟨_, k, held, _, hk, hi⟩ => hf k held hk hi
    refine ⟨by simp [hb], by simp [hb, hm, hl], by simp [hb, hm, hl, hc], fun m _ hm' _ _ => ?_⟩
    obtain rfl : mode = m := Option.some.inj (hm.symm.trans hm')
    exact ⟨mode, rfl, ho', fun held hh => absurd hh (hn held), fun _ => rfl⟩

/-- A run in which two sessions follow the same context, and one of them has the counters of the
multiprocessors. -/
def sameContextRun : List Call :=
  [.createContext 3, .openSession .device, .openSession .context, .bindContext ⟨1⟩ (some 3),
    .bindContext ⟨2⟩ (some 3), .reserve ⟨1⟩ .smpc true]

/-- The other one has to wait until the first one has gone. -/
theorem reserve_decides_for_same_context :
    (∃ e, e = small sameContextRun ∧ e.ReachedUndisturbed .small ∧
      ∃ reason, (e.reserve ⟨2⟩ .smpc false).1 = .error (.resourceBusy .smpc reason)) ∧
    ∃ e, e = small (sameContextRun ++ [.close ⟨1⟩]) ∧ e.ReachedUndisturbed .small ∧
      (e.reserve ⟨2⟩ .smpc false).2.HeldBy .smpc ⟨2⟩ (.contextSwitched ⟨1⟩) := by
  constructor
  · have he : (small sameContextRun).ReachedUndisturbed .small :=
      reachedBy_small (by decide) (by decide)
    obtain ⟨-, -, hbusy, -⟩ := reserve_decides he (h := ⟨2⟩) rfl .smpc false
    refine ⟨_, rfl, he, hbusy.mpr ⟨by decide, .contextSwitched ⟨1⟩, rfl, by decide, ?_⟩⟩
    refine ⟨fun own ho => ?_, ⟨1⟩, .contextSwitched ⟨1⟩, by decide, by decide, ?_⟩
    · have hown := he.heldBy_iff_modeOf?.mp ho
      cases hown
    · exact Or.inr (Or.inr ⟨⟨1⟩, rfl, rfl⟩)
  · have he : (small (sameContextRun ++ [.close ⟨1⟩])).ReachedUndisturbed .small :=
      reachedBy_small (by decide) (by decide)
    have hfree : ∀ k held,
        ¬(small (sameContextRun ++ [.close ⟨1⟩])).HeldBy .smpc k held := fun k held hk =>
      nomatch hk.2
    obtain ⟨-, -, -, hok⟩ := reserve_decides he (h := ⟨2⟩) rfl .smpc false
    obtain ⟨own, -, hheld, -, hmode⟩ := hok (.contextSwitched ⟨1⟩) (by decide) rfl (by decide)
      fun ⟨_, k, held, _, hk, _⟩ => hfree k held hk
    rw [hmode (hfree ⟨2⟩)] at hheld
    exact ⟨_, rfl, he, hheld⟩

end Engine

end Perfmon
