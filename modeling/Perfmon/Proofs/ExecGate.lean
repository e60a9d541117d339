import Perfmon.Proofs.Bookkeeping
/-!
# The gate in front of the executor

A batch reaches the executor only from an open session whose windows are open, in a context that
exists and that all its context-switched reservations follow, and with the device powered on;
otherwise it fails and leaves everything as it was. The session looks at its own record to find out
which contexts its reservations follow. That the reservation table says the same is
`Reached.follows_iff`, from the agreement of the two.
-/

namespace Perfmon

/-! ## What the gate checks -/

/-- The context of a session is good for its reservations exactly when it exists, if there is one,
and every reservation that follows a context follows this one. -/
theorem Session.checkContext_eq_ok_iff {s : Session} {contexts : ContextRegistry} :
    s.checkContext contexts = .ok () ↔
      (∀ ctx, s.binding.context? = some ctx → contexts.isLive ctx = true) ∧
      ∀ r ctx, s.reservedFor.get r = some ctx → s.binding.context? = some ctx := by
  unfold checkContext
  cases hb : s.binding.context? with
  | none =>
    dsimp only
    cases hf : Resource.all.findSome? fun r => (s.reservedFor.get r).map (r, ·) with
    | some p =>
      obtain ⟨r, -, hr⟩ := List.exists_of_findSome?_eq_some hf
      obtain ⟨c, hc, rfl⟩ := Option.map_eq_some_iff.mp hr
      constructor
      · intro h
        cases h
      · rintro ⟨-, h⟩
        cases h r c hc
    | none =>
      rw [List.findSome?_eq_none_iff] at hf
      refine iff_of_true rfl ⟨fun ctx h => (by cases h), fun r c hc => ?_⟩
      have hr := hf r (Resource.mem_all r)
      rw [hc] at hr
      cases hr
  | some ctx =>
    dsimp only
    cases hl : contexts.isLive ctx with
    | false =>
      constructor
      · intro h
        cases h
      · rintro ⟨h, -⟩
        rw [h ctx rfl] at hl
        cases hl
    | true =>
      simp only [Bool.not_true, Bool.false_eq_true, if_false]
      cases hf : Resource.all.findSome? fun r =>
          ((s.reservedFor.get r).filter (· ≠ ctx)).map (r, ·) with
      | some p =>
        obtain ⟨r, -, hr⟩ := List.exists_of_findSome?_eq_some hf
        obtain ⟨c, hc, rfl⟩ := Option.map_eq_some_iff.mp hr
        obtain ⟨hc, hne⟩ := Option.filter_eq_some_iff.mp hc
        constructor
        · intro h
          cases h
        · rintro ⟨-, h⟩
          have := h r c hc
          simp_all
      | none =>
        rw [List.findSome?_eq_none_iff] at hf
        refine iff_of_true rfl ⟨fun c h => ?_, fun r c hc => ?_⟩
        · rw [← Option.some.inj h]
          exact hl
        · have hr := hf r (Resource.mem_all r)
          rw [Option.map_eq_none_iff, Option.filter_eq_none_iff] at hr
          have := hr c hc
          simp_all

namespace Engine

/-- What a session needs for a batch. -/
structure ExecAllowed (e : Engine) (h : Handle) (count : Nat) (s : Session) : Prop where
  isOpen : e.sessions.find? h = some s
  pos : 1 ≤ count
  le : count ≤ e.config.maxRegOps
  pmBound : s.pmBound = true
  live : ∀ ctx, s.binding.context? = some ctx → e.contexts.isLive ctx = true
  follows : ∀ r ctx, ⟨h, .contextSwitched ctx⟩ ∈ e.device.reservations.holders r →
    s.binding.context? = some ctx
  powered : e.power.busy.1 = .ok ()

theorem checkExec_eq_ok_iff {e : Engine} {s : Session} {count : Nat} :
    e.checkExec s count = .ok () ↔
      1 ≤ count ∧ count ≤ e.config.maxRegOps ∧ s.pmBound = true ∧
        s.checkContext e.contexts = .ok () := by
  unfold checkExec
  split
  · rename_i hz
    subst hz
    simp
  · split
    · rename_i hz hm
      constructor
      · intro h
        cases h
      · rintro ⟨-, hle, -⟩
        omega
    · split
      · rename_i hz hm hp
        constructor
        · intro h
          cases h
        · rintro ⟨-, -, hp', -⟩
          simp [hp'] at hp
      · rename_i hz hm hp
        have hp : s.pmBound = true := by simpa using hp
        constructor
        · intro h
          exact ⟨by omega, by omega, hp, h⟩
        · rintro ⟨-, -, -, h⟩
          exact h

/-- What the table says of a session's context-switched reservations is what the session has
written down. -/
theorem Reached.follows_iff {config : Config} {e : Engine} (he : e.Reached config) {h : Handle}
    {s : Session} (hs : e.sessions.find? h = some s) {r : Resource} {ctx : ContextId} :
    ⟨h, .contextSwitched ctx⟩ ∈ e.device.reservations.holders r ↔
      s.reservedFor.get r = some ctx := by
  obtain ⟨hk, hset⟩ := ReachedBy.settled he hs
  have hfor : s.reservedFor.get r
      = (e.device.reservations.modeOf? r h).bind (·.context?) := by
    rw [← hk]
    exact hset.reservedFor r
  rw [hfor, ← ReservationTable.modeOf?_eq_some_iff (ReachedBy.wellFormed he),
    Option.bind_eq_some_iff]
  constructor
  · intro hm
    exact ⟨_, hm, rfl⟩
  · rintro ⟨m, hm, hx⟩
    cases m with
    | global => cases hx
    | contextSwitched c =>
      cases hx
      exact hm

/-- In a state that a run leads to, the gate and the power let a batch through exactly when its
session has what it needs. -/
theorem Reached.execAllowed_iff {config : Config} {e : Engine} (he : e.Reached config)
    {h : Handle} {s : Session} (hs : e.sessions.find? h = some s) {count : Nat} :
    e.ExecAllowed h count s ↔ e.checkExec s count = .ok () ∧ e.power.busy.1 = .ok () := by
  rw [checkExec_eq_ok_iff, Session.checkContext_eq_ok_iff]
  constructor
  · intro ha
    refine ⟨⟨ha.pos, ha.le, ha.pmBound, ha.live, fun r ctx hf => ?_⟩, ha.powered⟩
    exact ha.follows r ctx ((he.follows_iff hs).mpr hf)
  · rintro ⟨⟨hpos, hle, hpm, hlive, hfor⟩, hpow⟩
    exact ⟨hs, hpos, hle, hpm, hlive, fun r ctx hm => hfor r ctx ((he.follows_iff hs).mp hm),
      hpow⟩

/-- Every window of a batch is executed in the context of its session and with the power on. -/
theorem runBatch_handed (e : Engine) (h : Handle) (s : Session) (buffer : OpsBuffer) (count : Nat)
    (mode : ExecMode) :
    ∀ w ∈ (e.runBatch h s buffer count mode).1.submitted,
      w.context = s.binding.context? ∧ w.powerRefs = e.power.refs := by
  have hb := Batch.run_advanced ⟨s.binding.context?, s.accessClass, mode, e.power.refs⟩
    (.ofBatch count s.staging.capacity)
    ⟨e.executor, s.staging, buffer, e.metrics, emptyReport mode, []⟩
  intro w hw
  unfold runBatch at hw
  dsimp only at hw
  rw [List.mem_reverse] at hw
  rcases hb.submitted w hw with hw | hw
  · cases hw
  · exact hw

/-- Every window of a batch is executed in the context of its session. -/
theorem runBatch_submitted (e : Engine) (h : Handle) (s : Session) (buffer : OpsBuffer)
    (count : Nat) (mode : ExecMode) :
    ∀ w ∈ (e.runBatch h s buffer count mode).1.submitted, w.context = s.binding.context? :=
  fun w hw => (e.runBatch_handed h s buffer count mode w hw).1

/-- **A batch reaches the executor only from a session that has what it needs for it,** and in that
session's context; any other attempt fails and leaves everything as it was: the caller's memory, the
executor with the registers, the reservations and the count of calls, the sessions, and the
references on the power. -/
theorem execute_gated {config : Config} {e : Engine} (he : e.Reached config) (h : Handle)
    (buffer : OpsBuffer) (count : Nat) (mode : ExecMode) :
    (∀ w ∈ (e.execute h buffer count mode).1.submitted,
      ∃ s, e.ExecAllowed h count s ∧ w.context = s.binding.context?) ∧
    ((∀ s, ¬e.ExecAllowed h count s) →
      (∃ err, (e.execute h buffer count mode).1.result = .error err) ∧
      (e.execute h buffer count mode).1.submitted = [] ∧
      (e.execute h buffer count mode).1.buffer = buffer ∧
      (e.execute h buffer count mode).2.executor = e.executor ∧
      (e.execute h buffer count mode).2.sessions = e.sessions ∧
      (e.execute h buffer count mode).2.power.refs = e.power.refs) := by
  unfold execute
  -- Three ways out before the executor is reached, and the way in.
  cases hs : e.sessions.find? h with
  | none =>
    refine ⟨fun w hw => (by cases hw), fun _ => ?_⟩
    exact ⟨⟨_, rfl⟩, rfl, rfl, rfl, rfl, rfl⟩
  | some s =>
    dsimp only
    cases hc : e.checkExec s count with
    | error err =>
      refine ⟨fun w hw => (by cases hw), fun _ => ?_⟩
      exact ⟨⟨_, rfl⟩, rfl, rfl, rfl, rfl, rfl⟩
    | ok u =>
      dsimp only
      split
      · rename_i err power hp
        refine ⟨fun w hw => (by cases hw), fun _ => ?_⟩
        have hrefs := Power.refs_of_busy_error (by rw [hp])
        rw [hp] at hrefs
        exact ⟨⟨_, rfl⟩, rfl, rfl, rfl, rfl, hrefs⟩
      · rename_i power hp
        have ha : e.ExecAllowed h count s :=
          (he.execAllowed_iff hs).mpr ⟨hc, by rw [hp]⟩
        refine ⟨fun w hw => ⟨s, ha, ?_⟩, fun hn => absurd ha (hn s)⟩
        exact runBatch_submitted { e with power } h s buffer count mode w hw

/-- A run behind which a session has its windows open, but is bound to another context than the one
that its reservation follows. -/
def strayRun : List Call :=
  [.createContext 3, .createContext 5, .openSession .device, .bindContext ⟨1⟩ (some 3),
    .reserve ⟨1⟩ .smpc true, .bindPm ⟨1⟩, .unbindContext ⟨1⟩, .bindContext ⟨1⟩ (some 5)]

theorem execute_gated_when_astray :
    (small strayRun).Reached .small ∧
      (∀ s, ¬(small strayRun).ExecAllowed ⟨1⟩ 1 s) ∧
      ((small strayRun).execute ⟨1⟩ ⟨.list [.write32 0x419000 7], none, none⟩ 1
        .continueOnError).2.executor = (small strayRun).executor := by
  have he : (small strayRun).Reached .small := reachedBy_small (fun _ _ => trivial) (by decide)
  have hn : ∀ s, ¬(small strayRun).ExecAllowed ⟨1⟩ 1 s := by
    intro s ha
    have hs : ((small strayRun).sessions.find? ⟨1⟩).map (·.binding.context?) = some (some ⟨2⟩) :=
      rfl
    have hx : ⟨⟨1⟩, .contextSwitched ⟨1⟩⟩ ∈ (small strayRun).device.reservations.holders .smpc :=
      List.mem_cons_self
    have hc := ha.follows .smpc ⟨1⟩ hx
    rw [ha.isOpen, Option.map_some, hc] at hs
    cases hs
  exact ⟨he, hn, ((execute_gated he ⟨1⟩ _ 1 .continueOnError).2 hn).2.2.2.1⟩

end Engine

end Perfmon
