import Perfmon.Proofs.Calls
import Perfmon.Proofs.Images
/-!
# Batches that run side by side

Sessions with different contexts, and one without, may execute batches in any order: each of them
gets what it would get if the others did not execute anything. What the batches of a session depend
on is collected in `SameFor`. A batch of the session takes two states that look the same to it to two
such states, with the same answer (`execute_sameFor`); a batch of another one, with another context,
changes nothing of it (`execute_other`). So one goes through a run and leaves out the batches of the
others (`answers_interleaved`).
-/

namespace Perfmon

/-- Whether a call is addressed to a session. -/
def Call.isTo (h : Handle) (c : Call) : Bool :=
  c.target? = some h

namespace Engine

/-- Two engines look the same to a session that works at a place, and let it. -/
structure SameFor (h : Handle) (p : Option ContextId) (e e' : Engine) : Prop where
  config : e'.config = e.config
  contexts : e'.contexts = e.contexts
  session : e'.sessions.find? h = e.sessions.find? h
  refs : e'.power.refs = e.power.refs
  executor : e.executor.SameAt p e'.executor
  left : e.power.failNext = false
  right : e'.power.failNext = false

variable {e e' : Engine} {h k : Handle} {s : Session} {p : Option ContextId}

theorem SameFor.refl (hx : e.executor.Calm) (hf : e.power.failNext = false) : SameFor h p e e :=
  ⟨rfl, rfl, rfl, rfl, ⟨.refl p e.device, hx, hx⟩, hf, hf⟩

/-! ## One batch -/

theorem SameFor.checkExec (hsame : SameFor h p e e') (s : Session) (count : Nat) :
    e'.checkExec s count = e.checkExec s count := by
  unfold Engine.checkExec
  rw [hsame.config, hsame.contexts]

theorem SameFor.withPower (hsame : SameFor h p e e') (refs n n' : Nat) :
    SameFor h p { e with power := ⟨refs, n, false⟩ } { e' with power := ⟨refs, n', false⟩ } :=
  ⟨hsame.config, hsame.contexts, hsame.session, rfl, hsame.executor, rfl, rfl⟩

theorem runBatch_sameFor (hsame : SameFor h p e e') (hp : s.binding.context? = p)
    (buffer : OpsBuffer) (count : Nat) (mode : ExecMode) :
    (e'.runBatch h s buffer count mode).1 = (e.runBatch h s buffer count mode).1 ∧
      SameFor h p (e.runBatch h s buffer count mode).2 (e'.runBatch h s buffer count mode).2 := by
  subst hp
  have hbatch : Batch.SameAt s.binding.context?
      ⟨e.executor, s.staging, buffer, e.metrics, emptyReport mode, []⟩
      ⟨e'.executor, s.staging, buffer, e'.metrics, emptyReport mode, []⟩ :=
    ⟨hsame.executor, rfl, rfl, rfl, rfl⟩
  obtain ⟨hout, hend⟩ := Batch.run_sameAt (s.onImage mode e.power.refs)
    (.ofBatch count s.staging.capacity) hbatch
  unfold runBatch
  dsimp only
  rw [hsame.refs, hout, hend.buffer, hend.report, hend.staging, hend.submitted]
  refine ⟨rfl, hsame.config, hsame.contexts, ?_, hsame.refs, hend.executor, hsame.left,
    hsame.right⟩
  dsimp only
  rw [Assoc.find?_insert_self, Assoc.find?_insert_self]

/-- **A batch of a session has the same outcome in states that look the same to the session.** -/
theorem execute_sameFor (hsame : SameFor h p e e')
    (hp : ∀ s, e.sessions.find? h = some s → s.binding.context? = p) (buffer : OpsBuffer)
    (count : Nat) (mode : ExecMode) :
    (e'.execute h buffer count mode).1 = (e.execute h buffer count mode).1 ∧
      SameFor h p (e.execute h buffer count mode).2 (e'.execute h buffer count mode).2 := by
  unfold execute
  rw [hsame.session]
  cases hs : e.sessions.find? h with
  | none => exact ⟨rfl, hsame⟩
  | some s =>
    dsimp only
    rw [hsame.checkExec]
    cases e.checkExec s count with
    | error err => exact ⟨rfl, hsame⟩
    | ok _ =>
      obtain ⟨n, hbusy⟩ := Power.busy_eq hsame.left
      obtain ⟨n', hbusy'⟩ := Power.busy_eq hsame.right
      rw [hbusy, hbusy', hsame.refs]
      dsimp only
      obtain ⟨hout, hrun⟩ := runBatch_sameFor (hsame.withPower (e.power.refs + 1) n n') (hp s hs)
        buffer count mode
      rw [hout]
      exact ⟨rfl, hrun.config, hrun.contexts, hrun.session,
        congrArg (· - 1) hrun.refs, hrun.executor, hrun.left, hrun.right⟩

theorem runBatch_workedAt (e : Engine) (k : Handle) (s : Session) (buffer : OpsBuffer) (count : Nat)
    (mode : ExecMode) :
    e.executor.WorkedAt s.binding.context? (e.runBatch k s buffer count mode).2.executor :=
  Batch.run_workedAt (s.onImage mode e.power.refs) (.ofBatch count s.staging.capacity)
    ⟨e.executor, s.staging, buffer, e.metrics, emptyReport mode, []⟩

/-- **A batch of a session with another context is nothing to the session.** -/
theorem execute_other (hsame : SameFor h p e e') (hk : k ≠ h)
    (hp : ∀ s, e.sessions.find? k = some s → s.binding.context? ≠ p) (buffer : OpsBuffer)
    (count : Nat) (mode : ExecMode) : SameFor h p (e.execute k buffer count mode).2 e' := by
  unfold execute
  cases hs : e.sessions.find? k with
  | none => exact hsame
  | some s =>
    dsimp only
    cases e.checkExec s count with
    | error err => exact hsame
    | ok _ =>
      obtain ⟨n, hbusy⟩ := Power.busy_eq hsame.left
      rw [hbusy]
      dsimp only
      have hwork := runBatch_workedAt { e with power := ⟨e.power.refs + 1, n, false⟩ } k s buffer
        count mode
      refine ⟨hsame.config, hsame.contexts, ?_, hsame.refs, ?_, rfl, hsame.right⟩
      · dsimp only [runBatch]
        rw [Assoc.find?_insert, if_neg hk.symm]
        exact hsame.session
      · exact ⟨(hwork.elsewhere p (hp s hs).symm).symm.trans hsame.executor.device,
          hwork.calm hsame.executor.left, hsame.executor.right⟩

/-- A batch of any session leaves the contexts of all of them as they are. -/
theorem binding_of_execute {s' : Session} {buffer : OpsBuffer} {count : Nat} {mode : ExecMode}
    (hs : (e.execute k buffer count mode).2.sessions.find? h = some s') :
    ∃ s, e.sessions.find? h = some s ∧ s'.binding = s.binding := by
  cases hk : e.sessions.find? k with
  | none =>
    rw [execute, hk] at hs
    exact ⟨s', hs, rfl⟩
  | some s =>
    obtain ⟨staging, x', metrics, power, -, he⟩ := execute_touched hk buffer count mode
    rw [he] at hs
    dsimp only at hs
    rw [Assoc.find?_insert] at hs
    split at hs
    · rename_i hhk
      cases hs
      exact ⟨s, hhk ▸ hk, rfl⟩
    · exact ⟨s', hs, rfl⟩

/-! ## Runs of batches -/

/-- The calls of a run with their answers. -/
def answers (e : Engine) : List Call → List (Call × Reply)
  | [] => []
  | c :: cs => (c, (e.perform c).1) :: (e.perform c).2.answers cs

/-- A call to execute a batch for one of some sessions. -/
def BatchOf (handles : List Handle) (c : Call) : Prop :=
  ∃ h ∈ handles, ∃ buffer count mode, c = .execute h buffer count mode

/-- The sessions work at these places. -/
def WorkAt (e : Engine) (handles : List Handle) (place : Handle → Option ContextId) : Prop :=
  ∀ h ∈ handles, ∀ s, e.sessions.find? h = some s → s.binding.context? = place h

variable {handles : List Handle} {place : Handle → Option ContextId} {calls : List Call}

theorem WorkAt.execute (hw : e.WorkAt handles place) (k : Handle) (buffer : OpsBuffer) (count : Nat)
    (mode : ExecMode) : (e.execute k buffer count mode).2.WorkAt handles place := by
  intro h hh s' hs'
  obtain ⟨s, hs, hb⟩ := binding_of_execute hs'
  rw [hb]
  exact hw h hh s hs

/-- **A session gets out of a run what it gets without the batches of the others.** -/
theorem answers_interleaved (hdiff : ∀ h ∈ handles, ∀ k ∈ handles, place h = place k → h = k)
    (hh : h ∈ handles) (hcalls : ∀ c ∈ calls, BatchOf handles c) (hw : e.WorkAt handles place)
    (hsame : SameFor h (place h) e e') :
    (e.answers calls).filter (·.1.isTo h) = e'.answers (calls.filter (·.isTo h)) ∧
      SameFor h (place h) (e.performAll calls) (e'.performAll (calls.filter (·.isTo h))) := by
  induction calls generalizing e e' with
  | nil => exact ⟨rfl, hsame⟩
  | cons c cs ih =>
    obtain ⟨k, hk, buffer, count, mode, rfl⟩ := hcalls c List.mem_cons_self
    have hrest : ∀ c ∈ cs, BatchOf handles c := fun c hc => hcalls c (List.mem_cons_of_mem _ hc)
    have hw' := hw.execute k buffer count mode
    by_cases hkh : k = h
    · -- The call is one of the session itself, and both sides carry it out.
      subst hkh
      obtain ⟨hout, hstep⟩ := execute_sameFor hsame (hw k hk) buffer count mode
      obtain ⟨hlog, hend⟩ := ih hrest hw' hstep
      have hown : (Call.execute k buffer count mode).isTo k = true := decide_eq_true rfl
      simp only [answers, List.filter_cons, hown, if_true]
      refine ⟨congrArg₂ List.cons ?_ hlog, hend⟩
      exact congrArg (fun x => (Call.execute k buffer count mode, Reply.executed x)) hout.symm
    · have hother : ∀ s, e.sessions.find? k = some s → s.binding.context? ≠ place h := by
        intro s hs hp
        exact hkh (hdiff k hk h hh ((hw k hk s hs).symm.trans hp))
      obtain ⟨hlog, hend⟩ := ih hrest hw' (execute_other hsame hkh hother buffer count mode)
      have hforeign : (Call.execute k buffer count mode).isTo h = false :=
        decide_eq_false fun hkh' => hkh (Option.some.inj hkh')
      simp only [answers, List.filter_cons, hforeign, Bool.false_eq_true, if_false]
      exact ⟨hlog, hend⟩

/-- **Batches on different register images do not interfere.** Some sessions have different
contexts, or at most one of them has none, and execute batches one after the other in any order.
Then each of them gets the same answers, with the same memory of the caller, and finds the same in
its registers at last, as if the others had not executed anything. -/
theorem batches_do_not_interfere {config : Config} (he : e.ReachedQuietly config)
    (hpower : e.power.failNext = false) (hw : e.WorkAt handles place)
    (hdiff : ∀ h ∈ handles, ∀ k ∈ handles, place h = place k → h = k)
    (hcalls : ∀ c ∈ calls, BatchOf handles c) (hh : h ∈ handles) :
    (e.answers calls).filter (·.1.isTo h) = e.answers (calls.filter (·.isTo h)) ∧
      (e.performAll calls).device.registers (place h)
        = (e.performAll (calls.filter (·.isTo h))).device.registers (place h) := by
  have hcalm : e.executor.Calm := by
    intro n hn
    rw [he.quiet] at hn
    cases hn
  obtain ⟨hlog, hend⟩ := answers_interleaved hdiff hh hcalls hw (.refl hcalm hpower)
  refine ⟨hlog, ?_⟩
  rw [Device.registers_eq_read, Device.registers_eq_read]
  exact congrArg RegisterFile.read hend.executor.device.file.symm

/-- A run behind which three sessions may work side by side, one of them on live registers. -/
def parallelRun : List Call :=
  [.createContext 3, .createContext 5, .openSession .device, .openSession .device,
    .openSession .context, .bindContext ⟨1⟩ none, .bindContext ⟨2⟩ (some 3),
    .bindContext ⟨3⟩ (some 5), .reserve ⟨1⟩ .hwpmLegacy false, .reserve ⟨2⟩ .smpc true,
    .reserve ⟨3⟩ .smpc true, .bindPm ⟨1⟩, .bindPm ⟨2⟩, .bindPm ⟨3⟩]

/-- Batches on one register, which is there three times. -/
def parallelBatches : List Call :=
  [.execute ⟨2⟩ ⟨.list [.write64 0x419000 7], none, none⟩ 1 .allOrNone,
    .execute ⟨1⟩ ⟨.list [.write64 0x419000 9, .read64 0x419000], none, none⟩ 2 .continueOnError,
    .execute ⟨3⟩ ⟨.list [.write64 0x419000 8, .read64 0x419000], none, none⟩ 2 .allOrNone,
    .execute ⟨2⟩ ⟨.list [.read64 0x419000], none, none⟩ 1 .continueOnError]

/-- The places of the three sessions. -/
def parallelPlace (h : Handle) : Option ContextId :=
  if h = ⟨2⟩ then some ⟨1⟩ else if h = ⟨3⟩ then some ⟨2⟩ else none

theorem batches_do_not_interfere_in_parallel :
    (small parallelRun).ReachedQuietly .small ∧
      (small parallelRun).device.boundTo .smpc = [⟨2⟩, ⟨3⟩] ∧
      ((small parallelRun).answers parallelBatches).filter (·.1.isTo ⟨2⟩)
        = (small parallelRun).answers (parallelBatches.filter (·.isTo ⟨2⟩)) ∧
      ((small parallelRun).performAll parallelBatches).device.registers none 0x419000 = 9 ∧
      ((small parallelRun).performAll parallelBatches).device.registers (some ⟨1⟩) 0x419000 = 7 := by
  have he : (small parallelRun).ReachedQuietly .small := ⟨reachedFreely_small _, rfl⟩
  have hw : (small parallelRun).WorkAt [⟨1⟩, ⟨2⟩, ⟨3⟩] parallelPlace := by
    intro h hh s hs
    simp only [List.mem_cons, List.not_mem_nil, or_false] at hh
    rcases hh with rfl | rfl | rfl
    · cases Option.some.inj hs
      rfl
    · cases Option.some.inj hs
      rfl
    · cases Option.some.inj hs
      rfl
  have hcalls : ∀ c ∈ parallelBatches, BatchOf [⟨1⟩, ⟨2⟩, ⟨3⟩] c := by
    intro c hc
    simp only [parallelBatches, List.mem_cons, List.not_mem_nil, or_false] at hc
    rcases hc with rfl | rfl | rfl | rfl <;> exact ⟨_, by decide, _, _, _, rfl⟩
  have h := batches_do_not_interfere (h := ⟨2⟩) he rfl hw (by decide) hcalls (by decide)
  exact ⟨he, rfl, h.1, by decide +kernel, by decide +kernel⟩

end Engine

end Perfmon
