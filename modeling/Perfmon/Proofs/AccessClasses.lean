import Perfmon.Proofs.WrittenBack
/-!
# Access classes

The class of an operation says whether the live registers are meant or the image of the context, so
it has to go with the context in which the window is executed: without a context there is no image,
and the device would refuse the operation for its type. That never happens, although a session of
context scope may forget its context while its windows are open. All that such a session reserves
follows a context (`SessionRecord.Scoped`), which is kept by every change; with its windows open it
has a reservation; and the gate lets a session through only with the context that its reservations
follow.
-/

namespace Perfmon

variable {s s' : SessionRecord} {t t' : Holdings} {r : Resource}

/-! ## Reservations of context scope -/

/-- In context scope every reservation follows a context. -/
def SessionRecord.Scoped (s : SessionRecord) : Prop :=
  s.scope = .context → ∀ r, (s.reservations.get r).isSome = true →
    (s.reservedFor.get r).isSome = true

theorem SessionRecord.scoped_new (h : Handle) (scope : Scope) : (new h scope).Scoped := by
  intro _ r hr
  rw [show (new h scope).reservations.get r = none from PerResource.get_const none r] at hr
  cases hr

theorem SessionRecord.Scoped.record {mode : ReservationMode} (h : s.Scoped)
    (hm : s.scope = .context → mode.context?.isSome = true) : (s.record r mode).Scoped := by
  intro hs q hq
  rw [reservations_record] at hq
  rw [reservedFor_record]
  split at hq
  · rename_i hqr
    rw [if_pos hqr]
    exact hm hs
  · rename_i hqr
    rw [if_neg hqr]
    exact h hs q hq

theorem SessionRecord.Scoped.strike (h : s.Scoped) : (s.strike r).Scoped := by
  intro hs q hq
  rw [reservations_strike] at hq
  rw [reservedFor_strike]
  split at hq
  · cases hq
  · rename_i hqr
    rw [if_neg hqr]
    exact h hs q hq

/-- **A change of a settled session keeps its reservations in their scope.** What a session is
granted is what it may ask for, and what it finds granted is what it has written down. -/
theorem SessionRecord.Scoped.change (h : s.Scoped) (hset : Settled s t) (hc : Change s t s' t') :
    s'.Scoped := by
  cases hc with
  | none | bindContext | unbindContext | bindPm | unbindPm => exact h
  | release r hp => exact h.strike
  | grant r mode hb hp hm hf ha =>
    refine h.record fun hs => ?_
    cases mode with
    | global =>
      rw [show s.scope = .device from ha] at hs
      cases hs
    | contextSwitched ctx => rfl
  | adopt r held hb hp hm =>
    refine h.record fun hs => ?_
    have hr := h hs r (by rw [hset.reservations, hm]; rfl)
    rwa [hset.reservedFor, hm] at hr

/-- An operation whose class goes with its context is not told that its type is wrong; and no
operation is ever told so of its mask. -/
theorem Device.verdict_of_context {d : Device} {cls : AccessClass} {ctx : Option ContextId}
    (h : ¬(cls = .grContext ∧ ctx = none)) (op : RegOp) :
    d.verdict cls ctx op ≠ RegOp.invalidType ∧ d.verdict cls ctx op ≠ RegOp.invalidMask := by
  unfold verdict
  split
  · decide
  · rw [if_neg h]
    split
    · decide
    · split
      · decide
      · split <;> decide

namespace Engine

variable {allowed : Call → Prop} {config : Config} {e : Engine} {h : Handle} {s : Session}
  {buffer : OpsBuffer} {count : Nat} {mode : ExecMode}

/-- In every state that a run leads to, what a session of context scope has reserved follows a
context. -/
theorem ReachedBy.scoped (he : ReachedBy allowed config e) (hs : e.sessions.find? h = some s) :
    s.toSessionRecord.Scoped :=
  he.records SessionRecord.scoped_new (fun hset hc hscoped => hscoped.change hset hc) hs

/-! ## Windows handed over -/

/-- A session of context scope that the gate lets through has a context. -/
theorem ReachedBy.context_of_checkExec (he : ReachedBy allowed config e)
    (hs : e.sessions.find? h = some s) (hg : e.checkExec s count = .ok ())
    (hscope : s.scope = .context) : s.binding.context?.isSome = true := by
  obtain ⟨-, -, hp, hctx⟩ := checkExec_eq_ok_iff.mp hg
  obtain ⟨-, hset⟩ := ReachedBy.settled he hs
  obtain ⟨r, hr⟩ := List.exists_mem_of_ne_nil _ (hset.reserved hp)
  -- Its windows are open, so it has a reservation, which the context check has looked at.
  have hfor := he.scoped hs hscope r (SessionRecord.mem_reserved.mp hr)
  obtain ⟨ctx, hctx'⟩ := Option.isSome_iff_exists.mp hfor
  rw [(Session.checkContext_eq_ok_iff.mp hctx).2 r ctx hctx']
  rfl

theorem ReachedBy.accessClass_eq_grContext_iff (he : ReachedBy allowed config e)
    (hs : e.sessions.find? h = some s) (hg : e.checkExec s count = .ok ()) :
    s.accessClass = .grContext ↔ s.binding.context?.isSome = true := by
  have hctx := he.context_of_checkExec hs hg
  unfold Session.accessClass AccessClass.ofSession
  cases hscope : s.scope with
  | context => exact iff_of_true rfl (hctx hscope)
  | device => cases s.binding.context?.isSome <;> simp

theorem ReachedBy.not_contextless (he : ReachedBy allowed config e)
    (hs : e.sessions.find? h = some s) (hg : e.checkExec s count = .ok ()) :
    ¬(s.accessClass = .grContext ∧ s.binding.context? = none) := by
  rintro ⟨hcls, hnone⟩
  rw [he.accessClass_eq_grContext_iff hs hg, hnone] at hcls
  cases hcls

/-- What a window is that an attempt hands to the executor. -/
theorem ReachedFreely.submitted (he : e.ReachedFreely config) {w : Submission}
    (hw : w ∈ (e.execute h buffer count mode).1.submitted) :
    ∃ s, e.sessions.find? h = some s ∧ e.checkExec s count = .ok () ∧
      w.context = s.binding.context? ∧ ∀ op ∈ w.ops, op.cls = s.accessClass := by
  rcases e.execute_cases h buffer count mode with
    ⟨err, -, hx⟩ | ⟨s, hs, hg, ⟨err, -, hx⟩ | ⟨hp, hx⟩⟩
  · rw [hx] at hw
    cases hw
  · rw [hx] at hw
    cases hw
  · obtain ⟨hc, hready⟩ := he.ready
    obtain ⟨written, applied, shown, hoff, -⟩ :=
      execute_ends hs hg hp (hready h s hs) hc buffer mode
    refine ⟨s, hs, hg, ?_, fun op hop => ?_⟩
    · rw [hx] at hw
      exact runBatch_submitted { e with power := e.power.busy.2 } h s buffer count mode w hw
    · have hmem : op ∈ (e.execute h buffer count mode).1.submitted.flatMap (·.ops) :=
        List.mem_flatMap.mpr ⟨w, hw, hop⟩
      rw [hoff.submitted] at hmem
      obtain ⟨x, -, rfl⟩ := List.mem_map.mp hmem
      rfl

/-- **The class of the operations goes with the context.** Every operation of a window that an
attempt hands to the executor is meant for the image of a context exactly if the window is executed
in a context. So no operation that is written back says that its type or its mask is invalid. -/
theorem class_goes_with_context (he : e.Reached config) (h : Handle) (buffer : OpsBuffer)
    (count : Nat) (mode : ExecMode) :
    (∀ w ∈ (e.execute h buffer count mode).1.submitted, ∀ op ∈ w.ops,
      op.cls = .grContext ↔ w.context.isSome = true) ∧
    ∀ w ∈ e.writtenBack h buffer count mode, ∀ i, w.start ≤ i → i < w.stop →
      ∃ op, (e.execute h buffer count mode).1.buffer.memory.toList[i]? = some op ∧
        op.status ≠ RegOp.invalidType ∧ op.status ≠ RegOp.invalidMask := by
  have hfreely : e.ReachedFreely config := ReachedBy.freely he
  constructor
  · intro w hw op hop
    obtain ⟨s, hs, hg, hctx, hcls⟩ := hfreely.submitted hw
    rw [hcls op hop, hctx]
    exact ReachedBy.accessClass_eq_grContext_iff he hs hg
  · intro w hw i hi hi'
    obtain ⟨s, op, ρ, hs, hg, -, hop, -⟩ := reported_of_writtenBack hfreely hw hi hi'
    refine ⟨_, hop, ?_⟩
    rw [Device.interpretOne_status]
    exact Device.verdict_of_context (ReachedBy.not_contextless he hs hg) op

/-- A run behind which a session of context scope has its windows open. -/
def contextRun : List Call :=
  [.createContext 3, .openSession .context, .bindContext ⟨1⟩ (some 3), .reserve ⟨1⟩ .smpc false,
    .bindPm ⟨1⟩]

/-- A read of the first register of the multiprocessor counters. -/
def oneRead : OpsBuffer :=
  ⟨.list [.read32 0x419000], none, none⟩

/-- The session has an operation executed on the image of its context; when it has forgotten the
context, it has not. -/
theorem class_goes_with_context_of_context_scope :
    (small contextRun).Reached .small ∧
      (∃ w ∈ ((small contextRun).execute ⟨1⟩ oneRead 1 .continueOnError).1.submitted,
        w.context = some ⟨1⟩ ∧ ∀ op ∈ w.ops, op.cls = .grContext) ∧
      ∃ e, e = small (contextRun ++ [.unbindContext ⟨1⟩]) ∧
        (e.sessions.find? ⟨1⟩).map (·.pmBound) = some true ∧
        ∀ w ∈ (e.execute ⟨1⟩ oneRead 1 .continueOnError).1.submitted,
          ∀ op ∈ w.ops, op.cls = .grContext ↔ w.context.isSome = true := by
  have he : (small contextRun).Reached .small := reachedBy_small (fun _ _ => trivial) (by decide)
  have he' : (small (contextRun ++ [.unbindContext ⟨1⟩])).Reached .small :=
    reachedBy_small (fun _ _ => trivial) (by decide)
  refine ⟨he, ?_, _, rfl, rfl, (class_goes_with_context he' ⟨1⟩ oneRead 1 .continueOnError).1⟩
  obtain ⟨hcls, -⟩ := class_goes_with_context he ⟨1⟩ oneRead 1 .continueOnError
  have hw : Submission.mk (some ⟨1⟩) [.ofRegOp .grContext (.read32 0x419000)] 1
      ∈ ((small contextRun).execute ⟨1⟩ oneRead 1 .continueOnError).1.submitted :=
    by decide +kernel
  exact ⟨_, hw, rfl, fun op hop => (hcls _ hw op hop).mpr rfl⟩

end Engine

end Perfmon
