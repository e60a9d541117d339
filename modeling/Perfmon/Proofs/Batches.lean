import Perfmon.Batch
import Perfmon.Proofs.Changes
/-!
# What a batch leaves alone

A batch changes registers and the size of nothing: not what the device keeps of reservations, not
the staging memory's length. Every window that it hands to the executor is executed in the context
of the batch and with the power that the batch has. `Advanced` collects this for one window
(`runWindow_advanced`) and for the whole batch (`run_advanced`).
-/

namespace Perfmon

namespace Device

/-- Two states of a device differ in their registers and in the count of calls only. -/
structure RegistersOnly (d d' : Device) : Prop where
  capabilities : d'.capabilities = d.capabilities
  reservations : d'.reservations = d.reservations
  bound : d'.bound = d.bound
  faults : d'.faults = d.faults

theorem RegistersOnly.refl (d : Device) : RegistersOnly d d :=
  ⟨rfl, rfl, rfl, rfl⟩

theorem RegistersOnly.trans {d d' d'' : Device} (h : RegistersOnly d d')
    (h' : RegistersOnly d' d'') : RegistersOnly d d'' :=
  ⟨h'.capabilities.trans h.capabilities, h'.reservations.trans h.reservations,
    h'.bound.trans h.bound, h'.faults.trans h.faults⟩

theorem withFiles_registersOnly (d : Device) (ctx : Option ContextId) (f : Files) :
    RegistersOnly d (d.withFiles ctx f) := by
  cases ctx <;> exact ⟨rfl, rfl, rfl, rfl⟩

theorem execute_registersOnly (d : Device) (ctx : Option ContextId) (mode : ExecMode)
    (ops : List DeviceOp) : RegistersOnly d (d.execute ctx mode ops).2 := by
  unfold execute
  dsimp only
  split
  · exact ⟨rfl, rfl, rfl, rfl⟩
  · split
    · exact ⟨rfl, rfl, rfl, rfl⟩
    · rename_i f failed done _
      have h := withFiles_registersOnly { d with execCalls := d.execCalls + 1 } ctx f
      exact ⟨h.capabilities, h.reservations, h.bound, h.faults⟩

/-- Every call is counted, whatever comes of it. -/
theorem execCalls_execute (d : Device) (ctx : Option ContextId) (mode : ExecMode)
    (ops : List DeviceOp) : (d.execute ctx mode ops).2.execCalls = d.execCalls + 1 := by
  unfold execute
  dsimp only
  split
  · rfl
  · split
    · rfl
    · cases ctx <;> rfl

end Device

theorem Executor.execute_registersOnly (x : Executor) (ctx : Option ContextId) (mode : ExecMode)
    (ops : List DeviceOp) :
    x.device.RegistersOnly (x.execute ctx mode ops).2.device ∧
      (x.armed = [] → (x.execute ctx mode ops).2.armed = []) := by
  unfold execute
  rcases x.call_cases .exec ⟨.error (.fault injectedFault), ops, false, false⟩
    (·.execute ctx mode ops) with ⟨-, hx⟩ | hx
  · rw [hx]
    exact ⟨Device.RegistersOnly.refl _, armed_pass⟩
  · rw [hx]
    exact ⟨Device.execute_registersOnly _ _ _ _, armed_pass⟩

namespace Batch

variable {j : BatchJob} {b b' b'' : Batch}

/-- What stays as it is while windows are processed. -/
structure Advanced (j : BatchJob) (b b' : Batch) : Prop where
  device : b.executor.device.RegistersOnly b'.executor.device
  quiet : b.executor.armed = [] → b'.executor.armed = []
  user : b'.staging.user.length = b.staging.user.length
  internal : b'.staging.device.length = b.staging.device.length
  submitted : ∀ w ∈ b'.submitted, w ∈ b.submitted ∨
    w.context = j.context ∧ w.powerRefs = j.powerRefs

theorem Advanced.refl (j : BatchJob) (b : Batch) : Advanced j b b :=
  ⟨Device.RegistersOnly.refl _, id, rfl, rfl, fun _ h => Or.inl h⟩

theorem Advanced.trans (h : Advanced j b b') (h' : Advanced j b' b'') : Advanced j b b'' where
  device := h.device.trans h'.device
  quiet hb := h'.quiet (h.quiet hb)
  user := h'.user.trans h.user
  internal := h'.internal.trans h.internal
  submitted w hw := by
    rcases h'.submitted w hw with hw | hw
    · exact h.submitted w hw
    · exact Or.inr hw

theorem submit_advanced (j : BatchJob) (len : Nat) (b : Batch) :
    Advanced j b (submit j len b).2 := by
  have hx := b.executor.execute_registersOnly j.context j.mode (b.staging.device.take len)
  refine ⟨hx.1, hx.2, rfl, ?_, ?_⟩
  · simp [submit, Staging.putBack]
  · intro w hw
    rcases List.mem_cons.mp hw with hw | hw
    · exact Or.inr (by rw [hw]; exact ⟨rfl, rfl⟩)
    · exact Or.inl hw

theorem collect_advanced (j : BatchJob) (w : Window) (done : Device.Executed) (b : Batch) :
    Advanced j b (collect w done b).2 where
  device := Device.RegistersOnly.refl _
  quiet := id
  user := by simp [collect, Staging.unload]
  internal := rfl
  submitted _ h := Or.inl h

theorem load_advanced (j : BatchJob) (ops : List RegOp) (b : Batch) :
    Advanced j b { b with staging := b.staging.load j.cls ops } where
  device := Device.RegistersOnly.refl _
  quiet := id
  user := by simp [Staging.load]
  internal := by simp [Staging.load]
  submitted _ h := Or.inl h

theorem runWindow_advanced (j : BatchJob) (w : Window) (b : Batch) :
    Advanced j b (runWindow j w b).2 := by
  unfold runWindow
  cases b.buffer.copyIn w.start w.len with
  | error e => exact Advanced.refl j b
  | ok ops =>
    have hs := (load_advanced j ops b).trans
      (submit_advanced j w.len { b with staging := b.staging.load j.cls ops })
    dsimp only
    split
    · exact hs
    · have hc := hs.trans (collect_advanced j w
        (submit j w.len { b with staging := b.staging.load j.cls ops }).1
        (submit j w.len { b with staging := b.staging.load j.cls ops }).2)
      split
      · exact hc
      · exact ⟨hc.device, hc.quiet, hc.user, hc.internal, hc.submitted⟩

theorem run_advanced (j : BatchJob) (c : Windows) (b : Batch) : Advanced j b (run j c b).2 := by
  fun_induction run j c b with
  | case1 c b h => exact Advanced.refl j b
  | case2 c b w d h hd e b' hw =>
    have hb := runWindow_advanced j w b
    rwa [hw] at hb
  | case3 c b w d h hd b' hw ih =>
    have hb := runWindow_advanced j w b
    rw [hw] at hb
    exact hb.trans ih

end Batch

end Perfmon
