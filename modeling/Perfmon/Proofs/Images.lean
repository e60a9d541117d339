import Perfmon.Proofs.Endings
/-!
# Register images

A batch works at one place: on the image of its context, or on the live registers if it has none. It
sees what is bound, what faults and what is in the registers at its place, so in two states that look
the same there (`SameAt`) it does the same; and it leaves the registers at all other places alone
(`WorkedAt`). The device does take the live registers along when it works on an image, but
operations of the class that goes with a context never get at them (`Device.run_image`).
-/

namespace Perfmon

namespace Device

/-- The registers at a place. -/
def file (d : Device) : Option ContextId → RegisterFile
  | none => d.live
  | some c => d.image c

theorem registers_eq_read (d : Device) (p : Option ContextId) : d.registers p = (d.file p).read := by
  cases p with
  | none => rfl
  | some c => exact (d.read_image c).symm

/-- Two devices look the same to those who work at a place. -/
structure SameAt (p : Option ContextId) (d d' : Device) : Prop where
  bound : d'.bound = d.bound
  faults : d'.faults = d.faults
  file : d'.file p = d.file p

variable {p q : Option ContextId} {d d' d'' : Device} {mode : ExecMode} {ops : List DeviceOp}

theorem SameAt.refl (p : Option ContextId) (d : Device) : SameAt p d d :=
  ⟨rfl, rfl, rfl⟩

theorem SameAt.symm (h : SameAt p d d') : SameAt p d' d :=
  ⟨h.bound.symm, h.faults.symm, h.file.symm⟩

theorem SameAt.trans (h : SameAt p d d') (h' : SameAt p d' d'') : SameAt p d d'' :=
  ⟨h'.bound.trans h.bound, h'.faults.trans h.faults, h'.file.trans h.file⟩

/-- The operations are meant for the place at which they are executed. -/
def Meant (p : Option ContextId) (ops : List DeviceOp) : Prop :=
  p ≠ none → ∀ op ∈ ops, op.cls = .grContext

theorem validate_congr (h : d'.bound = d.bound) : d'.validate p = d.validate p := by
  funext op
  unfold validate windowBound boundTo
  rw [h]

/-- Operations that are meant for an image come out the same whatever is in the live registers, and
leave them as they are. -/
theorem run_image (faults : List UInt32) (mode : ExecMode) (ops : List DeviceOp)
    (hops : ∀ op ∈ ops, op.cls = .grContext) (image : RegisterFile) (failed : Nat) :
    ∃ (result : Except UInt32 (RegisterFile × Nat)) (done : List DeviceOp), ∀ live,
      run faults mode ⟨live, image⟩ failed ops
        = (result.map fun (image, failed) => (⟨live, image⟩, failed), done) := by
  induction ops generalizing image failed with
  | nil => exact ⟨.ok (image, failed), [], fun _ => rfl⟩
  | cons op ops ih =>
    have hrest : ∀ op ∈ ops, op.cls = .grContext := fun x hx => hops x (List.mem_cons_of_mem _ hx)
    by_cases hs : op.status = .success
    · by_cases hf : op.offset ∈ faults
      · cases mode with
        | allOrNone =>
          refine ⟨.error op.offset, op :: ops, fun live => ?_⟩
          rw [run, if_neg (not_not_intro hs), if_pos hf]
          rfl
        | continueOnError =>
          obtain ⟨result, done, hrun⟩ := ih hrest image (failed + 1)
          refine ⟨result, op.withStatus .invalidOffset :: done, fun live => ?_⟩
          rw [run_of_fault ops hs hf, hrun]
      · obtain ⟨result, done, hrun⟩ := ih hrest (image.apply op).2 failed
        refine ⟨result, (image.apply op).1 :: done, fun live => ?_⟩
        have happly : (Files.mk live image).apply op
            = ((image.apply op).1, ⟨live, (image.apply op).2⟩) := by
          rw [Files.apply, hops op List.mem_cons_self]
        rw [run_of_success ops hs hf, happly, hrun]
    · obtain ⟨result, done, hrun⟩ := ih hrest image failed
      refine ⟨result, op :: done, fun live => ?_⟩
      rw [run_of_ne ops hs, hrun]

/-- What is put back at a context goes into its own image. -/
theorem image_withFiles_some (d : Device) (c k : ContextId) (f : Files) :
    (d.withFiles (some c) f).image k
      = if k = c then ⟨(d.image c).written.insertAll f.image.written.entries⟩ else d.image k := by
  unfold image withFiles
  dsimp only
  rw [Assoc.under_insertUnder]
  split <;> rfl

/-- The operations of a call are validated before they are carried out, which is no matter of the
class. -/
theorem Meant.checked (h : Meant p ops) : Meant p (d.checked p ops) := by
  intro hp op hop
  obtain ⟨x, hx, rfl⟩ := mem_checked hop
  exact h hp x hx

/-- **A call does the same on devices that look the same at its place,** and they still do
afterwards. -/
theorem execute_sameAt (h : SameAt p d d') (hops : Meant p ops) :
    (d'.execute p mode ops).1 = (d.execute p mode ops).1 ∧
      SameAt p (d.execute p mode ops).2 (d'.execute p mode ops).2 := by
  have hr := execute_registersOnly d p mode ops
  have hr' := execute_registersOnly d' p mode ops
  suffices hout : (d'.execute p mode ops).1 = (d.execute p mode ops).1 ∧
      (d'.execute p mode ops).2.file p = (d.execute p mode ops).2.file p from
    ⟨hout.1, (hr'.bound.trans h.bound).trans hr.bound.symm,
      (hr'.faults.trans h.faults).trans hr.faults.symm, hout.2⟩
  have hchecked := hops.checked (d := d)
  unfold execute
  rw [validate_congr h.bound, h.faults, map_validate]
  generalize d.checked p ops = checked at hchecked ⊢
  dsimp only
  split
  · exact ⟨rfl, h.file⟩
  · cases p with
    | none =>
      have hfiles : d'.files none = d.files none := by
        rw [files, files, show d'.live = d.live from h.file]
        rfl
      rw [hfiles]
      split
      · exact ⟨rfl, h.file⟩
      · exact ⟨rfl, rfl⟩
    | some c =>
      obtain ⟨result, done, hrun⟩ := run_image d.faults mode checked (hchecked nofun) (d.image c)
        (checked.countP (!·.succeeded))
      have hsame : d'.image c = d.image c := h.file
      have himage : d'.files (some c) = ⟨d'.live, d.image c⟩ := by
        rw [← hsame]
        rfl
      rw [himage, show d.files (some c) = ⟨d.live, d.image c⟩ from rfl, hrun, hrun]
      cases result with
      | error offset => exact ⟨rfl, h.file⟩
      | ok left =>
        refine ⟨rfl, ?_⟩
        show (withFiles _ (some c) _).image c = (withFiles _ (some c) _).image c
        rw [image_withFiles_some, image_withFiles_some, if_pos rfl, if_pos rfl]
        exact congrArg (fun f : RegisterFile => RegisterFile.mk (f.written.insertAll _)) hsame

/-- **A call leaves the registers at all other places alone.** -/
theorem execute_elsewhere (hq : q ≠ p) (hops : Meant p ops) :
    SameAt q d (d.execute p mode ops).2 := by
  have hr := execute_registersOnly d p mode ops
  suffices hfile : (d.execute p mode ops).2.file q = d.file q from ⟨hr.bound, hr.faults, hfile⟩
  have hchecked := hops.checked (d := d)
  unfold execute
  rw [map_validate]
  generalize d.checked p ops = checked at hchecked ⊢
  dsimp only
  split
  · cases q <;> rfl
  · cases p with
    | none =>
      obtain ⟨k, rfl⟩ := Option.ne_none_iff_exists'.mp hq
      split <;> rfl
    | some c =>
      obtain ⟨result, done, hrun⟩ := run_image d.faults mode checked (hchecked nofun) (d.image c)
        (checked.countP (!·.succeeded))
      rw [show d.files (some c) = ⟨d.live, d.image c⟩ from rfl, hrun]
      cases result with
      | error offset => cases q <;> rfl
      | ok left =>
        cases q with
        | none => rfl
        | some k =>
          have hk : k ≠ c := fun hkc => hq (congrArg some hkc)
          exact (image_withFiles_some _ c k _).trans (if_neg hk)

end Device

/-! ## The executor -/

namespace Executor

/-- No call to execute operations is due to fail. -/
def Calm (x : Executor) : Prop :=
  ∀ n, (ExecutorCall.exec, n) ∉ x.armed

/-- Two executors look the same to those who work at a place, and let them. -/
structure SameAt (p : Option ContextId) (x x' : Executor) : Prop where
  device : x.device.SameAt p x'.device
  left : x.Calm
  right : x'.Calm

/-- What work at a place keeps: the registers at all other places, and the calm. -/
structure WorkedAt (p : Option ContextId) (x x' : Executor) : Prop where
  elsewhere : ∀ q ≠ p, x.device.SameAt q x'.device
  calm : x.Calm → x'.Calm

variable {p : Option ContextId} {x x' x'' : Executor} {mode : ExecMode} {ops : List DeviceOp}

theorem Calm.strikes (h : x.Calm) : x.strikes .exec = false :=
  strikes_eq_false_iff.mpr (h 0)

theorem Calm.pass (h : x.Calm) : (x.pass .exec).Calm :=
  fun n hn => h (n + 1) (mem_armed_pass.mp hn)

theorem WorkedAt.refl (p : Option ContextId) (x : Executor) : WorkedAt p x x :=
  ⟨fun q _ => .refl q x.device, id⟩

theorem WorkedAt.trans (h : WorkedAt p x x') (h' : WorkedAt p x' x'') : WorkedAt p x x'' :=
  ⟨fun q hq => (h.elsewhere q hq).trans (h'.elsewhere q hq), fun hx => h'.calm (h.calm hx)⟩

theorem execute_sameAt (h : SameAt p x x') (hops : Device.Meant p ops) :
    (x'.execute p mode ops).1 = (x.execute p mode ops).1 ∧
      SameAt p (x.execute p mode ops).2 (x'.execute p mode ops).2 := by
  obtain ⟨hout, hdev⟩ := Device.execute_sameAt  h.device hops
  rw [execute_of_not_strikes h.left.strikes, execute_of_not_strikes h.right.strikes]
  exact ⟨hout, hdev, h.left.pass, h.right.pass⟩

theorem execute_workedAt (x : Executor) (mode : ExecMode) (hops : Device.Meant p ops) :
    WorkedAt p x (x.execute p mode ops).2 := by
  unfold execute
  rcases x.call_cases .exec ⟨.error (.fault injectedFault), ops, false, false⟩
    (·.execute p mode ops) with ⟨-, hx⟩ | hx
  · rw [hx]
    exact ⟨fun q _ => .refl q x.device, Calm.pass⟩
  · rw [hx]
    exact ⟨fun q hq => Device.execute_elsewhere hq hops, Calm.pass⟩

end Executor

/-! ## Batches -/

theorem OpsBuffer.length_of_copyIn {b : OpsBuffer} {start len : Nat} {ops : List RegOp}
    (h : b.copyIn start len = .ok ops) : ops.length = len := by
  have hle := le_size_of_copyIn h
  unfold copyIn at h
  split at h
  · cases h
  · cases h
    exact OpsMemory.length_slice hle

/-- A batch with a context works on the image of the context. -/
def BatchJob.OnImage (j : BatchJob) : Prop :=
  j.context ≠ none → j.cls = .grContext

theorem Session.onImage (s : Session) (mode : ExecMode) (refs : Nat) :
    BatchJob.OnImage ⟨s.binding.context?, s.accessClass, mode, refs⟩ := by
  intro hc
  have hsome : s.binding.context?.isSome = true := Option.isSome_iff_ne_none.mpr hc
  dsimp only [accessClass]
  rw [hsome]
  cases s.scope <;> rfl

namespace Batch

/-- Two batches are at the same point and look the same to those who work at a place. What has been
counted is no part of it. -/
structure SameAt (p : Option ContextId) (b b' : Batch) : Prop where
  executor : b.executor.SameAt p b'.executor
  staging : b'.staging = b.staging
  buffer : b'.buffer = b.buffer
  report : b'.report = b.report
  submitted : b'.submitted = b.submitted

variable {j : BatchJob} {b b' : Batch}

theorem meant_load (hj : j.OnImage) {s : Staging} {ops : List RegOp} {len : Nat}
    (hl : ops.length = len) : Device.Meant j.context ((s.load j.cls ops).device.take len) := by
  intro hc op hop
  have hlen : len ≤ (ops.map (DeviceOp.ofRegOp j.cls)).length := by simp [hl]
  obtain ⟨x, -, rfl⟩ := List.mem_map.mp (mem_take_overlay hlen hop)
  exact hj hc

theorem submit_sameAt (h : SameAt j.context b b') {len : Nat}
    (hops : Device.Meant j.context (b.staging.device.take len)) :
    (submit j len b').1 = (submit j len b).1 ∧
      SameAt j.context (submit j len b).2 (submit j len b').2 := by
  obtain ⟨hout, hexec⟩ := Executor.execute_sameAt h.executor hops
  unfold submit
  dsimp only
  rw [h.staging, hout, h.submitted]
  exact ⟨rfl, hexec, rfl, h.buffer, h.report, rfl⟩

theorem collect_sameAt {p : Option ContextId} (h : SameAt p b b') (w : Window)
    (done : Device.Executed) :
    (collect w done b').1 = (collect w done b).1 ∧
      SameAt p (collect w done b).2 (collect w done b').2 := by
  unfold collect
  dsimp only
  rw [h.staging, h.report]
  exact ⟨rfl, h.executor, rfl, h.buffer, rfl, h.submitted⟩

theorem process_sameAt (hj : j.OnImage) {w : Window} {ops : List RegOp} (hl : ops.length = w.len)
    (h : SameAt j.context b b') :
    (process j w ops b').1 = (process j w ops b).1 ∧
      SameAt j.context (process j w ops b).2 (process j w ops b').2 := by
  have hload : SameAt j.context { b with staging := b.staging.load j.cls ops }
      { b' with staging := b'.staging.load j.cls ops } :=
    ⟨h.executor, congrArg (·.load j.cls ops) h.staging, h.buffer, h.report, h.submitted⟩
  obtain ⟨hdone, hsub⟩ := submit_sameAt hload (meant_load hj hl)
  unfold process
  dsimp only
  rw [hdone]
  split
  · exact ⟨rfl, hsub⟩
  · obtain ⟨hops, hcol⟩ := collect_sameAt hsub w
      (submit j w.len { b with staging := b.staging.load j.cls ops }).1
    exact ⟨congrArg Except.ok hops, hcol⟩

theorem writeBack_sameAt {p : Option ContextId} (h : SameAt p b b') (w : Window)
    (ops : List RegOp) :
    (writeBack w ops b').1 = (writeBack w ops b).1 ∧
      SameAt p (writeBack w ops b).2 (writeBack w ops b').2 := by
  unfold writeBack
  rw [h.buffer]
  split
  · exact ⟨rfl, h⟩
  · refine ⟨rfl, h.executor, h.staging, rfl, ?_, h.submitted⟩
    dsimp only
    rw [h.report]

theorem runWindow_sameAt (hj : j.OnImage) (w : Window) (h : SameAt j.context b b') :
    (runWindow j w b').1 = (runWindow j w b).1 ∧
      SameAt j.context (runWindow j w b).2 (runWindow j w b').2 := by
  rw [runWindow_eq, runWindow_eq, h.buffer]
  cases hin : b.buffer.copyIn w.start w.len with
  | error err => exact ⟨rfl, h⟩
  | ok ops =>
    obtain ⟨hout, hproc⟩ := process_sameAt hj (OpsBuffer.length_of_copyIn hin) h
    dsimp only
    cases hb : process j w ops b with
    | mk result b₁ =>
      cases hb' : process j w ops b' with
      | mk result' b₁' =>
        rw [hb, hb'] at hout hproc
        dsimp only at hout hproc
        subst hout
        cases result' with
        | error err => exact ⟨rfl, hproc⟩
        | ok done => exact writeBack_sameAt hproc w done

/-- **A batch does the same in states that look the same at its place.** -/
theorem run_sameAt (hj : j.OnImage) (c : Windows) (h : SameAt j.context b b') :
    (run j c b').1 = (run j c b).1 ∧ SameAt j.context (run j c b).2 (run j c b').2 := by
  rw [run_eq_runList, run_eq_runList]
  -- On the windows; each of them finds two batches that look the same.
  induction c.toList generalizing b b' with
  | nil => exact ⟨rfl, h⟩
  | cons w ws ih =>
    obtain ⟨hout, hwin⟩ := runWindow_sameAt hj w h
    unfold runList
    cases hb : runWindow j w b with
    | mk result b₁ =>
      cases hb' : runWindow j w b' with
      | mk result' b₁' =>
        rw [hb, hb'] at hout hwin
        dsimp only at hout
        subst hout
        cases result' with
        | error err => exact ⟨rfl, hwin⟩
        | ok _ => exact ih hwin

theorem runWindow_workedAt (hj : j.OnImage) (w : Window) (b : Batch) :
    b.executor.WorkedAt j.context (runWindow j w b).2.executor := by
  unfold runWindow
  cases hin : b.buffer.copyIn w.start w.len with
  | error err => exact .refl _ _
  | ok ops =>
    have hexec := b.executor.execute_workedAt j.mode
      (meant_load hj (s := b.staging) (OpsBuffer.length_of_copyIn hin))
    dsimp only
    split
    · exact hexec
    · split
      · exact hexec
      · exact hexec

/-- **A batch leaves the registers at all other places alone.** -/
theorem run_workedAt (hj : j.OnImage) (c : Windows) (b : Batch) :
    b.executor.WorkedAt j.context (run j c b).2.executor := by
  rw [run_eq_runList]
  induction c.toList generalizing b with
  | nil => exact .refl _ _
  | cons w ws ih =>
    have hwin := runWindow_workedAt hj w b
    unfold runList
    split
    · rename_i err b₁ hb
      rw [hb] at hwin
      exact hwin
    · rename_i b₁ hb
      rw [hb] at hwin
      exact hwin.trans (ih b₁)

end Batch

end Perfmon
