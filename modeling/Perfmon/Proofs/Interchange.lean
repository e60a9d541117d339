import Perfmon.Proofs.Endings
/-!
# Bytes and lists

A caller may hold the operations of a batch as bytes or as a list: it makes no difference to anybody
but the caller. Reading the bytes as a list (`asList`) commutes with every step of a batch, down to
the two transfers, so the batch over the bytes and the batch over the list run side by side.

What the bytes have beyond the list, the batch leaves alone. `Rewritten` says where bytes may have
changed: in the windows that were written back (`writtenBack`) and nowhere else.
-/

namespace Perfmon

/-! ## Bytes read as a list -/

namespace OpsMemory

variable {m : OpsMemory} {start len : Nat} {ops : List RegOp}

/-- The operations of a memory, held as a list. -/
def asList (m : OpsMemory) : OpsMemory :=
  .list m.toList

@[simp] theorem size_asList (m : OpsMemory) : m.asList.size = m.size :=
  m.length_toList

theorem slice_asList (h : start + len ≤ m.size) : m.asList.slice start len = m.slice start len :=
  (slice_eq h).symm

theorem splice_asList (h : start + ops.length ≤ m.size) :
    m.asList.splice start ops = (m.splice start ops).asList := by
  unfold asList
  rw [toList_splice h]
  rfl

end OpsMemory

namespace OpsBuffer

/-- The memory of a caller, held as a list. -/
def asList (b : OpsBuffer) : OpsBuffer :=
  { b with memory := b.memory.asList }

theorem copyIn_asList (b : OpsBuffer) (start len : Nat) :
    b.asList.copyIn start len = b.copyIn start len := by
  unfold copyIn asList
  rw [accessFault?_congr b.memory.size_asList]
  cases hf : accessFault? b.memory b.unreadableFrom start len with
  | some err => rfl
  | none =>
    dsimp only
    rw [OpsMemory.slice_asList (le_size_of_accessFault? hf)]

theorem copyOut_asList (b : OpsBuffer) (start : Nat) (ops : List RegOp) :
    b.asList.copyOut start ops = (b.copyOut start ops).map asList := by
  unfold copyOut asList
  rw [accessFault?_congr b.memory.size_asList]
  cases hf : accessFault? b.memory b.unwritableFrom start ops.length with
  | some err => rfl
  | none =>
    dsimp only [Except.map]
    rw [OpsMemory.splice_asList (le_size_of_accessFault? hf)]

end OpsBuffer

namespace Batch

/-- A batch whose caller holds the operations as a list. -/
def asList (b : Batch) : Batch :=
  { b with buffer := b.buffer.asList }

/-- What happens between the two transfers does not depend on the caller's memory. -/
theorem process_asList (j : BatchJob) (w : Window) (ops : List RegOp) (b : Batch) :
    process j w ops b.asList = ((process j w ops b).1, (process j w ops b).2.asList) := by
  have hsub : submit j w.len { b.asList with staging := b.staging.load j.cls ops }
      = ((submit j w.len { b with staging := b.staging.load j.cls ops }).1,
          (submit j w.len { b with staging := b.staging.load j.cls ops }).2.asList) := rfl
  unfold process
  rw [show b.asList.staging = b.staging from rfl, hsub]
  dsimp only
  cases (submit j w.len { b with staging := b.staging.load j.cls ops }).1.outcome with
  | error failure => rfl
  | ok _ => rfl

theorem writeBack_asList (w : Window) (ops : List RegOp) (b : Batch) :
    writeBack w ops b.asList = ((writeBack w ops b).1, (writeBack w ops b).2.asList) := by
  unfold writeBack
  rw [show b.asList.buffer = b.buffer.asList from rfl, OpsBuffer.copyOut_asList]
  cases b.buffer.copyOut w.start ops with
  | error err => rfl
  | ok buffer => rfl

theorem runWindow_asList (j : BatchJob) (w : Window) (b : Batch) :
    runWindow j w b.asList = ((runWindow j w b).1, (runWindow j w b).2.asList) := by
  rw [runWindow_eq, runWindow_eq, show b.asList.buffer = b.buffer.asList from rfl,
    OpsBuffer.copyIn_asList]
  cases b.buffer.copyIn w.start w.len with
  | error err => rfl
  | ok ops =>
    dsimp only
    rw [process_asList]
    cases process j w ops b with
    | mk result b' =>
      cases result with
      | error err => rfl
      | ok ops => exact writeBack_asList w ops b'

theorem runList_asList (j : BatchJob) (ws : List Window) (b : Batch) :
    runList j ws b.asList = ((runList j ws b).1, (runList j ws b).2.asList) := by
  induction ws generalizing b with
  | nil => rfl
  | cons w ws ih =>
    unfold runList
    rw [runWindow_asList]
    cases runWindow j w b with
    | mk result b' =>
      cases result with
      | error err => rfl
      | ok _ => exact ih b'

/-! ## Bytes that change -/

/-- The windows of a list that are written back. -/
def writtenBack (j : BatchJob) : List Window → Batch → List Window
  | [], _ => []
  | w :: ws, b =>
    match runWindow j w b with
    | (.error _, _) => []
    | (.ok (), b) => w :: writtenBack j ws b

end Batch

/-- Bytes that differ from others in the records of some windows only. -/
structure Rewritten (ws : List Window) (raw raw' : List UInt8) : Prop where
  inside : ∀ w ∈ ws, RegOp.recordSize * w.stop ≤ raw.length
  length : raw'.length = raw.length
  outside : ∀ i, (∀ w ∈ ws, i < RegOp.recordSize * w.start ∨ RegOp.recordSize * w.stop ≤ i) →
    raw'[i]? = raw[i]?

namespace Rewritten

variable {w : Window} {ws : List Window} {raw raw' raw'' : List UInt8} {ops : List RegOp}

theorem refl (raw : List UInt8) : Rewritten [] raw raw :=
  ⟨nofun, rfl, fun _ _ => rfl⟩

theorem cons (h : Rewritten [w] raw raw') (h' : Rewritten ws raw' raw'') :
    Rewritten (w :: ws) raw raw'' := by
  refine ⟨fun v hv => ?_, h'.length.trans h.length, fun i hi => ?_⟩
  · rcases List.mem_cons.mp hv with rfl | hv
    · exact h.inside v List.mem_cons_self
    · exact h.length ▸ h'.inside v hv
  · rw [h'.outside i fun v hv => hi v (List.mem_cons_of_mem _ hv)]
    refine h.outside i fun v hv => ?_
    obtain rfl := List.mem_singleton.mp hv
    exact hi v List.mem_cons_self

/-- A window that is put into the bytes replaces its own records. -/
theorem splice (hin : RegOp.recordSize * w.stop ≤ raw.length) (hl : ops.length ≤ w.len) :
    Rewritten [w] raw (raw.take (RegOp.recordSize * w.start) ++
      (RegOp.toRecords ops ++ raw.drop (RegOp.recordSize * (w.start + ops.length)))) := by
  have hnew := RegOp.length_toRecords ops
  simp only [Window.stop, RegOp.recordSize] at hin hnew
  refine ⟨fun v hv => ?_, ?_, fun i hi => ?_⟩
  · obtain rfl := List.mem_singleton.mp hv
    exact hin
  · simp only [List.length_append, List.length_take, List.length_drop, RegOp.recordSize]
    omega
  · have hi := hi w List.mem_cons_self
    simp only [Window.stop, RegOp.recordSize] at hi ⊢
    rcases hi with hi | hi
    · rw [List.getElem?_append_left (by rw [List.length_take]; omega),
        List.getElem?_take_of_lt hi]
    · rw [List.getElem?_append_right (by rw [List.length_take]; omega),
        List.getElem?_append_right (by rw [List.length_take]; omega), List.getElem?_drop]
      congr 1
      rw [List.length_take]
      omega

/-- A partial record at the end is in no window. -/
theorem drop_eq (h : Rewritten ws raw raw') :
    raw'.drop (RegOp.recordSize * (raw.length / RegOp.recordSize))
      = raw.drop (RegOp.recordSize * (raw.length / RegOp.recordSize)) := by
  refine List.ext_getElem? fun i => ?_
  rw [List.getElem?_drop, List.getElem?_drop]
  refine h.outside _ fun w hw => Or.inr ?_
  have hin := h.inside w hw
  simp only [RegOp.recordSize] at hin ⊢
  omega

end Rewritten

namespace Batch

variable {j : BatchJob} {w : Window} {b b' : Batch} {raw : List UInt8} {u v : Option Nat}

theorem buffer_process (j : BatchJob) (w : Window) (ops : List RegOp) (b : Batch) :
    (process j w ops b).2.buffer = b.buffer := by
  unfold process
  dsimp only
  cases (submit j w.len { b with staging := b.staging.load j.cls ops }).1.outcome with
  | error failure => rfl
  | ok _ => rfl

theorem length_process {ops done : List RegOp} (h : process j w ops b = (.ok done, b')) :
    done.length ≤ w.len := by
  unfold process at h
  dsimp only at h
  split at h
  · cases h
  · cases h
    exact List.length_take_le _ _

/-- All that a window can do to the caller's memory. -/
theorem runWindow_cases (j : BatchJob) (w : Window) (b : Batch) :
    (∃ err b', runWindow j w b = (.error err, b') ∧ b'.buffer = b.buffer) ∨
      ∃ done b', runWindow j w b = (.ok (), b') ∧ done.length ≤ w.len ∧
        w.stop ≤ b.buffer.memory.size ∧
        b'.buffer = { b.buffer with memory := b.buffer.memory.splice w.start done } := by
  rw [runWindow_eq]
  cases hin : b.buffer.copyIn w.start w.len with
  | error err => exact Or.inl ⟨err, b, rfl, rfl⟩
  | ok ops =>
    have hbuf := buffer_process j w ops b
    dsimp only
    cases hp : process j w ops b with
    | mk result b₁ =>
      rw [hp] at hbuf
      cases result with
      | error err => exact Or.inl ⟨err, b₁, rfl, hbuf⟩
      | ok done =>
        dsimp only [writeBack] at hbuf ⊢
        rw [hbuf]
        cases hout : b.buffer.copyOut w.start done with
        | error err => exact Or.inl ⟨err, b₁, rfl, hbuf⟩
        | ok buffer =>
          exact Or.inr ⟨done, _, rfl, length_process hp, OpsBuffer.le_size_of_copyIn hin,
            OpsBuffer.eq_of_copyOut hout⟩

theorem runList_rewritten (j : BatchJob) (ws : List Window) (hb : b.buffer = ⟨.records raw, u, v⟩) :
    ∃ raw', (runList j ws b).2.buffer = ⟨.records raw', u, v⟩ ∧
      Rewritten (writtenBack j ws b) raw raw' := by
  -- On the windows; the bytes that one of them leaves are the bytes that the next one is given.
  induction ws generalizing b raw with
  | nil => exact ⟨raw, hb, .refl raw⟩
  | cons w ws ih =>
    unfold runList writtenBack
    rcases runWindow_cases j w b with
      ⟨err, b', hw, hbuf⟩ | ⟨done, b', hw, hl, hsize, hbuf⟩
    · rw [hw]
      exact ⟨raw, hbuf.trans hb, .refl raw⟩
    · rw [hb] at hsize hbuf
      have hin : RegOp.recordSize * w.stop ≤ raw.length := by
        rw [Nat.mul_comm]
        exact (Nat.le_div_iff_mul_le (by decide)).mp hsize
      obtain ⟨raw', hb', hr⟩ := ih hbuf
      rw [hw]
      exact ⟨raw', hb', (Rewritten.splice hin hl).cons hr⟩

end Batch

namespace Engine

/-- The windows of an attempt that are written back. -/
def writtenBack (e : Engine) (h : Handle) (buffer : OpsBuffer) (count : Nat) (mode : ExecMode) :
    List Window :=
  match e.sessions.find? h with
  | none => []
  | some s =>
    match e.checkExec s count, e.power.busy.1 with
    | .ok (), .ok () =>
      Batch.writtenBack (e.job s mode) (Windows.ofBatch count s.staging.capacity).toList
        (e.batch s buffer mode)
    | _, _ => []

variable (e : Engine) (h : Handle) (count : Nat) (mode : ExecMode)

theorem runBatch_asList (s : Session) (buffer : OpsBuffer) :
    e.runBatch h s buffer.asList count mode
      = (⟨(e.runBatch h s buffer count mode).1.result,
            (e.runBatch h s buffer count mode).1.buffer.asList,
            (e.runBatch h s buffer count mode).1.submitted⟩,
          (e.runBatch h s buffer count mode).2) := by
  let job : BatchJob := ⟨s.binding.context?, s.accessClass, mode, e.power.refs⟩
  let batch : Batch := ⟨e.executor, s.staging, buffer, e.metrics, emptyReport mode, []⟩
  have hrun := Batch.runList_asList job (Windows.ofBatch count s.staging.capacity).toList batch
  rw [← Batch.run_eq_runList, ← Batch.run_eq_runList] at hrun
  unfold runBatch
  dsimp only
  rw [show Batch.mk e.executor s.staging buffer.asList e.metrics (emptyReport mode) []
    = batch.asList from rfl, hrun]
  rfl

/-- **An attempt does with bytes what it does with the list of their operations.** -/
theorem execute_asList (buffer : OpsBuffer) :
    e.execute h buffer.asList count mode
      = (⟨(e.execute h buffer count mode).1.result,
            (e.execute h buffer count mode).1.buffer.asList,
            (e.execute h buffer count mode).1.submitted⟩,
          (e.execute h buffer count mode).2) := by
  unfold execute
  cases e.sessions.find? h with
  | none => rfl
  | some s =>
    dsimp only
    cases e.checkExec s count with
    | error err => rfl
    | ok _ =>
      dsimp only
      cases e.power.busy with
      | mk result power =>
        cases result with
        | error err => rfl
        | ok _ =>
          dsimp only
          rw [runBatch_asList]

/-- What an attempt leaves of the bytes that it is given. -/
theorem execute_rewritten (raw : List UInt8) :
    ∃ raw', (e.execute h ⟨.records raw, none, none⟩ count mode).1.buffer
        = ⟨.records raw', none, none⟩ ∧
      Rewritten (e.writtenBack h ⟨.records raw, none, none⟩ count mode) raw raw' := by
  cases hs : e.sessions.find? h with
  | none =>
    unfold execute writtenBack
    rw [hs]
    exact ⟨raw, rfl, .refl raw⟩
  | some s =>
    cases hg : e.checkExec s count with
    | error err =>
      unfold execute writtenBack
      simp only [hs, hg]
      exact ⟨raw, rfl, .refl raw⟩
    | ok _ =>
      cases hp : e.power.busy.1 with
      | error err =>
        refine ⟨raw, ?_, ?_⟩
        · unfold execute
          simp only [hs, hg]
          split
          · rfl
          · rename_i hbusy
            rw [hbusy] at hp
            cases hp
        · unfold writtenBack
          simp only [hs, hg, hp]
          exact .refl raw
      | ok _ =>
        obtain ⟨e', hx, -⟩ := execute_eq_runWindows ⟨.records raw, none, none⟩ mode hs hg hp
        have hrun := Batch.runList_rewritten (e.job s mode)
          (Windows.ofBatch count s.staging.capacity).toList
          (b := e.batch s ⟨.records raw, none, none⟩ mode) rfl
        rw [← Batch.run_eq_runList] at hrun
        unfold writtenBack
        simp only [hx, hs, hg, hp]
        exact hrun

/-- **Bytes and lists are interchangeable.** An attempt with bytes has the outcome that it has with
the list of the operations that the bytes stand for, and leaves the same engine behind. Afterwards
the bytes stand for what the list holds. They are as many as before, and differ from what they were
only in the records of the windows that were written back; a partial record at the end is in none. -/
theorem records_as_list (raw : List UInt8) :
    let x := e.execute h ⟨.records raw, none, none⟩ count mode
    let y := e.execute h ⟨.list (RegOp.ofRecords raw), none, none⟩ count mode
    x.1.result = y.1.result ∧ x.1.submitted = y.1.submitted ∧ x.2 = y.2 ∧
      ∃ raw', x.1.buffer = ⟨.records raw', none, none⟩ ∧
        y.1.buffer = ⟨.list (RegOp.ofRecords raw'), none, none⟩ ∧
        Rewritten (e.writtenBack h ⟨.records raw, none, none⟩ count mode) raw raw' ∧
        raw'.drop (RegOp.recordSize * (raw.length / RegOp.recordSize))
          = raw.drop (RegOp.recordSize * (raw.length / RegOp.recordSize)) := by
  intro x y
  have hxy : y = (⟨x.1.result, x.1.buffer.asList, x.1.submitted⟩, x.2) :=
    e.execute_asList h count mode ⟨.records raw, none, none⟩
  obtain ⟨raw', hbuf, hr⟩ := e.execute_rewritten h count mode raw
  rw [hxy]
  refine ⟨rfl, rfl, rfl, raw', hbuf, ?_, hr, hr.drop_eq⟩
  show x.1.buffer.asList = _
  rw [show x.1.buffer = _ from hbuf]
  rfl

end Engine

end Perfmon
