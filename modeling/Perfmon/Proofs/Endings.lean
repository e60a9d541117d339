import Perfmon.Proofs.Windowing
/-!
# Where a batch ends

A batch gets through a window that can be read, that the executor carries out, and that can be
written back; which windows these are is settled before the first of them is looked at (`Clears`).
So the windows in front of the first other one have their full effect (`Covered.run`), and what
this one adds depends on which of the three steps fails: nothing at all (`Covered.unreadable`), a
window that the executor has seen (`Covered.refused`), or one that it has carried out
(`Covered.unwritable`).
-/

namespace Perfmon

/-! ## Armed failures -/

namespace Executor

variable {x : Executor} {c : ExecutorCall} {n : Nat}

theorem strikes_eq_false_iff : x.strikes c = false ↔ (c, 0) ∉ x.armed := by
  simp [strikes]

theorem mem_armed_pass : (c, n) ∈ (x.pass c).armed ↔ (c, n + 1) ∈ x.armed := by
  simp only [pass, List.mem_filterMap]
  constructor
  · rintro ⟨⟨k, m⟩, hm, hc⟩
    by_cases hk : k = c
    · subst hk
      cases m with
      | zero => simp [countDown] at hc
      | succ m =>
        obtain rfl : m = n := by simpa [countDown] using hc
        exact hm
    · simp [countDown, hk] at hc
  · intro h
    exact ⟨_, h, by simp [countDown]⟩

/-- The executor refuses a window when a failure strikes, or when in all-or-none mode one of its
operations cannot be carried out. The registers stay as they were. -/
theorem execute_refused {ctx : Option ContextId} {mode : ExecMode} {cls : AccessClass}
    {ops : List RegOp} (h : x.strikes .exec = true ∨
      mode = .allOrNone ∧ ∃ op ∈ ops, ¬x.device.Admits cls ctx op) :
    ∃ failure, (x.execute ctx mode (ops.map (.ofRegOp cls))).1.outcome = .error failure ∧
      (x.execute ctx mode (ops.map (.ofRegOp cls))).2.device.registers = x.device.registers := by
  cases hs : x.strikes .exec with
  | true =>
    unfold execute call
    rw [hs]
    exact ⟨_, rfl, rfl⟩
  | false =>
    rw [hs] at h
    obtain ⟨rfl, hbad⟩ := h.resolve_left nofun
    obtain ⟨failure, done, direct, hx⟩ := Device.execute_refused hbad
    rw [execute_of_not_strikes hs, hx]
    exact ⟨failure, rfl, rfl⟩

end Executor

/-! ## Windows that a batch gets through -/

namespace OpsBuffer

/-- Why a window cannot be read from a caller's memory, if it cannot. -/
def readFault? (b : OpsBuffer) (w : Window) : Option Error :=
  accessFault? b.memory b.unreadableFrom w.start w.len

/-- Why a window cannot be written to a caller's memory, if it cannot. -/
def writeFault? (b : OpsBuffer) (w : Window) : Option Error :=
  accessFault? b.memory b.unwritableFrom w.start w.len

theorem copyIn_eq (b : OpsBuffer) (w : Window) :
    b.copyIn w.start w.len = match b.readFault? w with
      | some e => .error e
      | none => .ok (b.memory.slice w.start w.len) := rfl

theorem copyOut_eq (b : OpsBuffer) {w : Window} {ops : List RegOp} (h : ops.length = w.len) :
    b.copyOut w.start ops = match b.writeFault? w with
      | some e => .error e
      | none => .ok { b with memory := b.memory.splice w.start ops } := by
  rw [writeFault?, ← h]
  rfl

/-- A window that does not fit into a memory without limits is a fault at its start. -/
theorem readFault?_of_short {b : OpsBuffer} {w : Window} (hu : b.unreadableFrom = none)
    (h : b.memory.size < w.stop) :
    b.readFault? w = some (outside b.memory.size w.start w.len) := by
  unfold readFault? accessFault?
  rw [hu]
  exact if_pos h

theorem stop_le_of_readFault? {b : OpsBuffer} {w : Window} (h : b.readFault? w = none) :
    w.stop ≤ b.memory.size :=
  le_size_of_accessFault? h

end OpsBuffer

namespace Batch

/-- The executor carries a window out: no failure is armed for it, and in all-or-none mode all its
operations can be carried out. -/
def Executes (j : BatchJob) (b : Batch) (w : Window) : Prop :=
  (ExecutorCall.exec, w.start / b.staging.capacity) ∉ b.executor.armed ∧
    (j.mode = .allOrNone → ∀ op ∈ b.buffer.memory.slice w.start w.len,
      b.executor.device.Admits j.cls j.context op)

/-- A batch gets through a window: it can be read, is carried out, and can be written back. -/
structure Clears (j : BatchJob) (b : Batch) (w : Window) : Prop where
  readable : b.buffer.readFault? w = none
  executes : Executes j b w
  writable : b.buffer.writeFault? w = none

/-- The operations that the executor has been handed so far. -/
def handed (b : Batch) : List DeviceOp :=
  b.submitted.reverse.flatMap (·.ops)

/-- What is left of a batch of which the first `written` operations have been written back, the
first `applied` ones carried out, and the first `shown` ones handed to the executor. -/
structure Left (j : BatchJob) (b₀ : Batch) (written applied shown : Nat) (b : Batch) : Prop where
  inside : written ≤ b₀.buffer.memory.size
  buffer : b.buffer
    = { b₀.buffer with memory := b₀.buffer.memory.splice 0 (interpreted j b₀ written).1 }
  registers : b.executor.device.registers = (interpreted j b₀ applied).2
  handed : b.handed = b₀.handed ++ (b₀.buffer.memory.toList.take shown).map (.ofRegOp j.cls)

/-- What a batch is when it has got through its first `k` windows, which cover its first `p`
operations. -/
structure Covered (j : BatchJob) (b₀ : Batch) (k p : Nat) (b : Batch) : Prop
    extends Carried j b₀ p b where
  inside : p ≤ b₀.buffer.memory.size
  handed : b.handed = b₀.handed ++ (b₀.buffer.memory.toList.take p).map (.ofRegOp j.cls)
  armed : ∀ n, (ExecutorCall.exec, n) ∈ b.executor.armed ↔
    (ExecutorCall.exec, n + k) ∈ b₀.executor.armed

variable {j : BatchJob} {b₀ b b' : Batch} {k p total : Nat} {w : Window} {err : Error}

theorem Covered.zero : Covered j b 0 0 b where
  toCarried := .zero
  inside := Nat.zero_le _
  handed := by simp
  armed _ := Iff.rfl

theorem Covered.left (h : Covered j b₀ k p b) : Left j b₀ p p p b :=
  ⟨h.inside, h.buffer, h.registers, h.handed⟩

theorem handed_of_submitted {ctx : Option ContextId} {ops : List DeviceOp} {refs : Nat}
    (h : b'.submitted = ⟨ctx, ops, refs⟩ :: b.submitted) : b'.handed = b.handed ++ ops := by
  simp [handed, h]

/-- What the executor refuses has been handed to it, and nothing else has happened. -/
theorem process_refused {ops : List RegOp} (hx : b.executor.strikes .exec = true ∨
      j.mode = .allOrNone ∧ ∃ op ∈ ops, ¬b.executor.device.Admits j.cls j.context op)
    (hl : ops.length = w.len) (hd : w.len ≤ b.staging.device.length) :
    ∃ reason b', process j w ops b = (.error (.hardwareExecution w.start reason), b') ∧
      b'.buffer = b.buffer ∧
      b'.executor.device.registers = b.executor.device.registers ∧
      b'.submitted = ⟨j.context, ops.map (.ofRegOp j.cls), j.powerRefs⟩ :: b.submitted := by
  obtain ⟨failure, hfail, hregs⟩ := Executor.execute_refused hx
  unfold process
  rw [submit_load hl hd]
  dsimp only
  rw [hfail]
  exact ⟨_, _, rfl, rfl, hregs, rfl⟩

section

variable (h : Covered j b₀ k w.start b)
include h

/-- A window that cannot be read changes nothing. -/
theorem Covered.unreadable (hr : b₀.buffer.readFault? w = some err) :
    runWindow j w b = (.error err, b) := by
  unfold runWindow
  rw [h.toCarried.copyIn h.inside, OpsBuffer.copyIn_eq, hr]

/-- The operations up to the end of a window are those before it and its own. -/
theorem Covered.handed_stop (hr : b₀.buffer.readFault? w = none)
    (hb : b'.handed = b.handed ++
      (b₀.buffer.memory.slice w.start w.len).map (.ofRegOp j.cls)) :
    b'.handed = b₀.handed ++ (b₀.buffer.memory.toList.take w.stop).map (.ofRegOp j.cls) := by
  have hsize := OpsBuffer.stop_le_of_readFault? hr
  have hsplit := OpsMemory.slice_append hsize
  rw [OpsMemory.slice_zero h.inside, show w.start + w.len = w.stop from rfl,
    OpsMemory.slice_zero hsize] at hsplit
  rw [hb, h.handed, hsplit, List.map_append, List.append_assoc]

variable (hk : w.start / b₀.staging.capacity = k) (hl : w.len ≤ b₀.staging.capacity)
  (hd : b₀.staging.device.length = b₀.staging.capacity)
include hk hl hd

/-- A window that the executor refuses is neither carried out nor written back. -/
theorem Covered.refused (hr : b₀.buffer.readFault? w = none) (hx : ¬Executes j b₀ w) :
    ∃ reason b', runWindow j w b = (.error (.hardwareExecution w.start reason), b') ∧
      Left j b₀ w.start w.start w.stop b' := by
  have hlen : (b₀.buffer.memory.slice w.start w.len).length = w.len :=
    OpsMemory.length_slice (OpsBuffer.stop_le_of_readFault? hr)
  have hrefuse : b.executor.strikes .exec = true ∨ j.mode = .allOrNone ∧
      ∃ op ∈ b₀.buffer.memory.slice w.start w.len,
        ¬b.executor.device.Admits j.cls j.context op := by
    by_contra hn
    obtain ⟨hs, hm⟩ := not_or.mp hn
    rw [Bool.not_eq_true, Executor.strikes_eq_false_iff, h.armed, Nat.zero_add, ← hk] at hs
    refine hx ⟨hs, fun hmode op hop => ?_⟩
    by_contra hbad
    exact hm ⟨hmode, op, hop, fun ha => hbad ((Device.admits_congr h.rest.device op).mp ha)⟩
  obtain ⟨reason, b', hproc, hbuf, hregs, hsub⟩ := process_refused hrefuse hlen
    (by rw [h.rest.internal, hd]; exact hl)
  refine ⟨reason, b', ?_, h.inside, hbuf.trans h.buffer, hregs.trans h.registers,
    h.handed_stop hr (handed_of_submitted hsub)⟩
  rw [runWindow_eq, h.toCarried.copyIn h.inside, OpsBuffer.copyIn_eq, hr]
  dsimp only
  rw [hproc]

/-- A window that the executor carries out is processed as the interpreter would. -/
theorem Covered.process (hr : b₀.buffer.readFault? w = none) (hx : Executes j b₀ w) :
    ∃ b', Processed j w (b₀.buffer.memory.slice w.start w.len) b b' ∧
      runWindow j w b
        = writeBack w (interpret j b (b₀.buffer.memory.slice w.start w.len)).1 b' := by
  refine h.toCarried.runWindow ?_ hx.2 hl (by rw [hd]; exact hl) ?_
    (OpsBuffer.stop_le_of_readFault? hr)
  · rw [Executor.strikes_eq_false_iff, h.armed, Nat.zero_add, ← hk]
    exact hx.1
  · rw [OpsBuffer.copyIn_eq, hr]

/-- A window that cannot be written back has been carried out all the same. -/
theorem Covered.unwritable (hr : b₀.buffer.readFault? w = none) (hx : Executes j b₀ w)
    (hw : b₀.buffer.writeFault? w = some err) :
    ∃ b', runWindow j w b = (.error err, b') ∧ Left j b₀ w.start w.stop w.stop b' := by
  have hsize := OpsBuffer.stop_le_of_readFault? hr
  obtain ⟨b', hproc, hrun⟩ := h.process hk hl hd hr hx
  have hlen : (interpret j b (b₀.buffer.memory.slice w.start w.len)).1.length = w.len := by
    rw [interpret, Device.length_interpret, OpsMemory.length_slice hsize]
  have hstop : interpreted j b₀ w.stop = _ := h.toCarried.interpreted_add hsize
  rw [writeBack, hproc.buffer, h.toCarried.copyOut h.inside, OpsBuffer.copyOut_eq _ hlen, hw] at hrun
  refine ⟨b', hrun, h.inside, hproc.buffer.trans h.buffer, ?_,
    h.handed_stop hr (handed_of_submitted hproc.submitted)⟩
  rw [hstop]
  exact hproc.registers

/-- A window that the batch gets through adds its operations to those that are covered. -/
theorem Covered.next (hw : Clears j b₀ w) :
    ∃ b', runWindow j w b = (.ok (), b') ∧ Covered j b₀ (k + 1) w.stop b' := by
  have hsize := OpsBuffer.stop_le_of_readFault? hw.readable
  obtain ⟨b₁, hproc, hrun⟩ := h.process hk hl hd hw.readable hw.executes
  have hlen : (interpret j b (b₀.buffer.memory.slice w.start w.len)).1.length = w.len := by
    rw [interpret, Device.length_interpret, OpsMemory.length_slice hsize]
  have hstop : interpreted j b₀ w.stop = _ := h.toCarried.interpreted_add hsize
  have hadv := runWindow_advanced j w b
  rw [writeBack, hproc.buffer, h.toCarried.copyOut h.inside, OpsBuffer.copyOut_eq _ hlen,
    hw.writable] at hrun
  rw [hrun] at hadv ⊢
  have harmed : ∀ n, (ExecutorCall.exec, n) ∈ b₁.executor.armed ↔
      (ExecutorCall.exec, n + (k + 1)) ∈ b₀.executor.armed := by
    intro n
    rw [hproc.armed, Executor.mem_armed_pass, h.armed, Nat.add_right_comm, Nat.add_assoc]
  refine ⟨_, rfl, ⟨?_, ?_, h.rest.trans hadv⟩, hsize,
    h.handed_stop hw.readable (handed_of_submitted hproc.submitted), harmed⟩
  · rw [hstop]
  · rw [hstop]
    exact hproc.registers

/-- The batch gets through a window, or ends there. -/
theorem Covered.window_cases :
    (∃ b', Clears j b₀ w ∧ runWindow j w b = (.ok (), b') ∧ Covered j b₀ (k + 1) w.stop b') ∨
      ∃ err b' applied shown, runWindow j w b = (.error err, b') ∧
        w.start ≤ applied ∧ applied ≤ w.stop ∧ applied ≤ b₀.buffer.memory.size ∧
        Left j b₀ w.start applied shown b' := by
  have hle : w.start ≤ w.stop := Nat.le_add_right _ _
  cases hr : b₀.buffer.readFault? w with
  | some err =>
    exact Or.inr ⟨err, b, _, _, h.unreadable hr, Nat.le_refl _, hle, h.inside, h.left⟩
  | none =>
    by_cases hx : Executes j b₀ w
    · cases hw : b₀.buffer.writeFault? w with
      | some err =>
        obtain ⟨b', hrun, hleft⟩ := h.unwritable hk hl hd hr hx hw
        exact Or.inr ⟨err, b', _, _, hrun, hle, Nat.le_refl _,
          OpsBuffer.stop_le_of_readFault? hr, hleft⟩
      | none =>
        obtain ⟨b', hrun, hnext⟩ := h.next hk hl hd ⟨hr, hx, hw⟩
        exact Or.inl ⟨b', ⟨hr, hx, hw⟩, hrun, hnext⟩
    · obtain ⟨reason, b', hrun, hleft⟩ := h.refused hk hl hd hr hx
      exact Or.inr ⟨_, b', _, _, hrun, Nat.le_refl _, hle, h.inside, hleft⟩

end

/-! ## All windows -/

theorem run_nth {capacity : Nat} (h : capacity * k < total) (hc : 0 < capacity) :
    run j ⟨total, capacity, capacity * k⟩ b
      = match runWindow j (Window.nth total capacity k) b with
        | (.error e, b) => (.error e, b)
        | (.ok (), b) => run j ⟨total, capacity, (Window.nth total capacity k).stop⟩ b := by
  rw [run]
  split
  · rename_i hn
    rw [Windows.next?_nth h hc] at hn
    cases hn
  · rename_i w d hn
    rw [Windows.next?_nth h hc] at hn
    cases hn
    rfl

theorem run_of_total_le {c : Windows} (h : c.total ≤ c.position) : run j c b = (.ok (), b) := by
  rw [run]
  split
  · rfl
  · rename_i w d hn
    rw [show c.next? = none from if_pos (Or.inl h)] at hn
    cases hn

/-- A batch that gets through its first `k` windows goes on behind them, with what each of them has
handed on to the next one. -/
theorem run_front {capacity : Nat} {motive : Nat → Nat → Batch → Prop} (hc : 0 < capacity)
    (zero : motive 0 0 b₀)
    (next : ∀ i < k, capacity * i < total ∧ ∀ b, motive i (capacity * i) b →
      ∃ b', runWindow j (.nth total capacity i) b = (.ok (), b') ∧
        motive (i + 1) (Window.nth total capacity i).stop b') :
    ∃ b, run j (.ofBatch total capacity) b₀ = run j ⟨total, capacity, min (capacity * k) total⟩ b ∧
      motive k (min (capacity * k) total) b := by
  -- On the number of windows: the last of them takes the batch on from where the others left it.
  induction k with
  | zero =>
    rw [Nat.mul_zero, Nat.zero_min]
    exact ⟨b₀, rfl, zero⟩
  | succ k ih =>
    obtain ⟨b, hrun, hm⟩ := ih fun i hi => next i (Nat.lt_succ_of_lt hi)
    obtain ⟨hlt, hstep⟩ := next k (Nat.lt_succ_self k)
    rw [Nat.min_eq_left (Nat.le_of_lt hlt)] at hrun hm
    obtain ⟨b', hwin, hnext⟩ := hstep b hm
    rw [run_nth hlt hc, hwin] at hrun
    rw [Window.stop_nth hlt] at hrun hnext
    exact ⟨b', hrun, hnext⟩

section

variable (hd : b₀.staging.device.length = b₀.staging.capacity) (hc : 0 < b₀.staging.capacity)
include hd hc

/-- A batch that gets through its first `k` windows goes on behind them. -/
theorem Covered.run (hw : ∀ i < k, b₀.staging.capacity * i < total ∧
      Clears j b₀ (.nth total b₀.staging.capacity i)) :
    ∃ b, Batch.run j (.ofBatch total b₀.staging.capacity) b₀
        = Batch.run j ⟨total, b₀.staging.capacity, min (b₀.staging.capacity * k) total⟩ b ∧
      Covered j b₀ k (min (b₀.staging.capacity * k) total) b := by
  refine run_front (motive := Covered j b₀) hc .zero fun i hi => ⟨(hw i hi).1, fun b hb => ?_⟩
  exact hb.next (Nat.mul_div_cancel_left i hc) (Nat.min_le_right _ _) hd (hw i hi).2

variable (hk : b₀.staging.capacity * k < total)
  (hw : ∀ i < k, Clears j b₀ (.nth total b₀.staging.capacity i))
include hk hw

/-- A batch that gets through its first `k` windows comes to the next one. -/
theorem Covered.run_nth :
    ∃ b, Batch.run j (.ofBatch total b₀.staging.capacity) b₀
        = Batch.run j ⟨total, b₀.staging.capacity, b₀.staging.capacity * k⟩ b ∧
      Covered j b₀ k (b₀.staging.capacity * k) b := by
  have hlt : ∀ i < k, b₀.staging.capacity * i < total := fun i hi =>
    Nat.lt_of_le_of_lt (Nat.mul_le_mul_left _ (Nat.le_of_lt hi)) hk
  obtain ⟨b, hrun, hcov⟩ := Covered.run hd hc fun i hi => ⟨hlt i hi, hw i hi⟩
  rw [Nat.min_eq_left (Nat.le_of_lt hk)] at hrun hcov
  exact ⟨b, hrun, hcov⟩

/-- **A window that cannot be read ends the batch,** with the effects of the windows before it. -/
theorem run_unreadable
    (hr : b₀.buffer.readFault? (.nth total b₀.staging.capacity k) = some err) :
    ∃ b, Batch.run j (.ofBatch total b₀.staging.capacity) b₀ = (.error err, b) ∧
      Left j b₀ (b₀.staging.capacity * k) (b₀.staging.capacity * k) (b₀.staging.capacity * k) b := by
  obtain ⟨b, hrun, hcov⟩ := Covered.run_nth hd hc hk hw
  rw [Batch.run_nth hk hc,
    Covered.unreadable (w := .nth total b₀.staging.capacity k) hcov hr] at hrun
  exact ⟨b, hrun, hcov.left⟩

/-- **A window that the executor refuses ends the batch,** with the effects of the windows before it.
-/
theorem run_refused (hr : b₀.buffer.readFault? (.nth total b₀.staging.capacity k) = none)
    (hx : ¬Executes j b₀ (.nth total b₀.staging.capacity k)) :
    ∃ reason b, Batch.run j (.ofBatch total b₀.staging.capacity) b₀
        = (.error (.hardwareExecution (b₀.staging.capacity * k) reason), b) ∧
      Left j b₀ (b₀.staging.capacity * k) (b₀.staging.capacity * k)
        (min (b₀.staging.capacity * (k + 1)) total) b := by
  obtain ⟨b, hrun, hcov⟩ := Covered.run_nth hd hc hk hw
  obtain ⟨reason, b', hwin, hleft⟩ :=
    Covered.refused (w := .nth total b₀.staging.capacity k) hcov
      (Nat.mul_div_cancel_left k hc) (Nat.min_le_right _ _) hd hr hx
  rw [Batch.run_nth hk hc, hwin] at hrun
  rw [Window.stop_nth hk] at hleft
  exact ⟨reason, b', hrun, hleft⟩

/-- **A window that cannot be written back ends the batch** behind its execution. -/
theorem run_unwritable (hr : b₀.buffer.readFault? (.nth total b₀.staging.capacity k) = none)
    (hx : Executes j b₀ (.nth total b₀.staging.capacity k))
    (hf : b₀.buffer.writeFault? (.nth total b₀.staging.capacity k) = some err) :
    ∃ b, Batch.run j (.ofBatch total b₀.staging.capacity) b₀ = (.error err, b) ∧
      Left j b₀ (b₀.staging.capacity * k) (min (b₀.staging.capacity * (k + 1)) total)
        (min (b₀.staging.capacity * (k + 1)) total) b := by
  obtain ⟨b, hrun, hcov⟩ := Covered.run_nth hd hc hk hw
  obtain ⟨b', hwin, hleft⟩ :=
    Covered.unwritable (w := .nth total b₀.staging.capacity k) hcov
      (Nat.mul_div_cancel_left k hc) (Nat.min_le_right _ _) hd hr hx hf
  rw [Batch.run_nth hk hc, hwin] at hrun
  rw [Window.stop_nth hk] at hleft
  exact ⟨b', hrun, hleft⟩

end

/-- **A batch that gets through all its windows succeeds.** -/
theorem run_through (hd : b₀.staging.device.length = b₀.staging.capacity)
    (hc : 0 < b₀.staging.capacity)
    (hw : ∀ i, b₀.staging.capacity * i < total →
      Clears j b₀ (.nth total b₀.staging.capacity i)) :
    ∃ b, run j (.ofBatch total b₀.staging.capacity) b₀ = (.ok (), b) ∧
      Left j b₀ total total total b := by
  obtain ⟨k, hle, hlt⟩ := Window.exists_cover total hc
  obtain ⟨b, hrun, hcov⟩ := Covered.run hd hc fun i hi => ⟨hlt i hi, hw i (hlt i hi)⟩
  rw [Nat.min_eq_right hle] at hrun hcov
  rw [run_of_total_le (c := ⟨total, _, total⟩) (Nat.le_refl total)] at hrun
  exact ⟨b, hrun, hcov.left⟩

end Batch

/-! ## Batches of a session -/

namespace Engine

variable {e : Engine} {h : Handle} {s : Session} {buffer : OpsBuffer} {count : Nat}
  {mode : ExecMode} {written applied shown : Nat}

/-- What an attempt leaves behind that has written back the first `written` operations of a batch,
carried out the first `applied` ones, and handed the first `shown` ones to the executor. -/
structure LeavesOff (e : Engine) (s : Session) (given : OpsBuffer) (written applied shown : Nat)
    (x : Execution × Engine) : Prop where
  buffer : x.1.buffer = (e.interpretBatch s given written).buffer
  behind : x.1.buffer.memory.behind written = given.memory.behind written
  registers : x.2.device.registers = (e.interpretBatch s given applied).registers
  submitted : x.1.submitted.flatMap (·.ops)
    = (given.memory.toList.take shown).map (.ofRegOp s.accessClass)

section

variable (hs : e.sessions.find? h = some s) (hg : e.checkExec s count = .ok ())
  (hp : e.power.busy.1 = .ok ())
include hs hg hp

/-- What is left of the batch is what the attempt leaves behind. -/
theorem execute_of_left {result : Except Error Unit} {b : Batch}
    (hrun : e.runWindows s buffer count mode = (result, b))
    (hl : Batch.Left (e.job s mode) (e.batch s buffer mode) written applied shown b) :
    (e.execute h buffer count mode).1.result = result.map (fun () => b.report) ∧
      e.LeavesOff s buffer written applied shown (e.execute h buffer count mode) := by
  obtain ⟨e', hx, hexec⟩ := execute_eq_runWindows buffer mode hs hg hp
  have hbuf : b.buffer = (e.interpretBatch s buffer written).buffer := hl.buffer
  have hbehind := buffer.memory.behind_splice
    (Batch.interpreted (e.job s mode) (e.batch s buffer mode) written).1
  rw [Batch.length_interpreted hl.inside] at hbehind
  rw [hrun] at hx hexec
  rw [hx]
  refine ⟨rfl, hbuf, ?_, ?_, hl.handed⟩
  · dsimp only
    rw [hbuf]
    exact hbehind
  · rw [device, hexec]
    exact hl.registers

variable {capacity k : Nat} {err : Error} (hz : s.staging.Sized capacity) (hc : 0 < capacity)
include hz hc

/-- **An attempt that gets through all its windows succeeds.** -/
theorem execute_through (hw : ∀ i, capacity * i < count →
      Batch.Clears (e.job s mode) (e.batch s buffer mode) (.nth count capacity i)) :
    (∃ report, (e.execute h buffer count mode).1.result = .ok report) ∧
      e.LeavesOff s buffer count count count (e.execute h buffer count mode) := by
  obtain ⟨rfl, hd⟩ := hz
  change (e.batch s buffer mode).staging.device.length = _ at hd
  obtain ⟨b, hrun, hleft⟩ := Batch.run_through hd hc hw
  obtain ⟨hres, hoff⟩ := execute_of_left hs hg hp hrun hleft
  exact ⟨⟨_, hres⟩, hoff⟩

variable (hk : capacity * k < count) (hw : ∀ i < k,
  Batch.Clears (e.job s mode) (e.batch s buffer mode) (.nth count capacity i))
include hk hw

/-- **A window that cannot be read ends the attempt,** with the effects of the windows before it. -/
theorem execute_unreadable (hr : buffer.readFault? (.nth count capacity k) = some err) :
    (e.execute h buffer count mode).1.result = .error err ∧
      e.LeavesOff s buffer (capacity * k) (capacity * k) (capacity * k)
        (e.execute h buffer count mode) := by
  obtain ⟨rfl, hd⟩ := hz
  change (e.batch s buffer mode).staging.device.length = _ at hd
  obtain ⟨b, hrun, hleft⟩ := Batch.run_unreadable hd hc hk hw hr
  exact execute_of_left hs hg hp hrun hleft

/-- **A window that the executor refuses ends the attempt,** with the effects of the windows before
it. -/
theorem execute_refused (hr : buffer.readFault? (.nth count capacity k) = none)
    (hx : ¬Batch.Executes (e.job s mode) (e.batch s buffer mode) (.nth count capacity k)) :
    (∃ reason, (e.execute h buffer count mode).1.result
        = .error (.hardwareExecution (capacity * k) reason)) ∧
      e.LeavesOff s buffer (capacity * k) (capacity * k) (min (capacity * (k + 1)) count)
        (e.execute h buffer count mode) := by
  obtain ⟨rfl, hd⟩ := hz
  change (e.batch s buffer mode).staging.device.length = _ at hd
  obtain ⟨reason, b, hrun, hleft⟩ :=
    Batch.run_refused hd hc hk hw hr hx
  obtain ⟨hres, hoff⟩ := execute_of_left hs hg hp hrun hleft
  exact ⟨⟨reason, hres⟩, hoff⟩

/-- **A window that cannot be written back ends the attempt** behind its execution. -/
theorem execute_unwritable (hr : buffer.readFault? (.nth count capacity k) = none)
    (hx : Batch.Executes (e.job s mode) (e.batch s buffer mode) (.nth count capacity k))
    (hf : buffer.writeFault? (.nth count capacity k) = some err) :
    (e.execute h buffer count mode).1.result = .error err ∧
      e.LeavesOff s buffer (capacity * k) (min (capacity * (k + 1)) count)
        (min (capacity * (k + 1)) count) (e.execute h buffer count mode) := by
  obtain ⟨rfl, hd⟩ := hz
  change (e.batch s buffer mode).staging.device.length = _ at hd
  obtain ⟨b, hrun, hleft⟩ :=
    Batch.run_unwritable hd hc hk hw hr hx hf
  exact execute_of_left hs hg hp hrun hleft

end

end Engine

end Perfmon
