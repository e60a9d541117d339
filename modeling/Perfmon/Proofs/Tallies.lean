import Perfmon.Proofs.TransferFaults
/-!
# What is counted of a batch

A window is counted, with its operations, when the executor has carried it out; that it cannot be
written back afterwards does not change that. The device counts the calls that reach it, whatever
comes of them. The report goes on with the windows that the batch gets through.

`Counted` compares the counts of a batch with those of its beginning. `Tallied` adds the report, and
goes from one window to the next (`Tallied.next`) as far as the batch gets through them
(`Tallied.run`). So a batch ends in one of three ways (`run_ends`): behind all its windows, at a fault
of the transfer, or at a window that the executor refuses.
-/

namespace Perfmon

namespace Metrics

/-- The counts when so many more windows have been executed, with these operations in them. -/
def tally (m : Metrics) (windows : Nat) (ops : List RegOp) : Metrics :=
  { m with
    opsExecuted := m.opsExecuted + ops.length
    opsFailed := m.opsFailed + ops.countP (!·.succeeded)
    windows := m.windows + windows }

theorem count_tally (m : Metrics) (windows : Nat) (done ops : List RegOp) :
    Batch.count (m.tally windows done) ops = m.tally (windows + 1) (done ++ ops) := by
  simp only [Batch.count, tally, List.length_append, List.countP_append, Nat.add_assoc]

end Metrics

/-- A call that is made to fail does not reach the device. -/
theorem Executor.execCalls_execute (x : Executor) (ctx : Option ContextId) (mode : ExecMode)
    (ops : List DeviceOp) :
    (x.execute ctx mode ops).2.device.execCalls
      = x.device.execCalls + if x.strikes .exec then 0 else 1 := by
  cases hs : x.strikes .exec with
  | true =>
    unfold execute call
    rw [hs]
    rfl
  | false =>
    rw [execute_of_not_strikes hs]
    exact x.device.execCalls_execute ctx mode ops

namespace Batch

variable {j : BatchJob} {b₀ b b' : Batch} {k p total : Nat} {w : Window} {err : Error}

/-! ## One window -/

/-- What has been counted of a batch when `calls` calls have reached the device, and `windows` windows
with its first `done` operations have been carried out. -/
structure Counted (j : BatchJob) (b₀ : Batch) (calls windows done : Nat) (b : Batch) : Prop where
  execCalls : b.executor.device.execCalls = b₀.executor.device.execCalls + calls
  metrics : b.metrics = b₀.metrics.tally windows (interpreted j b₀ done).1

/-- What is counted and reported of a batch when it has got through its first `k` windows, which cover
its first `p` operations. -/
structure Tallied (j : BatchJob) (b₀ : Batch) (k p : Nat) (b : Batch) : Prop
    extends Covered j b₀ k p b where
  counted : Counted j b₀ k k p b
  windows : b.report.windows = b₀.report.windows + k
  allPassed : b.report.allPassed
    = (b₀.report.allPassed && (interpreted j b₀ p).1.all (·.succeeded))
  directOps : 0 < p → b.report.directOps = (j.cls == .global)
  ops : 0 < p → b.report.ops = p

theorem Tallied.zero : Tallied j b 0 0 b where
  toCovered := .zero
  counted := ⟨rfl, by rw [interpreted_zero]; rfl⟩
  windows := rfl
  allPassed := by rw [interpreted_zero, List.all_nil, Bool.and_true]
  directOps h := absurd h (Nat.lt_irrefl 0)
  ops h := absurd h (Nat.lt_irrefl 0)

/-- A window that has been carried out is counted with its operations. -/
theorem Counted.processed (h : Counted j b₀ k k w.start b) (hc : Carried j b₀ w.start b)
    (hsize : w.stop ≤ b₀.buffer.memory.size)
    (hproc : Processed j w (b₀.buffer.memory.slice w.start w.len) b b') :
    Counted j b₀ (k + 1) (k + 1) w.stop b' := by
  have hstop : interpreted j b₀ w.stop = _ := hc.interpreted_add hsize
  constructor
  · rw [hproc.execCalls, h.execCalls, Nat.add_assoc]
  · rw [hproc.metrics, h.metrics, Metrics.count_tally, hstop]

/-- A window that is written back is reported as one more, and where it ends. -/
theorem eq_of_writeBack {ops : List RegOp} (h : writeBack w ops b = (.ok (), b')) :
    ∃ buffer, b' = { b with
      buffer
      report := { b.report with windows := b.report.windows + 1, ops := w.stop } } := by
  unfold writeBack at h
  split at h
  · cases h
  · cases h
    exact ⟨_, rfl⟩

/-- A window that the executor refuses is not counted; its call is, unless it was made to fail. -/
theorem counted_of_refused {n : Nat} {reason : String}
    (h : runWindow j w b = (.error (.hardwareExecution n reason), b')) :
    b'.metrics = b.metrics ∧
      b'.executor.device.execCalls
        = b.executor.device.execCalls + if b.executor.strikes .exec then 0 else 1 := by
  rw [runWindow_eq, OpsBuffer.copyIn_eq] at h
  cases hr : b.buffer.readFault? w with
  | some err =>
    obtain ⟨m, text, rfl⟩ := OpsBuffer.transferFault_of_accessFault? hr
    rw [hr] at h
    cases h
  | none =>
    rw [hr] at h
    unfold process at h
    dsimp only at h
    split at h
    · rename_i hp
      split at hp
      · cases hp
        cases h
        exact ⟨rfl, b.executor.execCalls_execute _ _ _⟩
      · cases hp
    · unfold writeBack OpsBuffer.copyOut at h
      split at h
      · rename_i hout
        split at hout
        · rename_i hfault
          obtain ⟨m, text, rfl⟩ := OpsBuffer.transferFault_of_accessFault? hfault
          cases hout
          cases h
        · cases hout
      · cases h

section

variable (h : Tallied j b₀ k w.start b) (hk : w.start / b₀.staging.capacity = k)
  (hl : w.len ≤ b₀.staging.capacity) (hd : b₀.staging.device.length = b₀.staging.capacity)
include h hk hl hd

/-- A window that the batch gets through adds itself to what is counted and reported. -/
theorem Tallied.next (hw : Clears j b₀ w) (hpos : 0 < w.len) :
    ∃ b', runWindow j w b = (.ok (), b') ∧ Tallied j b₀ (k + 1) w.stop b' := by
  have hsize := OpsBuffer.stop_le_of_readFault? hw.readable
  have hstop : interpreted j b₀ w.stop = _ := h.toCarried.interpreted_add hsize
  obtain ⟨b', hrun, hcov⟩ := h.toCovered.next hk hl hd hw
  obtain ⟨b₁, hproc, hback⟩ := h.toCovered.process hk hl hd hw.readable hw.executes
  have hcount := h.counted.processed h.toCarried hsize hproc
  rw [hrun] at hback
  obtain ⟨buffer, rfl⟩ := eq_of_writeBack hback.symm
  refine ⟨_, hrun, hcov, ⟨hcount.execCalls, hcount.metrics⟩, ?_, ?_, fun _ => ?_, fun _ => rfl⟩
  · show b₁.report.windows + 1 = _
    rw [hproc.windows, h.windows, Nat.add_assoc]
  · show b₁.report.allPassed = _
    rw [hproc.allPassed, h.allPassed, hstop, List.all_append, Bool.and_assoc]
  · have hne : (b₀.buffer.memory.slice w.start w.len).isEmpty = false := by
      rw [List.isEmpty_eq_false_iff, ← List.length_pos_iff, OpsMemory.length_slice hsize]
      exact hpos
    have hdir := hproc.directOps
    rw [hne] at hdir
    refine hdir.trans ?_
    split
    · rfl
    · -- Only the first window says where the batch goes.
      rename_i hz
      exact h.directOps (Nat.pos_of_ne_zero hz)

/-- A window that cannot be written back is counted all the same. -/
theorem Tallied.unwritable (hr : b₀.buffer.readFault? w = none) (hx : Executes j b₀ w)
    (hw : b₀.buffer.writeFault? w = some err) :
    ∃ b', runWindow j w b = (.error err, b') ∧ Counted j b₀ (k + 1) (k + 1) w.stop b' := by
  have hsize := OpsBuffer.stop_le_of_readFault? hr
  obtain ⟨b', hrun, -⟩ := h.toCovered.unwritable hk hl hd hr hx hw
  obtain ⟨b₁, hproc, hback⟩ := h.toCovered.process hk hl hd hr hx
  have hcount := h.counted.processed h.toCarried hsize hproc
  refine ⟨b', hrun, ?_⟩
  rw [hrun, writeBack] at hback
  split at hback
  · cases hback
    exact hcount
  · cases hback

/-- A window that the executor refuses ends the batch as it was, but for the call. -/
theorem Tallied.refused (hr : b₀.buffer.readFault? w = none) (hx : ¬Executes j b₀ w) :
    ∃ reason calls b', runWindow j w b = (.error (.hardwareExecution w.start reason), b') ∧
      Left j b₀ w.start w.start w.stop b' ∧ Counted j b₀ calls k w.start b' ∧
      ((∀ n, (ExecutorCall.exec, n) ∉ b₀.executor.armed) → calls = k + 1) := by
  obtain ⟨reason, b', hrun, hleft⟩ := h.toCovered.refused hk hl hd hr hx
  obtain ⟨hmetrics, hcalls⟩ := counted_of_refused hrun
  refine ⟨reason, k + if b.executor.strikes .exec then 0 else 1, b', hrun, hleft,
    ⟨?_, hmetrics.trans h.counted.metrics⟩, fun hq => ?_⟩
  · rw [hcalls, h.counted.execCalls, Nat.add_assoc]
  · have hs : b.executor.strikes .exec = false := by
      rw [Executor.strikes_eq_false_iff, h.armed]
      exact hq _
    rw [hs]
    rfl

end

/-! ## All windows -/

/-- How a batch ends, and what has been counted of it. -/
inductive Ends (j : BatchJob) (b₀ : Batch) (total : Nat) : Except Error Unit → Batch → Prop
  /-- It gets through all its windows. -/
  | through {k : Nat} {b : Batch} (covers : total ≤ b₀.staging.capacity * k)
      (inside : ∀ i < k, b₀.staging.capacity * i < total)
      (clears : ∀ i, b₀.staging.capacity * i < total →
        Clears j b₀ (.nth total b₀.staging.capacity i))
      (tallied : Tallied j b₀ k total b) : Ends j b₀ total (.ok ()) b
  /-- A window cannot be read or written back. -/
  | faulted {n windows done : Nat} {reason : String} {b : Batch}
      (counted : Counted j b₀ windows windows done b) :
      Ends j b₀ total (.error (.transferFault n reason)) b
  /-- A window is refused by the executor. -/
  | refused {k calls shown : Nat} {reason : String} {b : Batch}
      (left : Left j b₀ (b₀.staging.capacity * k) (b₀.staging.capacity * k) shown b)
      (counted : Counted j b₀ calls k (b₀.staging.capacity * k) b)
      (one : (∀ n, (ExecutorCall.exec, n) ∉ b₀.executor.armed) → calls = k + 1) :
      Ends j b₀ total (.error (.hardwareExecution (b₀.staging.capacity * k) reason)) b

section

variable (hd : b₀.staging.device.length = b₀.staging.capacity) (hc : 0 < b₀.staging.capacity)
include hd hc

/-- What has been counted and reported behind the first `k` windows, if the batch gets through them. -/
theorem Tallied.run (hw : ∀ i < k, b₀.staging.capacity * i < total ∧
      Clears j b₀ (.nth total b₀.staging.capacity i)) :
    ∃ b, Batch.run j (.ofBatch total b₀.staging.capacity) b₀
        = Batch.run j ⟨total, b₀.staging.capacity, min (b₀.staging.capacity * k) total⟩ b ∧
      Tallied j b₀ k (min (b₀.staging.capacity * k) total) b := by
  refine run_front (motive := Tallied j b₀) hc .zero fun i hi => ?_
  obtain ⟨hin, hclear⟩ := hw i hi
  refine ⟨hin, fun b hb => ?_⟩
  exact hb.next (Nat.mul_div_cancel_left i hc) (Nat.min_le_right _ _) hd hclear
    (Nat.lt_min.mpr ⟨Nat.sub_pos_of_lt hin, hc⟩)

/-- **How a batch ends:** behind all its windows, at a fault of the transfer, or at a window that the
executor refuses. -/
theorem run_ends (j : BatchJob) (total : Nat) :
    Ends j b₀ total (run j (.ofBatch total b₀.staging.capacity) b₀).1
      (run j (.ofBatch total b₀.staging.capacity) b₀).2 := by
  rcases clears_or_stops j b₀ total with hall | ⟨k, hin, hstop, hclears⟩
  · obtain ⟨k, hle, hlt⟩ := Window.exists_cover total hc
    obtain ⟨b, hrun, htal⟩ := Tallied.run hd hc fun i hi => ⟨hlt i hi, hall i (hlt i hi)⟩
    rw [Nat.min_eq_right hle] at hrun htal
    rw [hrun, run_of_total_le (c := ⟨total, _, total⟩) (Nat.le_refl total)]
    exact .through hle hlt hall htal
  · have hlt : ∀ i < k, b₀.staging.capacity * i < total := fun i hi =>
      Nat.lt_of_le_of_lt (Nat.mul_le_mul_left _ (Nat.le_of_lt hi)) hin
    obtain ⟨b, hrun, htal⟩ := Tallied.run hd hc fun i hi => ⟨hlt i hi, hclears i hi⟩
    rw [Nat.min_eq_left (Nat.le_of_lt hin)] at hrun htal
    -- The window at which it stops, by the step that fails.
    let w := Window.nth total b₀.staging.capacity k
    have hdiv : w.start / b₀.staging.capacity = k := Nat.mul_div_cancel_left k hc
    have hlen : w.len ≤ b₀.staging.capacity := Nat.min_le_right _ _
    rw [hrun, run_nth hin hc]
    cases hr : b₀.buffer.readFault? w with
    | some err =>
      obtain ⟨n, reason, rfl⟩ := OpsBuffer.transferFault_of_accessFault? hr
      rw [Covered.unreadable (w := w) htal.toCovered hr]
      exact .faulted htal.counted
    | none =>
      by_cases hx : Executes j b₀ w
      · cases hw : b₀.buffer.writeFault? w with
        | some err =>
          obtain ⟨n, reason, rfl⟩ := OpsBuffer.transferFault_of_accessFault? hw
          obtain ⟨b', hwin, hcount⟩ := Tallied.unwritable (w := w) htal hdiv hlen hd hr hx hw
          rw [hwin]
          exact .faulted hcount
        | none => exact absurd ⟨hr, hx, hw⟩ hstop
      · obtain ⟨reason, calls, b', hwin, hleft, hcount, hone⟩ :=
          Tallied.refused (w := w) htal hdiv hlen hd hr hx
        rw [hwin]
        exact .refused hleft hcount hone

end

end Batch

namespace Engine

variable {e : Engine} {h : Handle} {s : Session} {count capacity : Nat}

/-- **How an attempt ends that is let through:** as its windows do, with one more batch counted. -/
theorem execute_ended (hs : e.sessions.find? h = some s) (hg : e.checkExec s count = .ok ())
    (hp : e.power.busy.1 = .ok ()) (hz : s.staging.Sized capacity) (hc : 0 < capacity)
    (buffer : OpsBuffer) (mode : ExecMode) :
    ∃ result b, Batch.Ends (e.job s mode) (e.batch s buffer mode) count result b ∧
      (e.execute h buffer count mode).1
        = ⟨result.map fun () => b.report, b.buffer, b.submitted.reverse⟩ ∧
      (e.execute h buffer count mode).2.device = b.executor.device ∧
      (e.execute h buffer count mode).2.metrics
        = { b.metrics with batchesTimed := b.metrics.batchesTimed + 1 } := by
  obtain ⟨rfl, hd⟩ := hz
  change (e.batch s buffer mode).staging.device.length = _ at hd
  refine ⟨_, _, Batch.run_ends hd hc (e.job s mode) count, ?_⟩
  rcases e.execute_cases h buffer count mode with
    ⟨err, hn, -⟩ | ⟨r, hr, -, ⟨err, hb, -⟩ | ⟨-, hx⟩⟩
  · exact absurd hg (hn s hs)
  · rw [hp] at hb
    cases hb
  · obtain rfl : s = r := Option.some.inj (hs.symm.trans hr)
    rw [hx]
    exact ⟨rfl, rfl, rfl⟩

end Engine

end Perfmon
