import Perfmon.Proofs.Reports
import Perfmon.Proofs.ShareOut
/-!
# Accounts

What an attempt adds to the counts of the device and of the metrics is told by how it ends
(`accounts_exact`). A batch that succeeds is as many windows as its operations fill, none of them
passed over; one that the device refuses at a window has counted the windows in front of it, and the
refused call on the device only; and any other failure has counted a call for every window that it
has counted.

All this rests on the staging memory: with no room for a single operation a batch would come to its
end at once.
-/

namespace Perfmon

/-- The number of windows that is enough for a batch, when one less is not. -/
theorem Window.eq_ceilDiv {total capacity k : Nat} (hc : 0 < capacity)
    (hle : total ≤ capacity * k) (hlt : ∀ i < k, capacity * i < total) :
    k = total ⌈/⌉ capacity := by
  refine Nat.le_antisymm ?_ ((ceilDiv_le_iff_le_mul hc).mpr hle)
  by_contra hn
  have hin := hlt _ (Nat.lt_of_not_le hn)
  have hcover : total ≤ capacity * (total ⌈/⌉ capacity) := le_smul_ceilDiv hc
  omega

/-- How many of the first `n` operations of a memory do not say success. -/
def OpsMemory.failures (m : OpsMemory) (n : Nat) : Nat :=
  (m.toList.take n).countP (!·.succeeded)

theorem OpsMemory.failures_splice {m : OpsMemory} {done : List RegOp} (h : done.length ≤ m.size) :
    (m.splice 0 done).failures done.length = done.countP (!·.succeeded) := by
  unfold failures
  rw [take_splice_zero h]

namespace Engine

variable {config : Config} {e e' : Engine} {h : Handle} {s : Session} {buffer : OpsBuffer}
  {count : Nat} {mode : ExecMode}

/-- What an attempt has added to the counts: calls that the device has been reached by, windows that
it has carried out, the operations in them, and those among them that came back with another status
than success. -/
structure Adds (e e' : Engine) (calls windows executed failed : Nat) : Prop where
  calls : e'.device.execCalls = e.device.execCalls + calls
  windows : e'.metrics.windows = e.metrics.windows + windows
  executed : e'.metrics.opsExecuted = e.metrics.opsExecuted + executed
  failed : e'.metrics.opsFailed = e.metrics.opsFailed + failed

theorem Adds.none (hd : e'.device = e.device) (hm : e'.metrics = e.metrics) : e.Adds e' 0 0 0 0 where
  calls := by rw [hd, Nat.add_zero]
  windows := by rw [hm, Nat.add_zero]
  executed := by rw [hm, Nat.add_zero]
  failed := by rw [hm, Nat.add_zero]

/-- What has been counted of a batch is what its attempt adds. -/
theorem adds_of_counted {b : Batch} {calls windows done : Nat}
    (hd : e'.device = b.executor.device)
    (hm : e'.metrics = { b.metrics with batchesTimed := b.metrics.batchesTimed + 1 })
    (hc : Batch.Counted (e.job s mode) (e.batch s buffer mode) calls windows done b) :
    e.Adds e' calls windows
      (Batch.interpreted (e.job s mode) (e.batch s buffer mode) done).1.length
      ((Batch.interpreted (e.job s mode) (e.batch s buffer mode) done).1.countP (!·.succeeded)) where
  calls := by
    rw [hd, hc.execCalls]
    rfl
  windows := by
    rw [hm]
    exact congrArg Metrics.windows hc.metrics
  executed := by
    rw [hm]
    exact congrArg Metrics.opsExecuted hc.metrics
  failed := by
    rw [hm]
    exact congrArg Metrics.opsFailed hc.metrics

/-- What has been counted of a batch whose first `done` operations have been written back. -/
theorem adds_of_written {b : Batch} {calls windows done : Nat}
    (hd : e'.device = b.executor.device)
    (hm : e'.metrics = { b.metrics with batchesTimed := b.metrics.batchesTimed + 1 })
    (hc : Batch.Counted (e.job s mode) (e.batch s buffer mode) calls windows done b)
    (hin : done ≤ buffer.memory.size)
    (hb : b.buffer = { buffer with
      memory := buffer.memory.splice 0
        (Batch.interpreted (e.job s mode) (e.batch s buffer mode) done).1 }) :
    e.Adds e' calls windows done (b.buffer.memory.failures done) := by
  have hadds := adds_of_counted hd hm hc
  have hlen : (Batch.interpreted (e.job s mode) (e.batch s buffer mode) done).1.length = done :=
    Batch.length_interpreted hin
  have hfailed := OpsMemory.failures_splice (Nat.le_trans (Nat.le_of_eq hlen) hin)
  rw [← hfailed, hlen] at hadds
  rw [hb]
  exact hadds

/-! ## Errors in front of the first window -/

theorem checkExec_ne_hardwareExecution (e : Engine) (s : Session) (count n : Nat)
    (reason : String) : e.checkExec s count ≠ .error (.hardwareExecution n reason) := by
  unfold checkExec
  split
  · nofun
  · split
    · nofun
    · split
      · nofun
      · unfold Session.checkContext
        split
        · split <;> nofun
        · split
          · nofun
          · split <;> nofun

/-- An attempt that the device refuses has been let through. -/
theorem letThrough_of_hardwareExecution {n : Nat} {reason : String}
    (hr : (e.execute h buffer count mode).1.result = .error (.hardwareExecution n reason)) :
    ∃ s, e.sessions.find? h = some s ∧ e.checkExec s count = .ok () ∧ e.power.busy.1 = .ok () := by
  cases hs : e.sessions.find? h with
  | none =>
    unfold execute at hr
    rw [hs] at hr
    cases hr
  | some s =>
    cases hg : e.checkExec s count with
    | error err =>
      unfold execute at hr
      simp only [hs, hg] at hr
      cases hr
      exact absurd hg (e.checkExec_ne_hardwareExecution s count n reason)
    | ok u =>
      cases hf : e.power.failNext with
      | false => exact ⟨s, rfl, hg, Power.busy_of_not_failNext hf⟩
      | true =>
        unfold execute at hr
        simp only [hs, hg, Power.busy_of_failNext hf] at hr
        cases hr

/-! ## The accounts of an attempt -/

/-- What is counted of an attempt that succeeds. -/
theorem ReachedFreely.counted_of_ok (he : e.ReachedFreely config) {report : ExecReport}
    (hr : (e.execute h buffer count mode).1.result = .ok report) :
    report.ops = count ∧ report.windows = count ⌈/⌉ config.windowCapacity ∧
      1 ≤ report.windows ∧ count ≤ buffer.memory.size ∧
      (∃ s, e.sessions.find? h = some s ∧
        (e.execute h buffer count mode).1.submitted.flatMap (·.ops)
          = (buffer.memory.toList.take count).map (.ofRegOp s.accessClass)) ∧
      e.Adds (e.execute h buffer count mode).2 report.windows report.windows count
        ((e.execute h buffer count mode).1.buffer.memory.failures count) := by
  obtain ⟨hc, hready⟩ := he.ready
  obtain ⟨s, hs, hg, hp⟩ := letThrough_of_ok hr
  obtain ⟨result, b, hends, hx, hdev, hmet⟩ :=
    execute_ended hs hg hp (hready h s hs) hc buffer mode
  rw [hx] at hr ⊢
  cases hends with
  | faulted counted => cases hr
  | refused left counted one => cases hr
  | @through k _ covers inside clears tallied =>
    obtain rfl : b.report = report := Except.ok.inj hr
    have hcount : 0 < count := (checkExec_eq_ok_iff.mp hg).1
    have hwindows : b.report.windows = k := by
      rw [tallied.windows]
      exact Nat.zero_add k
    have hceil : k = count ⌈/⌉ config.windowCapacity := by
      rw [← (hready h s hs).1]
      exact Window.eq_ceilDiv (Nat.lt_of_lt_of_eq hc (hready h s hs).1.symm) covers inside
    have hpos : 1 ≤ k := by
      by_contra hn
      obtain rfl : k = 0 := by omega
      rw [Nat.mul_zero] at covers
      omega
    rw [hwindows]
    exact ⟨tallied.ops hcount, hceil, hpos, tallied.inside, ⟨s, hs, tallied.handed⟩,
      adds_of_written hdev hmet tallied.counted tallied.inside tallied.buffer⟩

/-- What is counted of an attempt that the device refuses at a window. -/
theorem ReachedFreely.counted_of_refused (he : e.ReachedFreely config) {n : Nat} {reason : String}
    (hr : (e.execute h buffer count mode).1.result = .error (.hardwareExecution n reason)) :
    ∃ calls, e.Adds (e.execute h buffer count mode).2 calls (n / config.windowCapacity) n
        ((e.execute h buffer count mode).1.buffer.memory.failures n) ∧
      ((∀ m, (ExecutorCall.exec, m) ∉ e.executor.armed) →
        calls = n / config.windowCapacity + 1) := by
  obtain ⟨hc, hready⟩ := he.ready
  obtain ⟨s, hs, hg, hp⟩ := letThrough_of_hardwareExecution hr
  obtain ⟨result, b, hends, hx, hdev, hmet⟩ :=
    execute_ended hs hg hp (hready h s hs) hc buffer mode
  rw [hx] at hr ⊢
  cases hends with
  | through covers inside clears tallied => cases hr
  | faulted counted => cases hr
  | @refused k calls shown text _ left counted one =>
    have hsize : s.staging.capacity = config.windowCapacity := (hready h s hs).1
    obtain ⟨rfl, rfl⟩ := Error.hardwareExecution.inj (Except.error.inj hr)
    have hdiv : s.staging.capacity * k / config.windowCapacity = k := by
      rw [hsize, Nat.mul_div_cancel_left k hc]
    refine ⟨calls, ?_, fun hq => ?_⟩
    · show e.Adds _ calls (s.staging.capacity * k / config.windowCapacity)
        (s.staging.capacity * k) _
      rw [hdiv]
      exact adds_of_written hdev hmet counted left.inside left.buffer
    · show calls = s.staging.capacity * k / config.windowCapacity + 1
      rw [hdiv]
      exact one hq

/-- What is counted of an attempt that fails for another reason. -/
theorem ReachedFreely.counted_of_error (he : e.ReachedFreely config) {err : Error}
    (hr : (e.execute h buffer count mode).1.result = .error err)
    (hne : ∀ n reason, err ≠ .hardwareExecution n reason) :
    ∃ windows executed failed,
      e.Adds (e.execute h buffer count mode).2 windows windows executed failed := by
  obtain ⟨hc, hready⟩ := he.ready
  rcases e.execute_cases h buffer count mode with
    ⟨err', -, hx⟩ | ⟨s, hs, hg, ⟨err', hp, hx⟩ | ⟨hp, -⟩⟩
  · rw [hx]
    exact ⟨0, 0, 0, .none rfl rfl⟩
  · rw [hx]
    exact ⟨0, 0, 0, .none rfl rfl⟩
  · obtain ⟨result, b, hends, hx, hdev, hmet⟩ :=
      execute_ended hs hg hp (hready h s hs) hc buffer mode
    rw [hx] at hr
    cases hends with
    | through covers inside clears tallied => cases hr
    | faulted counted => exact ⟨_, _, _, adds_of_counted hdev hmet counted⟩
    | refused left counted one =>
      obtain rfl := Except.error.inj hr
      exact absurd rfl (hne _ _)

variable (h buffer count mode) in
/-- **The accounts are exact.** Every session has room for a window in both halves of its staging
memory. An attempt that succeeds has handed over its whole batch, in as many windows as that fills,
and a call, a window and the operations are counted for each of them, with those that did not come
back with success. An attempt that the device refuses at an operation has counted the windows in
front of it with all their operations, and one call more, unless that was made to fail before it
reached the device. Any other attempt that fails has counted as many calls as windows. -/
theorem accounts_exact (he : e.ReachedFreely config) :
    (∀ k s, e.sessions.find? k = some s → s.staging.Sized config.windowCapacity ∧
      ∀ w ∈ (Windows.ofBatch count s.staging.capacity).toList,
        w.len ≤ s.staging.user.length ∧ w.len ≤ s.staging.device.length) ∧
    (∀ report, (e.execute h buffer count mode).1.result = .ok report →
      report.ops = count ∧ report.windows = count ⌈/⌉ config.windowCapacity ∧
      1 ≤ report.windows ∧ count ≤ buffer.memory.size ∧
      (∃ s, e.sessions.find? h = some s ∧
        (e.execute h buffer count mode).1.submitted.flatMap (·.ops)
          = (buffer.memory.toList.take count).map (.ofRegOp s.accessClass)) ∧
      e.Adds (e.execute h buffer count mode).2 report.windows report.windows count
        ((e.execute h buffer count mode).1.buffer.memory.failures count)) ∧
    (∀ n reason, (e.execute h buffer count mode).1.result = .error (.hardwareExecution n reason) →
      ∃ calls, e.Adds (e.execute h buffer count mode).2 calls (n / config.windowCapacity) n
          ((e.execute h buffer count mode).1.buffer.memory.failures n) ∧
        ((∀ m, (ExecutorCall.exec, m) ∉ e.executor.armed) →
          calls = n / config.windowCapacity + 1)) ∧
    ∀ err, (e.execute h buffer count mode).1.result = .error err →
      (∀ n reason, err ≠ .hardwareExecution n reason) →
      ∃ windows executed failed,
        e.Adds (e.execute h buffer count mode).2 windows windows executed failed := by
  refine ⟨fun k s hs => ?_, fun report hr => he.counted_of_ok hr,
    fun n reason hr => he.counted_of_refused hr, fun err hr hne => he.counted_of_error hr hne⟩
  obtain ⟨-, hready⟩ := he.ready
  obtain ⟨hu, hd⟩ := hready k s hs
  refine ⟨⟨hu, hd⟩, fun w hw => ?_⟩
  have hlen : w.len ≤ s.staging.capacity := (Windows.len_of_mem_toList hw).2
  exact ⟨hlen, by rw [hd, ← hu]; exact hlen⟩

/-- Five operations in three windows: all of them are counted, and when the device refuses the second
window, the first one is, and two calls. -/
theorem accounts_exact_of_five_operations :
    (small readyRun).Adds ((small readyRun).execute ⟨1⟩ fourthFaults 5 .continueOnError).2 3 3 5 0 ∧
      ∃ e reason, e = small (readyRun ++ [.injectFault 0x240008]) ∧
        (e.execute ⟨1⟩ fourthFaults 5 .allOrNone).1.result
          = .error (.hardwareExecution 2 reason) ∧
        e.Adds (e.execute ⟨1⟩ fourthFaults 5 .allOrNone).2 2 1 2 0 := by
  constructor
  · have he : (small readyRun).ReachedFreely .small := reachedFreely_small readyRun
    obtain ⟨-, hok, -⟩ := accounts_exact ⟨1⟩ fourthFaults 5 .continueOnError he
    have hr : ((small readyRun).execute ⟨1⟩ fourthFaults 5 .continueOnError).1.result
        = .ok ⟨true, true, 3, 5⟩ := by decide +kernel
    have hfailed : ((small readyRun).execute ⟨1⟩ fourthFaults 5
        .continueOnError).1.buffer.memory.failures 5 = 0 := by decide +kernel
    obtain ⟨-, -, -, -, -, hadds⟩ := hok _ hr
    rw [hfailed] at hadds
    exact hadds
  · have he : (small (readyRun ++ [.injectFault 0x240008])).ReachedFreely .small :=
      reachedFreely_small _
    obtain ⟨-, -, hbad, -⟩ := accounts_exact ⟨1⟩ fourthFaults 5 .allOrNone he
    have hr : ((small (readyRun ++ [.injectFault 0x240008])).execute ⟨1⟩ fourthFaults 5
        .allOrNone).1.result = .error (.hardwareExecution 2
          "hardware fault accessing offset 0x00240008") := by decide +kernel
    have hfailed : ((small (readyRun ++ [.injectFault 0x240008])).execute ⟨1⟩ fourthFaults 5
        .allOrNone).1.buffer.memory.failures 2 = 0 := by decide +kernel
    obtain ⟨calls, hadds, hone⟩ := hbad 2 _ hr
    obtain rfl : calls = 2 := hone fun _ => List.not_mem_nil
    rw [hfailed] at hadds
    exact ⟨_, _, rfl, hr, hadds⟩

end Engine

end Perfmon
