import Perfmon.Proofs.Endings
/-!
# All-or-none batches

An all-or-none batch succeeds exactly if every operation of it can be carried out, and then it comes
to what it comes to in continue-on-error mode. Otherwise it ends at the window that holds the first
operation which cannot (`firstBad?`): what the windows in front of this one did stays, this one does
nothing, and the ones behind it are not looked at.
-/

namespace Perfmon

/-- A batch gets through a window that can be accessed and is carried out. -/
theorem Batch.Clears.of_holds {j : BatchJob} {b : Batch} {w : Window}
    (hb : b.buffer.Holds w.stop) (hx : Executes j b w) : Clears j b w :=
  ⟨OpsBuffer.accessFault?_eq_none hb.size hb.readable, hx,
    OpsBuffer.accessFault?_eq_none hb.size hb.writable⟩

namespace Engine

variable {e : Engine} {h : Handle} {s : Session} {buffer : OpsBuffer} {count capacity : Nat}
  {mode : ExecMode}

/-- The index of the first operation of a batch that cannot be carried out. -/
def firstBad? (e : Engine) (s : Session) (buffer : OpsBuffer) (count : Nat) : Option Nat :=
  (buffer.memory.toList.take count).findIdx? fun op =>
    !decide (e.device.Admits s.accessClass s.binding.context? op)

theorem firstBad?_eq_none_iff :
    e.firstBad? s buffer count = none ↔ ∀ op ∈ buffer.memory.toList.take count,
      e.device.Admits s.accessClass s.binding.context? op := by
  simp only [firstBad?, List.findIdx?_eq_none_iff, Bool.not_eq_false', decide_eq_true_eq]

/-- The first bad operation is in the batch, it is bad, and those in front of it are not. -/
theorem firstBad?_eq_some {i : Nat} (hi : e.firstBad? s buffer count = some i) :
    i < count ∧
      (∃ op, buffer.memory.toList[i]? = some op ∧
        ¬e.device.Admits s.accessClass s.binding.context? op) ∧
      ∀ n < i, ∀ op, buffer.memory.toList[n]? = some op →
        e.device.Admits s.accessClass s.binding.context? op := by
  obtain ⟨hlt, hbad, hgood⟩ := List.findIdx?_eq_some_iff_getElem.mp hi
  have hcount : i < count ∧ i < buffer.memory.toList.length := by
    rw [List.length_take] at hlt
    omega
  refine ⟨hcount.1, ⟨_, List.getElem?_eq_getElem hcount.2, ?_⟩, fun n hn op hop => ?_⟩
  · rw [List.getElem_take] at hbad
    simpa using hbad
  · have hn' := hgood n hn
    rw [List.getElem_take] at hn'
    obtain ⟨hnl, rfl⟩ := List.getElem?_eq_some_iff.mp hop
    simpa using hn'

/-- The executor carries out the windows without a bad operation. -/
theorem executes_nth_iff {k : Nat} (hq : e.executor.armed = []) (hb : buffer.Holds count)
    (hk : capacity * k < count) :
    Batch.Executes (e.job s .allOrNone) (e.batch s buffer .allOrNone) (.nth count capacity k) ↔
      ∀ n, capacity * k ≤ n → n < min (capacity * (k + 1)) count →
        ∀ op, buffer.memory.toList[n]? = some op →
          e.device.Admits s.accessClass s.binding.context? op := by
  have hstop := Window.stop_nth hk
  have hsize : (Window.nth count capacity k).stop ≤ buffer.memory.size := by
    rw [hstop]
    exact Nat.le_trans (Nat.min_le_right _ _) hb.size
  have hmem : ∀ op, op ∈ buffer.memory.slice (capacity * k) (min (count - capacity * k) capacity) ↔
      ∃ n, capacity * k ≤ n ∧ n < min (capacity * (k + 1)) count ∧
        buffer.memory.toList[n]? = some op := by
    intro op
    rw [← hstop]
    exact OpsMemory.mem_slice hsize
  constructor
  · intro hx n hle hlt op hop
    exact hx.2 rfl op ((hmem op).mpr ⟨n, hle, hlt, hop⟩)
  · intro hall
    refine ⟨?_, fun _ op hop => ?_⟩
    · show (ExecutorCall.exec, _) ∉ e.executor.armed
      rw [hq]
      exact List.not_mem_nil
    · obtain ⟨n, hle, hlt, hn⟩ := (hmem op).mp hop
      exact hall n hle hlt op hn

/-- In continue-on-error mode the executor carries out every window. -/
theorem executes_of_continue {w : Window} (hq : e.executor.armed = []) :
    Batch.Executes (e.job s .continueOnError) (e.batch s buffer .continueOnError) w := by
  refine ⟨?_, nofun⟩
  show (ExecutorCall.exec, _) ∉ e.executor.armed
  rw [hq]
  exact List.not_mem_nil

theorem holds_nth {k : Nat} (hb : buffer.Holds count) (hk : capacity * k < count) :
    buffer.Holds (Window.nth count capacity k).stop := by
  rw [Window.stop_nth hk]
  exact hb.mono (Nat.min_le_right _ _)

section

variable (hs : e.sessions.find? h = some s) (hg : e.checkExec s count = .ok ())
  (hp : e.power.busy.1 = .ok ()) (hz : s.staging.Sized capacity) (hc : 0 < capacity)
  (hq : e.executor.armed = []) (hb : buffer.Holds count)
include hs hg hp hz hc hq hb

/-- A batch without a bad operation is executed to its end, in either mode. -/
theorem execute_of_no_bad (hn : e.firstBad? s buffer count = none) :
    (∃ report, (e.execute h buffer count .allOrNone).1.result = .ok report) ∧
      e.LeavesOff s buffer count count count (e.execute h buffer count .allOrNone) := by
  rw [firstBad?_eq_none_iff] at hn
  refine execute_through hs hg hp hz hc fun i hi => .of_holds (holds_nth hb hi) ?_
  rw [executes_nth_iff hq hb hi]
  intro n _ hlt op hop
  refine hn op (List.mem_iff_getElem?.mpr ⟨n, ?_⟩)
  rw [List.getElem?_take, if_pos (Nat.lt_of_lt_of_le hlt (Nat.min_le_right _ _))]
  exact hop

/-- A bad operation ends the batch at its window. -/
theorem execute_of_bad {i : Nat} (hi : e.firstBad? s buffer count = some i) :
    (∃ reason, (e.execute h buffer count .allOrNone).1.result
        = .error (.hardwareExecution (capacity * (i / capacity)) reason)) ∧
      e.LeavesOff s buffer (capacity * (i / capacity)) (capacity * (i / capacity))
        (min (capacity * (i / capacity + 1)) count) (e.execute h buffer count .allOrNone) := by
  obtain ⟨hcount, ⟨op, hop, hbad⟩, hgood⟩ := firstBad?_eq_some hi
  have hle : capacity * (i / capacity) ≤ i := Nat.mul_div_le i capacity
  have hlt : i < capacity * (i / capacity + 1) := Nat.lt_mul_div_succ i hc
  have hk : capacity * (i / capacity) < count := Nat.lt_of_le_of_lt hle hcount
  refine execute_refused hs hg hp hz hc hk (fun m hm => ?_) ?_ ?_
  · -- A window in front of this one ends where this one starts, or before.
    have hstop : capacity * (m + 1) ≤ capacity * (i / capacity) := Nat.mul_le_mul_left _ hm
    have hm : capacity * m < count := by
      rw [Nat.mul_succ] at hstop
      omega
    refine .of_holds (holds_nth hb hm) ?_
    rw [executes_nth_iff hq hb hm]
    exact fun n _ hn => hgood n (by omega)
  · exact OpsBuffer.accessFault?_eq_none (holds_nth hb hk).size (holds_nth hb hk).readable
  · rw [executes_nth_iff hq hb hk]
    exact fun hall => hbad (hall i hle (Nat.lt_min.mpr ⟨hlt, hcount⟩) op hop)

end

/-- **All-or-none batches.** A batch that is let through succeeds in all-or-none mode exactly if each
of its operations can be carried out, and then it comes to what it comes to in continue-on-error
mode. Otherwise the executor refuses the window of the first bad operation: what is executed and
written back are the operations in front of that window, and the ones behind it are not handed over.
-/
theorem all_or_none_exact {config : Config} (he : e.ReachedQuietly config)
    (hs : e.sessions.find? h = some s) (hg : e.checkExec s count = .ok ())
    (hp : e.power.failNext = false) (hb : buffer.Holds count) :
    ((∃ report, (e.execute h buffer count .allOrNone).1.result = .ok report) ↔
      ∀ op ∈ buffer.memory.toList.take count,
        e.device.Admits s.accessClass s.binding.context? op) ∧
    ((∃ report, (e.execute h buffer count .allOrNone).1.result = .ok report) →
      (e.execute h buffer count .allOrNone).1.buffer
          = (e.execute h buffer count .continueOnError).1.buffer ∧
        (e.execute h buffer count .allOrNone).2.device.registers
          = (e.execute h buffer count .continueOnError).2.device.registers) ∧
    ∀ i, e.firstBad? s buffer count = some i →
      (∃ reason, (e.execute h buffer count .allOrNone).1.result
        = .error (.hardwareExecution (config.windowCapacity * (i / config.windowCapacity)) reason)) ∧
      e.LeavesOff s buffer (config.windowCapacity * (i / config.windowCapacity))
        (config.windowCapacity * (i / config.windowCapacity))
        (min (config.windowCapacity * (i / config.windowCapacity + 1)) count)
        (e.execute h buffer count .allOrNone) := by
  have hq := he.quiet
  obtain ⟨hc, hready⟩ := he.freely.ready
  have hz := hready h s hs
  have hbusy := Power.busy_of_not_failNext hp
  have hbad := fun i => execute_of_bad (i := i) hs hg hbusy hz hc hq hb
  have hsuccess : (∃ report, (e.execute h buffer count .allOrNone).1.result = .ok report) →
      e.firstBad? s buffer count = none := by
    rintro ⟨report, hr⟩
    cases hf : e.firstBad? s buffer count with
    | none => rfl
    | some i =>
      obtain ⟨⟨reason, he⟩, -⟩ := hbad i hf
      rw [hr] at he
      cases he
  refine ⟨⟨fun hr => firstBad?_eq_none_iff.mp (hsuccess hr), fun hall => ?_⟩, fun hr => ?_, hbad⟩
  · exact (execute_of_no_bad hs hg hbusy hz hc hq hb (firstBad?_eq_none_iff.mpr hall)).1
  · obtain ⟨-, hall⟩ := execute_of_no_bad hs hg hbusy hz hc hq hb (hsuccess hr)
    obtain ⟨-, hany⟩ := execute_through hs hg hbusy hz hc
      fun i hi => .of_holds (holds_nth hb hi) (executes_of_continue hq)
    exact ⟨hall.buffer.trans hany.buffer.symm, hall.registers.trans hany.registers.symm⟩

/-- Five operations: the third one writes, the fourth one reads what can be made to fault. -/
def fourthFaults : OpsBuffer :=
  ⟨.list [.write64 0x240000 0x100000007, .read64 0x240000, .write32 0x240004 3,
    .read64 0x240008, .read64 0x240000], none, none⟩

theorem all_or_none_exact_at_a_fault :
    (∃ s, (small readyRun).sessions.find? ⟨1⟩ = some s ∧
      (∃ report, ((small readyRun).execute ⟨1⟩ fourthFaults 5 .allOrNone).1.result = .ok report) ∧
      ((small readyRun).execute ⟨1⟩ fourthFaults 5 .allOrNone).1.buffer
        = ((small readyRun).execute ⟨1⟩ fourthFaults 5 .continueOnError).1.buffer) ∧
    ∃ e s, e = small (readyRun ++ [.injectFault 0x240008]) ∧
      e.sessions.find? ⟨1⟩ = some s ∧ e.firstBad? s fourthFaults 5 = some 3 ∧
      (∃ reason, (e.execute ⟨1⟩ fourthFaults 5 .allOrNone).1.result
        = .error (.hardwareExecution 2 reason)) ∧
      e.LeavesOff s fourthFaults 2 2 4 (e.execute ⟨1⟩ fourthFaults 5 .allOrNone) := by
  have hb : fourthFaults.Holds 5 := ⟨by decide, nofun, nofun⟩
  constructor
  · have he : (small readyRun).ReachedQuietly .small := ⟨reachedFreely_small _, rfl⟩
    obtain ⟨hiff, hsame, -⟩ := all_or_none_exact (h := ⟨1⟩) he rfl rfl rfl hb
    have hok := hiff.mpr (by decide)
    exact ⟨_, rfl, hok, (hsame hok).1⟩
  · have he : (small (readyRun ++ [.injectFault 0x240008])).ReachedQuietly .small :=
      ⟨reachedFreely_small _, rfl⟩
    obtain ⟨-, -, hbad⟩ := all_or_none_exact (h := ⟨1⟩) he rfl rfl rfl hb
    exact ⟨_, _, rfl, rfl, by decide, hbad 3 (by decide)⟩

end Engine

end Perfmon
