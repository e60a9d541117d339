import Mathlib.Data.Nat.Find
import Perfmon.Proofs.AllOrNone
/-!
# Faults of the transfer

A batch ends with a transfer fault exactly if its first window that it does not get through is one
that cannot be read (`StopsReading`), or one that was carried out and cannot be written back
(`StopsWriting`). Whatever the kind of memory and whatever the fault, the caller's operations from
that window on are as they were, and no window behind it is handed over; the two differ in whether
the device has seen the window.
-/

namespace Perfmon

namespace Batch

variable {j : BatchJob} {b : Batch} {total k : Nat} {err : Error}

/-- The first window that a batch does not get through cannot be read. -/
structure StopsReading (j : BatchJob) (b : Batch) (total k : Nat) (err : Error) : Prop where
  inside : b.staging.capacity * k < total
  clears : ∀ i < k, Clears j b (.nth total b.staging.capacity i)
  fault : b.buffer.readFault? (.nth total b.staging.capacity k) = some err

/-- The first window that a batch does not get through is carried out, but cannot be written back.
-/
structure StopsWriting (j : BatchJob) (b : Batch) (total k : Nat) (err : Error) : Prop where
  inside : b.staging.capacity * k < total
  clears : ∀ i < k, Clears j b (.nth total b.staging.capacity i)
  readable : b.buffer.readFault? (.nth total b.staging.capacity k) = none
  executes : Executes j b (.nth total b.staging.capacity k)
  fault : b.buffer.writeFault? (.nth total b.staging.capacity k) = some err

/-- If a batch does not get through all its windows, there is a first one. -/
theorem clears_or_stops (j : BatchJob) (b : Batch) (total : Nat) :
    (∀ i, b.staging.capacity * i < total → Clears j b (.nth total b.staging.capacity i)) ∨
      ∃ k, b.staging.capacity * k < total ∧ ¬Clears j b (.nth total b.staging.capacity k) ∧
        ∀ i < k, Clears j b (.nth total b.staging.capacity i) := by
  classical
  by_cases h : ∃ k, b.staging.capacity * k < total ∧
      ¬Clears j b (.nth total b.staging.capacity k)
  · obtain ⟨hin, hstop⟩ := Nat.find_spec h
    refine Or.inr ⟨_, hin, hstop, fun i hi => ?_⟩
    -- A window in front of this one is in the batch too, so it is not the first by getting through.
    by_contra hn
    have hle := Nat.mul_le_mul_left b.staging.capacity (Nat.le_of_lt hi)
    exact Nat.find_min h hi ⟨Nat.lt_of_le_of_lt hle hin, hn⟩
  · refine Or.inl fun i hi => ?_
    by_contra hn
    exact h ⟨i, hi, hn⟩

end Batch

namespace Engine

variable {e : Engine} {h : Handle} {s : Session} {buffer : OpsBuffer} {count capacity : Nat}
  {mode : ExecMode}

section

variable (hs : e.sessions.find? h = some s) (hg : e.checkExec s count = .ok ())
  (hp : e.power.busy.1 = .ok ()) (hz : s.staging.Sized capacity) (hc : 0 < capacity)
include hs hg hp hz hc

theorem execute_stopsReading {k : Nat} {err : Error}
    (hk : Batch.StopsReading (e.job s mode) (e.batch s buffer mode) count k err) :
    (e.execute h buffer count mode).1.result = .error err ∧
      e.LeavesOff s buffer (capacity * k) (capacity * k) (capacity * k)
        (e.execute h buffer count mode) := by
  obtain rfl := hz.1
  exact execute_unreadable hs hg hp hz hc hk.inside hk.clears hk.fault

theorem execute_stopsWriting {k : Nat} {err : Error}
    (hk : Batch.StopsWriting (e.job s mode) (e.batch s buffer mode) count k err) :
    (e.execute h buffer count mode).1.result = .error err ∧
      e.LeavesOff s buffer (capacity * k) (min (capacity * (k + 1)) count)
        (min (capacity * (k + 1)) count) (e.execute h buffer count mode) := by
  obtain rfl := hz.1
  exact execute_unwritable hs hg hp hz hc hk.inside hk.clears hk.readable hk.executes hk.fault

/-- There is no other way to a transfer fault. -/
theorem stops_of_transferFault {n : Nat} {reason : String}
    (hr : (e.execute h buffer count mode).1.result = .error (.transferFault n reason)) :
    ∃ k, Batch.StopsReading (e.job s mode) (e.batch s buffer mode) count k
        (.transferFault n reason) ∨
      Batch.StopsWriting (e.job s mode) (e.batch s buffer mode) count k
        (.transferFault n reason) := by
  obtain rfl := hz.1
  rcases Batch.clears_or_stops (e.job s mode) (e.batch s buffer mode) count with
    hall | ⟨k, hin, hstop, hclears⟩
  · obtain ⟨⟨report, hok⟩, -⟩ := execute_through hs hg hp hz hc hall
    rw [hok] at hr
    cases hr
  · refine ⟨k, ?_⟩
    cases hread : buffer.readFault? (.nth count s.staging.capacity k) with
    | some err =>
      have hk : Batch.StopsReading (e.job s mode) (e.batch s buffer mode) count k err :=
        ⟨hin, hclears, hread⟩
      obtain ⟨he, -⟩ := execute_stopsReading hs hg hp hz hc hk
      rw [he] at hr
      cases hr
      exact Or.inl hk
    | none =>
      by_cases hx : Batch.Executes (e.job s mode) (e.batch s buffer mode)
        (.nth count s.staging.capacity k)
      · cases hwrite : buffer.writeFault? (.nth count s.staging.capacity k) with
        | some err =>
          have hk : Batch.StopsWriting (e.job s mode) (e.batch s buffer mode) count k err :=
            ⟨hin, hclears, hread, hx, hwrite⟩
          obtain ⟨he, -⟩ := execute_stopsWriting hs hg hp hz hc hk
          rw [he] at hr
          cases hr
          exact Or.inr hk
        | none => exact absurd ⟨hread, hx, hwrite⟩ hstop
      · obtain ⟨⟨reason', he⟩, -⟩ := execute_refused hs hg hp hz hc hin hclears hread hx
        rw [he] at hr
        cases hr

end

/-- A memory without limits that ends inside a batch stops it behind the last window that fits. -/
theorem stopsReading_of_short (hu : buffer.unreadableFrom = none)
    (hw : buffer.unwritableFrom = none) (hl : buffer.memory.size < count)
    (hq : ∀ n, (ExecutorCall.exec, n) ∉ e.executor.armed) (hz : s.staging.Sized capacity)
    (hc : 0 < capacity) :
    ∃ reason, Batch.StopsReading (e.job s .continueOnError) (e.batch s buffer .continueOnError)
      count (buffer.memory.size / capacity)
      (.transferFault (capacity * (buffer.memory.size / capacity)) reason) := by
  have hle := Nat.mul_div_le buffer.memory.size capacity
  have hlt := Nat.lt_mul_div_succ buffer.memory.size hc
  have hk := Nat.lt_of_le_of_lt hle hl
  have hout : buffer.memory.size
      < (Window.nth count capacity (buffer.memory.size / capacity)).stop := by
    rw [Window.stop_nth hk]
    exact Nat.lt_min.mpr ⟨hlt, hl⟩
  obtain rfl := hz.1
  refine ⟨_, hk, fun i hi => ?_, OpsBuffer.readFault?_of_short hu hout⟩
  have hstop := Nat.mul_le_mul_left s.staging.capacity (Nat.succ_le_of_lt hi)
  have hin : s.staging.capacity * i < count := by
    rw [Nat.mul_succ] at hstop
    exact Nat.lt_of_le_of_lt (Nat.le_trans (Nat.le_add_right _ _) hstop) hk
  have hfits : (Window.nth count s.staging.capacity i).stop ≤ buffer.memory.size := by
    rw [Window.stop_nth hin]
    exact Nat.le_trans (Nat.min_le_left _ _) (Nat.le_trans hstop hle)
  exact .of_holds (.of_unlimited hu hw hfits) ⟨hq _, nofun⟩

variable (buffer count mode) in
/-- **Transfer faults end a batch at an exact point.** A batch that is let through and powered on
ends with a transfer fault exactly if that is what stops its first window that it does not get
through. The windows in front of this one are executed and written back; this one is executed
exactly if it was the writing that failed; from it on the caller's memory is as it was, and no window
behind it is handed over.

In particular a memory without limits that is too short for the batch ends it, in continue-on-error
mode, behind the last whole window that it holds. -/
theorem transfer_fault_exact {config : Config} (he : e.ReachedFreely config)
    (hs : e.sessions.find? h = some s) (hg : e.checkExec s count = .ok ())
    (hp : e.power.busy.1 = .ok ()) :
    (∀ n reason, (e.execute h buffer count mode).1.result = .error (.transferFault n reason) ↔
      ∃ k, Batch.StopsReading (e.job s mode) (e.batch s buffer mode) count k
          (.transferFault n reason) ∨
        Batch.StopsWriting (e.job s mode) (e.batch s buffer mode) count k
          (.transferFault n reason)) ∧
    (∀ k err, Batch.StopsReading (e.job s mode) (e.batch s buffer mode) count k err →
      (∃ n reason, err = .transferFault n reason) ∧
      e.LeavesOff s buffer (config.windowCapacity * k) (config.windowCapacity * k)
        (config.windowCapacity * k) (e.execute h buffer count mode)) ∧
    (∀ k err, Batch.StopsWriting (e.job s mode) (e.batch s buffer mode) count k err →
      (∃ n reason, err = .transferFault n reason) ∧
      e.LeavesOff s buffer (config.windowCapacity * k)
        (min (config.windowCapacity * (k + 1)) count)
        (min (config.windowCapacity * (k + 1)) count) (e.execute h buffer count mode)) ∧
    (mode = .continueOnError → (∀ n, (ExecutorCall.exec, n) ∉ e.executor.armed) →
      buffer.unreadableFrom = none → buffer.unwritableFrom = none → buffer.memory.size < count →
      (∃ reason, (e.execute h buffer count mode).1.result = .error (.transferFault
        (config.windowCapacity * (buffer.memory.size / config.windowCapacity)) reason)) ∧
      e.LeavesOff s buffer
        (config.windowCapacity * (buffer.memory.size / config.windowCapacity))
        (config.windowCapacity * (buffer.memory.size / config.windowCapacity))
        (config.windowCapacity * (buffer.memory.size / config.windowCapacity))
        (e.execute h buffer count mode)) := by
  obtain ⟨hc, hready⟩ := he.ready
  have hz := hready h s hs
  refine ⟨fun n reason => ⟨stops_of_transferFault hs hg hp hz hc, ?_⟩, fun k err hk => ?_,
    fun k err hk => ?_, ?_⟩
  · rintro ⟨k, hk | hk⟩
    · exact (execute_stopsReading hs hg hp hz hc hk).1
    · exact (execute_stopsWriting hs hg hp hz hc hk).1
  · exact ⟨OpsBuffer.transferFault_of_accessFault? hk.fault,
      (execute_stopsReading hs hg hp hz hc hk).2⟩
  · exact ⟨OpsBuffer.transferFault_of_accessFault? hk.fault,
      (execute_stopsWriting hs hg hp hz hc hk).2⟩
  · rintro rfl hq hu hw hl
    obtain ⟨reason, hk⟩ := stopsReading_of_short hu hw hl hq hz hc
    obtain ⟨hres, hoff⟩ := execute_stopsReading hs hg hp hz hc hk
    exact ⟨⟨reason, hres⟩, hoff⟩

/-- Five operations, the last of which cannot be written. -/
def lastReadOnly : OpsBuffer :=
  { fourthFaults with unwritableFrom := some 4 }

/-- Bytes that hold four operations and the beginning of a fifth one. -/
def fourAndABit : OpsBuffer :=
  ⟨.records (RegOp.toRecords (fourthFaults.memory.toList.take 4) ++ [0, 0, 0]), none, none⟩

theorem transfer_fault_exact_in_the_last_window :
    (small readyRun).ReachedFreely .small ∧ ∃ s, (small readyRun).sessions.find? ⟨1⟩ = some s ∧
      (((small readyRun).execute ⟨1⟩ lastReadOnly 5 .allOrNone).1.result
          = .error (.transferFault 4 "injected") ∧
        (small readyRun).LeavesOff s lastReadOnly 4 5 5
          ((small readyRun).execute ⟨1⟩ lastReadOnly 5 .allOrNone)) ∧
      (∃ reason, ((small readyRun).execute ⟨1⟩ fourAndABit 5 .continueOnError).1.result
          = .error (.transferFault 4 reason)) ∧
        (small readyRun).LeavesOff s fourAndABit 4 4 4
          ((small readyRun).execute ⟨1⟩ fourAndABit 5 .continueOnError) := by
  have he : (small readyRun).ReachedFreely .small := reachedFreely_small readyRun
  obtain ⟨hres, -, hwrite, -⟩ :=
    transfer_fault_exact (h := ⟨1⟩) lastReadOnly 5 .allOrNone he rfl rfl rfl
  obtain ⟨-, -, -, hshort⟩ :=
    transfer_fault_exact (h := ⟨1⟩) fourAndABit 5 .continueOnError he rfl rfl rfl
  refine ⟨he, _, rfl, ⟨(hres 4 "injected").mpr ⟨2, Or.inr ?stop⟩, (hwrite 2 _ ?stop).2⟩,
    hshort rfl (fun _ => List.not_mem_nil) rfl rfl (by decide)⟩
  refine ⟨by decide, fun i hi => ?_, by decide, ⟨by decide, fun _ => by decide⟩, by decide⟩
  match i, hi with
  | 0, _ => exact ⟨by decide, ⟨by decide, fun _ => by decide⟩, by decide⟩
  | 1, _ => exact ⟨by decide, ⟨by decide, fun _ => by decide⟩, by decide⟩

end Engine

end Perfmon
