import Perfmon.Proofs.AccessClasses
import Perfmon.Proofs.Handles
import Perfmon.Proofs.Tallies
/-!
# The report and the caller's memory

The report of a batch is gathered window by window from what the device says of each, while the
statuses of the operations go back to the caller by way of the staging memory. The two agree
(`report_agrees`): in continue-on-error mode the report says that everything passed exactly if the
caller finds it so. In all-or-none mode it never says that, although whatever comes back from there
has passed. And it says that the batch went straight to the hardware exactly if the session had no
context, unless handles have come round (`report_of_forgotten_context`).
-/

namespace Perfmon

/-- The first `count` operations of a memory are there, and all say success. -/
def OpsMemory.Succeeded (m : OpsMemory) (count : Nat) : Prop :=
  ∀ i < count, ∃ op, m.toList[i]? = some op ∧ op.status = RegOp.success

theorem OpsMemory.succeeded_splice_iff {m : OpsMemory} {done : List RegOp}
    (h : done.length ≤ m.size) :
    (m.splice 0 done).Succeeded done.length ↔ done.all (·.succeeded) = true := by
  rw [List.all_eq_true]
  constructor
  · intro hs op hop
    obtain ⟨i, hi⟩ := List.mem_iff_getElem?.mp hop
    obtain ⟨hlt, -⟩ := List.getElem?_eq_some_iff.mp hi
    obtain ⟨x, hx, hstatus⟩ := hs i hlt
    rw [getElem?_splice_zero h hlt, hi] at hx
    obtain rfl : op = x := Option.some.inj hx
    exact beq_iff_eq.mpr hstatus
  · intro hall i hi
    refine ⟨done[i], ?_, beq_iff_eq.mp (hall _ (List.getElem_mem hi))⟩
    rw [getElem?_splice_zero h hi]
    exact List.getElem?_eq_getElem hi

/-- Operations that can be carried out come back with success. -/
theorem Device.all_succeeded_interpret {d : Device} {cls : AccessClass} {ctx : Option ContextId}
    {ops : List RegOp} (h : ∀ op ∈ ops, d.Admits cls ctx op) (ρ : Registers) :
    (d.interpret cls ctx ops ρ).1.all (·.succeeded) = true := by
  induction ops generalizing ρ with
  | nil => rfl
  | cons op ops ih =>
    have hstatus : (d.interpretOne cls ctx op ρ).1.status = RegOp.success := by
      rw [interpretOne_status, verdict_eq, (admits_iff op).mp (h op List.mem_cons_self)]
      rfl
    simp only [interpret, List.all_cons, Bool.and_eq_true]
    exact ⟨beq_iff_eq.mpr hstatus, ih (fun x hx => h x (List.mem_cons_of_mem _ hx)) _⟩

/-- What an all-or-none batch gets through has passed. -/
theorem Batch.all_succeeded_of_clears {j : BatchJob} {b : Batch} {total : Nat}
    (hm : j.mode = .allOrNone) (hc : 0 < b.staging.capacity) (hsize : total ≤ b.buffer.memory.size)
    (h : ∀ i, b.staging.capacity * i < total →
      Clears j b (.nth total b.staging.capacity i)) :
    (interpreted j b total).1.all (·.succeeded) = true := by
  refine Device.all_succeeded_interpret (fun op hop => ?_) _
  obtain ⟨n, -, hn, hop⟩ := (OpsMemory.mem_slice (by omega)).mp hop
  rw [Nat.zero_add] at hn
  -- The window of an operation is the one with the quotient of its index.
  have hle : b.staging.capacity * (n / b.staging.capacity) ≤ n := Nat.mul_div_le n _
  have hlt : n < b.staging.capacity * (n / b.staging.capacity + 1) := Nat.lt_mul_div_succ n hc
  have hin := Nat.lt_of_le_of_lt hle hn
  have hclear := h _ hin
  refine hclear.executes.2 hm op ((OpsMemory.mem_slice ?_).mpr ⟨n, hle, ?_, hop⟩)
  · exact OpsBuffer.stop_le_of_readFault? hclear.readable
  · show n < (Window.nth total b.staging.capacity (n / b.staging.capacity)).stop
    rw [Window.stop_nth hin]
    exact Nat.lt_min.mpr ⟨hlt, hn⟩

/-- What comes back of a batch is what the interpreter makes of it. -/
theorem Batch.Tallied.succeeded_iff {j : BatchJob} {b₀ b : Batch} {k p : Nat}
    (h : Tallied j b₀ k p b) :
    b.buffer.memory.Succeeded p ↔ (interpreted j b₀ p).1.all (·.succeeded) = true := by
  have hlen : (interpreted j b₀ p).1.length = p := length_interpreted h.inside
  have hiff := OpsMemory.succeeded_splice_iff (Nat.le_trans (Nat.le_of_eq hlen) h.inside)
  rw [hlen] at hiff
  rw [h.buffer]
  exact hiff

namespace Engine

variable {config : Config} {e : Engine} {h : Handle} {s : Session} {buffer : OpsBuffer}
  {count : Nat} {mode : ExecMode} {report : ExecReport}

/-- An attempt that succeeds has been let through. -/
theorem letThrough_of_ok (hr : (e.execute h buffer count mode).1.result = .ok report) :
    ∃ s, e.sessions.find? h = some s ∧ e.checkExec s count = .ok () ∧ e.power.busy.1 = .ok () := by
  rcases e.execute_cases h buffer count mode with
    ⟨err, -, hx⟩ | ⟨s, hs, hg, ⟨err, -, hx⟩ | ⟨hp, -⟩⟩
  · rw [hx] at hr
    cases hr
  · rw [hx] at hr
    cases hr
  · exact ⟨s, hs, hg, hp⟩

theorem ReachedBy.accessClass_eq_global_iff {allowed : Call → Prop}
    (he : ReachedBy allowed config e) (hs : e.sessions.find? h = some s)
    (hg : e.checkExec s count = .ok ()) :
    s.accessClass = .global ↔ s.binding.context? = none := by
  have hcls := he.accessClass_eq_grContext_iff hs hg
  rw [← Option.not_isSome_iff_eq_none, ← hcls]
  cases s.accessClass <;> decide

/-- **The report agrees with what the caller sees.** In continue-on-error mode a batch that succeeds
is reported to have passed exactly if each of its operations comes back with success; in all-or-none
mode it is not, although each of them does. It is reported to have gone straight to the hardware
exactly if its session had no context. For this last, handles must not have come round
(`report_of_forgotten_context`). -/
theorem report_agrees (he : e.ReachedFreely config)
    (hr : (e.execute h buffer count mode).1.result = .ok report) :
    (mode = .continueOnError → (report.allPassed = true ↔
      (e.execute h buffer count mode).1.buffer.memory.Succeeded count)) ∧
    (mode = .allOrNone → report.allPassed = false ∧
      (e.execute h buffer count mode).1.buffer.memory.Succeeded count) ∧
    (e.Reached config → (report.directOps = true ↔
      ∃ s, e.sessions.find? h = some s ∧ s.binding.context? = none)) := by
  obtain ⟨hc, hready⟩ := he.ready
  obtain ⟨s, hs, hg, hp⟩ := letThrough_of_ok hr
  obtain ⟨result, b, hends, hx, -⟩ := execute_ended hs hg hp (hready h s hs) hc buffer mode
  rw [hx] at hr ⊢
  cases hends with
  | faulted counted => cases hr
  | refused left counted one => cases hr
  | through covers inside clears tallied =>
    obtain rfl : b.report = report := Except.ok.inj hr
    have hpassed := tallied.allPassed
    have hback := tallied.succeeded_iff
    refine ⟨?_, ?_, fun hreached => ?_⟩
    · rintro rfl
      rw [hback, hpassed]
      exact Iff.rfl
    · rintro rfl
      refine ⟨hpassed, hback.mpr ?_⟩
      have hcap : 0 < s.staging.capacity := Nat.lt_of_lt_of_eq hc (hready h s hs).1.symm
      exact Batch.all_succeeded_of_clears rfl hcap tallied.inside clears
    · have hdir := tallied.directOps (checkExec_eq_ok_iff.mp hg).1
      have hcls := ReachedBy.accessClass_eq_global_iff hreached hs hg
      rw [hdir, beq_iff_eq]
      constructor
      · intro hglobal
        exact ⟨s, hs, hcls.mp hglobal⟩
      · rintro ⟨r, hr, hnone⟩
        obtain rfl : s = r := Option.some.inj (hs.symm.trans hr)
        exact hcls.mpr hnone

/-- Three windows: with a fault in the second one the report denies that all passed, and without it
an all-or-none batch passes, of which that is not said; it went straight to the hardware, for its
session has no context. -/
theorem report_agrees_over_a_fault :
    (∃ e, e = small (readyRun ++ [.injectFault 0x240008]) ∧
      (e.execute ⟨1⟩ fourthFaults 5 .continueOnError).1.result = .ok ⟨true, false, 3, 5⟩ ∧
      ¬(e.execute ⟨1⟩ fourthFaults 5 .continueOnError).1.buffer.memory.Succeeded 5) ∧
    ((small readyRun).execute ⟨1⟩ fourthFaults 5 .allOrNone).1.result = .ok ⟨true, false, 3, 5⟩ ∧
      ((small readyRun).execute ⟨1⟩ fourthFaults 5 .allOrNone).1.buffer.memory.Succeeded 5 ∧
      ∃ s, (small readyRun).sessions.find? ⟨1⟩ = some s ∧ s.binding.context? = none := by
  constructor
  · have he : (small (readyRun ++ [.injectFault 0x240008])).Reached .small :=
      reachedBy_small (fun _ _ => trivial) (by decide)
    have hr : ((small (readyRun ++ [.injectFault 0x240008])).execute ⟨1⟩ fourthFaults 5
        .continueOnError).1.result = .ok ⟨true, false, 3, 5⟩ := by decide +kernel
    obtain ⟨hpassed, -⟩ := report_agrees he.freely hr
    exact ⟨_, rfl, hr, fun hs => absurd ((hpassed rfl).mpr hs) (by decide)⟩
  · have he : (small readyRun).Reached .small := reachedBy_small (fun _ _ => trivial) (by decide)
    have hr : ((small readyRun).execute ⟨1⟩ fourthFaults 5 .allOrNone).1.result
        = .ok ⟨true, false, 3, 5⟩ := by decide +kernel
    obtain ⟨-, hpassed, hdirect⟩ := report_agrees he.freely hr
    exact ⟨hr, (hpassed rfl).2, (hdirect he).mp rfl⟩

/-- A session of context scope takes the handle of another one, and takes up what that one has left
reserved without a context. So it can open windows on it and then give its own context up. -/
def forgetfulRun : List Call :=
  abandonedRun ++ [.openSession .context, .createContext 3, .bindContext ⟨1⟩ (some 3),
    .reserve ⟨1⟩ .hwpmLegacy true, .bindPm ⟨1⟩, .unbindContext ⟨1⟩]

/-- **The report of a forgotten context.** Behind a run without a failure, a batch succeeds whose
session has no context, and it is reported not to have gone straight to the hardware. -/
theorem report_of_forgotten_context :
    (small forgetfulRun).ReachedQuietly .small ∧
      (∃ s, (small forgetfulRun).sessions.find? ⟨1⟩ = some s ∧ s.binding.context? = none) ∧
      ∃ report, ((small forgetfulRun).execute ⟨1⟩ fourthFaults 5 .continueOnError).1.result
        = .ok report ∧ report.directOps = false := by
  have hfreely := reachedFreely_small forgetfulRun
  rw [forgetfulRun, small_append, small_abandonedRun] at hfreely ⊢
  generalize he : performAll _ _ = e at hfreely ⊢
  have hcontext : (e.sessions.find? ⟨1⟩).map (·.binding.context?) = some none := by
    rw [← he]
    decide +kernel
  have hresult : (e.execute ⟨1⟩ fourthFaults 5 .continueOnError).1.result
      = .ok ⟨false, false, 3, 5⟩ := by
    rw [← he]
    decide +kernel
  refine ⟨⟨hfreely, ?_⟩, Option.map_eq_some_iff.mp hcontext, _, hresult, rfl⟩
  rw [← he]
  decide +kernel

end Engine

end Perfmon
