import Perfmon.Proofs.TransferFaults
import Perfmon.Proofs.WrittenBack
/-!
# What a batch changes in the caller's memory

An operation is taken apart on its way to the device and put together again on its way back, in
memory that other operations have been in before. Nevertheless the caller finds the same operation
again, whatever has become of the batch (`results_only`): all that can be new about it is its status
and, if it is a read that succeeded, its value; and that only if its window was written back.
-/

namespace Perfmon

namespace RegOp

/-- A read of a whole register, or of its low half. -/
def Reads (op : RegOp) : Prop :=
  op.kind? = some .read32 ∨ op.kind? = some .read64

/-- What an attempt may make of an operation, depending on whether it was written back. -/
structure Resulted (writtenBack : Prop) (op op' : RegOp) : Prop where
  code : op'.code = op.code
  offset : op'.offset = op.offset
  mask : op'.mask = op.mask
  untouched : ¬writtenBack → op' = op
  value : op'.value ≠ op.value → writtenBack ∧ op.Reads ∧ op'.status = success

theorem Resulted.refl (writtenBack : Prop) (op : RegOp) : op.Resulted writtenBack op :=
  ⟨rfl, rfl, rfl, fun _ => rfl, fun h => absurd rfl h⟩

/-- Only a read brings back another value than it was given. -/
theorem reads_of_effect_ne {op : RegOp} {old : UInt64} (h : (op.effect old).1 ≠ op.value) :
    op.Reads := by
  unfold effect at h
  cases hk : op.kind? with
  | none =>
    rw [hk] at h
    exact absurd rfl h
  | some k =>
    rw [hk] at h
    cases k with
    | read32 => exact Or.inl hk
    | read64 => exact Or.inr hk
    | write32 | write64 | read08 | write08 => exact absurd rfl h

end RegOp

/-- What is reported of an operation that was written back. -/
theorem Device.resulted_interpretOne {writtenBack : Prop} (hb : writtenBack) (d : Device)
    (cls : AccessClass) (ctx : Option ContextId) (op : RegOp) (ρ : Registers) :
    op.Resulted writtenBack (d.interpretOne cls ctx op ρ).1 := by
  by_cases hv : d.verdict cls ctx op = RegOp.success
  · rw [interpretOne_of_eq hv]
    refine ⟨rfl, rfl, rfl, fun hn => absurd hb hn, fun hne => ⟨hb, ?_, rfl⟩⟩
    exact RegOp.reads_of_effect_ne hne
  · rw [interpretOne_of_ne hv]
    exact ⟨rfl, rfl, rfl, fun hn => absurd hb hn, fun hne => absurd rfl hne⟩

namespace Engine

variable {config : Config} {e : Engine} {h : Handle} {s : Session} {buffer : OpsBuffer}
  {count : Nat} {mode : ExecMode}

/-- An operation is in one of the windows that an attempt has written back. -/
def WritesBack (e : Engine) (h : Handle) (buffer : OpsBuffer) (count : Nat) (mode : ExecMode)
    (i : Nat) : Prop :=
  ∃ w ∈ e.writtenBack h buffer count mode, w.start ≤ i ∧ i < w.stop

/-- What a caller's memory has become that an attempt has worked on: nothing has changed behind the
batch, and of the operations in it only the results have. -/
structure Returned (e : Engine) (h : Handle) (count : Nat) (mode : ExecMode)
    (buffer buffer' : OpsBuffer) : Prop where
  size : buffer'.memory.size = buffer.memory.size
  behind : buffer'.memory.behind count = buffer.memory.behind count
  beyond : ∀ i, count ≤ i → buffer'.memory.toList[i]? = buffer.memory.toList[i]?
  ops : ∀ i (op : RegOp), buffer.memory.toList[i]? = some op →
    ∃ op', buffer'.memory.toList[i]? = some op' ∧
      op.Resulted (e.WritesBack h buffer count mode i) op'

theorem Returned.refl (e : Engine) (h : Handle) (count : Nat) (mode : ExecMode)
    (buffer : OpsBuffer) : e.Returned h count mode buffer buffer :=
  ⟨rfl, rfl, fun _ _ => rfl, fun _ op hop => ⟨op, hop, .refl _ op⟩⟩

/-- What is left of a memory of which the first `written` operations have been written back. -/
theorem LeavesOff.returned {written applied shown : Nat} {x : Execution × Engine}
    (hoff : e.LeavesOff s buffer written applied shown x) (hcount : written ≤ count)
    (hsize : written ≤ buffer.memory.size)
    (hback : ∀ i < written, e.WritesBack h buffer count mode i) :
    e.Returned h count mode buffer x.1.buffer := by
  have hlen := length_interpret_front (e := e) (s := s) hsize
  have hin := Nat.le_trans (Nat.le_of_eq hlen) hsize
  have hbeyond : ∀ i, written ≤ i → x.1.buffer.memory.toList[i]? = buffer.memory.toList[i]? := by
    intro i hi
    rw [hoff.buffer]
    exact OpsMemory.getElem?_splice_of_le hin (Nat.le_trans (Nat.le_of_eq hlen) hi)
  refine ⟨?_, ?_, fun i hi => hbeyond i (Nat.le_trans hcount hi), fun i op hop => ?_⟩
  · rw [hoff.buffer]
    exact OpsMemory.size_splice hin
  · obtain ⟨n, rfl⟩ := Nat.exists_eq_add_of_le hcount
    rw [← OpsMemory.behind_behind, hoff.behind, OpsMemory.behind_behind]
  · by_cases hi : i < written
    · obtain ⟨ρ, hreport⟩ := hoff.getElem?_of_lt hsize hi hop
      exact ⟨_, hreport, Device.resulted_interpretOne (hback i hi) _ _ _ op ρ⟩
    · exact ⟨op, (hbeyond i (Nat.not_lt.mp hi)).trans hop, .refl _ op⟩

variable (h buffer count mode) in
/-- **A batch changes nothing but results.** However an attempt ends, the caller finds as many
operations as before, those behind the batch as they were, and each one in it with the code, the
offset and the mask that it had. An operation whose window was not written back is as it was; and a
value is a new one only if it is what a read brings back that succeeded. -/
theorem results_only (he : e.ReachedFreely config) :
    e.Returned h count mode buffer (e.execute h buffer count mode).1.buffer := by
  obtain ⟨hc, hready⟩ := he.ready
  rcases e.execute_cases h buffer count mode with
    ⟨err, -, hx⟩ | ⟨s, hs, hg, ⟨err, -, hx⟩ | ⟨hp, -⟩⟩
  · rw [hx]
    exact .refl e h count mode buffer
  · rw [hx]
    exact .refl e h count mode buffer
  · obtain ⟨written, applied, shown, hoff, hle, hge, hsize, -, hcover⟩ :=
      execute_ends hs hg hp (hready h s hs) hc buffer mode
    exact hoff.returned (Nat.le_trans hle hge) (Nat.le_trans hle hsize) hcover

/-- Bytes that hold four operations and the beginning of a fifth one: the attempt ends there, and the
fourth operation has read what is in its register. -/
theorem results_only_of_bytes :
    (small readyRun).ReachedFreely .small ∧
      ((small readyRun).execute ⟨1⟩ fourAndABit 5 .continueOnError).1.buffer.memory.size = 4 ∧
      ∃ op', ((small readyRun).execute ⟨1⟩ fourAndABit 5 .continueOnError).1.buffer.memory.toList[3]?
          = some op' ∧
        op'.value = 9 ∧ op'.mask = (RegOp.read64 0x240008).mask ∧ op'.status = RegOp.success ∧
        (small readyRun).WritesBack ⟨1⟩ fourAndABit 5 .continueOnError 3 := by
  have he : (small readyRun).ReachedFreely .small := reachedFreely_small readyRun
  have hret := results_only ⟨1⟩ fourAndABit 5 .continueOnError he
  obtain ⟨op', hop', hres⟩ := hret.ops 3 (.read64 0x240008) (by decide +kernel)
  have hvalue : ((small readyRun).execute ⟨1⟩ fourAndABit 5
      .continueOnError).1.buffer.memory.toList[3]?.map (·.value) = some 9 := by decide +kernel
  rw [hop'] at hvalue
  have hnine : op'.value = 9 := Option.some.inj hvalue
  obtain ⟨hback, -, hok⟩ := hres.value (by rw [hnine]; decide)
  exact ⟨he, hret.size.trans (by decide), op', hop', hnine, hres.mask, hok, hback⟩

end Engine

end Perfmon
