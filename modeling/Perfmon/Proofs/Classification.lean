import Perfmon.Proofs.AccessClasses
import Perfmon.Proofs.Arbitration
import Perfmon.Proofs.Handles
/-!
# What a status says

The status of an operation that has been written back follows from the operation and from the
windows that are open: whether its code means something and is offered, whether its offset is a
multiple of its width and its bytes lie in one open window, and whether its offset faults
(`Engine.Classified`). Neither the other operations of the batch nor the status that the caller had
left in it matter. Likewise a register only changes by an operation that passes all of this.

The device looks at who has a resource bound. That the one who has it bound is an open session, which
has its windows open and the resource reserved, is again the agreement of device and records
(`ReachedUndisturbed.boundTo_ne_nil_iff`). A call on the device made to fail could leave a window
open that no session knows of, and so does a handle that is given out again while it is in use
(`abandoned_windows_stay_open`).
-/

namespace Perfmon

/-! ## Codes -/

/-- How many bytes an operation accesses, if it accesses four or eight of them. -/
def RegOp.span? (op : RegOp) : Option Nat :=
  if op.code ≤ 1 then some 4 else if op.code ≤ 3 then some 8 else none

/-- A code means nothing, or an access to a single byte, or one to four or eight bytes. -/
theorem RegOp.kind?_cases (op : RegOp) :
    (op.kind? = none ∧ 5 < op.code) ∨
    (∃ k, op.kind? = some k ∧ k.width = 1 ∧ (op.code = 4 ∨ op.code = 5)) ∨
    ∃ k, op.kind? = some k ∧ k.width ≠ 1 ∧ op.span? = some k.width := by
  cases hk : op.kind? with
  | none => exact Or.inl ⟨rfl, Kind.ofCode?_eq_none_iff.mp hk⟩
  | some k =>
    have hc : op.code = k.code := (Kind.code_of_ofCode? hk).symm
    refine Or.inr ?_
    unfold span?
    rw [hc]
    cases k with
    | read08 | write08 => exact Or.inl ⟨_, rfl, rfl, by decide⟩
    | read32 | write32 | read64 | write64 => exact Or.inr ⟨_, rfl, by decide, rfl⟩

theorem RegOp.code_le_of_span? {op : RegOp} {width : Nat} (h : op.span? = some width) :
    op.code ≤ 3 := by
  unfold span? at h
  split at h
  · rename_i hc
    exact UInt8.le_trans hc (by decide)
  · split at h
    · assumption
    · cases h

theorem RegOp.span?_eq_none {op : RegOp} (h : 3 < op.code) : op.span? = none := by
  cases hs : op.span? with
  | none => rfl
  | some width => exact absurd (code_le_of_span? hs) (UInt8.not_le.mpr h)

theorem Device.verdict_of_wide {d : Device} {cls : AccessClass} {ctx : Option ContextId}
    {op : RegOp} {k : RegOp.Kind} (hc : ¬(cls = .grContext ∧ ctx = none))
    (hk : op.kind? = some k) (hw : k.width ≠ 1) :
    d.verdict cls ctx op
      = if op.offset.toNat % k.width ≠ 0 ∨ !d.windowBound op.offset.toNat k.width ∨
          op.offset ∈ d.faults then RegOp.invalidOffset else RegOp.success := by
  unfold verdict
  rw [hk]
  dsimp only
  rw [if_neg hw, if_neg hc]
  by_cases hplace : op.offset.toNat % k.width ≠ 0 ∨ !d.windowBound op.offset.toNat k.width
  · rw [if_pos hplace, if_pos (or_assoc.mp (Or.inl hplace))]
  · rw [if_neg hplace]
    by_cases hf : op.offset ∈ d.faults
    · rw [if_pos hf, if_pos (Or.inr (Or.inr hf))]
    · rw [if_neg hf, if_neg fun h => (or_assoc.mpr h).elim hplace hf]

namespace Engine

variable {config : Config} {e : Engine} {h : Handle} {s : Session} {buffer : OpsBuffer}
  {count : Nat} {mode : ExecMode}

/-! ## Open windows -/

/-- The register window of a resource is open: an open session has its windows open and the resource
reserved. -/
def WindowOpen (e : Engine) (r : Resource) : Prop :=
  ∃ h s, e.sessions.find? h = some s ∧ s.pmBound = true ∧ (s.reservations.get r).isSome = true

/-- The bytes from an offset on lie in the window of one resource, which is open. -/
def Covers (e : Engine) (offset width : Nat) : Prop :=
  ∃ r : Resource, e.WindowOpen r ∧ r.window.1 ≤ offset ∧ offset + width ≤ r.window.2

/-- In an undisturbed run somebody has a resource bound exactly if its window is open. -/
theorem ReachedUndisturbed.boundTo_ne_nil_iff (he : e.ReachedUndisturbed config) {r : Resource} :
    e.device.boundTo r ≠ [] ↔ e.WindowOpen r := by
  constructor
  · intro hb
    obtain ⟨k, hk⟩ := List.exists_mem_of_ne_nil _ hb
    cases hs : e.sessions.find? k with
    | none => exact absurd hk (he.orderly k (by simp [ledger, hs]) r).2
    | some s =>
      obtain ⟨rfl, hset⟩ := ReachedBy.settled he hs
      exact ⟨s.handle, s, hs, (hset.bound r).mp hk⟩
  · rintro ⟨k, s, hs, hopen⟩
    obtain ⟨-, hset⟩ := ReachedBy.settled he hs
    exact List.ne_nil_of_mem ((hset.bound r).mpr hopen)

theorem ReachedUndisturbed.windowBound_iff (he : e.ReachedUndisturbed config) {offset width : Nat} :
    e.device.windowBound offset width = true ↔ e.Covers offset width := by
  unfold Device.windowBound Covers
  simp only [List.any_eq_true, Bool.and_eq_true, decide_eq_true_eq, Bool.not_eq_true',
    List.isEmpty_eq_false_iff, he.boundTo_ne_nil_iff, and_assoc]
  exact exists_congr fun r => and_iff_right (Resource.mem_all r)

/-! ## Statuses -/

/-- What keeps an operation from being carried out that accesses so many bytes. -/
def Misses (e : Engine) (mode : ExecMode) (op : RegOp) (width : Nat) : Prop :=
  op.offset.toNat % width ≠ 0 ∨ ¬e.Covers op.offset.toNat width ∨
    mode = .continueOnError ∧ op.offset ∈ e.device.faults

/-- What the status of an operation says. -/
structure Classified (e : Engine) (mode : ExecMode) (op : RegOp) (status : UInt8) : Prop where
  invalidOp : status = RegOp.invalidOp ↔ 5 < op.code
  unsupportedOp : status = RegOp.unsupportedOp ↔ op.code = 4 ∨ op.code = 5
  invalidOffset : status = RegOp.invalidOffset ↔
    ∃ width, op.span? = some width ∧ e.Misses mode op width
  success : status = RegOp.success ↔ ∃ width, op.span? = some width ∧ ¬e.Misses mode op width

theorem Classified.of_meaningless {op : RegOp} (h : 5 < op.code) :
    e.Classified mode op RegOp.invalidOp := by
  have hspan := RegOp.span?_eq_none (UInt8.lt_trans (by decide) h)
  refine ⟨iff_of_true rfl h, iff_of_false (by decide) ?_, iff_of_false (by decide) ?_,
    iff_of_false (by decide) ?_⟩
  · rintro (hc | hc) <;> rw [hc] at h <;> exact absurd h (by decide)
  · simp [hspan]
  · simp [hspan]

theorem Classified.of_byte {op : RegOp} (h : op.code = 4 ∨ op.code = 5) :
    e.Classified mode op RegOp.unsupportedOp := by
  have hspan : op.span? = none := by
    refine RegOp.span?_eq_none ?_
    rcases h with hc | hc <;> rw [hc] <;> decide
  refine ⟨iff_of_false (by decide) ?_, iff_of_true rfl h, iff_of_false (by decide) ?_,
    iff_of_false (by decide) ?_⟩
  · rcases h with hc | hc <;> rw [hc] <;> decide
  · simp [hspan]
  · simp [hspan]

/-- For an operation that accesses four or eight bytes it is enough to know whether something keeps
it from being carried out. -/
theorem Classified.of_wide {op : RegOp} {width : Nat} {status : UInt8}
    (hspan : op.span? = some width)
    (hs : (e.Misses mode op width ∧ status = RegOp.invalidOffset) ∨
      (¬e.Misses mode op width ∧ status = RegOp.success)) : e.Classified mode op status := by
  have hlow := RegOp.code_le_of_span? hspan
  have hvalid : ¬5 < op.code := fun h =>
    absurd hlow (UInt8.not_le.mpr (UInt8.lt_trans (by decide) h))
  have hwide : ¬(op.code = 4 ∨ op.code = 5) := by
    rintro (h | h) <;> rw [h] at hlow <;> exact absurd hlow (by decide)
  rcases hs with ⟨hm, rfl⟩ | ⟨hm, rfl⟩
  · exact ⟨iff_of_false (by decide) hvalid, iff_of_false (by decide) hwide,
      iff_of_true rfl ⟨width, hspan, hm⟩, iff_of_false (by decide) (by simp [hspan, hm])⟩
  · exact ⟨iff_of_false (by decide) hvalid, iff_of_false (by decide) hwide,
      iff_of_false (by decide) (by simp [hspan, hm]), iff_of_true rfl ⟨width, hspan, hm⟩⟩

/-- In all-or-none mode what can be carried out does not fault, so faults need not be looked at. -/
theorem ReachedUndisturbed.misses_iff (he : e.ReachedUndisturbed config) {cls : AccessClass}
    {ctx : Option ContextId} {op : RegOp} {width : Nat}
    (hm : mode = .allOrNone → e.device.Admits cls ctx op) :
    e.Misses mode op width ↔ op.offset.toNat % width ≠ 0 ∨
      !e.device.windowBound op.offset.toNat width ∨ op.offset ∈ e.device.faults := by
  have hfault : (mode = .continueOnError ∧ op.offset ∈ e.device.faults) ↔
      op.offset ∈ e.device.faults := by
    cases mode with
    | continueOnError => exact and_iff_right rfl
    | allOrNone => exact iff_of_false (fun h => nomatch h.1) (hm rfl).2
  unfold Misses
  rw [hfault, ← he.windowBound_iff, Bool.not_eq_true, Bool.not_eq_true']

/-- The verdict on an operation whose class goes with its context classifies it. -/
theorem ReachedUndisturbed.classified (he : e.ReachedUndisturbed config) {cls : AccessClass}
    {ctx : Option ContextId} {op : RegOp} (hc : ¬(cls = .grContext ∧ ctx = none))
    (hm : mode = .allOrNone → e.device.Admits cls ctx op) :
    e.Classified mode op (e.device.verdict cls ctx op) := by
  rcases op.kind?_cases with ⟨hk, hcode⟩ | ⟨k, hk, hw, hcode⟩ | ⟨k, hk, hw, hspan⟩
  · rw [Device.verdict, hk]
    exact .of_meaningless hcode
  · rw [Device.verdict, hk]
    dsimp only
    rw [if_pos hw]
    exact .of_byte hcode
  · rw [Device.verdict_of_wide hc hk hw]
    refine .of_wide hspan ?_
    by_cases hmiss : e.Misses mode op k.width
    · exact Or.inl ⟨hmiss, if_pos ((he.misses_iff hm).mp hmiss)⟩
    · exact Or.inr ⟨hmiss, if_neg fun h => hmiss ((he.misses_iff hm).mpr h)⟩

/-- **What is written back is classified, and registers change inside open windows only.** Of every
operation that an attempt writes back the status says what the operation and the open windows make
of it. A register that an attempt changes, in whatever file, is one that a write of the batch is
meant for, whose offset is a multiple of its width and whose bytes lie in one open window. -/
theorem outcomes_classified (he : e.ReachedUndisturbed config) (h : Handle) (buffer : OpsBuffer)
    (count : Nat) (mode : ExecMode) :
    (∀ w ∈ e.writtenBack h buffer count mode, ∀ i, w.start ≤ i → i < w.stop →
      ∃ op op', buffer.memory.toList[i]? = some op ∧
        (e.execute h buffer count mode).1.buffer.memory.toList[i]? = some op' ∧
        e.Classified mode op op'.status) ∧
    ∀ place offset, (e.execute h buffer count mode).2.device.registers place offset
        ≠ e.device.registers place offset →
      ∃ op ∈ buffer.memory.toList.take count, op.offset = offset ∧ (op.code = 1 ∨ op.code = 3) ∧
        ∃ width, op.span? = some width ∧ offset.toNat % width = 0 ∧
          ∃ r : Resource, e.WindowOpen r ∧ r.window.1 ≤ offset.toNat ∧
            offset.toNat + width ≤ r.window.2 := by
  have hfreely : e.ReachedFreely config := ReachedBy.freely he
  constructor
  · intro w hw i hi hi'
    obtain ⟨s, op, ρ, hs, hg, hbefore, hafter, hm⟩ := reported_of_writtenBack hfreely hw hi hi'
    refine ⟨op, _, hbefore, hafter, ?_⟩
    rw [Device.interpretOne_status]
    exact he.classified (ReachedBy.not_contextless he hs hg) hm
  · intro place offset hne
    obtain ⟨s, hs, hg, op, hop, hwrite⟩ := writes_of_execute hfreely hne
    have hcls : e.Classified .continueOnError op
        (e.device.verdict s.accessClass s.binding.context? op) :=
      he.classified (ReachedBy.not_contextless he hs hg) nofun
    obtain ⟨width, hspan, hok⟩ := hcls.success.mp hwrite.verdict
    obtain ⟨haligned, hcovered, -⟩ := by
      rwa [Misses, not_or, not_or, ne_eq, not_not, not_not] at hok
    rw [hwrite.offset] at haligned hcovered
    refine ⟨op, hop, hwrite.offset, ?_, width, hspan, haligned, hcovered⟩
    exact hwrite.kind.imp (fun hk => (RegOp.Kind.code_of_ofCode? hk).symm)
      fun hk => (RegOp.Kind.code_of_ofCode? hk).symm

/-- Four operations: a code without a meaning, an access to a single byte, a read at the very end of
the offsets whose caller has left a status in it, and a write. -/
def oddOps : OpsBuffer :=
  ⟨.list [⟨200, 0, 0x240000, 0, 0⟩, ⟨4, 0, 0x240000, 0, 0⟩,
    { RegOp.read32 0xfffffffc with status := RegOp.invalidType }, .write32 0x240004 3], none, none⟩

theorem outcomes_classified_of_odd_ops :
    (small readyRun).ReachedUndisturbed .small ∧
      (∃ op op', oddOps.memory.toList[2]? = some op ∧
        ((small readyRun).execute ⟨1⟩ oddOps 4 .continueOnError).1.buffer.memory.toList[2]?
          = some op' ∧ (small readyRun).Classified .continueOnError op op'.status) ∧
      ((small readyRun).execute ⟨1⟩ oddOps 4 .continueOnError).1.buffer.memory.toList.map (·.status)
        = [RegOp.invalidOp, RegOp.unsupportedOp, RegOp.invalidOffset, RegOp.success] ∧
      ∃ r : Resource, (small readyRun).WindowOpen r ∧ r.window.1 ≤ 0x240004 := by
  have he : (small readyRun).ReachedUndisturbed .small := reachedBy_small (by decide) (by decide)
  obtain ⟨hops, hregs⟩ := outcomes_classified he ⟨1⟩ oddOps 4 .continueOnError
  have hchanged : ((small readyRun).execute ⟨1⟩ oddOps 4 .continueOnError).2.device.registers none
      0x240004 ≠ (small readyRun).device.registers none 0x240004 := by
    decide +kernel
  obtain ⟨-, -, -, -, -, -, -, r, hopen, hle, -⟩ := hregs none 0x240004 hchanged
  exact ⟨he, hops ⟨2, 2⟩ (by decide +kernel) 2 (Nat.le_refl 2) (by decide), by decide +kernel,
    r, hopen, hle⟩

/-- A session takes the handle of another one, and with it what there is to know of the windows that
the other one has open. -/
def overtakenRun : List Call :=
  abandonedRun ++ [.openSession .device, .createContext 3, .bindContext ⟨1⟩ (some 3),
    .reserve ⟨1⟩ .smpc true, .bindPm ⟨1⟩]

/-- **Abandoned windows stay open.** Behind a run without a failure, the last of four operations
succeeds and changes a register, although no open session has a window open in which the register
lies: the one that had it open was replaced when its handle came round. -/
theorem abandoned_windows_stay_open :
    (small overtakenRun).ReachedQuietly .small ∧
      (∀ width, ¬(small overtakenRun).Covers 0x240004 width) ∧
      (⟨2, 2⟩ : Window) ∈ (small overtakenRun).writtenBack ⟨1⟩ oddOps 4 .continueOnError ∧
      (∃ op op', oddOps.memory.toList[3]? = some op ∧
        ((small overtakenRun).execute ⟨1⟩ oddOps 4 .continueOnError).1.buffer.memory.toList[3]?
          = some op' ∧ op'.status = RegOp.success ∧
        ¬(small overtakenRun).Classified .continueOnError op op'.status) ∧
      (small overtakenRun).device.registers (some ⟨1⟩) 0x240004 = 0 ∧
      ((small overtakenRun).execute ⟨1⟩ oddOps 4 .continueOnError).2.device.registers (some ⟨1⟩)
        0x240004 = 3 := by
  have hfreely := reachedFreely_small overtakenRun
  rw [overtakenRun, small_append, small_abandonedRun] at hfreely ⊢
  generalize he : performAll _ _ = e at hfreely ⊢
  have hnone : e.sessions.entries.map (fun p => p.2.reservations.get .hwpmLegacy) = [none] := by
    rw [← he]
    decide +kernel
  have hclosed : ∀ width, ¬e.Covers 0x240004 width := by
    rintro width ⟨r, ⟨h, s, hs, -, hr⟩, hlo, -⟩
    cases r with
    | hwpmLegacy =>
      have hmem := List.mem_map_of_mem (f := fun p => p.2.reservations.get .hwpmLegacy)
        ((Assoc.mem_entries_iff _).mpr hs)
      rw [hnone] at hmem
      have hget : s.reservations.get .hwpmLegacy = none := List.mem_singleton.mp hmem
      rw [hget] at hr
      cases hr
    | smpc => exact absurd hlo (by decide)
  have hback : e.writtenBack ⟨1⟩ oddOps 4 .continueOnError = [⟨0, 2⟩, ⟨2, 2⟩] := by
    rw [← he]
    decide +kernel
  have hafter : (e.execute ⟨1⟩ oddOps 4 .continueOnError).1.buffer.memory.toList[3]?
      = some (.write32 0x240004 3) := by
    rw [← he]
    decide +kernel
  refine ⟨⟨hfreely, ?_⟩, hclosed, ?_, ⟨_, _, rfl, hafter, rfl, ?_⟩, ?_, ?_⟩
  · rw [← he]
    decide +kernel
  · rw [hback]
    decide
  · intro hcls
    obtain ⟨width, -, hok⟩ := hcls.success.mp rfl
    exact hok (Or.inr (Or.inl (hclosed width)))
  · rw [← he]
    decide +kernel
  · rw [← he]
    decide +kernel

end Engine

end Perfmon
