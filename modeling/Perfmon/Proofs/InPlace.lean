import Mathlib.Tactic.ByContra
import Perfmon.Device
/-!
# Execution in place

The device executes operations on copies of the registers and puts the copies back when it is done:
the live registers as a whole, those of an image one by one, for they are kept together with the
registers of all other images. That is an implementation matter. What a call comes to is that each
operation is carried out at once on the register that it means, in order (`inPlace`), and that a call
that fails has not begun (`copies_make_no_difference`).

Putting an image back gives registers new values but takes none away, so it matters that a call does
not lose registers on the way (`RegisterFile.Covers`).
-/

namespace Perfmon

/-! ## What can be read -/

/-- What can be read: of the live registers, and of the image of every context. -/
abbrev Registers := Option ContextId → UInt32 → UInt64

/-- The registers with one of them changed. -/
def Registers.write (ρ : Registers) (place : Option ContextId) (offset : UInt32) (v : UInt64) :
    Registers :=
  fun p o => if p = place ∧ o = offset then v else ρ p o

/-- What can be read from a device. -/
def Device.registers (d : Device) : Registers
  | none => d.peek
  | some c => d.peekContext c

/-- Where the operations of a class find their registers. -/
def AccessClass.place : AccessClass → Option ContextId → Option ContextId
  | .global, _ => none
  | .grContext, ctx => ctx

theorem Registers.write_self (ρ : Registers) (place : Option ContextId) (offset : UInt32) :
    ρ.write place offset (ρ place offset) = ρ := by
  funext p o
  unfold write
  split
  · rename_i h
    rw [h.1, h.2]
  · rfl

/-! ## One operation -/

namespace DeviceOp

/-- An operation with another status. -/
def withStatus (op : DeviceOp) (status : DeviceStatus) : DeviceOp :=
  { op with status }

@[simp] theorem withStatus_status (op : DeviceOp) (status : DeviceStatus) :
    (op.withStatus status).status = status := rfl

/-- An operation as it comes back from a register: a read brings what it finds, a read of a low half
with zeros above. -/
def report (op : DeviceOp) (old : UInt64) : DeviceOp :=
  match op.code with
  | .known .read32 => { op with valueLow := Word.low old, valueHigh := 0 }
  | .known .read64 => { op with valueLow := Word.low old, valueHigh := Word.high old }
  | _ => op

/-- What an operation leaves in its register: a write clears the bits of the mask and sets those of
the value, in the low half or in the whole register. -/
def left (op : DeviceOp) (old : UInt64) : UInt64 :=
  match op.code with
  | .known .write32 =>
    Word.join (Word.high old) ((Word.low old &&& ~~~op.maskLow) ||| op.valueLow)
  | .known .write64 => (old &&& ~~~op.mask) ||| op.value
  | _ => old

/-- An operation is one that writes. -/
def Writes (op : DeviceOp) : Prop :=
  op.code = .known .write32 ∨ op.code = .known .write64

theorem left_of_not_writes {op : DeviceOp} (h : ¬op.Writes) (old : UInt64) : op.left old = old := by
  unfold left
  split
  · rename_i hcode
    exact absurd (Or.inl hcode) h
  · rename_i hcode
    exact absurd (Or.inr hcode) h
  · rfl

@[simp] theorem report_status (op : DeviceOp) (old : UInt64) :
    (op.report old).status = op.status := by
  unfold report
  split <;> rfl

theorem countP_failed_of_success {op : DeviceOp} (h : op.status = .success)
    (ops : List DeviceOp) :
    (op :: ops).countP (!·.succeeded) = ops.countP (!·.succeeded) :=
  List.countP_cons_of_neg (by simp [succeeded, h])

theorem countP_failed_of_ne {op : DeviceOp} (h : op.status ≠ .success) (ops : List DeviceOp) :
    (op :: ops).countP (!·.succeeded) = ops.countP (!·.succeeded) + 1 :=
  List.countP_cons_of_pos (by simp [succeeded, h])

end DeviceOp

namespace RegisterFile

/-- A file has all the registers that another one has. -/
def Covers (f g : RegisterFile) : Prop :=
  ∀ o, (g.written.find? o).isSome = true → (f.written.find? o).isSome = true

theorem Covers.refl (f : RegisterFile) : f.Covers f :=
  fun _ => id

theorem Covers.trans {f g h : RegisterFile} (hfg : f.Covers g) (hgh : g.Covers h) : f.Covers h :=
  fun o ho => hfg o (hgh o ho)

theorem write_covers (f : RegisterFile) (o : UInt32) (v : UInt64) : (f.write o v).Covers f := by
  intro p hp
  unfold write
  rw [Assoc.find?_insert]
  split
  · rfl
  · exact hp

/-- What an operation comes to on a file. -/
theorem apply_report (f : RegisterFile) (op : DeviceOp) :
    (f.apply op).1 = op.report (f.read op.offset) ∧
      (∀ o, (f.apply op).2.read o
        = if o = op.offset then op.left (f.read op.offset) else f.read o) ∧
      (f.apply op).2.Covers f := by
  -- Reading leaves the register as it is, and so does what is not carried out at all.
  have hkeep : ∀ o, f.read o = if o = op.offset then f.read op.offset else f.read o := by
    intro o
    split
    · rename_i h
      rw [h]
    · rfl
  unfold apply DeviceOp.report DeviceOp.left
  cases op.code with
  | invalid c => exact ⟨rfl, hkeep, .refl f⟩
  | known kind =>
    cases kind with
    | read08 | read32 | read64 | write08 => exact ⟨rfl, hkeep, .refl f⟩
    | write32 =>
      dsimp only
      rw [mergeLow_eq]
      exact ⟨rfl, fun o => read_write f op.offset o _, write_covers f op.offset _⟩
    | write64 =>
      dsimp only
      rw [merge_eq]
      exact ⟨rfl, fun o => read_write f op.offset o _, write_covers f op.offset _⟩

end RegisterFile

namespace Device

variable {d : Device} {ctx : Option ContextId} {faults : List UInt32} {mode : ExecMode}

/-! ## The copies that a call works on -/

theorem read_image (d : Device) (c : ContextId) : (d.image c).read = d.peekContext c := by
  funext o
  unfold RegisterFile.read image peekContext
  rw [Assoc.find?_under]

/-- What could be read if the copies that a call in a context works on were put back. -/
def Files.registers (f : Files) (ctx : Option ContextId) (ρ : Registers) : Registers
  | none => f.live.read
  | some c => if ctx = some c then f.image.read else ρ (some c)

theorem registers_files : (d.files ctx).registers ctx d.registers = d.registers := by
  funext p
  cases p with
  | none => rfl
  | some c =>
    rw [Files.registers]
    split
    · rename_i h
      rw [h]
      exact d.read_image c
    · rfl

/-- An image that was put back register by register is the copy, if the copy has them all. -/
theorem registers_withFiles {f : Files} (hf : f.image.Covers (d.files ctx).image) :
    (d.withFiles ctx f).registers = f.registers ctx d.registers := by
  funext p
  cases p with
  | none => cases ctx <;> rfl
  | some c =>
    rw [Files.registers]
    cases ctx with
    | none => rfl
    | some q =>
      show (d.withFiles (some q) f).peekContext c = _
      rw [← read_image]
      funext o
      simp only [image, withFiles, RegisterFile.read, Assoc.under_insertUnder, Option.some.injEq,
        eq_comm (a := q)]
      by_cases hc : c = q
      · subst hc
        rw [if_pos rfl, if_pos rfl, Assoc.find?_insertAll _ f.image.written.nodup]
        cases hnew : Assoc.lookup o f.image.written.entries with
        | some v => exact (congrArg (Option.getD · 0) hnew).symm
        | none =>
          have hold : (d.images.under c).find? o = none := by
            rw [← Option.not_isSome_iff_eq_none]
            intro hs
            have hsome := hf o hs
            rw [show f.image.written.find? o = none from hnew] at hsome
            cases hsome
          rw [hold]
          exact (congrArg (Option.getD · 0) hnew).symm
      · rw [if_neg hc, if_neg hc, Assoc.find?_under]
        rfl

/-- Carrying an operation out on the copies is carrying it out on the register that it means. -/
theorem Files.apply_report (f : Files) (ρ : Registers) (op : DeviceOp)
    (hc : ¬(op.cls = .grContext ∧ ctx = none)) :
    (f.apply op).1 = op.report (f.registers ctx ρ (op.cls.place ctx) op.offset) ∧
      (f.apply op).2.registers ctx ρ = (f.registers ctx ρ).write (op.cls.place ctx) op.offset
        (op.left (f.registers ctx ρ (op.cls.place ctx) op.offset)) ∧
      (f.apply op).2.image.Covers f.image := by
  unfold apply
  cases hcls : op.cls with
  | global =>
    obtain ⟨hv, hr, -⟩ := f.live.apply_report op
    refine ⟨hv, ?_, .refl _⟩
    funext p o
    cases p with
    | none =>
      refine (hr o).trans ?_
      simp only [Registers.write, AccessClass.place, true_and]
      rfl
    | some c =>
      simp only [Registers.write, AccessClass.place, reduceCtorEq, false_and, if_false]
      rfl
  | grContext =>
    cases ctx with
    | none => exact absurd ⟨hcls, rfl⟩ hc
    | some q =>
      obtain ⟨hv, hr, hk⟩ := f.image.apply_report op
      have hq : f.registers (some q) ρ (some q) = f.image.read := if_pos rfl
      rw [AccessClass.place, hq]
      refine ⟨hv, ?_, hk⟩
      funext p o
      cases p with
      | none => rfl
      | some c =>
        by_cases hcq : q = c
        · subst hcq
          simp only [Registers.write, hq, true_and]
          refine (congrFun (if_pos rfl) o).trans (hr o)
        · have hne : ¬(some c = some q ∧ o = op.offset) := fun h => hcq (Option.some.inj h.1).symm
          rw [Registers.write, if_neg hne]
          simp only [Files.registers, Option.some.injEq, if_neg hcq]

/-! ## Lists of operations -/

/-- Carries out the operations whose status is success on the registers themselves, in order. -/
def inPlace (ctx : Option ContextId) : List DeviceOp → Registers → List DeviceOp × Registers
  | [], ρ => ([], ρ)
  | op :: ops, ρ =>
    if op.status = .success then
      let place := op.cls.place ctx
      let old := ρ place op.offset
      let (ops, ρ) := inPlace ctx ops (ρ.write place op.offset (op.left old))
      (op.report old :: ops, ρ)
    else
      let (ops, ρ) := inPlace ctx ops ρ
      (op :: ops, ρ)

section

variable {op : DeviceOp} (ops : List DeviceOp)

theorem inPlace_of_success (h : op.status = .success) (ρ : Registers) :
    inPlace ctx (op :: ops) ρ
      = (op.report (ρ (op.cls.place ctx) op.offset) ::
          (inPlace ctx ops (ρ.write (op.cls.place ctx) op.offset
            (op.left (ρ (op.cls.place ctx) op.offset)))).1,
        (inPlace ctx ops (ρ.write (op.cls.place ctx) op.offset
          (op.left (ρ (op.cls.place ctx) op.offset)))).2) := by
  rw [inPlace, if_pos h]

theorem inPlace_of_ne (h : op.status ≠ .success) (ρ : Registers) :
    inPlace ctx (op :: ops) ρ = (op :: (inPlace ctx ops ρ).1, (inPlace ctx ops ρ).2) := by
  rw [inPlace, if_neg h]

theorem run_of_success (h : op.status = .success) (hf : op.offset ∉ faults) (f : Files)
    (failed : Nat) :
    run faults mode f failed (op :: ops)
      = ((run faults mode (f.apply op).2 failed ops).1,
        (f.apply op).1 :: (run faults mode (f.apply op).2 failed ops).2) := by
  cases mode with
  | allOrNone | continueOnError => rw [run, if_neg (not_not_intro h), if_neg hf]

theorem run_of_ne (h : op.status ≠ .success) (f : Files) (failed : Nat) :
    run faults mode f failed (op :: ops)
      = ((run faults mode f failed ops).1, op :: (run faults mode f failed ops).2) := by
  cases mode with
  | allOrNone | continueOnError => rw [run, if_pos h]

/-- A fault is found when the operation is to be carried out, and counted then. -/
theorem run_of_fault (h : op.status = .success) (hf : op.offset ∈ faults) (f : Files)
    (failed : Nat) :
    run faults .continueOnError f failed (op :: ops)
      = ((run faults .continueOnError f (failed + 1) ops).1,
        op.withStatus .invalidOffset ::
          (run faults .continueOnError f (failed + 1) ops).2) := by
  rw [run, if_neg (not_not_intro h), if_pos hf]
  rfl

end

/-- The status of an operation when a call has gone through: a fault counts only when nothing else
is wrong. -/
def finalStatus (d : Device) (ctx : Option ContextId) (op : DeviceOp) : DeviceStatus :=
  if d.validate ctx op = .success ∧ op.offset ∈ d.faults then .invalidOffset else d.validate ctx op

/-- Operations with the statuses that they have before anything is carried out. -/
def checked (d : Device) (ctx : Option ContextId) (ops : List DeviceOp) : List DeviceOp :=
  ops.map fun op => op.withStatus (d.validate ctx op)

/-- Operations with the statuses that they have when a call has gone through. -/
def judged (d : Device) (ctx : Option ContextId) (ops : List DeviceOp) : List DeviceOp :=
  ops.map fun op => op.withStatus (d.finalStatus ctx op)

theorem map_validate (d : Device) (ctx : Option ContextId) (ops : List DeviceOp) :
    (ops.map fun op => { op with status := d.validate ctx op }) = d.checked ctx ops := rfl

theorem checked_cons (op : DeviceOp) (ops : List DeviceOp) :
    d.checked ctx (op :: ops) = op.withStatus (d.validate ctx op) :: d.checked ctx ops := rfl

theorem judged_cons (op : DeviceOp) (ops : List DeviceOp) :
    d.judged ctx (op :: ops) = op.withStatus (d.finalStatus ctx op) :: d.judged ctx ops := rfl

theorem finalStatus_eq_success_iff {op : DeviceOp} :
    d.finalStatus ctx op = .success ↔ d.validate ctx op = .success ∧ op.offset ∉ d.faults := by
  unfold finalStatus
  split
  · rename_i h
    exact ⟨nofun, fun hn => absurd h.2 hn.2⟩
  · rename_i h
    exact ⟨fun hs => ⟨hs, fun hf => h ⟨hs, hf⟩⟩, And.left⟩

/-- Only with a context is an operation on an image valid. -/
theorem class_of_validate {op : DeviceOp} (h : d.validate ctx op = .success) :
    ¬(op.cls = .grContext ∧ ctx = none) := by
  intro hc
  unfold validate at h
  split at h
  · cases h
  · rw [if_pos hc] at h
    split at h <;> cases h

/-- Being carried out does not change a status. -/
theorem inPlace_status (ctx : Option ContextId) (ops : List DeviceOp) (ρ : Registers) :
    (inPlace ctx ops ρ).1.map (·.status) = ops.map (·.status) := by
  induction ops generalizing ρ with
  | nil => rfl
  | cons op ops ih =>
    by_cases h : op.status = .success
    · rw [inPlace_of_success ops h, List.map_cons, List.map_cons, ih, DeviceOp.report_status]
    · rw [inPlace_of_ne ops h, List.map_cons, List.map_cons, ih]

/-- **No other register changes** than those that are written to. -/
theorem inPlace_elsewhere {ops : List DeviceOp} {p : Option ContextId} {o : UInt32}
    (h : ∀ op ∈ ops, op.status = .success → op.cls.place ctx = p → op.offset = o → ¬op.Writes)
    (ρ : Registers) : (inPlace ctx ops ρ).2 p o = ρ p o := by
  induction ops generalizing ρ with
  | nil => rfl
  | cons op ops ih =>
    have hrest := fun ρ => ih (fun x hx => h x (List.mem_cons_of_mem _ hx)) ρ
    by_cases hs : op.status = .success
    · rw [inPlace_of_success ops hs]
      refine (hrest _).trans ?_
      by_cases hpo : op.cls.place ctx = p ∧ op.offset = o
      · obtain ⟨rfl, rfl⟩ := hpo
        rw [DeviceOp.left_of_not_writes (h op List.mem_cons_self hs rfl rfl), Registers.write_self]
      · exact if_neg fun hn => hpo ⟨hn.1.symm, hn.2.symm⟩
    · rw [inPlace_of_ne ops hs]
      exact hrest ρ

/-- What the device makes of operations that it has validated. It goes on counting those that have
failed, so when it has begun with the ones that are not valid, it ends with all of them. -/
theorem run_inPlace (d : Device) (ctx : Option ContextId) (ρ : Registers) (ops : List DeviceOp)
    (f : Files) (failed : Nat) :
    ∃ f' failed' done,
      run d.faults .continueOnError f failed (d.checked ctx ops) = (.ok (f', failed'), done) ∧
      inPlace ctx (d.judged ctx ops) (f.registers ctx ρ) = (done, f'.registers ctx ρ) ∧
      f'.image.Covers f.image ∧
      failed' + (d.checked ctx ops).countP (!·.succeeded)
        = failed + done.countP (!·.succeeded) := by
  induction ops generalizing f failed with
  | nil => exact ⟨f, failed, [], rfl, rfl, .refl _, rfl⟩
  | cons op ops ih =>
    rw [checked_cons, judged_cons]
    generalize hst : d.validate ctx op = st
    by_cases hs : (op.withStatus st).status = .success
    · by_cases hf : (op.withStatus st).offset ∈ d.faults
      · have hfinal : d.finalStatus ctx op = .invalidOffset := if_pos ⟨hst.trans hs, hf⟩
        have hbad : (op.withStatus .invalidOffset).status ≠ .success :=
          show DeviceStatus.invalidOffset ≠ .success by decide
        obtain ⟨f', failed', done, hr, hp, hk, hn⟩ := ih f (failed + 1)
        rw [run_of_fault _ hs hf, hr, hfinal, inPlace_of_ne _ hbad, hp]
        refine ⟨f', failed', op.withStatus .invalidOffset :: done, rfl, rfl, hk, ?_⟩
        rw [DeviceOp.countP_failed_of_success hs, DeviceOp.countP_failed_of_ne hbad,
          ← Nat.add_assoc, hn, Nat.add_right_comm]
      · have hfinal : d.finalStatus ctx op = st := (if_neg fun h => hf h.2).trans hst
        obtain ⟨hop, hregs, hkeep⟩ :=
          f.apply_report ρ (op.withStatus st) (class_of_validate (hst.trans hs))
        obtain ⟨f', failed', done, hr, hp, hk, hn⟩ := ih (f.apply (op.withStatus st)).2 failed
        rw [run_of_success _ hs hf, hr, hfinal, inPlace_of_success _ hs, ← hregs, hp, ← hop]
        refine ⟨f', failed', _ :: done, rfl, rfl, hk.trans hkeep, ?_⟩
        rw [DeviceOp.countP_failed_of_success hs,
          DeviceOp.countP_failed_of_success (by rw [hop, DeviceOp.report_status]; exact hs)]
        exact hn
    · -- What is not valid is passed over.
      have hfinal : d.finalStatus ctx op = st := (if_neg fun h => hs (hst.symm.trans h.1)).trans hst
      obtain ⟨f', failed', done, hr, hp, hk, hn⟩ := ih f failed
      rw [run_of_ne _ hs, hr, hfinal, inPlace_of_ne _ hs, hp]
      refine ⟨f', failed', _ :: done, rfl, rfl, hk, ?_⟩
      rw [DeviceOp.countP_failed_of_ne hs, DeviceOp.countP_failed_of_ne hs, ← Nat.add_assoc, hn]
      rfl

/-- The modes differ in what they do about faults only. -/
theorem run_of_no_fault (mode : ExecMode) (f : Files) (failed : Nat) {ops : List DeviceOp}
    (h : ∀ op ∈ ops, op.status = .success → op.offset ∉ faults) :
    run faults mode f failed ops = run faults .continueOnError f failed ops := by
  induction ops generalizing f failed with
  | nil => rfl
  | cons op ops ih =>
    have hrest := fun f failed => ih f failed fun x hx => h x (List.mem_cons_of_mem _ hx)
    by_cases hs : op.status = .success
    · have ho := h op List.mem_cons_self hs
      rw [run_of_success ops hs ho, run_of_success ops hs ho, hrest]
    · rw [run_of_ne ops hs, run_of_ne ops hs, hrest]

/-- In all-or-none mode the first fault ends the call. -/
theorem run_of_any_fault (f : Files) (failed : Nat) {ops : List DeviceOp}
    (hs : ∀ op ∈ ops, op.status = .success) (hf : ∃ op ∈ ops, op.offset ∈ faults) :
    ∃ offset done, run faults .allOrNone f failed ops = (.error offset, done) := by
  -- On the operations, with any registers: the ones in front of the fault change them.
  induction ops generalizing f with
  | nil =>
    obtain ⟨op, hop, -⟩ := hf
    cases hop
  | cons op ops ih =>
    have hop := hs op List.mem_cons_self
    by_cases ho : op.offset ∈ faults
    · refine ⟨op.offset, op :: ops, ?_⟩
      rw [run, if_neg (not_not_intro hop), if_pos ho]
    · have hrest : ∃ x ∈ ops, x.offset ∈ faults := by
        obtain ⟨x, hx, hxf⟩ := hf
        rcases List.mem_cons.mp hx with rfl | hx
        · exact absurd hxf ho
        · exact ⟨x, hx, hxf⟩
      obtain ⟨offset, done, hr⟩ := ih (f.apply op).2 (fun x hx => hs x (List.mem_cons_of_mem _ hx))
        hrest
      rw [run_of_success ops hop ho, hr]
      exact ⟨offset, _, rfl⟩

/-! ## Calls -/

theorem mem_checked {ops : List DeviceOp} {x : DeviceOp} (hx : x ∈ d.checked ctx ops) :
    ∃ op ∈ ops, x = op.withStatus (d.validate ctx op) := by
  obtain ⟨op, hop, rfl⟩ := List.mem_map.mp hx
  exact ⟨op, hop, rfl⟩

/-- **A call in continue-on-error mode goes through.** -/
theorem execute_continueOnError (d : Device) (ctx : Option ContextId) (ops : List DeviceOp) :
    ∃ d', d.execute ctx .continueOnError ops
        = (⟨.ok (), (inPlace ctx (d.judged ctx ops) d.registers).1,
            (inPlace ctx (d.judged ctx ops) d.registers).1.all (·.succeeded),
            !ops.isEmpty && ops.all (·.cls == .global)⟩, d') ∧
      d'.registers = (inPlace ctx (d.judged ctx ops) d.registers).2 := by
  obtain ⟨f, failed, done, hr, hp, hk, hn⟩ := d.run_inPlace ctx d.registers ops (d.files ctx)
    ((d.checked ctx ops).countP (!·.succeeded))
  rw [registers_files] at hp
  rw [hp]
  refine ⟨{ d with execCalls := d.execCalls + 1 }.withFiles ctx f, ?_, ?_⟩
  · have hall : (failed == 0) = done.all (·.succeeded) := by
      rw [Nat.add_comm, Nat.add_left_cancel_iff] at hn
      rw [hn, Bool.eq_iff_iff, beq_iff_eq, List.countP_eq_zero]
      simp
    unfold execute
    dsimp only
    rw [if_neg (fun h => by cases h.1), map_validate, hr]
    dsimp only
    rw [hall]
  · exact registers_withFiles (d := { d with execCalls := d.execCalls + 1 }) hk

/-- **When each operation can be carried out, the modes do the same.** -/
theorem execute_of_success {ops : List DeviceOp}
    (h : mode = .allOrNone → ∀ op ∈ ops, d.finalStatus ctx op = .success) :
    d.execute ctx mode ops = d.execute ctx .continueOnError ops := by
  cases mode with
  | continueOnError => rfl
  | allOrNone =>
    have hchecked : ∀ x ∈ d.checked ctx ops, x.status = .success ∧ x.offset ∉ d.faults := by
      intro x hx
      obtain ⟨op, hop, rfl⟩ := mem_checked hx
      exact finalStatus_eq_success_iff.mp (h rfl op hop)
    have hvalid : (d.checked ctx ops).countP (!·.succeeded) = 0 := by
      rw [List.countP_eq_zero]
      intro x hx
      simp [DeviceOp.succeeded, (hchecked x hx).1]
    unfold execute
    dsimp only
    rw [map_validate, hvalid,
      if_neg (fun hn => absurd hn.2 (Nat.lt_irrefl 0)),
      if_neg (fun hn => absurd hn.2 (Nat.lt_irrefl 0)),
      run_of_no_fault .allOrNone _ _ fun x hx _ => (hchecked x hx).2]

/-- **When an operation cannot be carried out, an all-or-none call fails,** and nothing is left of
it. -/
theorem execute_of_failed {ops : List DeviceOp} (h : ∃ op ∈ ops, d.finalStatus ctx op ≠ .success) :
    ∃ failure done direct,
      d.execute ctx .allOrNone ops
        = (⟨.error failure, done, false, direct⟩, { d with execCalls := d.execCalls + 1 }) := by
  unfold execute
  dsimp only
  rw [map_validate]
  by_cases hinvalid : 0 < (d.checked ctx ops).countP (!·.succeeded)
  · rw [if_pos ⟨rfl, hinvalid⟩]
    exact ⟨_, _, _, rfl⟩
  · -- All of them are valid, so it is a fault that makes one of them fail.
    have hvalid : ∀ x ∈ d.checked ctx ops, x.status = .success := by
      intro x hx
      have hz := List.countP_eq_zero.mp (Nat.eq_zero_of_not_pos hinvalid) x hx
      simpa [DeviceOp.succeeded] using hz
    have hfault : ∃ x ∈ d.checked ctx ops, x.offset ∈ d.faults := by
      obtain ⟨op, hop, hbad⟩ := h
      have hmem : op.withStatus (d.validate ctx op) ∈ d.checked ctx ops := List.mem_map_of_mem hop
      by_contra hn
      exact hbad (finalStatus_eq_success_iff.mpr ⟨hvalid _ hmem, fun ho => hn ⟨_, hmem, ho⟩⟩)
    obtain ⟨offset, done, hr⟩ := run_of_any_fault (d.files ctx) _ hvalid hfault
    rw [if_neg (fun hn => hinvalid hn.2), hr]
    exact ⟨_, _, _, rfl⟩

/-- **It makes no difference that the device works on copies.** A call in continue-on-error mode
always goes through; an all-or-none call fails exactly if an operation is not valid or its register
faults. A call that fails leaves the device as it was, but for the count of calls. A call that goes
through comes to what it comes to on the registers themselves: each operation gets the status it
deserves, those that succeed are carried out one after the other, no register changes that none of
them writes to, and the call says that all have passed exactly if they have. -/
theorem copies_make_no_difference (d : Device) (ctx : Option ContextId) (mode : ExecMode)
    (ops : List DeviceOp) :
    let x := (d.execute ctx mode ops).1
    let d' := (d.execute ctx mode ops).2
    (mode = .continueOnError → x.outcome = .ok ()) ∧
    (mode = .allOrNone → ((∃ failure, x.outcome = .error failure) ↔
      ∃ op ∈ ops, d.validate ctx op ≠ .success ∨ op.offset ∈ d.faults)) ∧
    (∀ failure, x.outcome = .error failure → d' = { d with execCalls := d.execCalls + 1 }) ∧
    (x.outcome = .ok () →
      (x.ops, d'.registers) = inPlace ctx (d.judged ctx ops) d.registers ∧
      x.ops.map (·.status) = ops.map (d.finalStatus ctx) ∧
      (∀ p o, d'.registers p o ≠ d.registers p o → ∃ op ∈ ops,
        d.finalStatus ctx op = .success ∧ op.Writes ∧ op.cls.place ctx = p ∧ op.offset = o) ∧
      (x.allPassed = true ↔ ∀ op ∈ x.ops, op.status = .success)) := by
  have hfails : (∃ op ∈ ops, d.validate ctx op ≠ .success ∨ op.offset ∈ d.faults) ↔
      ∃ op ∈ ops, d.finalStatus ctx op ≠ .success := by
    refine exists_congr fun op => and_congr_right fun _ => ?_
    refine Iff.symm ((not_congr finalStatus_eq_success_iff).trans ?_)
    rw [Classical.not_and_iff_not_or_not, Classical.not_not]
  rw [hfails]
  by_cases h : mode = .allOrNone → ∀ op ∈ ops, d.finalStatus ctx op = .success
  · obtain ⟨d', he, hregs⟩ := d.execute_continueOnError ctx ops
    rw [execute_of_success h, he]
    refine ⟨fun _ => rfl, fun hm => ⟨nofun, ?_⟩, nofun, fun _ => ⟨?_, ?_, fun p o hpo => ?_, ?_⟩⟩
    · rintro ⟨op, hop, hbad⟩
      exact absurd (h hm op hop) hbad
    · rw [hregs]
    · rw [inPlace_status, judged, List.map_map]
      rfl
    · by_contra hn
      rw [hregs] at hpo
      refine hpo (inPlace_elsewhere (fun x hx hs hp ho hw => hn ?_) _)
      obtain ⟨op, hop, rfl⟩ := List.mem_map.mp hx
      exact ⟨op, hop, hs, hw, hp, ho⟩
    · simp [DeviceOp.succeeded]
  · simp only [Classical.not_imp, not_forall] at h
    obtain ⟨rfl, op, hop, hbad⟩ := h
    obtain ⟨failure, done, direct, he⟩ := execute_of_failed ⟨op, hop, hbad⟩
    rw [he]
    exact ⟨nofun, fun _ => ⟨fun _ => ⟨op, hop, hbad⟩, fun _ => ⟨failure, rfl⟩⟩, fun _ _ => rfl,
      nofun⟩

end Device

end Perfmon
