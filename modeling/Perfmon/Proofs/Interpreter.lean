import Perfmon.Proofs.Batches
import Perfmon.Proofs.InPlace
/-!
# Operations one at a time

What executing a list of operations means, on whole words and in the callers' form: every operation
is looked at by itself (`Device.verdict`), a good one has its effect on one register
(`RegOp.effect`), and the next one finds what it left (`Device.interpret`).

The device does this differently. It works on halves of words, validates the whole list before it
starts, and keeps copies of the registers meanwhile. The copies make no difference
(`execute_continueOnError`), so what is left to see is that the two forms agree on one operation
after the other; then they agree on a list in continue-on-error mode, which is `execute_ofRegOp`.
-/

namespace Perfmon

/-! ## The interpreter -/

/-- How many bytes an operation of a kind accesses. -/
def RegOp.Kind.width : Kind → Nat
  | .read32 | .write32 => 4
  | .read64 | .write64 => 8
  | .read08 | .write08 => 1

/-- What an operation brings back as its value, and what its register holds afterwards. -/
def RegOp.effect (op : RegOp) (old : UInt64) : UInt64 × UInt64 :=
  match op.kind? with
  | some .read32 => (old &&& 0xffffffff, old)
  | some .read64 => (old, old)
  | some .write32 =>
    (op.value, (old &&& ~~~(op.mask &&& 0xffffffff)) ||| (op.value &&& 0xffffffff))
  | some .write64 => (op.value, (old &&& ~~~op.mask) ||| op.value)
  | some .read08 | some .write08 | none => (op.value, old)

namespace Device

/-- The status that an operation gets. -/
def verdict (d : Device) (cls : AccessClass) (ctx : Option ContextId) (op : RegOp) : UInt8 :=
  match op.kind? with
  | none => RegOp.invalidOp
  | some k =>
    if k.width = 1 then RegOp.unsupportedOp
    else if cls = .grContext ∧ ctx = none then RegOp.invalidType
    else if op.offset.toNat % k.width ≠ 0 ∨ !d.windowBound op.offset.toNat k.width then
      RegOp.invalidOffset
    else if op.offset ∈ d.faults then RegOp.invalidOffset
    else RegOp.success

/-- Interprets one operation: the operation as it is reported, and the registers behind it. -/
def interpretOne (d : Device) (cls : AccessClass) (ctx : Option ContextId) (op : RegOp)
    (ρ : Registers) : RegOp × Registers :=
  let status := d.verdict cls ctx op
  if status = RegOp.success then
    let (value, left) := op.effect (ρ (cls.place ctx) op.offset)
    ({ op with status, value }, ρ.write (cls.place ctx) op.offset left)
  else ({ op with status }, ρ)

/-- Interprets operations in order. The device only says which windows are open and which offsets
fault; neither changes meanwhile. -/
def interpret (d : Device) (cls : AccessClass) (ctx : Option ContextId) :
    List RegOp → Registers → List RegOp × Registers
  | [], ρ => ([], ρ)
  | op :: ops, ρ =>
    let (op, ρ) := d.interpretOne cls ctx op ρ
    let (ops, ρ) := interpret d cls ctx ops ρ
    (op :: ops, ρ)

variable {d d' : Device} {cls : AccessClass} {ctx : Option ContextId}

theorem interpretOne_of_eq {op : RegOp} {ρ : Registers}
    (h : d.verdict cls ctx op = RegOp.success) :
    d.interpretOne cls ctx op ρ =
      ({ op with
          status := RegOp.success
          value := (op.effect (ρ (cls.place ctx) op.offset)).1 },
        ρ.write (cls.place ctx) op.offset (op.effect (ρ (cls.place ctx) op.offset)).2) := by
  unfold interpretOne
  rw [h]
  rfl

theorem interpretOne_of_ne {op : RegOp} {ρ : Registers}
    (h : d.verdict cls ctx op ≠ RegOp.success) :
    d.interpretOne cls ctx op ρ = ({ op with status := d.verdict cls ctx op }, ρ) :=
  if_neg h

/-- Whatever becomes of an operation, it is reported with its status. -/
theorem interpretOne_status (op : RegOp) (ρ : Registers) :
    (d.interpretOne cls ctx op ρ).1.status = d.verdict cls ctx op := by
  by_cases h : d.verdict cls ctx op = RegOp.success
  · rw [interpretOne_of_eq h, h]
  · rw [interpretOne_of_ne h]

@[simp] theorem length_interpret (ops : List RegOp) (ρ : Registers) :
    (d.interpret cls ctx ops ρ).1.length = ops.length := by
  induction ops generalizing ρ with
  | nil => rfl
  | cons op ops ih => simp only [interpret, List.length_cons, ih]

/-- The operations of a second list find what those of the first one left. -/
theorem interpret_append (d : Device) (cls : AccessClass) (ctx : Option ContextId)
    (xs ys : List RegOp) (ρ : Registers) :
    d.interpret cls ctx (xs ++ ys) ρ =
      ((d.interpret cls ctx xs ρ).1 ++ (d.interpret cls ctx ys (d.interpret cls ctx xs ρ).2).1,
        (d.interpret cls ctx ys (d.interpret cls ctx xs ρ).2).2) := by
  induction xs generalizing ρ with
  | nil => rfl
  | cons op xs ih => simp only [List.cons_append, interpret, ih]

theorem interpret_congr (h : RegistersOnly d d') : d'.interpret cls ctx = d.interpret cls ctx := by
  have hw : d'.windowBound = d.windowBound := by
    unfold windowBound boundTo
    rw [h.bound]
  have hv : d'.verdict cls ctx = d.verdict cls ctx := by
    unfold verdict
    rw [hw, h.faults]
  funext ops
  induction ops with
  | nil => rfl
  | cons op ops ih =>
    funext ρ
    simp only [interpret, interpretOne, hv, ih]

end Device

/-! ## One operation on the device -/

theorem DeviceStatus.toByte_eq_success_iff {st : DeviceStatus} :
    st.toByte = RegOp.success ↔ st = .success := by
  cases st <;> decide

/-- The device's code of an operation is that of its kind. -/
theorem DeviceCode.ofByte_eq_known {op : RegOp} {k : RegOp.Kind} (h : op.kind? = some k) :
    ofByte op.code = .known k := by
  unfold ofByte
  rw [show RegOp.Kind.ofCode? op.code = some k from h]

theorem DeviceCode.ofByte_eq_invalid {op : RegOp} (h : op.kind? = none) :
    ofByte op.code = .invalid op.code := by
  unfold ofByte
  rw [show RegOp.Kind.ofCode? op.code = none from h]

/-- What comes back of an operation that got a status on the device and kept its value. -/
theorem DeviceOp.toRegOp_status (cls : AccessClass) (op : RegOp) (status : DeviceStatus) :
    toRegOp { ofRegOp cls op with status } = { op with status := status.toByte } := by
  simp only [toRegOp, ofRegOp, DeviceCode.toByte_ofByte, Word.join_high_low]

/-- The halves of a write of the low half are those of the same write on whole words. -/
theorem Word.join_write_low (old mask value : UInt64) :
    join (high old) ((low old &&& ~~~low mask) ||| low value)
      = (old &&& ~~~(mask &&& 0xffffffff)) ||| (value &&& 0xffffffff) := by
  apply Word.ext
  · rw [high_join, high_or, high_and, high_not, high_and_low, high_and_low]
    simp
  · rw [low_join, low_or, low_and, low_not, low_and_low, low_and_low]

theorem Word.join_zero_low (v : UInt64) : Word.join 0 (Word.low v) = v &&& 0xffffffff := by
  apply Word.ext
  · rw [high_join, high_and_low]
  · rw [low_join, low_and_low]

/-- What a caller's operation reports on the device, and what it leaves there, is its effect. -/
theorem DeviceOp.report_ofRegOp (cls : AccessClass) (op : RegOp) (st : DeviceStatus)
    (old : UInt64) :
    (((ofRegOp cls op).withStatus st).report old).toRegOp
        = { op with status := st.toByte, value := (op.effect old).1 } ∧
      ((ofRegOp cls op).withStatus st).left old = (op.effect old).2 := by
  have hcode : ((ofRegOp cls op).withStatus st).code = DeviceCode.ofByte op.code := rfl
  have hmask : ((ofRegOp cls op).withStatus st).mask = op.mask := Word.join_high_low op.mask
  have hvalue : ((ofRegOp cls op).withStatus st).value = op.value := Word.join_high_low op.value
  have hbyte := DeviceCode.toByte_ofByte op.code
  unfold report left RegOp.effect
  rw [hcode]
  cases hk : op.kind? with
  | none =>
    rw [DeviceCode.ofByte_eq_invalid hk]
    exact ⟨toRegOp_status cls op st, rfl⟩
  | some kind =>
    rw [DeviceCode.ofByte_eq_known hk] at hbyte ⊢
    cases kind with
    | read08 | write08 => exact ⟨toRegOp_status cls op st, rfl⟩
    | read32 => exact ⟨by simp [toRegOp, withStatus, ofRegOp, hbyte, Word.join_zero_low], rfl⟩
    | read64 => exact ⟨by simp [toRegOp, withStatus, ofRegOp, hbyte], rfl⟩
    | write32 => exact ⟨toRegOp_status cls op st, Word.join_write_low old op.mask op.value⟩
    | write64 =>
      dsimp only
      rw [hmask, hvalue]
      exact ⟨toRegOp_status cls op st, rfl⟩

namespace Device

variable {d : Device} {cls : AccessClass} {ctx : Option ContextId}

/-! ## Lists of operations on the device -/

theorem validate_ofRegOp {op : RegOp} {k : RegOp.Kind} (h : op.kind? = some k) :
    d.validate ctx (.ofRegOp cls op) =
      if k.width = 1 then .unsupportedOp
      else if cls = .grContext ∧ ctx = none then .invalidType
      else if op.offset.toNat % k.width ≠ 0 ∨ !d.windowBound op.offset.toNat k.width then
        .invalidOffset
      else .success := by
  unfold validate
  rw [show (DeviceOp.ofRegOp cls op).code = .known k from DeviceCode.ofByte_eq_known h]
  cases k <;> rfl

/-- The verdict is the device's. -/
theorem verdict_eq (d : Device) (cls : AccessClass) (ctx : Option ContextId) (op : RegOp) :
    d.verdict cls ctx op = (d.finalStatus ctx (.ofRegOp cls op)).toByte := by
  unfold verdict finalStatus
  generalize hst : d.validate ctx (.ofRegOp cls op) = st
  cases hk : op.kind? with
  | none =>
    unfold validate at hst
    rw [show (DeviceOp.ofRegOp cls op).code = .invalid op.code from
      DeviceCode.ofByte_eq_invalid hk] at hst
    subst hst
    rfl
  | some k =>
    rw [validate_ofRegOp hk] at hst
    dsimp only
    -- The checks of both sides, one after the other.
    by_cases hw : k.width = 1
    · rw [if_pos hw] at hst ⊢
      subst hst
      rfl
    rw [if_neg hw] at hst ⊢
    by_cases hc : cls = .grContext ∧ ctx = none
    · rw [if_pos hc] at hst ⊢
      subst hst
      rfl
    rw [if_neg hc] at hst ⊢
    by_cases ho : op.offset.toNat % k.width ≠ 0 ∨ !d.windowBound op.offset.toNat k.width
    · rw [if_pos ho] at hst ⊢
      subst hst
      rfl
    rw [if_neg ho] at hst ⊢
    subst hst
    by_cases hf : op.offset ∈ d.faults
    · rw [if_pos hf, if_pos ⟨rfl, hf⟩]
      rfl
    · rw [if_neg hf, if_neg (fun h => hf h.2)]
      rfl

/-- The interpreter does in the callers' form what is done in the device's. -/
theorem inPlace_ofRegOp (d : Device) (cls : AccessClass) (ctx : Option ContextId)
    (ops : List RegOp) (ρ : Registers) :
    (inPlace ctx (d.judged ctx (ops.map (DeviceOp.ofRegOp cls))) ρ).1.map DeviceOp.toRegOp
        = (d.interpret cls ctx ops ρ).1 ∧
      (inPlace ctx (d.judged ctx (ops.map (DeviceOp.ofRegOp cls))) ρ).2
        = (d.interpret cls ctx ops ρ).2 := by
  induction ops generalizing ρ with
  | nil => exact ⟨rfl, rfl⟩
  | cons op ops ih =>
    have hv := d.verdict_eq cls ctx op
    rw [List.map_cons, judged_cons, interpret]
    generalize d.finalStatus ctx (.ofRegOp cls op) = st at hv ⊢
    by_cases hs : ((DeviceOp.ofRegOp cls op).withStatus st).status = .success
    · obtain ⟨hreport, hleft⟩ :=
        DeviceOp.report_ofRegOp cls op st (ρ (cls.place ctx) op.offset)
      have hverdict : d.verdict cls ctx op = RegOp.success :=
        hv.trans (DeviceStatus.toByte_eq_success_iff.mpr hs)
      rw [inPlace_of_success _ hs, interpretOne_of_eq hverdict, ← hleft]
      obtain ⟨hops, hregs⟩ := ih (ρ.write (cls.place ctx) op.offset
        (((DeviceOp.ofRegOp cls op).withStatus st).left (ρ (cls.place ctx) op.offset)))
      refine ⟨?_, hregs⟩
      dsimp only
      rw [List.map_cons, ← hops]
      refine congrArg (· :: _) (hreport.trans ?_)
      rw [← hv, hverdict]
    · have hverdict : d.verdict cls ctx op ≠ RegOp.success := by
        rw [hv]
        exact mt DeviceStatus.toByte_eq_success_iff.mp hs
      rw [inPlace_of_ne _ hs, interpretOne_of_ne hverdict, hv]
      obtain ⟨hops, hregs⟩ := ih ρ
      refine ⟨?_, hregs⟩
      dsimp only
      rw [List.map_cons, hops]
      exact congrArg (· :: _) (DeviceOp.toRegOp_status cls op st)

theorem succeeded_toRegOp (op : DeviceOp) : op.toRegOp.succeeded = op.succeeded := by
  rw [Bool.eq_iff_iff]
  simp only [RegOp.succeeded, DeviceOp.succeeded, beq_iff_eq]
  exact DeviceStatus.toByte_eq_success_iff

/-- Operations of one class go straight to the hardware if it is the class for that. -/
theorem direct_ofRegOp (ops : List RegOp) :
    (!(ops.map (DeviceOp.ofRegOp cls)).isEmpty &&
      (ops.map (DeviceOp.ofRegOp cls)).all (·.cls == .global))
        = (!ops.isEmpty && cls == .global) := by
  cases ops with
  | nil => rfl
  | cons op ops =>
    rw [Bool.eq_iff_iff]
    simp only [DeviceOp.ofRegOp, List.map_cons, List.isEmpty_cons, Bool.not_false, Bool.true_and,
      List.all_eq_true, List.mem_cons, List.mem_map]
    constructor
    · intro h
      exact h _ (Or.inl rfl)
    · rintro h x (rfl | ⟨y, -, rfl⟩) <;> exact h

/-- **The device does with a list of operations what the interpreter does,** in continue-on-error
mode. -/
theorem execute_ofRegOp (d : Device) (cls : AccessClass) (ctx : Option ContextId)
    (ops : List RegOp) :
    ∃ done d',
      d.execute ctx .continueOnError (ops.map (DeviceOp.ofRegOp cls))
        = (⟨.ok (), done, (d.interpret cls ctx ops d.registers).1.all (·.succeeded),
            !ops.isEmpty && cls == .global⟩, d') ∧
      done.map DeviceOp.toRegOp = (d.interpret cls ctx ops d.registers).1 ∧
      d'.registers = (d.interpret cls ctx ops d.registers).2 := by
  obtain ⟨d', he, hregs⟩ := d.execute_continueOnError ctx (ops.map (DeviceOp.ofRegOp cls))
  obtain ⟨hops, hleft⟩ := d.inPlace_ofRegOp cls ctx ops d.registers
  refine ⟨_, d', ?_, hops, hregs.trans hleft⟩
  have hall : (d.interpret cls ctx ops d.registers).1.all (·.succeeded)
      = (inPlace ctx (d.judged ctx (ops.map (DeviceOp.ofRegOp cls))) d.registers).1.all
        (·.succeeded) := by
    rw [← hops, List.all_map]
    refine congrArg (List.all _) (funext fun op => ?_)
    exact succeeded_toRegOp op
  rw [he, direct_ofRegOp, hall]

end Device

end Perfmon
