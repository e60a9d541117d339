import Perfmon.Proofs.Interpreter
/-!
# Operations that can be carried out

An operation can be carried out when it is valid and its register does not fault (`Device.Admits`).
In all-or-none mode the device executes a list of operations exactly if all of them can be carried
out, and then the two modes do the same (`execute_of_admits`); otherwise the call fails as a whole
and the registers stay as they were (`execute_refused`).

There are two ways to fail. An operation that is not valid is found before anything is executed, a
fault only when the operations in front of it have been carried out on the copies.
-/

namespace Perfmon.Device

variable {d d' : Device} {cls : AccessClass} {ctx : Option ContextId} {faults : List UInt32}
  {mode : ExecMode}

/-- An operation of a class can be carried out in a context. -/
def Admits (d : Device) (cls : AccessClass) (ctx : Option ContextId) (op : RegOp) : Prop :=
  d.validate ctx (.ofRegOp cls op) = .success ∧ op.offset ∉ d.faults

instance (d : Device) (cls : AccessClass) (ctx : Option ContextId) (op : RegOp) :
    Decidable (d.Admits cls ctx op) :=
  inferInstanceAs (Decidable (_ ∧ _))

theorem admits_congr (h : RegistersOnly d d') (op : RegOp) :
    d'.Admits cls ctx op ↔ d.Admits cls ctx op := by
  have hw : d'.windowBound = d.windowBound := by
    unfold windowBound boundTo
    rw [h.bound]
  unfold Admits validate
  rw [hw, h.faults]

/-! ## Lists of operations -/

theorem admits_iff (op : RegOp) :
    d.Admits cls ctx op ↔ d.finalStatus ctx (.ofRegOp cls op) = .success :=
  finalStatus_eq_success_iff.symm

/-- **Operations that can all be carried out are executed alike in both modes.** -/
theorem execute_of_admits {ops : List RegOp}
    (h : mode = .allOrNone → ∀ op ∈ ops, d.Admits cls ctx op) :
    d.execute ctx mode (ops.map (.ofRegOp cls))
      = d.execute ctx .continueOnError (ops.map (.ofRegOp cls)) := by
  refine execute_of_success fun hm x hx => ?_
  obtain ⟨op, hop, rfl⟩ := List.mem_map.mp hx
  exact (admits_iff op).mp (h hm op hop)

/-- **A list with an operation that cannot be carried out is refused in all-or-none mode,** and the
registers stay as they were. -/
theorem execute_refused {ops : List RegOp} (h : ∃ op ∈ ops, ¬d.Admits cls ctx op) :
    ∃ failure done direct,
      d.execute ctx .allOrNone (ops.map (.ofRegOp cls))
        = (⟨.error failure, done, false, direct⟩, { d with execCalls := d.execCalls + 1 }) := by
  obtain ⟨op, hop, hbad⟩ := h
  exact execute_of_failed ⟨_, List.mem_map_of_mem hop, mt (admits_iff op).mpr hbad⟩

end Perfmon.Device
