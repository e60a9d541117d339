import Perfmon.Proofs.Interchange
/-!
# What is written back

However an attempt ends, in whatever mode, it leaves a prefix of the batch written back, and a prefix
that is no shorter carried out (`execute_ends`). The windows that were written back are the first
of the two, no more and no less; an operation in one of them is what the interpreter reports of it,
and in all-or-none mode it can be carried out (`reported_of_writtenBack`). A register that is not what
it was before belongs to a write in the second (`writes_of_execute`).
-/

namespace Perfmon

/-- The position behind the first `k` windows. -/
structure Windows.Behind (c : Windows) (k : Nat) : Prop where
  inside : c.position ≤ c.total
  aligned : c.position < c.total → c.position = c.capacity * k

theorem Windows.behind_ofBatch (total capacity : Nat) : (ofBatch total capacity).Behind 0 :=
  ⟨Nat.zero_le _, fun _ => rfl⟩

theorem Windows.Behind.next {c d : Windows} {w : Window} {k : Nat} (h : c.Behind k)
    (hc : 0 < c.capacity) (hn : c.next? = some (w, d)) :
    w.start / c.capacity = k ∧ d.Behind (k + 1) := by
  obtain ⟨hs, hpos, -, hstop, hd⟩ := next?_eq_some hn
  have halign : w.start = c.capacity * k := by
    rw [hs]
    refine h.aligned (Nat.lt_of_lt_of_le ?_ hstop)
    rw [← hs]
    exact Nat.lt_add_of_pos_right hpos
  refine ⟨by rw [halign, Nat.mul_div_cancel_left k hc], ?_⟩
  rw [hd]
  refine ⟨hstop, fun hlt => ?_⟩
  rw [Nat.mul_succ, ← halign, ← len_of_stop_lt hn hlt]
  rfl

namespace Batch

variable {j : BatchJob} {b₀ b : Batch} {k : Nat}

/-- A batch that stands behind its first `k` windows leaves prefixes of itself written back and
carried out. The windows that it writes back are windows that it gets through, and they cover the
first of the two prefixes. -/
theorem Covered.ends {c : Windows} (h : Covered j b₀ k c.position b) (hk : c.Behind k)
    (hcap : c.capacity = b₀.staging.capacity) (hd : b₀.staging.device.length = b₀.staging.capacity)
    (hc : 0 < c.capacity) :
    ∃ written applied shown, Left j b₀ written applied shown (Batch.run j c b).2 ∧
      written ≤ applied ∧ applied ≤ c.total ∧ applied ≤ b₀.buffer.memory.size ∧
      c.position ≤ written ∧
      (∀ w ∈ writtenBack j c.toList b, w.stop ≤ written ∧ Clears j b₀ w) ∧
      ∀ i, c.position ≤ i → i < written →
        ∃ w ∈ writtenBack j c.toList b, w.start ≤ i ∧ i < w.stop := by
  fun_induction Batch.run j c b generalizing k with
  | case1 c b hn =>
    refine ⟨_, _, _, h.left, Nat.le_refl _, hk.inside, h.inside, Nat.le_refl _, ?_, fun i hi hi' => ?_⟩
    · rw [Windows.toList_of_next?_eq_none hn]
      intro w hw
      cases hw
    · exact absurd hi' (Nat.not_lt.mpr hi)
  | case2 c b w d hn _ e b' hw =>
    obtain ⟨hs, hpos, hlen, hstop, -⟩ := Windows.next?_eq_some hn
    rw [← hs] at h ⊢
    rcases h.window_cases (hcap ▸ (hk.next hc hn).1) (hcap ▸ hlen) hd with
      ⟨b₁, -, hrun, -⟩ | ⟨err, b₁, applied, shown, hrun, hle, hge, hsize, hleft⟩
    · rw [hw] at hrun
      cases hrun
    · rw [hw] at hrun
      cases hrun
      refine ⟨_, _, _, hleft, hle, Nat.le_trans hge hstop, hsize, Nat.le_refl _, ?_,
        fun i hi hi' => ?_⟩
      · rw [Windows.toList_of_next?_eq_some hn, writtenBack, hw]
        intro v hv
        cases hv
      · exact absurd hi' (Nat.not_lt.mpr hi)
  | case3 c b w d hn _ b' hw ih =>
    obtain ⟨hs, hpos, hlen, -, rfl⟩ := Windows.next?_eq_some hn
    obtain ⟨hdiv, hnext⟩ := hk.next hc hn
    rw [← hs] at h ⊢
    rcases h.window_cases (hcap ▸ hdiv) (hcap ▸ hlen) hd with
      ⟨b₁, hclear, hrun, hcov⟩ | ⟨err, b₁, applied, shown, hrun, -⟩
    · rw [hw] at hrun
      cases hrun
      obtain ⟨written, applied, shown, hleft, hle, hge, hsize, hstop, hall, hcover⟩ :=
        ih hcov hnext hcap hc
      refine ⟨written, applied, shown, hleft, hle, hge, hsize,
        Nat.le_trans (Nat.le_add_right _ _) hstop, ?_⟩
      rw [Windows.toList_of_next?_eq_some hn, writtenBack, hw]
      refine ⟨fun v hv => ?_, fun i hi hi' => ?_⟩
      · rcases List.mem_cons.mp hv with rfl | hv
        · exact ⟨hstop, hclear⟩
        · exact hall v hv
      · by_cases hin : i < w.stop
        · exact ⟨w, List.mem_cons_self, hi, hin⟩
        · obtain ⟨v, hv, hcovered⟩ := hcover i (Nat.not_lt.mp hin) hi'
          exact ⟨v, List.mem_cons_of_mem _ hv, hcovered⟩
    · rw [hw] at hrun
      cases hrun

end Batch

/-! ## Operations and registers one by one -/

namespace Device

variable {d : Device} {cls : AccessClass} {ctx : Option ContextId}

/-- An operation is reported as it would be by itself, with registers that the ones before it left.
-/
theorem getElem?_interpret (d : Device) (cls : AccessClass) (ctx : Option ContextId)
    {ops : List RegOp} {i : Nat} {op : RegOp} (h : ops[i]? = some op) (ρ : Registers) :
    ∃ ρ', (d.interpret cls ctx ops ρ).1[i]? = some (d.interpretOne cls ctx op ρ').1 := by
  induction ops generalizing i ρ with
  | nil => cases h
  | cons x ops ih =>
    cases i with
    | zero =>
      obtain rfl : x = op := Option.some.inj h
      exact ⟨ρ, rfl⟩
    | succ i => exact ih h (d.interpretOne cls ctx x ρ).2

/-- An operation writes to a register. -/
structure Writes (d : Device) (cls : AccessClass) (ctx : Option ContextId) (op : RegOp)
    (place : Option ContextId) (offset : UInt32) : Prop where
  verdict : d.verdict cls ctx op = RegOp.success
  kind : op.kind? = some .write32 ∨ op.kind? = some .write64
  place : cls.place ctx = place
  offset : op.offset = offset

theorem writes_of_changed {op : RegOp} {ρ : Registers} {place : Option ContextId} {offset : UInt32}
    (h : (d.interpretOne cls ctx op ρ).2 place offset ≠ ρ place offset) :
    d.Writes cls ctx op place offset := by
  by_cases hv : d.verdict cls ctx op = RegOp.success
  · rw [interpretOne_of_eq hv] at h
    dsimp only [Registers.write] at h
    split at h
    · rename_i hwhere
      obtain ⟨rfl, rfl⟩ := hwhere
      refine ⟨hv, ?_, rfl, rfl⟩
      unfold RegOp.effect at h
      cases hk : op.kind? with
      | none =>
        rw [hk] at h
        exact absurd rfl h
      | some k =>
        rw [hk] at h
        cases k with
        | write32 => exact Or.inl rfl
        | write64 => exact Or.inr rfl
        | read32 | read64 | read08 | write08 => exact absurd rfl h
    · exact absurd rfl h
  · rw [interpretOne_of_ne hv] at h
    exact absurd rfl h

/-- A register that a list of operations leaves in another state is written by one of them. -/
theorem exists_writes_of_changed {ops : List RegOp} {ρ : Registers} {place : Option ContextId}
    {offset : UInt32} (h : (d.interpret cls ctx ops ρ).2 place offset ≠ ρ place offset) :
    ∃ op ∈ ops, d.Writes cls ctx op place offset := by
  induction ops generalizing ρ with
  | nil => exact absurd rfl h
  | cons op ops ih =>
    by_cases hone : (d.interpretOne cls ctx op ρ).2 place offset = ρ place offset
    · rw [← hone] at h
      obtain ⟨x, hx, hw⟩ := ih h
      exact ⟨x, List.mem_cons_of_mem _ hx, hw⟩
    · exact ⟨op, List.mem_cons_self, writes_of_changed hone⟩

end Device

theorem OpsMemory.getElem?_splice_zero {m : OpsMemory} {done : List RegOp} {i : Nat}
    (h : done.length ≤ m.size) (hi : i < done.length) :
    (m.splice 0 done).toList[i]? = done[i]? := by
  rw [toList_splice (by omega)]
  simp only [splice, toList, List.take_zero, List.nil_append]
  exact List.getElem?_append_left hi

theorem OpsMemory.getElem?_splice_of_le {m : OpsMemory} {done : List RegOp} {i : Nat}
    (h : done.length ≤ m.size) (hi : done.length ≤ i) :
    (m.splice 0 done).toList[i]? = m.toList[i]? := by
  rw [toList_splice (by omega)]
  simp only [splice, toList, List.take_zero, List.nil_append, Nat.zero_add]
  rw [List.getElem?_append_right hi, List.getElem?_drop, Nat.add_sub_cancel' hi]

namespace Engine

variable {e : Engine} {h : Handle} {s : Session} {buffer : OpsBuffer} {count : Nat}
  {mode : ExecMode} {w : Window}

/-- An attempt that is not let through writes nothing back and leaves the device as it is. -/
theorem writtenBack_eq_nil_or (e : Engine) (h : Handle) (buffer : OpsBuffer) (count : Nat)
    (mode : ExecMode) :
    (e.writtenBack h buffer count mode = [] ∧
        (e.execute h buffer count mode).1.submitted = [] ∧
        (e.execute h buffer count mode).2.device = e.device) ∨
      ∃ s, e.sessions.find? h = some s ∧ e.checkExec s count = .ok () ∧ e.power.busy.1 = .ok () := by
  rcases e.execute_cases h buffer count mode with
    ⟨err, hn, hx⟩ | ⟨s, hs, hg, ⟨err, hp, hx⟩ | ⟨hp, -⟩⟩
  · refine Or.inl ⟨?_, by rw [hx], by rw [hx]⟩
    unfold writtenBack
    cases hs : e.sessions.find? h with
    | none => rfl
    | some s =>
      cases hg : e.checkExec s count with
      | error err => simp only [hg]
      | ok _ => exact absurd hg (hn s hs)
  · refine Or.inl ⟨?_, by rw [hx], by rw [hx]; rfl⟩
    simp only [writtenBack, hs, hg, hp]
  · exact Or.inr ⟨s, hs, hg, hp⟩

/-- **How an attempt ends.** An attempt that is let through leaves a prefix of the batch written back
and one carried out, and the windows that were written back make up the first of them. -/
theorem execute_ends {capacity : Nat} (hs : e.sessions.find? h = some s)
    (hg : e.checkExec s count = .ok ()) (hp : e.power.busy.1 = .ok ())
    (hz : s.staging.Sized capacity) (hc : 0 < capacity) (buffer : OpsBuffer) (mode : ExecMode) :
    ∃ written applied shown,
      e.LeavesOff s buffer written applied shown (e.execute h buffer count mode) ∧
      written ≤ applied ∧ applied ≤ count ∧ applied ≤ buffer.memory.size ∧
      (∀ w ∈ e.writtenBack h buffer count mode, w.stop ≤ written ∧
        Batch.Clears (e.job s mode) (e.batch s buffer mode) w) ∧
      ∀ i < written, ∃ w ∈ e.writtenBack h buffer count mode, w.start ≤ i ∧ i < w.stop := by
  obtain ⟨rfl, hd⟩ := hz
  have hfirst : Batch.Covered (e.job s mode) (e.batch s buffer mode) 0
      (Windows.ofBatch count s.staging.capacity).position (e.batch s buffer mode) := .zero
  obtain ⟨written, applied, shown, hleft, hle, hge, hsize, -, hall, hcover⟩ :=
    hfirst.ends (Windows.behind_ofBatch count s.staging.capacity) rfl hd hc
  refine ⟨written, applied, shown, (execute_of_left hs hg hp rfl hleft).2, hle, hge, hsize, ?_⟩
  simp only [writtenBack, hs, hg, hp]
  exact ⟨hall, fun i => hcover i (Nat.zero_le i)⟩

/-- What is reported of the first operations of a memory is as many operations. -/
theorem length_interpret_front {written : Nat} (hsize : written ≤ buffer.memory.size) :
    (e.device.interpret s.accessClass s.binding.context? (buffer.memory.slice 0 written)
      e.device.registers).1.length = written := by
  rw [Device.length_interpret, OpsMemory.length_slice (by omega)]

/-- An operation among those that an attempt has written back is what the interpreter reports of
it. -/
theorem LeavesOff.getElem?_of_lt {written applied shown i : Nat} {x : Execution × Engine}
    {op : RegOp} (hoff : e.LeavesOff s buffer written applied shown x)
    (hsize : written ≤ buffer.memory.size) (hi : i < written)
    (hop : buffer.memory.toList[i]? = some op) :
    ∃ ρ, x.1.buffer.memory.toList[i]?
      = some (e.device.interpretOne s.accessClass s.binding.context? op ρ).1 := by
  have hfront : (buffer.memory.slice 0 written)[i]? = some op := by
    rw [OpsMemory.slice_zero hsize, List.getElem?_take, if_pos hi, hop]
  obtain ⟨ρ, hρ⟩ := e.device.getElem?_interpret s.accessClass s.binding.context? hfront
    e.device.registers
  refine ⟨ρ, ?_⟩
  have hlen := length_interpret_front (e := e) (s := s) hsize
  rw [hoff.buffer, ← hρ]
  exact OpsMemory.getElem?_splice_zero (by rw [hlen]; exact hsize) (by rw [hlen]; exact hi)

/-- **What becomes of an operation that is written back:** the interpreter's report of it. In
all-or-none mode it can be carried out. -/
theorem reported_of_writtenBack {config : Config} (he : e.ReachedFreely config)
    (hw : w ∈ e.writtenBack h buffer count mode) {i : Nat} (hi : w.start ≤ i) (hi' : i < w.stop) :
    ∃ s op ρ, e.sessions.find? h = some s ∧ e.checkExec s count = .ok () ∧
      buffer.memory.toList[i]? = some op ∧
      (e.execute h buffer count mode).1.buffer.memory.toList[i]?
        = some (e.device.interpretOne s.accessClass s.binding.context? op ρ).1 ∧
      (mode = .allOrNone → e.device.Admits s.accessClass s.binding.context? op) := by
  obtain ⟨hc, hready⟩ := he.ready
  rcases e.writtenBack_eq_nil_or h buffer count mode with ⟨hnil, -⟩ | ⟨s, hs, hg, hp⟩
  · rw [hnil] at hw
    cases hw
  obtain ⟨written, applied, shown, hoff, hle, -, hsize, hall, -⟩ :=
    execute_ends hs hg hp (hready h s hs) hc buffer mode
  have hin := Nat.le_trans hle hsize
  obtain ⟨hstop, hclear⟩ := hall w hw
  have hlt : i < written := Nat.lt_of_lt_of_le hi' hstop
  obtain ⟨op, hop⟩ : ∃ op, buffer.memory.toList[i]? = some op := by
    refine ⟨_, List.getElem?_eq_getElem ?_⟩
    rw [OpsMemory.length_toList]
    exact Nat.lt_of_lt_of_le hlt hin
  obtain ⟨ρ, hreport⟩ := hoff.getElem?_of_lt hin hlt hop
  refine ⟨s, op, ρ, hs, hg, hop, hreport, fun hm => hclear.executes.2 hm op ?_⟩
  exact (OpsMemory.mem_slice (Nat.le_trans hstop hin)).mpr ⟨i, hi, hi', hop⟩

/-- **A register that an attempt changes is written by one of the operations of its batch.** -/
theorem writes_of_execute {config : Config} (he : e.ReachedFreely config)
    {place : Option ContextId} {offset : UInt32}
    (hne : (e.execute h buffer count mode).2.device.registers place offset
      ≠ e.device.registers place offset) :
    ∃ s, e.sessions.find? h = some s ∧ e.checkExec s count = .ok () ∧
      ∃ op ∈ buffer.memory.toList.take count, e.device.Writes s.accessClass s.binding.context? op place
        offset := by
  obtain ⟨hc, hready⟩ := he.ready
  rcases e.writtenBack_eq_nil_or h buffer count mode with ⟨-, -, hd⟩ | ⟨s, hs, hg, hp⟩
  · rw [hd] at hne
    exact absurd rfl hne
  obtain ⟨written, applied, shown, hoff, -, hle, hsize, -⟩ :=
    execute_ends hs hg hp (hready h s hs) hc buffer mode
  rw [hoff.registers] at hne
  obtain ⟨op, hop, hwrites⟩ := Device.exists_writes_of_changed hne
  rw [OpsMemory.slice_zero hsize] at hop
  exact ⟨s, hs, hg, op, (List.take_prefix_take_left hle).subset hop, hwrites⟩

end Engine

end Perfmon
