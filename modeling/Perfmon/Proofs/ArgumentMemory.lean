import Perfmon.Proofs.Channel
/-!
# The caller's argument memory

A request has an effect before its argument block is written and given back, so it matters that
nothing can go wrong then. The block that travels back was handed over with the request, so the
memory is long enough for it, and the block is as long as the value that is written into it
(`finish_written`). What is written differs from what was handed over in the flags only
(`ExecArgs.getElem?_withOutcome`), and no other request gives its block back (`serve_leavesArg`). A
request that fails leaves the memory alone (`LeavesArg.of_error`).
-/

namespace Perfmon

/-- A part of a byte string that is replaced by one of the same length is all that changes. -/
theorem getElem?_replaced {front old new behind : List UInt8} {i : Nat}
    (hl : new.length = old.length)
    (hi : (front ++ (new ++ behind))[i]? ≠ (front ++ (old ++ behind))[i]?) :
    front.length ≤ i ∧ i < front.length + old.length := by
  rw [List.getElem?_append, List.getElem?_append, List.getElem?_append, List.getElem?_append,
    hl] at hi
  grind

/-- The flags have the bytes 8 to 11 of a block, and nothing else is filled in. -/
theorem ExecArgs.getElem?_withOutcome (a : ExecArgs) (directOps allPassed : Bool)
    {behind : List UInt8} {i : Nat}
    (hi : (Layout.toBytes (a.withOutcome directOps allPassed) ++ behind)[i]?
      ≠ (Layout.toBytes a ++ behind)[i]?) : 8 ≤ i ∧ i < 12 := by
  -- A block is its first two fields, the flags, and the last field.
  have hsplit : ∀ b : ExecArgs, Layout.toBytes b ++ behind
      = (LittleEndian.bytes 4 b.mode.toNat ++ LittleEndian.bytes 4 b.count.toNat) ++
        (LittleEndian.bytes 4 b.flags.toNat ++
          (LittleEndian.bytes 4 b.reserved.toNat ++ behind)) := by
    intro b
    simp only [Layout.toBytes, List.append_assoc]
  rw [hsplit, hsplit] at hi
  have hpart := getElem?_replaced (by simp) hi
  simpa using hpart

namespace Engine

variable {e : Engine} {h : Handle} {r : Request} {word : UInt32} {block arg : List UInt8}
  {buffer : Option OpsBuffer}

/-! ## What becomes of a block -/

/-- A block of the right length is read, and it is the byte form of what is read. -/
theorem decodeBlock_of_length {α : Type} [Layout α] [LawfulLayout α] [FullLayout α]
    (hl : block.length = Layout.size α) :
    ∃ a : α, decodeBlock α block = .ok a ∧ Layout.toBytes a = block := by
  obtain ⟨a, ha⟩ := FullLayout.exists_toBytes (α := α) block hl
  exact ⟨a, by rw [← ha, decodeBlock_toBytes], ha⟩

/-- What a request leaves in the caller's argument memory: what was there, or, when a batch was
executed, the same with the flags filled in. -/
inductive LeavesArg (arg : List UInt8) : UInt32 → Controlled → Prop
  /-- The memory is left alone. -/
  | alone {word : UInt32} {reply : Controlled} (hnew : reply.arg = arg) : LeavesArg arg word reply
  /-- The block is given back with its flags filled in, and what lies behind it as it was. -/
  | filled {reply : Controlled} (a : ExecArgs) (behind : List UInt8) (directOps allPassed : Bool)
      (hok : reply.result = .ok ()) (hold : arg = Layout.toBytes a ++ behind)
      (hnew : reply.arg = Layout.toBytes (a.withOutcome directOps allPassed) ++ behind) :
      LeavesArg arg Request.execRegOps.word reply

theorem controlExec_leavesArg (hf : Fits .execRegOps block arg) :
    LeavesArg arg Request.execRegOps.word (e.controlExec h block arg buffer).1 := by
  obtain ⟨a, hd, ha⟩ := decodeBlock_of_length (α := ExecArgs) hf.length
  cases buffer with
  | none => exact .alone (by simp only [controlExec, hd])
  | some ops =>
    simp only [controlExec, hd]
    cases (e.execute h ops a.count.toNat (.ofRaw a.mode)).1.result with
    | error err => exact .alone rfl
    | ok report =>
      dsimp only
      rw [finish_written hf rfl rfl]
      refine .filled a (arg.drop _) report.directOps report.allPassed rfl ?_ rfl
      rw [ha]
      exact (hf.front rfl).symm

theorem dispatch_leavesArg (hf : Fits r block arg) :
    LeavesArg arg r.word (e.dispatch h r block arg buffer).1 := by
  cases r with
  | execRegOps => exact controlExec_leavesArg hf
  | unbindContext | bindResources | unbindResources =>
    simp only [dispatch]
    rw [finish_unread rfl]
    exact .alone rfl
  | bindContext | reserveResource | releaseResource =>
    unfold dispatch
    dsimp only
    split
    · exact .alone rfl
    · rw [finish_unread rfl]
      exact .alone rfl

/-- **A request leaves the caller's argument memory alone, or fills in the flags.** -/
theorem serve_leavesArg (e : Engine) (h : Handle) (word : UInt32) (arg : List UInt8)
    (buffer : Option OpsBuffer) : LeavesArg arg word (e.serve h word arg buffer).1 := by
  unfold serve
  cases ht : takeBlock e.config word arg with
  | error err => exact .alone rfl
  | ok block =>
    cases hr : Request.ofWord? word with
    | none => exact .alone rfl
    | some r =>
      rw [← Request.word_of_ofWord? hr]
      exact dispatch_leavesArg (fits_of_takeBlock ht hr)

theorem LeavesArg.of_error {reply : Controlled} (hl : LeavesArg arg word reply) {err : Error}
    (he : reply.result = .error err) : reply.arg = arg := by
  cases hl with
  | alone hnew => exact hnew
  | filled a behind directOps allPassed hok => cases hok.symm.trans he

theorem LeavesArg.length {reply : Controlled} (hl : LeavesArg arg word reply) :
    reply.arg.length = arg.length := by
  cases hl with
  | alone hnew => rw [hnew]
  | filled a behind directOps allPassed hok hold hnew =>
    rw [hnew, hold, List.length_append, List.length_append, LawfulLayout.length_toBytes,
      LawfulLayout.length_toBytes]

theorem LeavesArg.differs {reply : Controlled} (hl : LeavesArg arg word reply) {i : Nat}
    (hi : reply.arg[i]? ≠ arg[i]?) : word = Request.execRegOps.word ∧ 8 ≤ i ∧ i < 12 := by
  cases hl with
  | alone hnew =>
    rw [hnew] at hi
    exact absurd rfl hi
  | filled a behind directOps allPassed hok hold hnew =>
    rw [hnew, hold] at hi
    exact ⟨rfl, a.getElem?_withOutcome directOps allPassed hi⟩

/-- **Nothing goes wrong behind an operation.** A request that fails leaves the caller's argument
memory as it was. One that succeeds changes nothing but the four bytes of the flags, and these only
when it executes a batch. And whenever a request stands for a direct call, the call is made, and the
request succeeds exactly if the call does. -/
theorem arguments_are_safe (e : Engine) (h : Handle) (word : UInt32) (arg : List UInt8)
    (buffer : Option OpsBuffer) :
    let served := e.control h word arg buffer
    (∀ err, served.1.result = .error err → served.1.arg = arg) ∧
    (served.1.result = .ok () → served.1.arg.length = arg.length ∧
      ∀ i, served.1.arg[i]? ≠ arg[i]? → word = Request.execRegOps.word ∧ 8 ≤ i ∧ i < 12) ∧
    (∀ c, e.asDirect? (.control h word arg buffer) = some c →
      (∃ metrics, served.2 = { (e.perform c).2 with metrics }) ∧
      (served.1.result = .ok () ↔ (e.perform c).1.error? = none)) ∧
    (e.asDirect? (.control h word arg buffer) = none →
      (∃ metrics, served.2 = { e with metrics }) ∧ ∃ err, served.1.result = .error err) := by
  intro served
  have hl := e.serve_leavesArg h word arg buffer
  obtain ⟨metrics, hserved⟩ : ∃ metrics, served
      = ((e.serve h word arg buffer).1, { (e.serve h word arg buffer).2 with metrics }) :=
    e.control_eq h word arg buffer
  rw [hserved]
  refine ⟨fun err he => hl.of_error he, fun _ => ⟨hl.length, fun i hi => hl.differs hi⟩, ?_⟩
  rcases e.serve_asDirect h word arg buffer with ⟨hn, err, hs⟩ | ⟨f, hf, hby⟩
  · rw [hn, hs]
    exact ⟨fun c hc => (nomatch hc), fun _ => ⟨⟨metrics, rfl⟩, err, rfl⟩⟩
  · rw [hf]
    refine ⟨fun c hc => ?_, fun hc => nomatch hc⟩
    obtain rfl := Option.some.inj hc
    refine ⟨⟨metrics, ?_⟩, ?_⟩
    · rw [show (e.serve h word arg buffer).2 = _ from hby.engine h]
    · rw [← hby.error h]
      exact failure?_eq_none_iff.symm

end Engine

end Perfmon
