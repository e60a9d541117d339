import Perfmon.Proofs.Windowing
/-!
# The control channel

A request whose argument block is written at the front of the caller's memory does what the
operation behind it does, in every state that an engine gets into: a valid configuration leaves room
for every block (`takeBlock_word`), the block is read back (`decodeBlock_toBytes`), and the operation
gets its values. What the channel adds is one count of the request (`countServed`), and, on the way
back from a batch that was executed, the block with its flags filled in.
-/

namespace Perfmon

theorem Request.nameOfWord_word (r : Request) : nameOfWord r.word = r.label := by
  rw [nameOfWord, ofWord?_word]
  rfl

theorem Config.largestArgs_le_of_validate {c : Config} (h : c.validate = .ok ()) :
    largestArgs ≤ c.maxArgSize := by
  unfold validate at h
  grind

namespace Engine

variable {e e' : Engine} {h : Handle} {r : Request} {block t : List UInt8}
  {buffer : Option OpsBuffer}

/-! ## The way in -/

/-- The argument block of a request is taken from the front of the caller's memory. -/
theorem takeBlock_word {config : Config} (hv : config.validate = .ok ())
    (hl : block.length = r.argSize.toNat) : takeBlock config r.word (block ++ t) = .ok block := by
  have hsize := Config.largestArgs_le_of_validate hv
  have hlargest : r.code.size.toNat ≤ Config.largestArgs := by
    cases r <;> decide
  have hcode : ¬(r.code.magic ≠ Request.magic ∨ r.code.number = 0 ∨
      Request.lastNumber < r.code.number) := by
    cases r <;> decide
  unfold takeBlock
  rw [Request.decode_word]
  dsimp only
  rw [if_neg hcode, if_neg (Nat.not_lt.mpr (Nat.le_trans hlargest hsize))]
  cases hw : r.code.writesArgs with
  | true =>
    have hlen : ¬(block ++ t).length < r.code.size.toNat := by
      rw [List.length_append, hl]
      exact Nat.not_lt.mpr (Nat.le_add_right _ _)
    rw [if_pos rfl, if_neg hlen]
    exact congrArg Except.ok (List.take_left' hl)
  | false =>
    -- A request that hands no block over has an empty one.
    have hzero : r.argSize.toNat = 0 := by
      cases r <;> first | rfl | cases hw
    rw [hzero] at hl
    rw [List.eq_nil_of_length_eq_zero hl, if_neg Bool.false_ne_true]
    exact congrArg (fun n => Except.ok (List.replicate n 0)) hzero

/-- A block that was written is read back. -/
theorem decodeBlock_toBytes {α : Type} [Layout α] [LawfulLayout α] (a : α) :
    decodeBlock α (Layout.toBytes a) = .ok a := by
  have hd := decodeArgs_toBytes_append a []
  rw [List.append_nil] at hd
  rw [decodeBlock, LawfulLayout.length_toBytes, hd]
  rfl

/-- The engine with a request counted. -/
def countServed (e : Engine) (r : Request) (result : Except Error Unit) : Engine :=
  { e with metrics := e.metrics.countRequest r.label (statusLabel result) }

/-- With a valid configuration a request reaches the operation behind it. -/
theorem control_word (hv : e.config.validate = .ok ()) (hl : block.length = r.argSize.toNat) :
    e.control h r.word (block ++ t) buffer
      = ((e.dispatch h r block (block ++ t) buffer).1,
          (e.dispatch h r block (block ++ t) buffer).2.countServed r
            (e.dispatch h r block (block ++ t) buffer).1.result) := by
  unfold control serve
  rw [takeBlock_word hv hl]
  dsimp only
  rw [Request.ofWord?_word, Request.nameOfWord_word]
  rfl

/-! ## The operations -/

/-- The answer to a request that comes to what an operation comes to. -/
def answer (r : Request) (arg : List UInt8) (buffer : Option OpsBuffer)
    (outcome : Except Error Unit × Engine) : Controlled × Engine :=
  (⟨outcome.1, arg, buffer⟩, outcome.2.countServed r outcome.1)

/-- A request that leaves the caller's memory alone gives the answer of its operation. -/
theorem control_answer (hv : e.config.validate = .ok ()) (hl : block.length = r.argSize.toNat)
    {outcome : Except Error Unit × Engine}
    (hd : e.dispatch h r block (block ++ t) buffer = (⟨outcome.1, block ++ t, buffer⟩, outcome.2)) :
    e.control h r.word (block ++ t) buffer = answer r (block ++ t) buffer outcome := by
  rw [control_word hv hl, hd]
  rfl

/-- A request without an argument block, whatever lies in the caller's memory. -/
theorem control_word_nil (hv : e.config.validate = .ok ()) (hz : r.argSize.toNat = 0)
    {outcome : Except Error Unit × Engine}
    (hd : e.dispatch h r [] t buffer = (⟨outcome.1, t, buffer⟩, outcome.2)) :
    e.control h r.word t buffer = answer r t buffer outcome := by
  have hl : ([] : List UInt8).length = r.argSize.toNat := hz.symm
  exact control_answer hv hl hd

theorem descriptorOfArg_eq (fd : Descriptor) :
    descriptorOfArg fd = if 0 ≤ fd then some fd else none := by
  unfold descriptorOfArg
  split
  · rename_i hneg
    rw [if_neg (Int32.not_le.mpr hneg)]
  · rename_i hneg
    rw [if_pos (Int32.not_lt.mp hneg)]

theorem resourceOfRaw_raw (r : Resource) : resourceOfRaw r.raw = .ok r := by
  unfold resourceOfRaw
  rw [Resource.ofRaw?_raw]

theorem dispatch_bindContext (a : BindContextArgs) (arg : List UInt8) :
    e.dispatch h .bindContext (Layout.toBytes a) arg buffer
      = (⟨(e.bindContext h (descriptorOfArg a.descriptor)).1, arg, buffer⟩,
          (e.bindContext h (descriptorOfArg a.descriptor)).2) := by
  simp only [dispatch, decodeBlock_toBytes, finish_unread (r := .bindContext) rfl]

theorem dispatch_unbindContext (arg : List UInt8) :
    e.dispatch h .unbindContext block arg buffer
      = (⟨(e.unbindContext h).1, arg, buffer⟩, (e.unbindContext h).2) := by
  simp only [dispatch, finish_unread (r := .unbindContext) rfl]

theorem dispatch_reserve {a : ReserveArgs} {r : Resource} (hr : a.resource = r.raw)
    (arg : List UInt8) :
    e.dispatch h .reserveResource (Layout.toBytes a) arg buffer
      = (⟨(e.reserve h r a.contextSwitched).1.map fun _ => (), arg, buffer⟩,
          (e.reserve h r a.contextSwitched).2) := by
  simp only [dispatch, decodeBlock_toBytes, bind, Except.bind, hr, resourceOfRaw_raw, pure,
    Except.pure, finish_unread (r := .reserveResource) rfl]

theorem dispatch_release {a : ReleaseArgs} {r : Resource} (hr : a.resource = r.raw)
    (arg : List UInt8) :
    e.dispatch h .releaseResource (Layout.toBytes a) arg buffer
      = (⟨(e.release h r).1, arg, buffer⟩, (e.release h r).2) := by
  simp only [dispatch, decodeBlock_toBytes, bind, Except.bind, hr, resourceOfRaw_raw,
    finish_unread (r := .releaseResource) rfl]

theorem dispatch_bindPm (arg : List UInt8) :
    e.dispatch h .bindResources block arg buffer
      = (⟨(e.bindPm h).1, arg, buffer⟩, (e.bindPm h).2) := by
  simp only [dispatch, finish_unread (r := .bindResources) rfl]

theorem dispatch_unbindPm (arg : List UInt8) :
    e.dispatch h .unbindResources block arg buffer
      = (⟨(e.unbindPm h).1, arg, buffer⟩, (e.unbindPm h).2) := by
  simp only [dispatch, finish_unread (r := .unbindResources) rfl]

/-- A batch that is executed over the channel comes to what it comes to in a direct call. On success
the block comes back with its flags filled in, and what lies behind it as it was. -/
theorem dispatch_exec (a : ExecArgs) (ops : OpsBuffer) :
    e.dispatch h .execRegOps (Layout.toBytes a) (Layout.toBytes a ++ t) (some ops)
      = (⟨(e.execute h ops a.count.toNat (.ofRaw a.mode)).1.result.map fun _ => (),
          match (e.execute h ops a.count.toNat (.ofRaw a.mode)).1.result with
          | .error _ => Layout.toBytes a ++ t
          | .ok report => Layout.toBytes (a.withOutcome report.directOps report.allPassed) ++ t,
          some (e.execute h ops a.count.toNat (.ofRaw a.mode)).1.buffer⟩,
        (e.execute h ops a.count.toNat (.ofRaw a.mode)).2) := by
  have hfits : Fits .execRegOps (Layout.toBytes a) (Layout.toBytes a ++ t) := by
    refine ⟨LawfulLayout.length_toBytes a, fun _ => ?_⟩
    exact congrArg (Layout.toBytes a ++ ·) (List.drop_left' (LawfulLayout.length_toBytes a))
  simp only [dispatch, controlExec, decodeBlock_toBytes]
  cases (e.execute h ops a.count.toNat (.ofRaw a.mode)).1.result with
  | error err => rfl
  | ok report =>
    dsimp only
    rw [finish_written hfits rfl rfl, List.drop_left' (LawfulLayout.length_toBytes a)]
    rfl

/-- **The control channel is the direct interface.** In every state that an engine gets into, a
request with its arguments at the front of the caller's memory does what the operation does that it
stands for, and is counted. Behind a batch that was executed, the block in the caller's memory says
how it came out. -/
theorem control_is_direct {config : Config} (he : e.ReachedFreely config) (h : Handle)
    (t : List UInt8) (buffer : Option OpsBuffer) :
    (∀ a : BindContextArgs,
      e.control h Request.bindContext.word (Layout.toBytes a ++ t) buffer
        = answer .bindContext (Layout.toBytes a ++ t) buffer
            (e.bindContext h (if 0 ≤ a.descriptor then some a.descriptor else none))) ∧
    e.control h Request.unbindContext.word t buffer
      = answer .unbindContext t buffer (e.unbindContext h) ∧
    (∀ (a : ReserveArgs) (r : Resource), a.resource = r.raw →
      e.control h Request.reserveResource.word (Layout.toBytes a ++ t) buffer
        = answer .reserveResource (Layout.toBytes a ++ t) buffer
            ((e.reserve h r (a.flags.toNat.testBit 0)).1.map (fun _ => ()),
              (e.reserve h r (a.flags.toNat.testBit 0)).2)) ∧
    (∀ (a : ReleaseArgs) (r : Resource), a.resource = r.raw →
      e.control h Request.releaseResource.word (Layout.toBytes a ++ t) buffer
        = answer .releaseResource (Layout.toBytes a ++ t) buffer (e.release h r)) ∧
    e.control h Request.bindResources.word t buffer
      = answer .bindResources t buffer (e.bindPm h) ∧
    e.control h Request.unbindResources.word t buffer
      = answer .unbindResources t buffer (e.unbindPm h) ∧
    ∀ (a : ExecArgs) (ops : OpsBuffer),
      let x := e.execute h ops a.count.toNat (if a.mode = 1 then .continueOnError else .allOrNone)
      let y := e.control h Request.execRegOps.word (Layout.toBytes a ++ t) (some ops)
      y.1.result = x.1.result.map (fun _ => ()) ∧ y.1.buffer = some x.1.buffer ∧
        y.2 = x.2.countServed .execRegOps y.1.result ∧
        match x.1.result with
        | .error _ => y.1.arg = Layout.toBytes a ++ t
        | .ok report => ∃ b : ExecArgs, y.1.arg = Layout.toBytes b ++ t ∧
            decodeArgs ExecArgs y.1.arg (Layout.size ExecArgs) = .ok b ∧
            b.mode = a.mode ∧ b.count = a.count ∧ b.reserved = a.reserved ∧
            ∀ i, b.flags.toNat.testBit i
              = (decide (i = 0) && report.directOps || decide (i = 1) && report.allPassed) := by
  obtain ⟨hv, rfl, -⟩ := he.configured
  refine ⟨fun a => ?_, ?_, fun a r hr => ?_, fun a r hr => ?_, ?_, ?_, fun a ops => ?_⟩
  · rw [control_word hv (LawfulLayout.length_toBytes a), dispatch_bindContext, descriptorOfArg_eq]
    rfl
  · exact control_word_nil hv rfl (dispatch_unbindContext t)
  · rw [control_word hv (LawfulLayout.length_toBytes a), dispatch_reserve hr, a.contextSwitched_eq]
    rfl
  · rw [control_word hv (LawfulLayout.length_toBytes a), dispatch_release hr]
    rfl
  · exact control_word_nil hv rfl (dispatch_bindPm t)
  · exact control_word_nil hv rfl (dispatch_unbindPm t)
  · intro x y
    have hy : y = _ := control_word hv (LawfulLayout.length_toBytes a)
    have hx : e.execute h ops a.count.toNat (.ofRaw a.mode) = x := rfl
    rw [dispatch_exec, hx] at hy
    rw [hy]
    refine ⟨rfl, rfl, rfl, ?_⟩
    dsimp only
    cases x.1.result with
    | error err => rfl
    | ok report =>
      exact ⟨a.withOutcome report.directOps report.allPassed, rfl, decodeArgs_toBytes_append _ t,
        rfl, rfl, rfl, a.testBit_withOutcome _ _⟩

/-- The arguments of five operations in continue-on-error mode, every flag set. -/
def fiveFlagged : ExecArgs :=
  ⟨1, 5, 0xffffffff, 9⟩

theorem control_is_direct_with_bytes_behind :
    (small readyRun).ReachedFreely .small ∧
      ((small readyRun).control ⟨1⟩ Request.reserveResource.word
          (Layout.toBytes (ReserveArgs.mk 1 6 0) ++ [7, 8]) none).1.result
        = ((small readyRun).reserve ⟨1⟩ .smpc false).1.map (fun _ => ()) ∧
      ((small readyRun).control ⟨1⟩ Request.execRegOps.word
          (Layout.toBytes fiveFlagged ++ [7, 8]) (some fiveOps)).1.result
        = ((small readyRun).execute ⟨1⟩ fiveOps 5 .continueOnError).1.result.map (fun _ => ()) := by
  have he : (small readyRun).ReachedFreely .small := reachedFreely_small readyRun
  obtain ⟨-, -, hreserve, -, -, -, hexec⟩ := control_is_direct he ⟨1⟩ [7, 8] none
  exact ⟨he, congrArg (·.1.result) (hreserve ⟨1, 6, 0⟩ .smpc rfl), (hexec fiveFlagged fiveOps).1⟩

end Engine

end Perfmon
