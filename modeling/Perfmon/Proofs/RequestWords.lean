import Perfmon.Proofs.Attendance
import Perfmon.Proofs.Channel
/-!
# Request words

Every 32-bit word is sorted out before anything else happens, by its bits, the configuration and the
length of the caller's memory alone: it is not one to be let in (`Config.Forbids`), or it announces
more than there is (`Request.Outruns`), or it names no request; and a word that names one comes to
the operation behind it, with the arguments that stand at the front of the memory (`TakesUp`). A
valid configuration lets all requests in, and every block of the right length can be read.
-/

namespace Perfmon

/-- A word that is not let in: its second byte is not the letter of the family, its lowest byte is
no number that was given out, or the fourteen bits from bit 16 on announce a longer block than the
configuration allows. -/
def Config.Forbids (config : Config) (word : UInt32) : Prop :=
  word.toNat / 0x100 % 0x100 ≠ 'P'.toNat ∨ word.toNat % 0x100 = 0 ∨ 7 < word.toNat % 0x100 ∨
    config.maxArgSize < word.toNat / 0x10000 % 0x4000

/-- A word that announces a block from the caller (bit 30) which is longer than the caller's
memory. -/
def Request.Outruns (word : UInt32) (arg : List UInt8) : Prop :=
  word.toNat.testBit 30 = true ∧ arg.length < word.toNat / 0x10000 % 0x4000

namespace Engine

variable {config : Config} {e : Engine} {h : Handle} {word : UInt32} {arg : List UInt8}
  {buffer : Option OpsBuffer}

/-! ## Words that are refused -/

/-- What becomes of a word before it is looked up. -/
theorem takeBlock_cases (config : Config) (word : UInt32) (arg : List UInt8) :
    (config.Forbids word ∧
      ∃ reason, takeBlock config word arg = .error (.invalidArgument reason)) ∨
    (¬config.Forbids word ∧ Request.Outruns word arg ∧
      ∃ reason, takeBlock config word arg = .error (.transferFault 0 reason)) ∨
    (¬config.Forbids word ∧ ¬Request.Outruns word arg ∧
      ∃ block, takeBlock config word arg = .ok block) := by
  have hmagic : (RequestCode.decode word).magic ≠ Request.magic ↔
      word.toNat / 0x100 % 0x100 ≠ 'P'.toNat := by
    rw [Ne, ← UInt8.toNat_inj, RequestCode.toNat_magic_decode]
    exact Iff.rfl
  have hzero : (RequestCode.decode word).number = 0 ↔ word.toNat % 0x100 = 0 := by
    rw [← UInt8.toNat_inj, RequestCode.toNat_number_decode]
    exact Iff.rfl
  have hlast : Request.lastNumber < (RequestCode.decode word).number ↔
      7 < word.toNat % 0x100 := by
    rw [UInt8.lt_iff_toNat_lt, RequestCode.toNat_number_decode]
    exact Iff.rfl
  unfold takeBlock Config.Forbids Request.Outruns
  simp only [hmagic, hzero, hlast, RequestCode.toNat_size_decode, RequestCode.writesArgs_decode]
  split
  · rename_i hname
    exact Or.inl ⟨by tauto, _, rfl⟩
  split
  · rename_i hsize
    exact Or.inl ⟨by tauto, _, rfl⟩
  rename_i hname hsize
  have hin : ¬(word.toNat / 0x100 % 0x100 ≠ 'P'.toNat ∨ word.toNat % 0x100 = 0 ∨
      7 < word.toNat % 0x100 ∨ config.maxArgSize < word.toNat / 0x10000 % 0x4000) := by
    tauto
  split
  · rename_i hwrites
    split
    · rename_i hlen
      exact Or.inr (Or.inl ⟨hin, ⟨hwrites, hlen⟩, _, rfl⟩)
    · rename_i hlen
      exact Or.inr (Or.inr ⟨hin, fun ho => hlen ho.2, _, rfl⟩)
  · rename_i hwrites
    exact Or.inr (Or.inr ⟨hin, fun ho => hwrites ho.1, _, rfl⟩)

/-- A request is refused: the caller's memory stays as it is, and nothing is done but that the
request is counted. -/
def Refuses (e : Engine) (h : Handle) (word : UInt32) (arg : List UInt8)
    (buffer : Option OpsBuffer) (err : Error) : Prop :=
  e.control h word arg buffer = (⟨.error err, arg, buffer⟩,
    { e with metrics := e.metrics.countRequest (Request.nameOfWord word) err.kind })

theorem refuses_of_takeBlock {err : Error} (ht : takeBlock e.config word arg = .error err) :
    e.Refuses h word arg buffer err := by
  refine control_of_serve_error ?_
  rw [serve, ht]

theorem refuses_unknown {block : List UInt8} (ht : takeBlock e.config word arg = .ok block)
    (hn : ∀ r : Request, word ≠ r.word) :
    e.Refuses h word arg buffer (.unknownRequest word) := by
  refine control_of_serve_error ?_
  simp only [serve, ht, Request.ofWord?_eq_none_iff.mpr hn]

/-! ## Words that name a request -/

/-- A request that has a long enough block is let in. -/
theorem takeBlock_word_of_le (hv : config.validate = .ok ()) {r : Request}
    (hl : r.argSize.toNat ≤ arg.length) :
    ¬config.Forbids r.word ∧ ¬Request.Outruns r.word arg := by
  have ht := takeBlock_word (t := arg.drop r.argSize.toNat) hv (List.length_take_of_le hl)
  rw [List.take_append_drop] at ht
  rcases takeBlock_cases config r.word arg with ⟨-, reason, hx⟩ | ⟨-, -, reason, hx⟩ | ⟨hf, ho, -⟩
  · cases ht.symm.trans hx
  · cases ht.symm.trans hx
  · exact ⟨hf, ho⟩

theorem dispatch_reserve_unknown {a : ReserveArgs} (hn : ∀ r : Resource, a.resource ≠ r.raw)
    (arg : List UInt8) :
    e.dispatch h .reserveResource (Layout.toBytes a) arg buffer
      = (⟨.error (.invalidArgument s!"unknown PM resource {a.resource.toNat}"), arg, buffer⟩, e) := by
  simp only [dispatch, decodeBlock_toBytes, bind, Except.bind, resourceOfRaw,
    Resource.ofRaw?_eq_none_iff.mpr hn]
  rfl

theorem dispatch_release_unknown {a : ReleaseArgs} (hn : ∀ r : Resource, a.resource ≠ r.raw)
    (arg : List UInt8) :
    e.dispatch h .releaseResource (Layout.toBytes a) arg buffer
      = (⟨.error (.invalidArgument s!"unknown PM resource {a.resource.toNat}"), arg, buffer⟩, e) := by
  simp only [dispatch, decodeBlock_toBytes, bind, Except.bind, resourceOfRaw,
    Resource.ofRaw?_eq_none_iff.mpr hn]
  rfl

theorem dispatch_exec_without (a : ExecArgs) (arg : List UInt8) :
    e.dispatch h .execRegOps (Layout.toBytes a) arg none
      = (⟨.error (.transferFault 0 "no register op buffer supplied"), arg, none⟩, e) := by
  simp only [dispatch, controlExec, decodeBlock_toBytes]

/-- Requests whose blocks are at the front of the caller's memory are read, whatever the blocks
hold, and come to the operations behind them; unless the number of a resource means none, or there
are no operations to execute. -/
structure TakesUp (e : Engine) (h : Handle) (arg : List UInt8) (buffer : Option OpsBuffer) :
    Prop where
  bindContext : 8 ≤ arg.length → ∃ a, decodeArgs BindContextArgs arg 8 = .ok a ∧
    e.control h Request.bindContext.word arg buffer = answer .bindContext arg buffer
      (e.bindContext h (if 0 ≤ a.descriptor then some a.descriptor else none))
  unbindContext : e.control h Request.unbindContext.word arg buffer
    = answer .unbindContext arg buffer (e.unbindContext h)
  reserve : 16 ≤ arg.length → ∃ a, decodeArgs ReserveArgs arg 16 = .ok a ∧
    (∀ r : Resource, a.resource = r.raw →
      e.control h Request.reserveResource.word arg buffer = answer .reserveResource arg buffer
        ((e.reserve h r a.contextSwitched).1.map fun _ => (), (e.reserve h r a.contextSwitched).2)) ∧
    ((∀ r : Resource, a.resource ≠ r.raw) →
      e.control h Request.reserveResource.word arg buffer = answer .reserveResource arg buffer
        (.error (.invalidArgument s!"unknown PM resource {a.resource.toNat}"), e))
  release : 8 ≤ arg.length → ∃ a, decodeArgs ReleaseArgs arg 8 = .ok a ∧
    (∀ r : Resource, a.resource = r.raw →
      e.control h Request.releaseResource.word arg buffer
        = answer .releaseResource arg buffer (e.release h r)) ∧
    ((∀ r : Resource, a.resource ≠ r.raw) →
      e.control h Request.releaseResource.word arg buffer = answer .releaseResource arg buffer
        (.error (.invalidArgument s!"unknown PM resource {a.resource.toNat}"), e))
  bindPm : e.control h Request.bindResources.word arg buffer
    = answer .bindResources arg buffer (e.bindPm h)
  unbindPm : e.control h Request.unbindResources.word arg buffer
    = answer .unbindResources arg buffer (e.unbindPm h)
  execute : 16 ≤ arg.length → ∃ a, decodeArgs ExecArgs arg 16 = .ok a ∧
    (buffer = none → e.control h Request.execRegOps.word arg buffer
      = answer .execRegOps arg none
        (.error (.transferFault 0 "no register op buffer supplied"), e)) ∧
    ∀ ops, buffer = some ops →
      let x := e.execute h ops a.count.toNat (.ofRaw a.mode)
      let served := e.control h Request.execRegOps.word arg buffer
      served.1.result = x.1.result.map (fun _ => ()) ∧
        served.2 = x.2.countServed .execRegOps served.1.result

theorem takesUp_of_validate (hv : e.config.validate = .ok ()) : e.TakesUp h arg buffer where
  bindContext hl := by
    obtain ⟨a, t, rfl⟩ := exists_toBytes_append (α := BindContextArgs) hl
    refine ⟨a, decodeArgs_toBytes_append a t, ?_⟩
    rw [← descriptorOfArg_eq]
    exact control_answer hv (LawfulLayout.length_toBytes a) (dispatch_bindContext a _)
  unbindContext := control_word_nil hv rfl (dispatch_unbindContext arg)
  reserve hl := by
    obtain ⟨a, t, rfl⟩ := exists_toBytes_append (α := ReserveArgs) hl
    have hlen : (Layout.toBytes a).length = Request.reserveResource.argSize.toNat :=
      LawfulLayout.length_toBytes a
    exact ⟨a, decodeArgs_toBytes_append a t,
      fun r hr => control_answer hv hlen (dispatch_reserve hr _),
      fun hn => control_answer hv hlen (dispatch_reserve_unknown hn _)⟩
  release hl := by
    obtain ⟨a, t, rfl⟩ := exists_toBytes_append (α := ReleaseArgs) hl
    have hlen : (Layout.toBytes a).length = Request.releaseResource.argSize.toNat :=
      LawfulLayout.length_toBytes a
    exact ⟨a, decodeArgs_toBytes_append a t,
      fun r hr => control_answer hv hlen (dispatch_release hr _),
      fun hn => control_answer hv hlen (dispatch_release_unknown hn _)⟩
  bindPm := control_word_nil hv rfl (dispatch_bindPm arg)
  unbindPm := control_word_nil hv rfl (dispatch_unbindPm arg)
  execute hl := by
    obtain ⟨a, t, rfl⟩ := exists_toBytes_append (α := ExecArgs) hl
    have hlen : (Layout.toBytes a).length = Request.execRegOps.argSize.toNat :=
      LawfulLayout.length_toBytes a
    refine ⟨a, decodeArgs_toBytes_append a t, ?_, ?_⟩
    · rintro rfl
      exact control_answer hv hlen (dispatch_exec_without a _)
    · rintro ops rfl x served
      have hserved : served = _ := control_word hv hlen
      rw [dispatch_exec] at hserved
      rw [hserved]
      exact ⟨rfl, rfl⟩

/-- **Every word is sorted out for what it is.** A word that is not to be let in is refused as an
invalid argument; otherwise a word that announces more than there is, as a failed transfer;
otherwise a word that names no request, as unknown, whatever session it is addressed to. Nothing
happens to a word that is refused, but that it is counted. None of this becomes of a request whose
block is there: its arguments are read, and it comes to the operation behind it. -/
theorem words_sorted_out (he : e.ReachedFreely config) (h : Handle) (word : UInt32)
    (arg : List UInt8) (buffer : Option OpsBuffer) :
    (config.Forbids word → ∃ reason, e.Refuses h word arg buffer (.invalidArgument reason)) ∧
    (¬config.Forbids word → Request.Outruns word arg →
      ∃ reason, e.Refuses h word arg buffer (.transferFault 0 reason)) ∧
    (¬config.Forbids word → ¬Request.Outruns word arg → (∀ r : Request, word ≠ r.word) →
      e.Refuses h word arg buffer (.unknownRequest word)) ∧
    (∀ r : Request, r.argSize.toNat ≤ arg.length →
      ¬config.Forbids r.word ∧ ¬Request.Outruns r.word arg) ∧
    e.TakesUp h arg buffer := by
  obtain ⟨hv, rfl, -⟩ := he.configured
  refine ⟨fun hf => ?_, fun hf ho => ?_, fun hf ho hn => ?_, fun r hl => takeBlock_word_of_le hv hl,
    takesUp_of_validate hv⟩
  all_goals
    rcases takeBlock_cases e.config word arg with
      ⟨hx, reason, ht⟩ | ⟨hx, hy, reason, ht⟩ | ⟨hx, hy, block, ht⟩
  · exact ⟨reason, refuses_of_takeBlock ht⟩
  · exact absurd hf hx
  · exact absurd hf hx
  · exact absurd hx hf
  · exact ⟨reason, refuses_of_takeBlock ht⟩
  · exact absurd ho hy
  · exact absurd hx hf
  · exact absurd hy ho
  · exact refuses_unknown ht hn

/-- The word of a request to execute operations, but with a block of eight bytes. -/
def shortExec : UInt32 :=
  RequestCode.encode ⟨3, 0x50, 7, 8⟩

theorem words_sorted_out_of_a_wrong_size :
    (small readyRun).ReachedFreely .small ∧
      (small readyRun).Refuses ⟨9⟩ shortExec (List.replicate 8 0) none
        (.unknownRequest shortExec) ∧
      (small readyRun).TakesUp ⟨1⟩ (Layout.toBytes fiveFlagged) (some fiveOps) := by
  have he : (small readyRun).ReachedFreely .small := reachedFreely_small readyRun
  have hn : ∀ r : Request, shortExec ≠ r.word := by
    intro r
    cases r <;> decide
  obtain ⟨-, -, hunknown, -, -⟩ := words_sorted_out he ⟨9⟩ shortExec (List.replicate 8 0) none
  obtain ⟨-, -, -, -, htakes⟩ :=
    words_sorted_out he ⟨1⟩ 0 (Layout.toBytes fiveFlagged) (some fiveOps)
  exact ⟨he, hunknown (by unfold Config.Forbids; decide) (by unfold Request.Outruns; decide) hn,
    htakes⟩

end Engine

end Perfmon
