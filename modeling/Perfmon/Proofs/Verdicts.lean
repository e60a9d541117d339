import Perfmon.Proofs.Names
import Perfmon.Replay.Report
/-!
# Verdicts on scripts

A replay ends behind the last step, at a step that is at fault, or, if it is told so, at the first
step that does not come to what was expected. It has succeeded exactly if it has carried out all
steps and each has come to what was expected (`failure_run_eq_none_iff`). That does not mention what
the replay was told, and need not: up to the first mismatch both ways of replaying do the same
(`run_true_cases`), so without a mismatch they do the same to the end (`run_of_all_match`).

The verdict is read off a counter that goes from the largest number of 32 bits to the smallest one.
So all of this is true of replays with fewer than 2 ^ 31 mismatches, and those that stop at the
first one are among them; a replay with just so many succeeds (`mismatches_come_to_nothing`).
-/

namespace Perfmon

/-! ## Steps at fault -/

/-- An operation that means nothing: no register has its offset, or it is a read and has a mask. -/
def ScriptOp.Malformed (op : ScriptOp) : Prop :=
  UInt32.size ≤ op.offset.toNat ∨ op.mask.isSome = true ∧ op.kind.isWrite = false

theorem ScriptOp.toRegOp_error_iff {op : ScriptOp} :
    (∃ fault, op.toRegOp = .error fault) ↔ op.Malformed := by
  have hmasked : (op.mask.isSome && !op.kind.isWrite) = true
      ↔ op.mask.isSome = true ∧ op.kind.isWrite = false := by
    rw [Bool.and_eq_true, Bool.not_eq_true']
  rw [Malformed, ← hmasked]
  unfold toRegOp
  split
  · rename_i hlarge
    exact ⟨fun _ => Or.inl hlarge, fun _ => ⟨_, rfl⟩⟩
  · rename_i hfits
    split
    · rename_i hmask
      exact ⟨fun _ => Or.inr hmask, fun _ => ⟨_, rfl⟩⟩
    · rename_i hmask
      exact ⟨nofun, fun h => absurd h (not_or.mpr ⟨hfits, hmask⟩)⟩

namespace Replay

variable {r r' start : Replay} {action : ScriptAction} {steps more : List ScriptStep}
  {records : List StepRecord} {rec : StepRecord} {ops : List ScriptOp}

theorem regOps_error_iff : (∃ fault, regOps ops = .error fault) ↔ ∃ op ∈ ops, op.Malformed := by
  induction ops with
  | nil => simp [regOps]
  | cons op ops ih =>
    rw [List.exists_mem_cons_iff, ← ih, ← ScriptOp.toRegOp_error_iff, regOps]
    cases op.toRegOp with
    | error fault => simp
    | ok regOp => cases regOps ops <;> simp [Except.map]

/-- Steps that are at fault themselves. -/
inductive AtFault (r : Replay) : ScriptAction → Prop
  /-- The step is about a session, but its name stands for none. -/
  | unopened {action : ScriptAction} {name : String} (about : action.session? = some name)
      (unknown : r.sessions.find? name = none) : AtFault r action
  /-- The step destroys a context that is not there. -/
  | noContext {fd : Descriptor} (missing : r.engine.contexts.entries.find? fd = none) :
      AtFault r (.destroyContext fd)
  /-- The step executes an operation that means nothing. -/
  | malformed {name : String} {mode : ExecMode} {count : Option UInt32} {ops : List ScriptOp}
      {op : ScriptOp} (mem : op ∈ ops) (bad : op.Malformed) : AtFault r (.exec name mode count ops)

theorem withName_error {α : Type} {name : String} {f : Handle → Except Error α × Engine}
    {deed : α → Deed} {fault : StepFault} (h : r.withName name f deed = .error fault) :
    r.sessions.find? name = none := by
  unfold withName at h
  split at h
  · cases h
  · assumption

theorem atFault_of_apply_error {fault : StepFault} (h : r.apply action = .error fault) :
    r.AtFault action := by
  cases action with
  | createContext | openSession => cases h
  | destroyContext fd =>
    unfold apply at h
    dsimp only at h
    split at h
    · cases h
    · rename_i hd
      exact .noContext (congrArg Prod.fst hd)
  | close name =>
    unfold apply at h
    dsimp only at h
    split at h
    · cases h
    · rename_i hunknown
      exact .unopened rfl hunknown
  | exec name mode count ops =>
    unfold apply at h
    dsimp only at h
    split at h
    · rename_i hunknown
      exact .unopened rfl hunknown
    · cases hops : regOps ops with
      | error fault =>
        obtain ⟨op, hmem, hbad⟩ := regOps_error_iff.mp ⟨fault, hops⟩
        exact .malformed hmem hbad
      | ok regOps =>
        rw [hops] at h
        cases h
  | bindContext | unbindContext | reserve | release | bindPm | unbindPm | info =>
    exact .unopened rfl (withName_error h)

theorem AtFault.apply_error (h : r.AtFault action) : ∃ fault, r.apply action = .error fault := by
  cases h with
  | unopened about unknown =>
    cases action with
    | createContext | destroyContext | openSession => cases about
    | _ =>
      cases about
      simp [apply, withName, unknown]
  | noContext missing =>
    simp [apply, Engine.destroyContext, ContextRegistry.destroy, missing]
  | @malformed name mode count ops op mem bad =>
    obtain ⟨fault, hops⟩ := regOps_error_iff.mpr ⟨op, mem, bad⟩
    unfold apply
    dsimp only
    split
    · exact ⟨_, rfl⟩
    · rw [hops]
      exact ⟨_, rfl⟩

/-- **A step is carried out unless it is at fault.** -/
theorem apply_error_iff : (∃ fault, r.apply action = .error fault) ↔ r.AtFault action := by
  constructor
  · rintro ⟨fault, h⟩
    exact atFault_of_apply_error h
  · exact AtFault.apply_error

/-! ## Replays that are not told to stop -/

theorem run_false_cons (h : r.apply rec.step.action = .ok (rec.outcome, r'))
    (steps : List ScriptStep) :
    run false (rec.step :: steps) r
      = { run false steps r' with records := rec :: (run false steps r').records } := by
  rw [run, h]
  rfl

theorem Replayed.run_append (h : Replayed start records r) (more : List ScriptStep) :
    Replay.run false (records.map (·.step) ++ more) start
      = { Replay.run false more r with
          records := records ++ (Replay.run false more r).records } := by
  induction h generalizing more with
  | nil => rfl
  | concat before step ih =>
    rw [List.map_append, List.append_assoc, ih]
    simp only [List.map_cons, List.map_nil, List.singleton_append]
    rw [run_false_cons step, List.append_assoc]
    rfl

/-- Transcripts of all steps, or of those in front of the first one at fault. -/
inductive Complete (start : Replay) : List ScriptStep → Transcript → Prop
  | toTheEnd {records : List StepRecord} {last : Replay} (carried : Replayed start records last) :
      Complete start (records.map (·.step)) ⟨records, none, last⟩
  | upTo {records : List StepRecord} {last : Replay} {bad : ScriptStep} {rest : List ScriptStep}
      {fault : StepFault} (carried : Replayed start records last)
      (atFault : last.apply bad.action = .error fault) :
      Complete start (records.map (·.step) ++ bad :: rest) ⟨records, some fault, last⟩

/-- **A replay that is not told to stop carries out every step in front of the first one at
fault.** -/
theorem run_complete (steps : List ScriptStep) (r : Replay) :
    Complete r steps (run false steps r) := by
  induction steps generalizing r with
  | nil => exact .toTheEnd .nil
  | cons step steps ih =>
    cases ha : r.apply step.action with
    | error fault =>
      have hrun : run false (step :: steps) r = ⟨[], some fault, r⟩ := by rw [run, ha]
      rw [hrun]
      exact .upTo .nil ha
    | ok done =>
      obtain ⟨outcome, r'⟩ := done
      have hfirst : r.apply (StepRecord.mk step outcome).step.action = .ok (outcome, r') := ha
      have hrest := ih r'
      rw [run_false_cons hfirst steps]
      generalize run false steps r' = t at hrest
      cases hrest with
      | toTheEnd carried => exact .toTheEnd (carried.cons hfirst)
      | upTo carried atFault => exact .upTo (carried.cons hfirst) atFault

/-! ## Replays that stop at the first mismatch -/

/-- A replay that is told to stop does what it would do otherwise, as far as the first step that
does not come to what was expected; and if there is none, to the end. -/
theorem run_true_cases (steps : List ScriptStep) (r : Replay) :
    (run true steps r = run false steps r ∧
      ∀ rec ∈ (run false steps r).records, rec.isMatch = true) ∨
    ∃ before rec after last, (run false steps r).records = before ++ rec :: after ∧
      (∀ q ∈ before, q.isMatch = true) ∧ rec.isMatch = false ∧
      run true steps r = ⟨before ++ [rec], none, last⟩ := by
  induction steps generalizing r with
  | nil => exact Or.inl ⟨rfl, by simp [run]⟩
  | cons step steps ih =>
    cases ha : r.apply step.action with
    | error fault =>
      have hrun : ∀ failFast, run failFast (step :: steps) r = ⟨[], some fault, r⟩ := by
        intro failFast
        rw [run, ha]
      rw [hrun, hrun]
      exact Or.inl ⟨rfl, by simp⟩
    | ok done =>
      obtain ⟨outcome, r'⟩ := done
      have hfirst : r.apply (StepRecord.mk step outcome).step.action = .ok (outcome, r') := ha
      have hfalse := run_false_cons hfirst steps
      dsimp only at hfalse
      rw [hfalse]
      cases hmatch : (StepRecord.mk step outcome).isMatch with
      | false =>
        refine Or.inr ⟨[], ⟨step, outcome⟩, _, r', rfl, by simp, hmatch, ?_⟩
        simp [run, ha, hmatch]
      | true =>
        have htrue : run true (step :: steps) r
            = { run true steps r' with
                records := ⟨step, outcome⟩ :: (run true steps r').records } := by
          simp [run, ha, hmatch]
        rw [htrue]
        rcases ih r' with ⟨hsame, hall⟩ | ⟨before, rec, after, last, hrec, hbefore, hbad, hrun⟩
        · rw [hsame]
          exact Or.inl ⟨rfl, List.forall_mem_cons.mpr ⟨hmatch, hall⟩⟩
        · refine Or.inr ⟨⟨step, outcome⟩ :: before, rec, after, last, ?_, ?_, hbad, ?_⟩
          · rw [hrec, List.cons_append]
          · exact List.forall_mem_cons.mpr ⟨hmatch, hbefore⟩
          · rw [hrun, List.cons_append]

end Replay

/-! ## The counter of mismatches -/

theorem StepRecord.isMatch_iff {rec : StepRecord} :
    rec.isMatch = true ↔ rec.outcome.kind = rec.step.expected := by
  rw [isMatch, beq_iff_eq, eq_comm]

/-- The number of mismatches with which their counter goes round. -/
def Replay.countBound : Nat := 0x80000000

/-- How many steps have not come to what was expected of them. -/
def Replay.missed (records : List StepRecord) : Nat :=
  records.countP fun rec => rec.outcome.kind ≠ rec.step.expected

theorem Replay.missed_eq_zero_iff {records : List StepRecord} :
    missed records = 0 ↔ ∀ rec ∈ records, rec.isMatch = true := by
  simp [missed, List.countP_eq_zero, StepRecord.isMatch_iff]

theorem Replay.missed_cons (rec : StepRecord) (records : List StepRecord) :
    missed (rec :: records) = (if rec.isMatch then 0 else 1) + missed records := by
  rw [missed, List.countP_cons, Nat.add_comm]
  simp [missed, StepRecord.isMatch_iff]

namespace Transcript

variable {t : Transcript}

/-- The counter, from wherever it starts, goes on as the number of mismatches does. -/
theorem foldl_mismatches (records : List StepRecord) (n : Nat) :
    records.foldl (fun n rec => if rec.isMatch then n else n + 1) (Int32.ofNat n)
      = .ofNat (n + Replay.missed records) := by
  induction records generalizing n with
  | nil => rfl
  | cons rec records ih =>
    rw [List.foldl_cons, Replay.missed_cons, ← Nat.add_assoc]
    cases rec.isMatch with
    | true => exact ih n
    | false =>
      have hnext : Int32.ofNat n + 1 = .ofNat (n + 1) := (Int32.ofNat_add n 1).symm
      rw [if_neg Bool.false_ne_true, hnext]
      exact ih (n + 1)

/-- The counter holds as much of the number of mismatches as goes into 32 bits. -/
theorem mismatches_eq (t : Transcript) : t.mismatches = .ofNat (Replay.missed t.records) := by
  rw [mismatches, ← Nat.zero_add (Replay.missed t.records)]
  exact foldl_mismatches t.records 0

/-- Before it goes round, the counter holds the number of mismatches. -/
theorem toInt_mismatches (hn : Replay.missed t.records < Replay.countBound) :
    t.mismatches.toInt = Replay.missed t.records := by
  rw [mismatches_eq, Int32.toInt_ofNat_of_lt hn]

/-- What is reported where no step is at fault. -/
theorem failure_of_faultless (hf : t.fault = none)
    (hn : Replay.missed t.records < Replay.countBound) :
    t.failure = if Replay.missed t.records = 0 then none
      else some [.message <| toString (Replay.missed t.records) ++
        " step(s) did not match their expected outcome"] := by
  have hint := toInt_mismatches hn
  have hpos : 0 < t.mismatches ↔ Replay.missed t.records ≠ 0 := by
    rw [Int32.lt_iff_toInt_lt, hint, ← Nat.pos_iff_ne_zero]
    exact Int.natCast_pos
  have htext : toString t.mismatches = toString (Replay.missed t.records) := by
    show toString t.mismatches.toInt = _
    rw [hint]
    rfl
  rw [failure, hf]
  dsimp only
  by_cases hzero : Replay.missed t.records = 0
  · rw [if_neg (by simp [hpos, hzero]), if_pos hzero]
  · rw [if_pos (hpos.mpr hzero), if_neg hzero, ← htext]
    rfl

theorem failure_eq_none_iff (hn : Replay.missed t.records < Replay.countBound) :
    t.failure = none ↔ t.fault = none ∧ ∀ rec ∈ t.records, rec.isMatch = true := by
  rw [← Replay.missed_eq_zero_iff]
  cases hf : t.fault with
  | some fault => simp [failure, hf]
  | none =>
    rw [failure_of_faultless hf hn]
    simp

end Transcript

/-! ## Verdicts -/

namespace Replay

variable {steps : List ScriptStep} {r last : Replay} {records : List StepRecord}

theorem missed_run_le (failFast : Bool) (steps : List ScriptStep) (r : Replay) :
    missed (run failFast steps r).records ≤ steps.length := by
  have hle := (run_replayed failFast steps r).2.length_le
  rw [List.length_map] at hle
  exact Nat.le_trans List.countP_le_length hle

/-- A replay that is told to stop at the first mismatch meets at most that one. -/
theorem missed_run_true_le (steps : List ScriptStep) (r : Replay) :
    missed (run true steps r).records ≤ 1 := by
  rcases run_true_cases steps r with ⟨hsame, hall⟩ | ⟨before, rec, after, last, -, hb, -, hrun⟩
  · rw [hsame, missed_eq_zero_iff.mpr hall]
    exact Nat.zero_le 1
  · have hzero := missed_eq_zero_iff.mpr hb
    rw [missed] at hzero
    rw [hrun, missed, List.countP_append, hzero, Nat.zero_add]
    exact List.countP_le_length

/-- Where every step has come to what was expected, it makes no difference whether the replay was
told to stop. -/
theorem run_of_all_match {a : Bool} (h : ∀ rec ∈ (run a steps r).records, rec.isMatch = true)
    (b : Bool) : run b steps r = run a steps r := by
  rcases run_true_cases steps r with ⟨hsame, -⟩ | ⟨before, rec, after, last, hrec, -, hbad, hrun⟩
  · cases a <;> cases b <;> simp only [hsame]
  · have hmem : rec ∈ (run a steps r).records := by
      cases a
      · simp [hrec]
      · simp [hrun]
    rw [h rec hmem] at hbad
    cases hbad

theorem run_true_prefix (steps : List ScriptStep) (r : Replay) :
    (run true steps r).records <+: (run false steps r).records := by
  rcases run_true_cases steps r with ⟨hsame, -⟩ | ⟨before, rec, after, last, hrec, -, -, hrun⟩
  · simp only [hsame, List.prefix_refl]
  · rw [hrec, hrun]
    exact ⟨after, (List.append_cons before rec after).symm⟩

theorem takeWhile_isMatch {before : List StepRecord} {rec : StepRecord}
    (hbefore : ∀ q ∈ before, q.isMatch = true) (hbad : rec.isMatch = false)
    (after : List StepRecord) : (before ++ rec :: after).takeWhile (·.isMatch) = before := by
  rw [List.takeWhile_append_of_pos hbefore, List.takeWhile_cons_of_neg (by simp [hbad]),
    List.append_nil]

/-- The first step that does not come to what was expected is the last one of a replay that is told
to stop. -/
theorem run_true_of_mismatch {before after : List StepRecord} {rec : StepRecord}
    (hrec : (run false steps r).records = before ++ rec :: after)
    (hbefore : ∀ q ∈ before, q.isMatch = true) (hbad : rec.isMatch = false) :
    (run true steps r).records = before ++ [rec] := by
  rcases run_true_cases steps r with ⟨-, hall⟩ | ⟨before', rec', after', last, hrec', hb, hr, hrun⟩
  · have hmatch := hall rec (by rw [hrec]; exact List.mem_append_right _ (List.mem_cons_self ..))
    rw [hbad] at hmatch
    cases hmatch
  · -- Both are the steps in front of the first mismatch.
    have hsplit := hrec.symm.trans hrec'
    have hsame : before = before' := by
      rw [← takeWhile_isMatch hbefore hbad after, hsplit, takeWhile_isMatch hb hr]
    subst hsame
    cases List.append_cancel_left hsplit
    rw [hrun]

/-- Steps that have all been carried out are those of a replay that is not told to stop. -/
theorem Replayed.run_eq (h : Replayed r records last) :
    Replay.run false (records.map (·.step)) r = ⟨records, none, last⟩ := by
  have hrun := h.run_append []
  rwa [List.append_nil, Replay.run, List.append_nil] at hrun

/-- If every step has come to what was expected, that is the replay, whatever it is told. -/
theorem Replayed.run_eq_of_all_match (h : Replayed r records last)
    (hall : ∀ rec ∈ records, rec.isMatch = true) (failFast : Bool) :
    Replay.run failFast (records.map (·.step)) r = ⟨records, none, last⟩ := by
  have hmatch : ∀ rec ∈ (Replay.run false (records.map (·.step)) r).records,
      rec.isMatch = true := by
    rwa [h.run_eq]
  rw [run_of_all_match hmatch, h.run_eq]

theorem failure_run_eq_none_iff {failFast : Bool}
    (hn : missed (run failFast steps r).records < countBound) :
    (run failFast steps r).failure = none ↔
      ∃ records last, Replayed r records last ∧ records.map (·.step) = steps ∧
        ∀ rec ∈ records, rec.outcome.kind = rec.step.expected := by
  simp only [← StepRecord.isMatch_iff]
  rw [Transcript.failure_eq_none_iff hn]
  constructor
  · rintro ⟨hfault, hall⟩
    rw [← run_of_all_match hall false] at hfault hall
    have hrun := run_complete steps r
    generalize run false steps r = t at hfault hall hrun
    cases hrun with
    | toTheEnd carried => exact ⟨_, _, carried, rfl, hall⟩
    | upTo => cases hfault
  · rintro ⟨records, last, hr, rfl, hall⟩
    rw [hr.run_eq_of_all_match hall]
    exact ⟨rfl, hall⟩

/-- A step that changes nothing comes to the same however often it is carried out. -/
theorem run_false_replicate (rec : StepRecord) (h : r.apply rec.step.action = .ok (rec.outcome, r))
    (n : Nat) : run false (.replicate n rec.step) r = ⟨.replicate n rec, none, r⟩ := by
  induction n with
  | zero => rfl
  | succ n ih =>
    rw [List.replicate_succ, run_false_cons h, ih]
    rfl

/-- What a replay reports that is not told to stop and has met no step at fault. -/
theorem Replayed.failure_run (h : Replayed r records last) (hn : missed records < countBound) :
    (Replay.run false (records.map (·.step)) r).failure = if missed records = 0 then none
      else some [.message <| toString (missed records) ++
        " step(s) did not match their expected outcome"] := by
  rw [h.run_eq]
  exact Transcript.failure_of_faultless rfl hn

end Replay

/-- A script that goes well with a configuration: an engine starts with it, no step of the script is
at fault, and every step comes to what is expected of it. -/
def Script.GoesWell (script : Script) (config : Config) (memory : Memory) : Prop :=
  ∃ engine records last, Engine.start config memory = .ok engine ∧
    Replay.Replayed (.start engine) records last ∧ records.map (·.step) = script.steps ∧
    ∀ rec ∈ records, rec.outcome.kind = rec.step.expected

namespace RunOptions

variable {o : RunOptions} {script : Script} {config : Config} {memory : Memory} {engine : Engine}

/-- The counter of mismatches does not go round in a replay. -/
def Counts (o : RunOptions) (script : Script) (config : Config) (memory : Memory) : Prop :=
  ∀ engine, Engine.start config memory = .ok engine →
    Replay.missed (Replay.run o.failFast script.steps (.start engine)).records < Replay.countBound

theorem counts_of_failFast_or (h : o.failFast = true ∨ script.steps.length < Replay.countBound) :
    o.Counts script config memory := by
  intro engine _
  rcases h with hstop | hshort
  · rw [hstop]
    exact Nat.lt_of_le_of_lt (Replay.missed_run_true_le _ _) (by decide)
  · exact Nat.lt_of_le_of_lt (Replay.missed_run_le _ _ _) hshort

theorem replay_of_start (hs : Engine.start config memory = .ok engine) :
    (o.replay script config memory).failure
      = (Replay.run o.failFast script.steps (.start engine)).failure := by
  rw [replay, hs]

theorem failure_replay_eq_none_iff (hn : o.Counts script config memory) :
    (o.replay script config memory).failure = none ↔ script.GoesWell config memory := by
  cases hs : Engine.start config memory with
  | error reason => simp [replay, Script.GoesWell, hs]
  | ok engine =>
    rw [replay_of_start hs, Replay.failure_run_eq_none_iff (hn engine hs)]
    simp [Script.GoesWell, hs]

theorem failure_execute_eq_none_iff {env : Environment} {files : Files}
    (hn : ∀ script config, o.loadScript files = .ok script →
      Config.load env files o.config = .ok config → o.Counts script config memory) :
    (o.execute env files memory).failure = none ↔
      ∃ script config, o.loadScript files = .ok script ∧
        Config.load env files o.config = .ok config ∧ script.GoesWell config memory := by
  unfold execute
  cases hscript : o.loadScript files with
  | error causes => simp
  | ok script =>
    cases hconfig : Config.load env files o.config with
    | error failure => simp
    | ok config => simp [failure_replay_eq_none_iff (hn script config hscript hconfig)]

/-- A script that goes well is replayed in the same way whether the replay is told to stop at a
mismatch or not. -/
theorem run_of_goesWell (hw : script.GoesWell config memory) :
    ∃ engine t, Engine.start config memory = .ok engine ∧ t.failure = none ∧
      ∀ failFast, Replay.run failFast script.steps (.start engine) = t := by
  obtain ⟨engine, records, last, hs, hr, hsteps, hall⟩ := hw
  have hmatch : ∀ rec ∈ records, rec.isMatch = true :=
    fun rec hrec => StepRecord.isMatch_iff.mpr (hall rec hrec)
  have hzero : Replay.missed records = 0 := Replay.missed_eq_zero_iff.mpr hmatch
  refine ⟨engine, ⟨records, none, last⟩, hs, ?_, fun failFast => ?_⟩
  · have hn : Replay.missed records < Replay.countBound := by
      rw [hzero]
      decide
    rw [Transcript.failure_of_faultless rfl hn]
    exact if_pos hzero
  · rw [← hsteps]
    exact hr.run_eq_of_all_match hmatch failFast

theorem replay_of_goesWell (hw : script.GoesWell config memory) (failFast : Bool) :
    (o.replay script config memory).failure = none ∧
      { o with failFast }.replay script config memory = o.replay script config memory := by
  obtain ⟨engine, t, hs, hnone, hrun⟩ := run_of_goesWell hw
  refine ⟨by rw [replay_of_start hs, hrun, hnone], ?_⟩
  rw [replay, replay, hs]
  dsimp only
  rw [hrun, hrun]

/-- **The verdict on a script is about every step of it,** as long as the counter of mismatches does
not go round, which it does neither where the replay is told to stop at the first one nor on a
script of fewer than 2 ^ 31 steps. A replay succeeds exactly if its engine starts, no step is at
fault and every step comes to what is expected of it (`Script.GoesWell`); being told to stop at a
mismatch changes nothing then, neither the verdict nor anything that was done. A replay that is not
told to stop carries out every step in front of the first one at fault, and if there is none, it
reports how many steps did not come to what was expected. One that is told to does the same as far
as the first such step, which is its last one. -/
theorem verdict_is_about_every_step (o : RunOptions) (script : Script) (config : Config)
    (memory : Memory) :
    (o.failFast = true ∨ script.steps.length < Replay.countBound → o.Counts script config memory) ∧
    (o.Counts script config memory →
      ((o.replay script config memory).failure = none ↔ script.GoesWell config memory)) ∧
    (∀ env files,
      (∀ s c, o.loadScript files = .ok s → Config.load env files o.config = .ok c →
        o.Counts s c memory) →
      ((o.execute env files memory).failure = none ↔
        ∃ s c, o.loadScript files = .ok s ∧ Config.load env files o.config = .ok c ∧
          s.GoesWell c memory)) ∧
    (∀ r action, (∃ fault, Replay.apply r action = .error fault) ↔ r.AtFault action) ∧
    (script.GoesWell config memory → ∀ failFast,
      (o.replay script config memory).failure = none ∧
        { o with failFast }.replay script config memory = o.replay script config memory) ∧
    ∀ engine, Engine.start config memory = .ok engine →
      (script.GoesWell config memory → ∀ failFast,
        Replay.run failFast script.steps (.start engine)
          = Replay.run o.failFast script.steps (.start engine)) ∧
      Replay.Complete (.start engine) script.steps
        (Replay.run false script.steps (.start engine)) ∧
      (∀ records last, Replay.Replayed (.start engine) records last →
        records.map (·.step) = script.steps → Replay.missed records < Replay.countBound →
        ({ o with failFast := false }.replay script config memory).failure
          = if Replay.missed records = 0 then none
            else some [.message <| toString (Replay.missed records) ++
              " step(s) did not match their expected outcome"]) ∧
      (Replay.run true script.steps (.start engine)).records
        <+: (Replay.run false script.steps (.start engine)).records ∧
      ∀ before rec after,
        (Replay.run false script.steps (.start engine)).records = before ++ rec :: after →
        (∀ q ∈ before, q.outcome.kind = q.step.expected) → rec.outcome.kind ≠ rec.step.expected →
        (Replay.run true script.steps (.start engine)).records = before ++ [rec] := by
  refine ⟨counts_of_failFast_or, failure_replay_eq_none_iff,
    fun _ _ => failure_execute_eq_none_iff, fun _ _ => Replay.apply_error_iff,
    replay_of_goesWell, ?_⟩
  intro engine hs
  refine ⟨?_, Replay.run_complete _ _, ?_, Replay.run_true_prefix _ _, ?_⟩
  · intro hw failFast
    obtain ⟨engine', t, hs', -, hrun⟩ := run_of_goesWell hw
    obtain rfl : engine' = engine := Except.ok.inj (hs'.symm.trans hs)
    rw [hrun, hrun]
  · intro records last hr hsteps hn
    rw [replay_of_start hs, ← hsteps]
    exact hr.failure_run hn
  · intro before rec after hrec hbefore hbad
    refine Replay.run_true_of_mismatch hrec ?_ ?_
    · exact fun q hq => StepRecord.isMatch_iff.mpr (hbefore q hq)
    · exact Bool.eq_false_iff.mpr fun hmatch => hbad (StepRecord.isMatch_iff.mp hmatch)

/-- A script that binds a session twice, and does not expect to be able to undo it. -/
def mistakenScript : Script :=
  ⟨[⟨.openSession "a" .device, none⟩, ⟨.bindContext "a" none, none⟩,
    ⟨.bindContext "a" none, none⟩, ⟨.unbindContext "a", some "no_context"⟩, ⟨.close "a", none⟩]⟩

theorem verdict_is_about_every_step_when_mistaken :
    ((mk "s" none false false).replay mistakenScript .small).failure
        = some [.message "2 step(s) did not match their expected outcome"] ∧
      ¬mistakenScript.GoesWell .small .ordinary ∧
      (Replay.run true mistakenScript.steps (.start (Engine.fresh .small))).records.map
        (·.outcome.kind) = ["ok", "ok", "already_bound"] ∧
      (Script.mk (mistakenScript.steps.take 2)).GoesWell .small .ordinary ∧
      Replay.run true (mistakenScript.steps.take 2) (.start (Engine.fresh .small))
        = Replay.run false (mistakenScript.steps.take 2) (.start (Engine.fresh .small)) := by
  have hs : Engine.start .small = .ok (Engine.fresh .small) := rfl
  obtain ⟨hcounts, hwell, -, -, -, hrun⟩ :=
    verdict_is_about_every_step (.mk "s" none false false) mistakenScript .small .ordinary
  obtain ⟨-, -, hcount, -, hstop⟩ := hrun _ hs
  have hfailure :=
    (hcount _ _ (Replay.run_replayed false mistakenScript.steps _).1 rfl (by decide)).trans rfl
  have hmatch : ∀ q ∈ (Replay.run false mistakenScript.steps
      (.start (Engine.fresh .small))).records.take 2, q.outcome.kind = q.step.expected :=
    List.forall_mem_cons.mpr ⟨rfl, List.forall_mem_singleton.mpr rfl⟩
  obtain ⟨hcounts', hwell', -, -, -, hfront⟩ := verdict_is_about_every_step
    (.mk "s" none false false) ⟨mistakenScript.steps.take 2⟩ .small .ordinary
  have hgood := (hwell' (hcounts' (Or.inr (by decide)))).mp rfl
  refine ⟨hfailure, ?_, ?_, hgood, (hfront _ hs).1 hgood true⟩
  · rw [← hwell (hcounts (Or.inr (by decide))), hfailure]
    nofun
  · rw [hstop _ _ _ rfl hmatch (by decide)]
    rfl

/-- A configuration under which no session of device scope can be opened. -/
def contextsOnly : Config :=
  { Config.small with device := { profilerDevice := false } }

/-- A script that goes on trying to open a session of device scope, as long as it takes the counter
of mismatches to go round. -/
def tirelessScript : Script :=
  ⟨List.replicate Replay.countBound ⟨.openSession "a" .device, none⟩⟩

/-- No step of a script comes to what is expected of it. Its replay succeeds all the same, unless it
is told to stop at the first mismatch. -/
theorem mismatches_come_to_nothing :
    ((mk "s" none false false).replay tirelessScript contextsOnly).failure = none ∧
      ¬tirelessScript.GoesWell contextsOnly .ordinary ∧
      ((mk "s" none false true).replay tirelessScript contextsOnly).failure
        = some [.message "1 step(s) did not match their expected outcome"] := by
  have hs : Engine.start contextsOnly = .ok (Engine.fresh contextsOnly) := rfl
  have hrefused : (Replay.start (Engine.fresh contextsOnly)).apply (.openSession "a" .device)
      = .ok (.error (.unsupportedScope .device), .start (Engine.fresh contextsOnly)) := rfl
  have hstopped : ((mk "s" none false true).replay tirelessScript contextsOnly).failure
      = some [.message "1 step(s) did not match their expected outcome"] := by
    have hfirst : tirelessScript.steps = ⟨.openSession "a" .device, none⟩ ::
        List.replicate (Replay.countBound - 1) ⟨.openSession "a" .device, none⟩ := List.replicate_succ
    rw [replay_of_start hs, hfirst]
    rfl
  refine ⟨?_, ?_, hstopped⟩
  · rw [replay_of_start hs]
    have hrun := Replay.run_false_replicate
      ⟨⟨.openSession "a" .device, none⟩, .error (.unsupportedScope .device)⟩ hrefused
      Replay.countBound
    rw [tirelessScript]
    dsimp only at hrun ⊢
    rw [hrun, Transcript.failure, Transcript.mismatches_eq, Replay.missed, List.countP_replicate]
    rfl
  · intro hw
    have hnone := (replay_of_goesWell (o := .mk "s" none false true) hw true).1
    rw [hstopped] at hnone
    cases hnone

end RunOptions

end Perfmon
