import Perfmon.Proofs.Handles
import Perfmon.Proofs.Vacancy
import Perfmon.Replay
/-!
# Scripts are runs

A step of a script that is carried out is one direct call, and the replay's names change only when
the call has opened a session or closed one (`apply_carried`). So a replay takes its engine to states
that undisturbed runs lead to (`Replayed.run`), wherever it ends: behind all steps, at a step that
has not come to what was expected, or in front of one that is at fault. What was left open is closed
with the engine, which is vacant then (`scripts_leave_nothing`).
-/

namespace Perfmon

/-- Whether a step is there to open a session. -/
def ScriptStep.opens (s : ScriptStep) : Bool :=
  match s.action with
  | .openSession _ _ => true
  | _ => false

/-- What a step has made of a name: a session was opened under it, or the one behind it closed. -/
def turn? (action : ScriptAction) (outcome : Outcome) (name : String) : Option Bool :=
  match action, outcome with
  | .openSession opened _, .ok _ => if opened = name then some true else none
  | .close closed, .ok _ => if closed = name then some false else none
  | _, _ => none

namespace Replay

variable {r r' start : Replay} {action : ScriptAction} {outcome : Outcome} {name : String}
  {h : Handle}

/-! ## One step -/

/-- What a step can come to that is carried out. -/
inductive Carried (r : Replay) : ScriptAction → Outcome → Replay → Prop
  /-- A session was opened and has the name. -/
  | opened {name : String} {scope : Scope} {h : Handle}
      (reply : (r.engine.perform (.openSession scope)).1 = .opened (.ok h)) :
      Carried r (.openSession name scope) (.ok (.opened scope name h))
        ⟨(r.engine.perform (.openSession scope)).2, r.sessions.insert name h⟩
  /-- The session behind a name was closed. -/
  | closed {name : String} {h : Handle} (named : r.sessions.find? name = some h)
      (reply : (r.engine.perform (.close h)).1 = .done (.ok ())) :
      Carried r (.close name) (.ok (.closed name))
        ⟨(r.engine.perform (.close h)).2, r.sessions.erase name⟩
  /-- Another call was made, to the session behind a name or to none. -/
  | called {action : ScriptAction} {outcome : Outcome} (c : Call)
      (named : ∀ h, c.target? = some h → ∃ name, r.sessions.find? name = some h)
      (direct : c.isRequest = false) (undisturbed : c.disturbs = false)
      (openings : (r.engine.perform c).1.openings = 0)
      (closings : c.closings (r.engine.perform c).1 = 0)
      (error : failure? outcome = (r.engine.perform c).1.error?)
      (turn : ∀ name, turn? action outcome name = none) :
      Carried r action outcome ⟨(r.engine.perform c).2, r.sessions⟩

theorem named_of_find? (hn : r.sessions.find? name = some h) :
    ∀ k, some h = some k → ∃ name, r.sessions.find? name = some k := by
  intro k hk
  exact ⟨name, hn.trans hk⟩

/-- A step that is one operation of the session behind a name. -/
theorem withName_carried {α : Type} {f : Handle → Except Error α × Engine} {deed : α → Deed}
    (c : Handle → Call) (ha : r.withName name f deed = .ok (outcome, r'))
    (target : ∀ h, (c h).target? = some h := by exact fun _ => rfl)
    (direct : ∀ h, (c h).isRequest = false := by exact fun _ => rfl)
    (undisturbed : ∀ h, (c h).disturbs = false := by exact fun _ => rfl)
    (openings : ∀ h, (r.engine.perform (c h)).1.openings = 0 := by exact fun _ => rfl)
    (closings : ∀ h, (c h).closings (r.engine.perform (c h)).1 = 0 := by exact fun _ => rfl)
    (engine : ∀ h, (r.engine.perform (c h)).2 = (f h).2 := by exact fun _ => rfl)
    (error : ∀ h, failure? (f h).1 = (r.engine.perform (c h)).1.error? := by exact fun _ => rfl)
    (turn : ∀ outcome name, turn? action outcome name = none := by exact fun _ _ => rfl) :
    r.Carried action outcome r' := by
  unfold withName at ha
  split at ha
  · rename_i h hn
    cases ha
    rw [← engine h]
    have hnamed : ∀ k, (c h).target? = some k → ∃ name, r.sessions.find? name = some k := by
      rw [target]
      exact named_of_find? hn
    exact .called (c h) hnamed (direct h) (undisturbed h) (openings h) (closings h)
      ((failure?_map _ _).trans (error h)) (turn _)
  · cases ha

theorem openAs_carried (r : Replay) (name : String) (scope : Scope) :
    r.Carried (.openSession name scope) (r.openAs name scope).1 (r.openAs name scope).2 := by
  have hp : r.engine.perform (.openSession scope)
      = (.opened (r.engine.openSession scope).1, (r.engine.openSession scope).2) := rfl
  unfold openAs
  split
  · rename_i h engine ho
    rw [ho] at hp
    have hc : r.Carried (.openSession name scope) (.ok (.opened scope name h))
        ⟨(r.engine.perform (.openSession scope)).2, r.sessions.insert name h⟩ :=
      .opened (by rw [hp])
    rwa [hp] at hc
  · rename_i err engine ho
    rw [ho] at hp
    have hc : r.Carried (.openSession name scope) (.error err)
        ⟨(r.engine.perform (.openSession scope)).2, r.sessions⟩ :=
      .called (.openSession scope) nofun rfl rfl (by rw [hp]; rfl) (by rw [hp]; rfl)
        (by rw [hp]; rfl) fun _ => rfl
    rwa [hp] at hc

theorem closeAs_carried (hn : r.sessions.find? name = some h) :
    r.Carried (.close name) (r.closeAs name h).1 (r.closeAs name h).2 := by
  have hp : r.engine.perform (.close h)
      = (.done (r.engine.close h).1, (r.engine.close h).2) := rfl
  unfold closeAs
  split
  · rename_i engine ho
    rw [ho] at hp
    have hc := Carried.closed hn (by rw [hp])
    rwa [hp] at hc
  · rename_i err engine ho
    rw [ho] at hp
    have hc : r.Carried (.close name) (.error err)
        ⟨(r.engine.perform (.close h)).2, r.sessions⟩ :=
      .called (.close h) (named_of_find? hn) rfl rfl rfl (by rw [hp]; rfl) (by rw [hp]; rfl)
        fun _ => rfl
    rwa [hp] at hc

/-- **A step that is carried out is one call.** -/
theorem apply_carried (ha : r.apply action = .ok (outcome, r')) : r.Carried action outcome r' := by
  cases action with
  | createContext fd =>
    cases ha
    exact .called (.createContext fd) nofun rfl rfl rfl rfl rfl fun _ => rfl
  | destroyContext fd =>
    unfold apply at ha
    dsimp only at ha
    split at ha
    · rename_i ctx engine hd
      cases ha
      rw [show engine = (r.engine.perform (.destroyContext fd)).2 from (congrArg Prod.snd hd).symm]
      exact .called (.destroyContext fd) nofun rfl rfl rfl rfl rfl fun _ => rfl
    · cases ha
  | openSession name scope =>
    have ho : r.openAs name scope = (outcome, r') := Except.ok.inj ha
    have hc := r.openAs_carried name scope
    rwa [ho] at hc
  | close name =>
    unfold apply at ha
    dsimp only at ha
    split at ha
    · rename_i h hn
      have ho : r.closeAs name h = (outcome, r') := Except.ok.inj ha
      have hc := closeAs_carried hn
      rwa [ho] at hc
    · cases ha
  | bindContext name fd => exact withName_carried (.bindContext · fd) ha
  | unbindContext name => exact withName_carried .unbindContext ha
  | reserve name resource contextSwitched =>
    exact withName_carried (.reserve · resource contextSwitched) ha
  | release name resource => exact withName_carried (.release · resource) ha
  | bindPm name => exact withName_carried .bindPm ha
  | unbindPm name => exact withName_carried .unbindPm ha
  | info name => exact withName_carried .info ha
  | exec name mode count ops =>
    unfold apply at ha
    dsimp only at ha
    split at ha
    · cases ha
    · rename_i h hn
      cases hops : regOps ops with
      | error fault =>
        rw [hops] at ha
        cases ha
      | ok ops' =>
        rw [hops] at ha
        cases ha
        exact .called
          (.execute h { memory := .list ops' } (count.getD (.ofNat ops'.length)).toNat mode)
          (named_of_find? hn) rfl rfl rfl rfl (failure?_map _ _) fun _ => rfl

/-! ## All steps -/

/-- Steps that were carried out one after the other. -/
inductive Replayed (start : Replay) : List StepRecord → Replay → Prop
  | nil : Replayed start [] start
  | concat {records : List StepRecord} {r r' : Replay} {rec : StepRecord}
      (before : Replayed start records r) (step : r.apply rec.step.action = .ok (rec.outcome, r')) :
      Replayed start (records ++ [rec]) r'

variable {records : List StepRecord} {rec : StepRecord} {config : Config} {memory : Memory}
  {engine : Engine}

theorem Replayed.cons (hstep : start.apply rec.step.action = .ok (rec.outcome, r))
    (hr : Replayed r records r') : Replayed start (rec :: records) r' := by
  induction hr with
  | nil => exact .concat .nil hstep
  | concat _ step ih => exact ih.concat step

/-- A replay carries out a part of its steps, from the first one on. -/
theorem run_replayed (failFast : Bool) (steps : List ScriptStep) (r : Replay) :
    Replayed r (run failFast steps r).records (run failFast steps r).last ∧
      (run failFast steps r).records.map (·.step) <+: steps := by
  induction steps generalizing r with
  | nil => exact ⟨.nil, List.prefix_refl []⟩
  | cons step steps ih =>
    unfold run
    cases ha : r.apply step.action with
    | error fault => exact ⟨.nil, List.nil_prefix⟩
    | ok done =>
      obtain ⟨outcome, r'⟩ := done
      have hfirst : r.apply (StepRecord.mk step outcome).step.action = .ok (outcome, r') := ha
      dsimp only
      split
      · exact ⟨Replayed.nil.cons hfirst, ⟨steps, rfl⟩⟩
      · obtain ⟨hr, hsteps⟩ := ih r'
        exact ⟨hr.cons hfirst, List.cons_prefix_cons.mpr ⟨rfl, hsteps⟩⟩

theorem countP_records_le (failFast : Bool) (steps : List ScriptStep) (r : Replay) :
    (run failFast steps r).records.countP (·.step.opens) ≤ steps.countP ScriptStep.opens := by
  have hle := (run_replayed failFast steps r).2.sublist.countP_le (p := ScriptStep.opens)
  rwa [List.countP_map] at hle

/-- A step opens no more sessions than it is there to open. -/
theorem Carried.openings_le {step : ScriptStep} (hc : r.Carried step.action outcome r') :
    ∃ c : Call, c.disturbs = false ∧ r'.engine = (r.engine.perform c).2 ∧
      (r.engine.perform c).1.openings ≤ [step].countP ScriptStep.opens := by
  generalize haction : step.action = action at hc
  cases hc with
  | opened reply =>
    refine ⟨_, rfl, rfl, ?_⟩
    simp [reply, Reply.openings, ScriptStep.opens, haction]
  | closed named reply =>
    refine ⟨_, rfl, rfl, ?_⟩
    simp [reply, Reply.openings]
  | called c named direct undisturbed openings =>
    exact ⟨c, undisturbed, rfl, by simp [openings]⟩

/-- **A replay is a run,** which opens no more sessions than there are steps for it. -/
theorem Replayed.run (hs : Engine.start config memory = .ok engine)
    (hr : Replayed (.start engine) records r)
    (hn : records.countP (·.step.opens) < UInt32.size) :
    ∃ calls, Engine.Run (fun c => c.disturbs = false) config engine calls ∧
      r.engine = engine.performAll calls ∧
      engine.openings calls ≤ records.countP (·.step.opens) := by
  induction hr with
  | nil => exact ⟨[], ⟨⟨_, hs⟩, by simp, Nat.lt_of_le_of_lt (Nat.zero_le _) hn⟩, rfl, Nat.le_refl 0⟩
  | concat before step ih =>
    rename_i records r r' rec
    rw [List.countP_append] at hn ⊢
    obtain ⟨calls, hrun, he, hle⟩ := ih (by omega)
    obtain ⟨c, hc, he', hopen⟩ := (apply_carried step).openings_le
    rw [he] at he' hopen
    have hcount : [rec].countP (·.step.opens) = [rec.step].countP ScriptStep.opens := by
      simp [List.countP_singleton]
    have hmore : engine.openings (calls ++ [c])
        ≤ records.countP (·.step.opens) + [rec].countP (·.step.opens) := by
      rw [Engine.openings_concat, hcount]
      omega
    refine ⟨calls ++ [c], ⟨⟨_, hs⟩, ?_, by omega⟩, ?_, hmore⟩
    · intro d hd
      rcases List.mem_append.mp hd with hd | hd
      · exact hrun.kind d hd
      · rw [List.mem_singleton.mp hd]
        exact hc
    · rw [Engine.performAll_concat, he']

theorem run_reached (hs : Engine.start config memory = .ok engine) {steps : List ScriptStep}
    (hn : steps.countP ScriptStep.opens < UInt32.size) (failFast : Bool) :
    (run failFast steps (.start engine)).last.engine.ReachedUndisturbed config := by
  have hle := countP_records_le failFast steps (.start engine)
  obtain ⟨calls, hrun, he, -⟩ :=
    (run_replayed failFast steps (.start engine)).1.run hs (by omega)
  rw [he]
  exact hrun.reached

/-- **A script leaves nothing behind,** wherever its replay ends. Its engine goes by closing the
sessions that are open then, and all of them can be closed in whatever order they come. After that
nobody holds a resource or has one bound, no power reference is held and no session is counted. -/
theorem scripts_leave_nothing (hs : Engine.start config memory = .ok engine) {steps : List ScriptStep}
    (hn : steps.countP ScriptStep.opens < UInt32.size) (failFast : Bool) {order : List Handle}
    (ho : order.Perm (run failFast steps (.start engine)).last.engine.sessions.keys) :
    (∀ before h after, order = before ++ h :: after →
      (((run failFast steps (.start engine)).last.engine.closeAll before).close h).1 = .ok ()) ∧
    ((run failFast steps (.start engine)).last.engine.closeAll order).Vacant := by
  have he := run_reached hs hn failFast
  refine ⟨?_, he.closeAll_vacant ?_⟩
  · intro before h after horder
    have hnodup : order.Nodup := ho.nodup_iff.mpr (Assoc.nodup _)
    have hmem : h ∈ order := by simp [horder]
    rw [horder] at hnodup
    exact Engine.closeAll_in_turn hnodup (Assoc.mem_keys_iff.mp (ho.mem_iff.mp hmem))
  · intro h hopen
    exact ho.mem_iff.mpr (Assoc.mem_keys_iff.mpr hopen)

/-- A script that gives a name to a second session while the first one has its windows open, and
then has a step that is at fault. -/
def recklessScript : List ScriptStep :=
  [⟨.openSession "a" .device, none⟩, ⟨.bindContext "a" none, none⟩,
    ⟨.reserve "a" .hwpmLegacy false, none⟩, ⟨.bindPm "a", none⟩, ⟨.openSession "a" .context, none⟩,
    ⟨.createContext 3, none⟩, ⟨.bindContext "a" (some 3), none⟩, ⟨.reserve "a" .smpc true, none⟩,
    ⟨.destroyContext 3, none⟩, ⟨.unbindPm "b", none⟩, ⟨.close "a", none⟩]

theorem scripts_leave_nothing_when_reckless :
    (run false recklessScript (.start (Engine.fresh .small))).fault = some (.unopenedSession "b") ∧
      (run false recklessScript (.start (Engine.fresh .small))).last.engine.device.boundTo
        .hwpmLegacy = [⟨1⟩] ∧
      [⟨2⟩, ⟨1⟩].Perm
        (run false recklessScript (.start (Engine.fresh .small))).last.engine.sessions.keys ∧
      ((run false recklessScript (.start (Engine.fresh .small))).last.engine.closeAll
        [⟨2⟩, ⟨1⟩]).Vacant := by
  have ho : [⟨2⟩, ⟨1⟩].Perm
      (run false recklessScript (.start (Engine.fresh .small))).last.engine.sessions.keys :=
    List.Perm.swap _ _ _
  have hs : Engine.start .small = .ok (Engine.fresh .small) := rfl
  exact ⟨rfl, rfl, ho, (scripts_leave_nothing hs (by decide) false ho).2⟩

end Replay

end Perfmon
