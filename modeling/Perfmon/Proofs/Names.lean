import Perfmon.Proofs.Replays
/-!
# Names stand for open sessions

A replay knows the handles of names, and its engine the sessions of handles. The two are brought up
to date in different places, and a name can be given to another session while the first one stays
open. They keep in step all the same (`Named`): a name stands for a handle that is open, and no two
names stand for the same one. Only calls to sessions that are not open complain about the handle
(`perform_reaches`), so no step ever does.
-/

namespace Perfmon

/-! ## Calls that reach their session -/

/-- A result that does not complain about the handle. -/
def Reaches {α : Type} (r : Except Error α) : Prop :=
  ∀ h, r ≠ .error (.unknownSession h)

/-- An error that is passed on. -/
theorem Reaches.of_error {α β : Type} {r : Except Error α} {err : Error} (hr : Reaches r)
    (he : r = .error err) : Reaches (.error err : Except Error β) := by
  intro h herr
  exact hr h (he.trans (congrArg _ (Except.error.inj herr)))

theorem Reaches.map {α β : Type} {r : Except Error α} (hr : Reaches r) (f : α → β) :
    Reaches (r.map f) := by
  cases r with
  | error err => exact hr.of_error rfl
  | ok a => nofun

theorem Reaches.failure?_ne {α : Type} {r : Except Error α} (hr : Reaches r) (h : Handle) :
    failure? r ≠ some (.unknownSession h) :=
  fun hf => hr h (failure?_eq_some_iff.mp hf)

theorem Executor.call_reaches {α : Type} {x : Executor} {c : ExecutorCall}
    {f : Device → Except Error α × Device} (hf : Reaches (f x.device).1) :
    Reaches (x.call c (.error c.injectedError) f).1 := by
  rcases x.call_cases c (.error c.injectedError) f with ⟨-, hx⟩ | hx
  · rw [hx]
    nofun
  · rw [hx]
    exact hf

namespace Session

variable (s : Session) (contexts : ContextRegistry) (x : Executor) (r : Resource)

theorem bindContext_reaches (fd : Option Descriptor) : Reaches (s.bindContext contexts fd) := by
  intro h
  unfold bindContext
  split
  · nofun
  · split
    · nofun
    · nofun
    · split <;> nofun

theorem checkContext_reaches : Reaches (s.checkContext contexts) := by
  intro h
  unfold checkContext
  split
  · split <;> nofun
  · split
    · nofun
    · split <;> nofun

theorem checkReserve_reaches (caps : Capabilities) (contextSwitched : Bool) :
    Reaches (s.checkReserve caps r contextSwitched) := by
  intro h
  unfold checkReserve requestedMode
  split
  · nofun
  · split
    · nofun
    · split
      · nofun
      · nofun
      · nofun
      · nofun
      · split <;> nofun

theorem reserve_reaches (contextSwitched : Bool) : Reaches (s.reserve x r contextSwitched).1 := by
  have hcheck := s.checkReserve_reaches r x.device.capabilities contextSwitched
  unfold reserve
  cases hc : s.checkReserve x.device.capabilities r contextSwitched with
  | error err => exact hcheck.of_error hc
  | ok mode =>
    have hdevice : Reaches (x.reserve s.handle r mode).1 := by
      refine Executor.call_reaches ?_
      unfold Device.reserve
      split <;> nofun
    dsimp only
    split
    · rename_i hx
      exact hdevice.of_error (congrArg Prod.fst hx)
    · nofun
    · nofun

theorem release_reaches : Reaches (s.release x r).1 := by
  have hdevice : Reaches (x.release s.handle r).1 := Executor.call_reaches nofun
  unfold release
  split
  · nofun
  · split
    · rename_i hx
      exact hdevice.of_error (congrArg Prod.fst hx)
    · nofun

theorem bindPm_reaches : Reaches (s.bindPm contexts x).1 := by
  have hcheck := s.checkContext_reaches contexts
  have hdevice : Reaches (x.bind s.handle s.reserved).1 := by
    refine Executor.call_reaches ?_
    unfold Device.bind
    split <;> nofun
  unfold bindPm
  split
  · nofun
  · split
    · nofun
    · split
      · rename_i hc
        exact hcheck.of_error hc
      · split
        · rename_i hx
          exact hdevice.of_error (congrArg Prod.fst hx)
        · nofun

theorem unbindPm_reaches : Reaches (s.unbindPm x).1 := by
  have hdevice : Reaches (x.unbind s.handle s.reserved).1 := Executor.call_reaches nofun
  unfold unbindPm
  split
  · nofun
  · split
    · rename_i hx
      exact hdevice.of_error (congrArg Prod.fst hx)
    · nofun

end Session

theorem OpsBuffer.accessFault?_reaches {m : OpsMemory} {limit : Option Nat} {start len : Nat}
    {err : Error} (hf : accessFault? m limit start len = some err) (h : Handle) :
    err ≠ .unknownSession h := by
  rintro rfl
  unfold accessFault? injected? at hf
  grind [outside]

namespace Batch

theorem runWindow_reaches (j : BatchJob) (w : Window) (b : Batch) :
    Reaches (runWindow j w b).1 := by
  intro h
  unfold runWindow
  cases hin : b.buffer.copyIn w.start w.len with
  | error err =>
    unfold OpsBuffer.copyIn at hin
    split at hin
    · rename_i hf
      cases hin
      exact fun herr => OpsBuffer.accessFault?_reaches hf h (Except.error.inj herr)
    · cases hin
  | ok ops =>
    dsimp only
    split
    · nofun
    · split
      · rename_i hout
        unfold OpsBuffer.copyOut at hout
        split at hout
        · rename_i hf
          cases hout
          exact fun herr => OpsBuffer.accessFault?_reaches hf h (Except.error.inj herr)
        · cases hout
      · nofun

theorem run_reaches (j : BatchJob) (c : Windows) (b : Batch) : Reaches (run j c b).1 := by
  fun_induction run j c b with
  | case1 c b h =>
    intro k herr
    cases herr
  | case2 c b w d h _ e b' hw =>
    have hb := runWindow_reaches j w b
    rwa [hw] at hb
  | case3 c b w d h _ b' hw ih => exact ih

end Batch

namespace Engine

variable {e : Engine} {h : Handle} {s : Session} {c : Call}

theorem checkExec_reaches (e : Engine) (s : Session) (count : Nat) :
    Reaches (e.checkExec s count) := by
  unfold checkExec
  split
  · nofun
  · split
    · nofun
    · split
      · nofun
      · exact s.checkContext_reaches e.contexts

theorem execute_reaches (hs : e.sessions.find? h = some s) (buffer : OpsBuffer) (count : Nat)
    (mode : ExecMode) : Reaches (e.execute h buffer count mode).1.result := by
  have hcheck := e.checkExec_reaches s count
  unfold execute
  rw [hs]
  dsimp only
  split
  · rename_i hc
    exact hcheck.of_error hc
  · split
    · rename_i hp
      unfold Power.busy at hp
      split at hp
      · cases hp
        nofun
      · cases hp
    · exact (Batch.run_reaches _ _ _).map _

theorem openSession_reaches (e : Engine) (scope : Scope) : Reaches (e.openSession scope).1 := by
  have hmemory : Reaches (Staging.allocate e.memory e.config.windowCapacity) := by
    unfold Staging.allocate
    split
    · nofun
    · split <;> nofun
  unfold openSession
  split
  · nofun
  · split
    · rename_i hst
      exact hmemory.of_error hst
    · nofun

/-- **A call to an open session does not complain about the handle,** and a call to none has no
handle to complain about. -/
theorem perform_reaches (hd : c.isRequest = false)
    (ho : ∀ h, c.target? = some h → e.sessions.contains h = true) (k : Handle) :
    (e.perform c).1.error? ≠ some (.unknownSession k) := by
  cases ht : c.target? with
  | none =>
    cases c with
    | openSession scope => exact (e.openSession_reaches scope).failure?_ne k
    | createContext | destroyContext | poke | injectFault | clearFaults | armPowerFailure
      | armFailure =>
      intro herr
      cases herr
    | _ => cases ht
  | some h =>
    obtain ⟨s, hs⟩ := Option.isSome_iff_exists.mp (ho h ht)
    cases c with
    | bindContext q fd =>
      cases ht
      have hr := s.bindContext_reaches e.contexts fd
      simp only [perform, bindContext, withSession_of_open hs]
      refine Reaches.failure?_ne ?_ k
      split
      · rename_i hb
        exact hr.of_error hb
      · intro q herr
        cases herr
    | close q | unbindContext q | info q =>
      cases ht
      simp [perform, close, unbindContext, info, withSession_of_open hs, hs, Reply.error?, failure?]
    | reserve q r contextSwitched =>
      cases ht
      obtain ⟨metrics, trail, hp⟩ := reserve_of_open hs r contextSwitched
      rw [perform, hp]
      exact (s.reserve_reaches e.executor r contextSwitched).failure?_ne k
    | release q r =>
      cases ht
      obtain ⟨trail, hp⟩ := release_of_open hs r
      rw [perform, hp]
      exact (s.release_reaches e.executor r).failure?_ne k
    | bindPm q =>
      cases ht
      simp only [perform, bindPm, withSession_of_open hs]
      exact (s.bindPm_reaches e.contexts e.executor).failure?_ne k
    | unbindPm q =>
      cases ht
      simp only [perform, unbindPm, withSession_of_open hs]
      exact (s.unbindPm_reaches e.executor).failure?_ne k
    | execute q buffer count mode =>
      cases ht
      exact (execute_reaches hs buffer count mode).failure?_ne k
    | control => cases hd
    | openSession | createContext | destroyContext | poke | injectFault | clearFaults
      | armPowerFailure | armFailure => cases ht

end Engine

theorem Outcome.kind_ne_of_reaches {outcome : Outcome} (hr : Reaches outcome) :
    outcome.kind ≠ "unknown_session" := by
  cases outcome with
  | ok deed => simp [Outcome.kind]
  | error err =>
    cases err with
    | unknownSession h => exact absurd rfl (hr h)
    | _ => simp [Outcome.kind, Error.kind]

/-! ## Names -/

/-- The session that a step is about, by its name; an opening is about none yet. -/
def ScriptAction.session? : ScriptAction → Option String
  | .close name | .bindContext name _ | .unbindContext name | .reserve name _ _ | .release name _
  | .bindPm name | .unbindPm name | .info name | .exec name _ _ _ => some name
  | .createContext _ | .destroyContext _ | .openSession _ _ => none

namespace Replay

variable {r r' : Replay} {action : ScriptAction} {outcome : Outcome} {name : String} {h : Handle}
  {records : List StepRecord} {config : Config} {memory : Memory} {engine : Engine}

/-- What the last step that succeeded in opening or closing a session has made of its name. -/
def lastTurn? (records : List StepRecord) (name : String) : Option Bool :=
  records.reverse.findSome? fun rec => turn? rec.step.action rec.outcome name

theorem lastTurn?_concat (records : List StepRecord) (rec : StepRecord) (name : String) :
    lastTurn? (records ++ [rec]) name
      = (turn? rec.step.action rec.outcome name).or (lastTurn? records name) := by
  simp only [lastTurn?, List.reverse_append, List.reverse_singleton, List.singleton_append,
    List.findSome?_cons]
  cases turn? rec.step.action rec.outcome name <;> rfl

/-- Names stand for sessions that are open, different names for different ones; and those names
stand for one that were last seen in an opening. -/
structure Named (records : List StepRecord) (r : Replay) : Prop where
  opened : ∀ name h, r.sessions.find? name = some h → r.engine.sessions.contains h = true
  apart : ∀ a b h, r.sessions.find? a = some h → r.sessions.find? b = some h → a = b
  turns : ∀ name, (r.sessions.find? name).isSome = true ↔ lastTurn? records name = some true

theorem Named.not_named_next (hn : Named records r)
    (hfree : r.engine.sessions.contains ⟨r.engine.nextHandle⟩ = false) (name : String) :
    r.sessions.find? name ≠ some ⟨r.engine.nextHandle⟩ := by
  intro hname
  have hopen := hn.opened name _ hname
  rw [hfree] at hopen
  cases hopen

/-- **A step keeps the names in step with the sessions,** if an opening does not meet a session under
the handle that is next. -/
theorem Named.step {rec : StepRecord} (hn : Named records r)
    (hfree : rec.step.opens = true → r.engine.sessions.contains ⟨r.engine.nextHandle⟩ = false)
    (hc : r.Carried rec.step.action rec.outcome r') : Named (records ++ [rec]) r' := by
  have hturn : ∀ name, lastTurn? (records ++ [rec]) name
      = (turn? rec.step.action rec.outcome name).or (lastTurn? records name) :=
    lastTurn?_concat records rec
  unfold ScriptStep.opens at hfree
  generalize rec.step.action = action at hc hturn hfree
  generalize rec.outcome = outcome at hc hturn
  cases hc with
  | @opened name scope h reply =>
    have hnew := hn.not_named_next (hfree rfl)
    cases r.engine.perform_attended (.openSession scope) with
    | goes k call => cases call
    | stays openings =>
      rw [reply] at openings
      cases openings
    | comes _ staging call reply' sessions next gauge =>
      cases reply.symm.trans reply'
      refine ⟨?_, ?_, ?_⟩
      · intro q k hq
        rw [Assoc.find?_insert] at hq
        rw [sessions]
        split at hq
        · cases hq
          simp [Assoc.contains]
        · have hold := hn.opened q k hq
          rw [Assoc.contains, Assoc.find?_insert]
          split
          · rfl
          · exact hold
      · intro a b k ha hb
        rw [Assoc.find?_insert] at ha hb
        split at ha <;> split at hb
        · rename_i hx hy
          rw [hx, hy]
        · cases ha
          exact absurd hb (hnew b)
        · cases hb
          exact absurd ha (hnew a)
        · exact hn.apart a b k ha hb
      · intro q
        rw [hturn, Assoc.find?_insert]
        by_cases hq : q = name
        · simp [hq, turn?]
        · have hq' : ¬name = q := fun heq => hq heq.symm
          simp [hq, hq', turn?, hn.turns q]
  | @closed name h named reply =>
    cases r.engine.perform_attended (.close h) with
    | comes scope staging call => cases call
    | stays openings closings =>
      rw [reply] at closings
      cases closings
    | goes k call opened reply' sessions next gauge =>
      cases call
      refine ⟨?_, ?_, ?_⟩
      · intro q k hq
        rw [Assoc.find?_erase] at hq
        split at hq
        · cases hq
        · rename_i hne
          -- Another name stands for another session.
          have hk : k ≠ h := by
            rintro rfl
            exact hne (hn.apart q name k hq named)
          rw [sessions, Assoc.contains_erase, hn.opened q k hq]
          simpa using hk
      · intro a b k ha hb
        rw [Assoc.find?_erase] at ha hb
        split at ha
        · cases ha
        · split at hb
          · cases hb
          · exact hn.apart a b k ha hb
      · intro q
        rw [hturn, Assoc.find?_erase]
        by_cases hq : q = name
        · simp [hq, turn?]
        · have hq' : ¬name = q := fun heq => hq heq.symm
          simp [hq, hq', turn?, hn.turns q]
  | called c named direct undisturbed openings closings error turn =>
    have hsame : (r.engine.perform c).2.sessions.contains = r.engine.sessions.contains := by
      cases r.engine.perform_attended c with
      | comes scope staging call reply =>
        rw [reply] at openings
        cases openings
      | goes k call opened reply =>
        rw [call] at reply closings
        rw [reply] at closings
        cases closings
      | stays _ _ sessions => exact sessions
    refine ⟨?_, hn.apart, ?_⟩
    · intro q k hq
      rw [hsame]
      exact hn.opened q k hq
    · intro q
      rw [hturn, turn q]
      exact hn.turns q

/-- No step complains about a handle. -/
theorem Named.outcome_reaches (hn : Named records r) (hc : r.Carried action outcome r') :
    Reaches outcome := by
  cases hc with
  | opened => nofun
  | closed => nofun
  | called c named direct undisturbed openings closings error =>
    intro h hout
    have hreach := Engine.perform_reaches (e := r.engine) direct
      (fun k hk => by
        obtain ⟨name, hname⟩ := named k hk
        exact hn.opened name k hname) h
    rw [← error] at hreach
    exact hreach (failure?_eq_some_iff.mpr hout)

theorem named_start (engine : Engine) : Named [] (.start engine) := by
  refine ⟨?_, ?_, ?_⟩
  · intro name h hname
    cases hname
  · intro a b h ha
    cases ha
  · intro name
    simp [Replay.start, lastTurn?]

theorem Replayed.named (hs : Engine.start config memory = .ok engine)
    (hr : Replayed (.start engine) records r)
    (hn : records.countP (·.step.opens) < UInt32.size) :
    Named records r ∧ ∀ rec ∈ records, Reaches rec.outcome := by
  induction hr with
  | nil =>
    refine ⟨named_start engine, ?_⟩
    intro rec hrec
    cases hrec
  | concat before step ih =>
    rename_i records r r' rec
    rw [List.countP_append] at hn
    obtain ⟨hnamed, hreaches⟩ := ih (by omega)
    obtain ⟨calls, -, he, hle⟩ := before.run hs (by omega)
    have hc := apply_carried step
    refine ⟨hnamed.step ?_ hc, ?_⟩
    · intro hopens
      have hone : [rec].countP (·.step.opens) = 1 := by simp [hopens]
      have hturns : engine.KeepsTurns calls := Engine.keepsTurns_of_openings (by omega)
      rw [he]
      exact (Engine.numbered_of_start hs calls).next_not_open hturns
    · intro q hq
      rcases List.mem_append.mp hq with hq | hq
      · exact hreaches q hq
      · rw [List.mem_singleton.mp hq]
        exact hnamed.outcome_reaches hc

theorem regOps_error {ops : List ScriptOp} {fault : StepFault} (h : regOps ops = .error fault) :
    ∃ f, fault = .badOp f := by
  induction ops with
  | nil => cases h
  | cons op ops ih =>
    unfold regOps at h
    split at h
    · cases hops : regOps ops with
      | error f =>
        rw [hops] at h
        cases h
        exact ih hops
      | ok l =>
        rw [hops] at h
        cases h
    · cases h
      exact ⟨_, rfl⟩

/-- A step finds its session exactly if its name stands for one. -/
theorem apply_resolves (r : Replay) (hs : action.session? = some name) :
    r.apply action ≠ .error (.unopenedSession name) ↔ (r.sessions.find? name).isSome = true := by
  cases action with
  | createContext | destroyContext | openSession => cases hs
  | exec q mode count ops =>
    cases hs
    unfold apply
    cases hq : r.sessions.find? name with
    | none => simp [hq]
    | some h =>
      cases hops : regOps ops with
      | error fault =>
        obtain ⟨f, rfl⟩ := regOps_error hops
        simp [hq, hops, Except.map]
      | ok l => simp [hq, hops, Except.map]
  | _ =>
    cases hs
    unfold apply
    cases hq : r.sessions.find? name <;> simp [withName, hq]

/-- **Names stand for open sessions,** and for different ones, behind the steps of whatever script.
So no step is ever told that its handle is unknown, and a step that is about a session finds it
exactly if the last opening or closing that succeeded under the name was an opening. -/
theorem names_stand_for_open_sessions (hs : Engine.start config memory = .ok engine)
    {steps : List ScriptStep} (hn : steps.countP ScriptStep.opens < UInt32.size) {failFast : Bool}
    {t : Transcript} (ht : run failFast steps (.start engine) = t) :
    (∀ name h, t.last.sessions.find? name = some h →
      t.last.engine.sessions.contains h = true) ∧
    (∀ a b h, t.last.sessions.find? a = some h → t.last.sessions.find? b = some h → a = b) ∧
    (∀ rec ∈ t.records, rec.outcome.kind ≠ "unknown_session") ∧
    ∀ action name, action.session? = some name →
      (t.last.apply action ≠ .error (.unopenedSession name) ↔
        lastTurn? t.records name = some true) := by
  subst ht
  have hle := countP_records_le failFast steps (.start engine)
  obtain ⟨hnamed, hreaches⟩ :=
    (run_replayed failFast steps (.start engine)).1.named hs (by omega)
  refine ⟨hnamed.opened, hnamed.apart, ?_, ?_⟩
  · intro rec hrec
    exact Outcome.kind_ne_of_reaches (hreaches rec hrec)
  · intro action name haction
    exact (apply_resolves _ haction).trans (hnamed.turns name)

/-- A script that gives the name of an open session to another one, and closes that one. -/
def renamingScript : List ScriptStep :=
  [⟨.openSession "a" .device, none⟩, ⟨.openSession "b" .context, none⟩,
    ⟨.openSession "a" .device, none⟩, ⟨.close "a", none⟩]

theorem names_stand_for_open_sessions_when_renamed :
    (run false renamingScript (.start (Engine.fresh .small))).last.engine.sessionCount = 2 ∧
      (run false renamingScript (.start (Engine.fresh .small))).last.apply (.info "a")
        = .error (.unopenedSession "a") ∧
      (run false renamingScript (.start (Engine.fresh .small))).last.apply (.info "b")
        ≠ .error (.unopenedSession "b") := by
  have hs : Engine.start .small = .ok (Engine.fresh .small) := rfl
  have hn : renamingScript.countP ScriptStep.opens < UInt32.size := by decide
  obtain ⟨-, -, -, hresolves⟩ := names_stand_for_open_sessions hs hn (show run false _ _ = _ from rfl)
  exact ⟨rfl, rfl, (hresolves (.info "b") "b" rfl).mpr rfl⟩

end Replay

end Perfmon
