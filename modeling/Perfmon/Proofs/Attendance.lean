import Perfmon.Proofs.LegalModes
/-!
# Sessions come and go

The sessions that are open change by two kinds of calls only. An opening puts a session under the
number that is next, whether or not somebody is there already; the end of a session takes it away.
Every other call leaves the same sessions open. `perform_attended` says so for all calls, and what
becomes of the count of open sessions that the metrics keep. Whether an opening succeeds depends on
the device and the configuration alone (`Admits`), and no call changes these.
-/

namespace Perfmon

/-! ## How many keys a map has -/

namespace Assoc

variable {κ α β : Type} [DecidableEq κ] {t : Assoc κ α} {k : κ}

theorem mem_keys_iff : k ∈ t.keys ↔ t.contains k = true := by
  constructor
  · intro hk
    obtain ⟨⟨q, a⟩, hm, rfl⟩ := List.mem_map.mp hk
    simp [contains, (mem_entries_iff t).mp hm]
  · intro hk
    obtain ⟨a, ha⟩ := Option.isSome_iff_exists.mp hk
    exact List.mem_map.mpr ⟨(k, a), (mem_entries_iff t).mpr ha, rfl⟩

theorem size_congr {t' : Assoc κ β} (h : t.contains = t'.contains) : t.size = t'.size := by
  have hp : t.keys.Perm t'.keys := by
    refine (List.perm_ext_iff_of_nodup t.nodup t'.nodup).mpr fun k => ?_
    show k ∈ t.keys ↔ k ∈ t'.keys
    rw [mem_keys_iff, mem_keys_iff, h]
  simpa [keys, size] using hp.length_eq

theorem size_insert (h : t.contains k = false) (a : α) : (t.insert k a).size = t.size + 1 := by
  have hk : k ∉ t.keys := by simp [mem_keys_iff, h]
  have hkeys : (t.insert k a).keys = t.keys ++ [k] := (keys_put k a t.entries).trans (if_neg hk)
  simpa [keys, size] using congrArg List.length hkeys

theorem contains_erase (q : κ) : (t.erase k).contains q = (q != k && t.contains q) := by
  by_cases hq : q = k <;> simp [contains, find?_erase, hq]

theorem size_erase (h : t.contains k = true) : (t.erase k).size + 1 = t.size := by
  obtain ⟨a, ha⟩ := Option.isSome_iff_exists.mp h
  -- Putting the key back makes a map with the same keys.
  have hback : ((t.erase k).insert k a).contains = t.contains := by
    funext q
    by_cases hq : q = k <;> simp [contains, find?_insert, find?_erase, hq, ha]
  have hgone : (t.erase k).contains k = false := by simp [contains_erase]
  rw [← size_insert hgone a, size_congr hback]

end Assoc

/-! ## The count of open sessions -/

namespace Batch

theorem runWindow_sessionsOpen (j : BatchJob) (w : Window) (b : Batch) :
    (runWindow j w b).2.metrics.sessionsOpen = b.metrics.sessionsOpen := by
  unfold runWindow
  cases b.buffer.copyIn w.start w.len with
  | error e => rfl
  | ok ops =>
    dsimp only
    split
    · rfl
    · split <;> rfl

theorem run_sessionsOpen (j : BatchJob) (c : Windows) (b : Batch) :
    (run j c b).2.metrics.sessionsOpen = b.metrics.sessionsOpen := by
  fun_induction run j c b with
  | case1 c b h => rfl
  | case2 c b w d h _ e b' hw =>
    have hb := runWindow_sessionsOpen j w b
    rwa [hw] at hb
  | case3 c b w d h _ b' hw ih =>
    have hb := runWindow_sessionsOpen j w b
    rw [hw] at hb
    exact ih.trans hb

end Batch

/-- How many sessions a call has closed, by its answer. -/
def Call.closings : Call → Reply → Nat
  | .close _, .done (.ok ()) => 1
  | _, _ => 0

namespace Engine

variable {e : Engine} {h : Handle} {s : Session} {c : Call}

theorem withSession_metrics {α : Type} (e : Engine) (h : Handle)
    (f : Session → Executor → Except Error α × Session × Executor) :
    (e.withSession h f).2.metrics = e.metrics := by
  unfold withSession
  split <;> rfl

theorem countDenied_sessionsOpen (m : Metrics) (r : Resource) (err : Error) :
    (countDenied m r err).sessionsOpen = m.sessionsOpen := by
  unfold countDenied
  split <;> rfl

theorem reserve_sessionsOpen (e : Engine) (h : Handle) (r : Resource) (contextSwitched : Bool) :
    (e.reserve h r contextSwitched).2.metrics.sessionsOpen = e.metrics.sessionsOpen := by
  unfold reserve
  split
  · rfl
  · have hm := e.withSession_metrics h fun s x => s.reserve x r contextSwitched
    split
    · rename_i hw
      rw [hw] at hm
      exact congrArg Metrics.sessionsOpen hm
    · rename_i hw
      rw [hw] at hm
      exact (countDenied_sessionsOpen _ _ _).trans (congrArg Metrics.sessionsOpen hm)

theorem release_metrics (e : Engine) (h : Handle) (r : Resource) :
    (e.release h r).2.metrics = e.metrics := by
  have hm := e.withSession_metrics h fun s x => s.release x r
  unfold release
  split <;> rename_i hw <;> rw [hw] at hm <;> exact hm

theorem execute_sessionsOpen (e : Engine) (h : Handle) (buffer : OpsBuffer) (count : Nat)
    (mode : ExecMode) :
    (e.execute h buffer count mode).2.metrics.sessionsOpen = e.metrics.sessionsOpen := by
  rcases e.execute_cases h buffer count mode with
    ⟨err, -, hx⟩ | ⟨s, -, -, ⟨err, -, hx⟩ | ⟨-, hx⟩⟩
  · rw [hx]
  · rw [hx]
  · rw [hx]
    exact Batch.run_sessionsOpen _ _ _

/-! ## Openings -/

/-- The device lets sessions of a scope in, and there is staging memory for them. -/
structure Admits (e : Engine) (scope : Scope) (staging : Staging) : Prop where
  scope : e.device.capabilities.allows scope = true
  memory : Staging.allocate e.memory e.config.windowCapacity = .ok staging

theorem Admits.openSession {scope : Scope} {staging : Staging} (ha : e.Admits scope staging) :
    e.openSession scope = (.ok ⟨e.nextHandle⟩, { e with
      sessions := e.sessions.insert ⟨e.nextHandle⟩ (.new ⟨e.nextHandle⟩ scope staging)
      nextHandle := e.nextHandle + 1
      metrics := { e.metrics with sessionsOpen := e.metrics.sessionsOpen + 1 }
      trail := e.trail.record (.sessionOpened ⟨e.nextHandle⟩ scope) }) := by
  simp [Engine.openSession, ha.scope, ha.memory]

/-- No call changes how much staging memory sessions get, or where it comes from. -/
theorem perform_limits (e : Engine) (c : Call) :
    (e.perform c).2.config = e.config ∧ (e.perform c).2.memory = e.memory := by
  cases hc : c.disturbs with
  | false => exact ⟨(perform_moved e hc).config, (perform_moved e hc).memory⟩
  | true =>
    cases c with
    | armFailure call after => exact ⟨rfl, rfl⟩
    | _ => cases hc

theorem Admits.perform {scope : Scope} {staging : Staging} (ha : e.Admits scope staging)
    (c : Call) : (e.perform c).2.Admits scope staging where
  scope := by rw [perform_capabilities, ha.scope]
  memory := by rw [(perform_limits e c).1, (perform_limits e c).2, ha.memory]

/-! ## All calls -/

/-- What a call does to the sessions that are open, and to their count. -/
inductive Attended (e : Engine) (c : Call) : Prop
  /-- A session comes in under the number that is next. -/
  | comes (scope : Scope) (staging : Staging) (call : c = .openSession scope)
      (reply : (e.perform c).1 = .opened (.ok ⟨e.nextHandle⟩))
      (sessions : (e.perform c).2.sessions
        = e.sessions.insert ⟨e.nextHandle⟩ (.new ⟨e.nextHandle⟩ scope staging))
      (next : (e.perform c).2.nextHandle = e.nextHandle + 1)
      (gauge : (e.perform c).2.metrics.sessionsOpen = e.metrics.sessionsOpen + 1)
  /-- A session goes. -/
  | goes (h : Handle) (call : c = .close h) (opened : e.sessions.contains h = true)
      (reply : (e.perform c).1 = .done (.ok ()))
      (sessions : (e.perform c).2.sessions = e.sessions.erase h)
      (next : (e.perform c).2.nextHandle = e.nextHandle)
      (gauge : (e.perform c).2.metrics.sessionsOpen = e.metrics.sessionsOpen - 1)
  /-- The same sessions stay open. -/
  | stays (openings : (e.perform c).1.openings = 0) (closings : c.closings (e.perform c).1 = 0)
      (sessions : (e.perform c).2.sessions.contains = e.sessions.contains)
      (next : (e.perform c).2.nextHandle = e.nextHandle)
      (gauge : (e.perform c).2.metrics.sessionsOpen = e.metrics.sessionsOpen)

theorem openSession_attended (e : Engine) (scope : Scope) : e.Attended (.openSession scope) := by
  have hrefused : ∀ err, e.openSession scope = (.error err, e) → e.Attended (.openSession scope) := by
    intro err ho
    have hp : e.perform (.openSession scope) = (.opened (.error err), e) := by rw [perform, ho]
    exact .stays (by rw [hp]; rfl) (by rw [hp]; rfl) (by rw [hp]) (by rw [hp]) (by rw [hp])
  by_cases hscope : e.device.capabilities.allows scope
  · cases hst : Staging.allocate e.memory e.config.windowCapacity with
    | error err => exact hrefused err (by simp [openSession, hscope, hst])
    | ok staging =>
      have ho := (Admits.mk hscope hst).openSession
      refine .comes scope staging rfl ?_ ?_ ?_ ?_ <;> simp [perform, ho]
  · exact hrefused (.unsupportedScope scope) (by simp [openSession, hscope])

theorem close_of_open (hs : e.sessions.find? h = some s) :
    ∃ executor trail, e.close h = (.ok (), { e with
      sessions := e.sessions.erase h
      executor
      metrics := { e.metrics with sessionsOpen := e.metrics.sessionsOpen - 1 }
      trail }) := by
  rw [close, hs]
  exact ⟨_, _, rfl⟩

theorem close_attended (hs : e.sessions.find? h = some s) : e.Attended (.close h) := by
  obtain ⟨executor, trail, hc⟩ := close_of_open hs
  refine .goes h rfl (by simp [Assoc.contains, hs]) ?_ ?_ ?_ ?_ <;> simp [perform, hc]

/-- An operation of an open session, or a batch. -/
theorem Attended.of_kept (hs : e.sessions.find? h = some s)
    (openings : (e.perform c).1.openings = 0) (closings : c.closings (e.perform c).1 = 0)
    {s' : Session} {x' : Executor} {power : Power} {metrics : Metrics} {trail : AuditTrail}
    (hp : (e.perform c).2 = { e with
      sessions := e.sessions.insert h s', executor := x', power, metrics, trail })
    (gauge : (e.perform c).2.metrics.sessionsOpen = e.metrics.sessionsOpen) : e.Attended c := by
  refine .stays openings closings ?_ (by rw [hp]) gauge
  rw [hp]
  exact contains_insert hs s'

theorem addressed_attended (hs : e.sessions.find? h = some s) (ht : c.target? = some h)
    (hd : c.isRequest = false) : e.Attended c := by
  cases hc : c.operates with
  | true =>
    obtain ⟨s', x', metrics, trail, -, hp⟩ := perform_operation hc ht hs
    refine .of_kept hs ?_ ?_ hp ?_
    · cases c <;> first | rfl | cases hc
    · cases c <;> first | rfl | cases hc
    · cases c with
      | bindContext | unbindContext | bindPm | unbindPm =>
        simp [perform, bindContext, unbindContext, bindPm, unbindPm, withSession_metrics]
      | reserve k r contextSwitched => exact reserve_sessionsOpen e k r contextSwitched
      | release k r => exact congrArg Metrics.sessionsOpen (release_metrics e k r)
      | info k => rfl
      | _ => cases hc
  | false =>
    cases c with
    | close k =>
      cases ht
      exact close_attended hs
    | execute k buffer count mode =>
      cases ht
      obtain ⟨staging, x', metrics, power, -, hx⟩ := execute_touched hs buffer count mode
      exact .of_kept hs rfl rfl hx (execute_sessionsOpen e h buffer count mode)
    | control => cases hd
    | openSession | createContext | destroyContext | poke | injectFault | clearFaults
      | armPowerFailure | armFailure => cases ht
    | bindContext | unbindContext | reserve | release | bindPm | unbindPm | info => cases hc

theorem direct_attended (hd : c.isRequest = false) : e.Attended c := by
  cases ht : c.target? with
  | none =>
    cases c with
    | openSession scope => exact openSession_attended e scope
    | createContext | destroyContext | poke | injectFault | clearFaults | armPowerFailure
      | armFailure => exact .stays rfl rfl rfl rfl rfl
    | _ => cases ht
  | some h =>
    cases hs : e.sessions.find? h with
    | some s => exact addressed_attended hs ht hd
    | none =>
      have hp := perform_of_not_open hs ht hd
      have ho : (c.refusal (.unknownSession h)).openings = 0 := by cases c <;> rfl
      have hc : c.closings (c.refusal (.unknownSession h)) = 0 := by cases c <;> rfl
      exact .stays (by rw [hp, ho]) (by rw [hp, hc]) (by rw [hp]) (by rw [hp]) (by rw [hp])

/-- **Sessions come when they are opened and go when they are closed,** and no other call opens or
closes any. A request opens and closes none, because the direct call to which it comes does not. -/
theorem perform_attended (e : Engine) (c : Call) : e.Attended c := by
  cases hd : c.isRequest with
  | false => exact direct_attended hd
  | true =>
    cases c with
    | control h word arg buffer =>
      suffices hs : (e.serve h word arg buffer).2.sessions.contains = e.sessions.contains ∧
          (e.serve h word arg buffer).2.nextHandle = e.nextHandle ∧
          (e.serve h word arg buffer).2.metrics.sessionsOpen = e.metrics.sessionsOpen from
        .stays rfl rfl hs.1 hs.2.1 hs.2.2
      rcases e.serve_asDirect h word arg buffer with ⟨-, err, hs⟩ | ⟨f, hf, hserved⟩
      · rw [hs]
        exact ⟨rfl, rfl, rfl⟩
      · rw [show (e.serve h word arg buffer).2 = _ from hserved.engine h]
        have ha : e.Attended (f h) := direct_attended (hserved.direct h)
        cases ha with
        | comes scope staging hc =>
          have ht := hserved.target h
          rw [hc] at ht
          cases ht
        | goes k hc =>
          rw [hc] at hf
          cases eq_close_of_asDirect? hf
        | stays _ _ sessions next gauge => exact ⟨sessions, next, gauge⟩
    | _ => cases hd

end Engine

end Perfmon
