import Perfmon.Proofs.Calls
import Perfmon.Proofs.Runs
import Perfmon.Proofs.Settled
/-!
# What a call does to reservations

The ledger of an engine is all that reservations are about: the records of the open sessions, the
holdings of the device and the handle of the next session. Whatever is called, the ledger makes one
`Step`: nothing, an opening, a change of one session, or a closing. `perform_moved` says so for
every call, and also what the call leaves alone outside the ledger; what is true of all states is
proved from the steps.
-/

namespace Perfmon

/-- What reservations are about. -/
structure Ledger where
  /-- The records of the open sessions. -/
  record? : Handle → Option SessionRecord
  /-- What the device keeps of reservations. -/
  holdings : Holdings
  /-- The number of the next session. -/
  next : UInt32

/-- The ledger of an engine. -/
def Engine.ledger (e : Engine) : Ledger where
  record? h := (e.sessions.find? h).map (·.toSessionRecord)
  holdings := e.device.holdings
  next := e.nextHandle

namespace Ledger

/-- The ledger with the record of a session. -/
def put (l : Ledger) (h : Handle) (s : SessionRecord) : Ledger :=
  { l with record? := fun k => if k = h then some s else l.record? k }

/-- The ledger without a session. -/
def drop (l : Ledger) (h : Handle) : Ledger :=
  { l with record? := fun k => if k = h then none else l.record? k }

/-- What a call can do to the ledger, and how many sessions it opens. While it is quiet no executor
call fails, so a session that goes leaves nothing behind. -/
inductive Step (quiet : Prop) (l : Ledger) : Nat → Ledger → Prop
  /-- Nothing. -/
  | stay : Step quiet l 0 l
  /-- A session is opened. -/
  | openSession (scope : Scope) :
      Step quiet l 1 { l.put ⟨l.next⟩ (.new ⟨l.next⟩ scope) with next := l.next + 1 }
  /-- An operation of a session. -/
  | change {h : Handle} {s s' : SessionRecord} {t' : Holdings} (hs : l.record? h = some s)
      (hc : Change s l.holdings s' t') : Step quiet l 0 { l.put h s' with holdings := t' }
  /-- A session is closed. -/
  | close {h : Handle} {s : SessionRecord} (unbound released : Bool) (hs : l.record? h = some s)
      (hq : quiet → unbound = true ∧ released = true) :
      Step quiet l 0 { l.drop h with holdings := l.holdings.leave s unbound released }

end Ledger

/-- Both halves of the staging memory have room for so many operations. -/
def Staging.Sized (n : Nat) (s : Staging) : Prop :=
  s.user.length = n ∧ s.device.length = n

namespace Engine

/-- The staging memory of every open session has room for a window. -/
def StagingReady (e : Engine) : Prop :=
  ∀ h s, e.sessions.find? h = some s → s.staging.Sized e.config.windowCapacity

/-- What a call has done, with the number of sessions that it opened. -/
structure Moved (e : Engine) (opened : Nat) (e' : Engine) : Prop where
  step : Ledger.Step (e.executor.armed = []) e.ledger opened e'.ledger
  config : e'.config = e.config
  memory : e'.memory = e.memory
  staging : e.StagingReady → e'.StagingReady
  quiet : e.executor.armed = [] → e'.executor.armed = []

theorem Moved.refl (e : Engine) : Moved e 0 e :=
  ⟨.stay, rfl, rfl, id, id⟩

/-- Only the limits, the sessions, their numbering and the executor matter. -/
theorem Moved.congr {e e' e'' : Engine} {n : Nat} (h : Moved e n e') (hc : e''.config = e'.config)
    (hm : e''.memory = e'.memory) (hs : e''.sessions = e'.sessions)
    (hn : e''.nextHandle = e'.nextHandle) (hx : e''.executor = e'.executor) :
    Moved e n e'' where
  step := by
    have hl : e''.ledger = e'.ledger := by
      simp only [ledger, device, hs, hn, hx]
    rw [hl]
    exact h.step
  config := hc.trans h.config
  memory := hm.trans h.memory
  staging hr := by
    have := h.staging hr
    unfold StagingReady at this ⊢
    rwa [hs, hc]
  quiet ha := by rw [hx]; exact h.quiet ha

/-! ## Sessions -/

theorem records_insert (t : Assoc Handle Session) (h : Handle) (s : Session) :
    (fun k => ((t.insert h s).find? k).map (·.toSessionRecord))
      = fun k => if k = h then some s.toSessionRecord
        else (t.find? k).map (·.toSessionRecord) := by
  funext k
  rw [Assoc.find?_insert]
  split <;> rfl

theorem records_erase (t : Assoc Handle Session) (h : Handle) :
    (fun k => ((t.erase h).find? k).map (·.toSessionRecord))
      = fun k => if k = h then none else (t.find? k).map (·.toSessionRecord) := by
  funext k
  rw [Assoc.find?_erase]
  split <;> rfl

theorem record?_of_find? {e : Engine} {h : Handle} {s : Session}
    (hs : e.sessions.find? h = some s) : e.ledger.record? h = some s.toSessionRecord := by
  simp [ledger, hs]

/-- A session has been worked on. -/
theorem moved_insert {e : Engine} {h : Handle} {s s' : Session} {x' : Executor}
    (hs : e.sessions.find? h = some s)
    (hc : Change s.toSessionRecord e.device.holdings s'.toSessionRecord x'.device.holdings)
    (hg : ∀ n, s.staging.Sized n → s'.staging.Sized n)
    (hq : e.executor.armed = [] → x'.armed = []) :
    Moved e 0 { e with sessions := e.sessions.insert h s', executor := x' } where
  step := by
    simp only [ledger, device, records_insert]
    exact Ledger.Step.change (record?_of_find? hs) hc
  config := rfl
  memory := rfl
  staging hr k r hk := by
    rw [Assoc.find?_insert] at hk
    split at hk
    · cases hk
      exact hg _ (hr h s hs)
    · exact hr k r hk
  quiet := hq

/-! ## Opening and closing -/

theorem openSession_moved (e : Engine) (scope : Scope) :
    Moved e (Reply.opened (e.openSession scope).1).openings (e.openSession scope).2 := by
  rcases e.openSession_cases scope with ⟨err, ho⟩ | ⟨staging, metrics, hst, ho⟩
  · rw [ho]
    exact Moved.refl e
  · rw [ho]
    refine ⟨?_, rfl, rfl, ?_, id⟩
    · simp only [ledger, device, records_insert]
      exact Ledger.Step.openSession scope
    · intro hr k s hk
      dsimp only at hk
      rw [Assoc.find?_insert] at hk
      split at hk
      · -- The memory of the new session has just been allocated.
        cases hk
        unfold Staging.allocate at hst
        split at hst
        · cases hst
        · split at hst
          · cases hst
          · cases hst
            exact ⟨List.length_replicate, List.length_replicate⟩
      · exact hr k s hk

theorem close_moved (e : Engine) (h : Handle) : Moved e 0 (e.close h).2 := by
  cases hs : e.sessions.find? h with
  | none =>
    rw [close, hs]
    exact Moved.refl e
  | some s =>
    obtain ⟨unbound, released, x', metrics, trail, hq, ht, he⟩ := close_leaves hs
    rw [he]
    refine ⟨?_, rfl, rfl, ?_, fun ha => (hq ha).2.2⟩
    · simp only [ledger, device, records_erase, ht]
      exact Ledger.Step.close unbound released (record?_of_find? hs) fun ha =>
        ⟨(hq ha).1, (hq ha).2.1⟩
    · intro hr k r hk
      dsimp only at hk
      rw [Assoc.find?_erase] at hk
      split at hk
      · cases hk
      · exact hr k r hk

/-! ## Calls to a session -/

/-- A direct call to a session moves the engine, and opens no session. -/
theorem addressed_moved {e : Engine} {h : Handle} {c : Call} (ht : c.target? = some h)
    (hd : c.isRequest = false) : Moved e 0 (e.perform c).2 := by
  cases hs : e.sessions.find? h with
  | none =>
    rw [perform_of_not_open hs ht hd]
    exact Moved.refl e
  | some s =>
    cases ho : c.operates with
    | true =>
      obtain ⟨s', x', metrics, trail, hc, he⟩ := perform_operation ho ht hs
      rw [he]
      have hm := moved_insert hs hc.change (fun n hn => by rw [hc.staging]; exact hn) hc.quiet
      exact hm.congr rfl rfl rfl rfl rfl
    | false =>
      cases c with
      | control => cases hd
      | close k =>
        cases ht
        exact close_moved e h
      | execute k buffer count mode =>
        cases ht
        obtain ⟨staging, x', metrics, power, hx, he⟩ := execute_touched hs buffer count mode
        rw [perform, he]
        have hholdings : x'.device.holdings = e.device.holdings := by
          rw [Device.holdings, hx.device.reservations, hx.device.bound]
          rfl
        have hm : Moved e 0 { e with
            sessions := e.sessions.insert h { s with staging }, executor := x' } :=
          moved_insert hs (hholdings ▸ .none)
            (fun n hn => ⟨hx.user.trans hn.1, hx.internal.trans hn.2⟩) hx.quiet
        exact hm.congr rfl rfl rfl rfl rfl
      | openSession | createContext | destroyContext | poke | injectFault | clearFaults
        | armPowerFailure | armFailure => cases ht
      | bindContext | unbindContext | reserve | release | bindPm | unbindPm | info => cases ho

theorem control_moved (e : Engine) (h : Handle) (word : UInt32) (arg : List UInt8)
    (buffer : Option OpsBuffer) : Moved e 0 (e.control h word arg buffer).2 := by
  obtain ⟨metrics, hc⟩ := e.control_eq h word arg buffer
  rw [hc]
  suffices hm : Moved e 0 (e.serve h word arg buffer).2 from hm.congr rfl rfl rfl rfl rfl
  rcases e.serve_cases word arg buffer with ⟨err, hs⟩ | ⟨f, hf, -⟩
  · rw [hs e rfl h]
    exact Moved.refl e
  · rw [hf.engine h]
    exact addressed_moved (hf.target h) (hf.direct h)

/-! ## All calls -/

/-- **Every call moves the engine,** but for one that only arms a failure. -/
theorem perform_moved (e : Engine) {c : Call} (hc : c.disturbs = false) :
    Moved e (e.perform c).1.openings (e.perform c).2 := by
  cases c with
  | openSession scope => exact openSession_moved e scope
  | close h | bindContext h | unbindContext h | reserve h | release h | bindPm h | unbindPm h
    | info h | execute h => exact addressed_moved (h := h) rfl rfl
  | control h word arg buffer => exact control_moved e h word arg buffer
  | createContext fd | destroyContext fd | armPowerFailure =>
    exact (Moved.refl e).congr rfl rfl rfl rfl rfl
  | poke offset value | injectFault offset | clearFaults => exact ⟨.stay, rfl, rfl, id, id⟩
  | armFailure call after => cases hc

/-- **Every call is one step of the ledger.** Arming a failure is none at all. -/
theorem perform_step (e : Engine) (c : Call) :
    Ledger.Step (e.executor.armed = []) e.ledger (e.perform c).1.openings
      (e.perform c).2.ledger := by
  cases hc : c.disturbs with
  | false => exact (perform_moved e hc).step
  | true =>
    cases c with
    | armFailure call after => exact .stay
    | _ => cases hc

theorem fresh_stagingReady (config : Config) (memory : Memory) :
    (fresh config memory).StagingReady := by
  intro h s hs
  rw [fresh, Assoc.find?_empty] at hs
  cases hs

/-- A run keeps the configuration, which an engine only starts with if it is valid. -/
theorem ReachedFreely.configured {config : Config} {e : Engine} (he : e.ReachedFreely config) :
    config.validate = .ok () ∧ e.config = config ∧ e.StagingReady := by
  refine he.induction
    (motive := fun e => config.validate = .ok () ∧ e.config = config ∧ e.StagingReady)
    (fun memory e hs => ?_) fun e c hi => ?_
  · obtain ⟨hv, rfl⟩ := eq_fresh_of_start hs
    exact ⟨hv, rfl, fresh_stagingReady config memory⟩
  · obtain ⟨hv, hcfg, hr⟩ := hi
    cases hc : c.disturbs with
    | false =>
      have hm := perform_moved e hc
      exact ⟨hv, hm.config.trans hcfg, hm.staging hr⟩
    | true =>
      cases c with
      | armFailure call after => exact ⟨hv, hcfg, hr⟩
      | _ => cases hc

/-- Where no executor call is about to fail, none is behind calls that make none fail. -/
theorem armed_performAll {calls : List Call} (hc : ∀ c ∈ calls, c.disturbs = false) {e : Engine}
    (ha : e.executor.armed = []) : (e.performAll calls).executor.armed = [] := by
  induction calls generalizing e with
  | nil => exact ha
  | cons c cs ih =>
    exact ih (fun d hd => hc d (List.mem_cons_of_mem c hd))
      ((perform_moved e (hc c List.mem_cons_self)).quiet ha)

/-- An undisturbed run is a quiet one. -/
theorem ReachedUndisturbed.quietly {config : Config} {e : Engine}
    (he : e.ReachedUndisturbed config) : e.ReachedQuietly config where
  freely := ReachedBy.freely he
  quiet := by
    obtain ⟨memory, start, calls, hs, hc, -, rfl⟩ := he
    obtain ⟨-, rfl⟩ := eq_fresh_of_start hs
    exact armed_performAll hc rfl

end Engine

end Perfmon
