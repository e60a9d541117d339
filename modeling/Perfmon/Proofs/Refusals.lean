import Perfmon.Proofs.Changes
import Perfmon.Proofs.Calls
import Perfmon.Proofs.Runs
/-!
# Failed calls

A call that fails, and is not there to execute a batch, leaves no trace: the sessions, the device,
the contexts, the power and the handle of the next session are as they were, whatever it was that
failed. For an operation of a session this is because it writes down nothing before the executor has
done its part (`Session.Atomic`), and an executor call that fails has not reached the device. What
remains of a failed call are counts, the audit trail, and one armed failure less.
-/

namespace Perfmon

namespace Session

/-- An operation that leaves the session and the device as they were if it fails. -/
def Atomic {α : Type} (s : Session) (x : Executor) (out : Except Error α × Session × Executor) :
    Prop :=
  ∀ err, out.1 = .error err → out.2.1 = s ∧ out.2.2.device = x.device

variable {s : Session} {x : Executor} {α : Type}

theorem Atomic.of_idle {result : Except Error α} {x' : Executor} (h : x.Idle x') :
    Atomic s x (result, s, x') :=
  fun _ _ => ⟨rfl, h.device⟩

theorem Atomic.of_ok {a : α} {s' : Session} {x' : Executor} : Atomic s x (.ok a, s', x') := by
  intro err h
  cases h

theorem reserve_atomic (s : Session) (x : Executor) (r : Resource) (contextSwitched : Bool) :
    Atomic s x (s.reserve x r contextSwitched) := by
  rcases s.reserve_cases x r contextSwitched with
    ⟨err, x', hi, hx⟩ | ⟨mode, -, ⟨held, -, hx⟩ | ⟨-, -, hx⟩⟩
  · rw [hx]
    exact .of_idle hi
  · rw [hx]
    exact .of_ok
  · rw [hx]
    exact .of_ok

theorem release_atomic (s : Session) (x : Executor) (r : Resource) :
    Atomic s x (s.release x r) := by
  rcases s.release_cases x r with ⟨err, x', hi, hx⟩ | ⟨-, hx⟩
  · rw [hx]
    exact .of_idle hi
  · rw [hx]
    exact .of_ok

theorem bindPm_atomic (s : Session) (contexts : ContextRegistry) (x : Executor) :
    Atomic s x (s.bindPm contexts x) := by
  rcases s.bindPm_cases contexts x with ⟨result, x', hi, hx⟩ | ⟨-, -, -, -, hx⟩
  · rw [hx]
    exact .of_idle hi
  · rw [hx]
    exact .of_ok

theorem unbindPm_atomic (s : Session) (x : Executor) : Atomic s x (s.unbindPm x) := by
  rcases s.unbindPm_cases x with ⟨result, x', hi, hx⟩ | ⟨-, hx⟩
  · rw [hx]
    exact .of_idle hi
  · rw [hx]
    exact .of_ok

end Session

namespace Engine

/-- Two states of an engine differ in what has been counted, in the audit trail and in the armed
failures only. -/
structure Untouched (e e' : Engine) : Prop where
  config : e'.config = e.config
  memory : e'.memory = e.memory
  sessions : e'.sessions = e.sessions
  nextHandle : e'.nextHandle = e.nextHandle
  device : e'.device = e.device
  contexts : e'.contexts = e.contexts
  power : e'.power = e.power

variable {e e' : Engine} {h : Handle} {err : Error}

theorem Untouched.refl (e : Engine) : Untouched e e :=
  ⟨rfl, rfl, rfl, rfl, rfl, rfl, rfl⟩

theorem Untouched.counted (hu : Untouched e e') (metrics : Metrics) (trail : AuditTrail) :
    Untouched e { e' with metrics, trail } :=
  ⟨hu.config, hu.memory, hu.sessions, hu.nextHandle, hu.device, hu.contexts, hu.power⟩

/-- An engine in which nothing has been touched opens the next session just the same. -/
theorem Untouched.openSession_eq (hu : Untouched e e') (scope : Scope) :
    (e'.openSession scope).1 = (e.openSession scope).1 := by
  unfold openSession
  rw [hu.device, hu.config, hu.memory, hu.nextHandle]
  split
  · rfl
  · cases Staging.allocate e.memory e.config.windowCapacity with
    | error err => rfl
    | ok staging => rfl

theorem openSession_untouched {scope : Scope} (herr : (e.openSession scope).1 = .error err) :
    Untouched e (e.openSession scope).2 := by
  rcases e.openSession_cases scope with ⟨err', ho⟩ | ⟨staging, metrics, -, ho⟩
  · rw [ho]
    exact Untouched.refl e
  · rw [ho] at herr
    cases herr

theorem close_untouched (herr : (e.close h).1 = .error err) : Untouched e (e.close h).2 := by
  unfold close at herr ⊢
  cases hs : e.sessions.find? h with
  | none => exact Untouched.refl e
  | some s =>
    rw [hs] at herr
    cases herr

theorem withSession_untouched {α : Type}
    {f : Session → Executor → Except Error α × Session × Executor}
    (hf : ∀ s : Session, s.Atomic e.executor (f s e.executor))
    (herr : (e.withSession h f).1 = .error err) :
    Untouched e (e.withSession h f).2 := by
  unfold withSession at herr ⊢
  cases hs : e.sessions.find? h with
  | none => exact Untouched.refl e
  | some s =>
    rw [hs] at herr
    obtain ⟨hsame, hdev⟩ := hf s err herr
    dsimp only
    -- The session goes back to where it was.
    rw [hsame, Assoc.insert_of_find? hs]
    exact ⟨rfl, rfl, rfl, rfl, hdev, rfl, rfl⟩

theorem bindContext_untouched {fd : Option Descriptor}
    (herr : (e.bindContext h fd).1 = .error err) : Untouched e (e.bindContext h fd).2 := by
  refine withSession_untouched (fun s => ?_) herr
  cases s.bindContext e.contexts fd with
  | error err => exact .of_idle (.refl e.executor)
  | ok s' => exact .of_ok

theorem unbindContext_untouched (herr : (e.unbindContext h).1 = .error err) :
    Untouched e (e.unbindContext h).2 :=
  withSession_untouched (fun _ => .of_ok) herr

theorem bindPm_untouched (herr : (e.bindPm h).1 = .error err) : Untouched e (e.bindPm h).2 :=
  withSession_untouched (fun s => s.bindPm_atomic e.contexts e.executor) herr

theorem unbindPm_untouched (herr : (e.unbindPm h).1 = .error err) :
    Untouched e (e.unbindPm h).2 :=
  withSession_untouched (fun s => s.unbindPm_atomic e.executor) herr

theorem reserve_untouched {r : Resource} {contextSwitched : Bool}
    (herr : (e.reserve h r contextSwitched).1 = .error err) :
    Untouched e (e.reserve h r contextSwitched).2 := by
  have hw (hfail : (e.withSession h fun s x => s.reserve x r contextSwitched).1 = .error err) :=
    withSession_untouched (fun s => s.reserve_atomic e.executor r contextSwitched) hfail
  unfold reserve at herr ⊢
  split
  · exact Untouched.refl e
  · rename_i hopen
    rw [if_neg hopen] at herr
    split
    · rename_i he
      rw [he] at herr
      cases herr
    · rename_i he
      rw [he] at herr hw
      exact (hw herr).counted _ _

theorem release_untouched {r : Resource} (herr : (e.release h r).1 = .error err) :
    Untouched e (e.release h r).2 := by
  have hw (hfail : (e.withSession h fun s x => s.release x r).1 = .error err) :=
    withSession_untouched (fun s => s.release_atomic e.executor r) hfail
  unfold release at herr ⊢
  split
  · rename_i he
    rw [he] at herr
    cases herr
  · rename_i he
    rw [he] at herr hw
    exact hw herr

/-- A direct call that fails leaves everything as it was. -/
theorem perform_untouched {c : Call} (hd : c.isRequest = false) (hx : c.executes = false)
    (herr : (e.perform c).1.error? = some err) : Untouched e (e.perform c).2 := by
  cases c with
  | openSession scope => exact openSession_untouched (failure?_eq_some_iff.mp herr)
  | close k => exact close_untouched (failure?_eq_some_iff.mp herr)
  | bindContext k fd => exact bindContext_untouched (failure?_eq_some_iff.mp herr)
  | unbindContext k => exact unbindContext_untouched (failure?_eq_some_iff.mp herr)
  | reserve k r contextSwitched => exact reserve_untouched (failure?_eq_some_iff.mp herr)
  | release k r => exact release_untouched (failure?_eq_some_iff.mp herr)
  | bindPm k => exact bindPm_untouched (failure?_eq_some_iff.mp herr)
  | unbindPm k => exact unbindPm_untouched (failure?_eq_some_iff.mp herr)
  | info k => exact Untouched.refl e
  | execute => cases hx
  | control => cases hd
  | createContext | destroyContext | poke | injectFault | clearFaults | armPowerFailure
    | armFailure => cases herr

/-- **A failed call leaves no trace.** Whichever call fails in whichever state, directly or over the
control channel, by a refusal of the session, of the device, or by an executor call that was made to
fail: if it is not there to execute a batch, then the sessions, the device, the contexts, the power
and the numbering of sessions are as they were, and the next session to be opened gets the handle
that it would have got anyway. -/
theorem failed_call_leaves_no_trace (e : Engine) {c : Call} (hx : c.executes = false)
    (herr : (e.perform c).1.error? = some err) :
    Untouched e (e.perform c).2 ∧
      ∀ scope, ((e.perform c).2.openSession scope).1 = (e.openSession scope).1 := by
  suffices hu : Untouched e (e.perform c).2 from ⟨hu, hu.openSession_eq⟩
  cases hd : c.isRequest with
  | false => exact perform_untouched hd hx herr
  | true =>
    cases c with
    | control k word arg buffer =>
      obtain ⟨metrics, hc⟩ := e.control_eq k word arg buffer
      rw [perform, hc] at herr ⊢
      refine Untouched.counted ?_ metrics _
      rcases e.serve_cases word arg buffer with ⟨err, hs⟩ | ⟨f, hf, hfx⟩
      · rw [hs e rfl k]
        exact Untouched.refl e
      · rw [hf.engine k]
        exact perform_untouched (hf.direct k) ((hfx k).trans hx) ((hf.error k).symm.trans herr)
    | _ => cases hd

/-- A run behind which a session cannot open its windows, for a failure that is armed. -/
def jammedRun : List Call :=
  [.openSession .device, .bindContext ⟨1⟩ none, .reserve ⟨1⟩ .hwpmLegacy false, .armFailure .bind]

theorem failed_call_leaves_no_trace_when_jammed :
    (small jammedRun).Reached .small ∧
      ((small jammedRun).perform (.bindPm ⟨1⟩)).1.error?
        = some (ExecutorCall.injectedError .bind) ∧
      ((small jammedRun).perform (.bindPm ⟨1⟩)).2.sessions = (small jammedRun).sessions ∧
      (((small jammedRun).perform (.bindPm ⟨1⟩)).2.openSession .device).1
        = ((small jammedRun).openSession .device).1 := by
  have he : (small jammedRun).Reached .small := reachedBy_small (fun _ _ => trivial) (by decide)
  have hfail : ((small jammedRun).perform (.bindPm ⟨1⟩)).1.error?
      = some (ExecutorCall.injectedError .bind) := rfl
  obtain ⟨hu, hopen⟩ := failed_call_leaves_no_trace (small jammedRun) rfl hfail
  exact ⟨he, hfail, hu.sessions, hopen .device⟩

end Engine

end Perfmon
