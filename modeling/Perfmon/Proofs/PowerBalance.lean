import Perfmon.Proofs.ExecGate
/-!
# Power references

Only an attempt to execute a batch has to do with the power, and one that the gate refuses has not.
One that gets through takes a reference, holds it over all of its windows, and gives it back however
the batch ends; or it uses up a failure that was in store, and the batch is not begun
(`attempt_cases`). So nobody holds a reference between two calls, however long the run is.

A call can be an attempt in two ways, directly and as a request over the control channel;
`Engine.attempt?` says of a call which attempt it is.
-/

namespace Perfmon

/-- A batch to be executed for a session. -/
structure Attempt where
  /-- The session. -/
  session : Handle
  /-- The caller's memory. -/
  buffer : OpsBuffer
  /-- How many operations there are. -/
  count : Nat
  /-- What is promised when an operation fails. -/
  mode : ExecMode

namespace Engine

/-- The attempt that a call is, directly or as a request that is in order. -/
def attempt? (e : Engine) : Call → Option Attempt
  | .execute h buffer count mode => some ⟨h, buffer, count, mode⟩
  | .control h word arg (some buffer) =>
    match takeBlock e.config word arg, Request.ofWord? word with
    | .ok block, some .execRegOps =>
      match decodeBlock ExecArgs block with
      | .ok args => some ⟨h, buffer, args.count.toNat, .ofRaw args.mode⟩
      | .error _ => none
    | _, _ => none
  | _ => none

def attempt (e : Engine) (a : Attempt) : Execution × Engine :=
  e.execute a.session a.buffer a.count a.mode

/-- The gate lets an attempt through. -/
def LetsThrough (e : Engine) (a : Attempt) : Prop :=
  ∃ s, e.sessions.find? a.session = some s ∧ e.checkExec s a.count = .ok ()

variable {config : Config} {e : Engine} {a : Attempt} {h : Handle} {c : Call}

/-! ## Attempts -/

/-- **What becomes of an attempt, and of the power.** One that the gate refuses has nothing to do with
it. One that is let through uses up a failure in store, and does nothing else; or it takes a
reference, holds it for whatever it hands to the executor, and gives it back. -/
theorem attempt_cases (e : Engine) (a : Attempt) :
    (¬e.LetsThrough a ∧ (e.attempt a).1.submitted = [] ∧ (e.attempt a).2.power = e.power) ∨
    (e.LetsThrough a ∧ e.power.failNext = true ∧
      e.attempt a = (⟨.error (.powerOn "power rail did not come up"), a.buffer, []⟩,
        { e with power := { e.power with failNext := false } })) ∨
    (e.LetsThrough a ∧ e.power.failNext = false ∧
      (∀ w ∈ (e.attempt a).1.submitted, 1 ≤ w.powerRefs) ∧
      (e.attempt a).2.power = { e.power with
        powerOns := if e.power.refs = 0 then e.power.powerOns + 1 else e.power.powerOns }) := by
  unfold attempt
  rcases e.execute_cases a.session a.buffer a.count a.mode with
    ⟨err, hn, hx⟩ | ⟨s, hs, hg, hbusy⟩
  · refine Or.inl ⟨?_, by rw [hx], by rw [hx]⟩
    rintro ⟨s, hs, hg⟩
    exact hn s hs hg
  have hl : e.LetsThrough a := ⟨s, hs, hg⟩
  cases hf : e.power.failNext with
  | true =>
    rw [Power.busy_of_failNext hf] at hbusy
    rcases hbusy with ⟨err, hp, hx⟩ | ⟨hp, -⟩
    · cases hp
      exact Or.inr (Or.inl ⟨hl, rfl, hx⟩)
    · cases hp
  | false =>
    have hon := Power.busy_of_not_failNext hf
    rcases hbusy with ⟨err, hp, -⟩ | ⟨-, hx⟩
    · cases hp.symm.trans hon
    · rw [hx]
      refine Or.inr (Or.inr ⟨hl, rfl, fun w hw => ?_, Power.busy_idle hf⟩)
      obtain ⟨-, hheld⟩ := runBatch_handed _ a.session s a.buffer a.count a.mode w hw
      rw [hheld]
      exact Power.refs_of_busy_ok hon

theorem attempt_of_failNext (hl : e.LetsThrough a) (hf : e.power.failNext = true) :
    e.attempt a = (⟨.error (.powerOn "power rail did not come up"), a.buffer, []⟩,
      { e with power := { e.power with failNext := false } }) := by
  rcases e.attempt_cases a with ⟨hn, -⟩ | ⟨-, -, hx⟩ | ⟨-, hf', -⟩
  · exact absurd hl hn
  · exact hx
  · cases hf.symm.trans hf'

theorem attempt_power_of_not_letsThrough (hn : ¬e.LetsThrough a) :
    (e.attempt a).2.power = e.power := by
  rcases e.attempt_cases a with ⟨-, -, hp⟩ | ⟨hl, -⟩ | ⟨hl, -⟩
  · exact hp
  · exact absurd hl hn
  · exact absurd hl hn

/-- Without a failure in store the device is switched on once. -/
theorem attempt_power (hl : e.LetsThrough a) (hf : e.power.failNext = false)
    (hr : e.power.refs = 0) : (e.attempt a).2.power = ⟨0, e.power.powerOns + 1, false⟩ := by
  rcases e.attempt_cases a with ⟨hn, -⟩ | ⟨-, hf', -⟩ | ⟨-, -, -, hp⟩
  · exact absurd hl hn
  · cases hf.symm.trans hf'
  · rw [hp]
    dsimp only
    rw [hr, hf]
    rfl

theorem attempt_held : ∀ w ∈ (e.attempt a).1.submitted, 1 ≤ w.powerRefs := by
  intro w hw
  rcases e.attempt_cases a with ⟨-, hs, -⟩ | ⟨-, -, hx⟩ | ⟨-, -, hheld, -⟩
  · rw [hs] at hw
    cases hw
  · rw [hx] at hw
    cases hw
  · exact hheld w hw

theorem attempt_refs : (e.attempt a).2.power.refs = e.power.refs := by
  rcases e.attempt_cases a with ⟨-, -, hp⟩ | ⟨-, -, hx⟩ | ⟨-, -, -, hp⟩
  · rw [hp]
  · rw [hx]
  · rw [hp]

/-! ## Calls -/

/-- A request that is an attempt is answered by it. -/
theorem serve_of_attempt {word : UInt32} {arg : List UInt8} {buffer : Option OpsBuffer}
    (ha : e.attempt? (.control h word arg buffer) = some a) :
    a.session = h ∧ buffer = some a.buffer ∧
      ServedBy e (fun h => e.serve h word arg buffer) arg buffer
        fun h => .execute h a.buffer a.count a.mode := by
  cases buffer with
  | none => cases ha
  | some buffer =>
    unfold attempt? at ha
    dsimp only at ha
    split at ha
    · rename_i block ht hw
      split at ha
      · rename_i args hd
        cases ha
        have hserve : (fun h => e.serve h word arg (some buffer))
            = fun h => e.controlExec h block arg (some buffer) := by
          funext h
          simp only [serve, ht, hw, dispatch]
        rw [hserve]
        exact ⟨rfl, rfl, servedBy_execute e hd (fits_of_takeBlock ht hw) buffer⟩
      · cases ha
    · cases ha

/-- A direct call that is no attempt does not touch the power. -/
theorem perform_power_of_direct (ht : c.target? = some h) (hd : c.isRequest = false)
    (hx : c.executes = false) : (e.perform c).2.power = e.power := by
  cases hs : e.sessions.find? h with
  | none => rw [perform_of_not_open hs ht hd]
  | some s =>
    cases ho : c.operates with
    | true =>
      obtain ⟨s', x', metrics, trail, -, he⟩ := perform_operation ho ht hs
      rw [he]
    | false =>
      cases c with
      | close k =>
        cases ht
        obtain ⟨unbound, released, x', metrics, trail, -, -, he⟩ := close_leaves hs
        rw [perform, he]
      | execute => cases hx
      | control => cases hd
      | openSession | createContext | destroyContext | poke | injectFault | clearFaults
        | armPowerFailure | armFailure => cases ht
      | bindContext | unbindContext | reserve | release | bindPm | unbindPm | info => cases ho

/-- A request that is no attempt does not touch the power. -/
theorem serve_power_of_no_attempt {word : UInt32} {arg : List UInt8} {buffer : Option OpsBuffer}
    (ha : e.attempt? (.control h word arg buffer) = none) :
    (e.serve h word arg buffer).2.power = e.power := by
  unfold serve
  cases ht : takeBlock e.config word arg with
  | error err => rfl
  | ok block =>
    cases hr : Request.ofWord? word with
    | none => rfl
    | some r =>
      dsimp only
      by_cases hexec : r = .execRegOps
      · subst hexec
        rw [dispatch, controlExec]
        cases hd : decodeBlock ExecArgs block with
        | error err => rfl
        | ok args =>
          cases buffer with
          | none => rfl
          | some buffer =>
            -- The request is in order, so it would be an attempt.
            simp only [attempt?, ht, hr, hd] at ha
            cases ha
      · rcases dispatch_comes (fits_of_takeBlock ht hr) buffer with ⟨err, hd⟩ | ⟨f, hf, hx⟩
        · rw [show e.dispatch h r block arg buffer = _ from hd e h]
        · rw [show (e.dispatch h r block arg buffer).2 = _ from (hf e).engine h]
          refine perform_power_of_direct ((hf e).target h) ((hf e).direct h) ?_
          rw [hx h]
          exact beq_false_of_ne hexec

/-- **A call that is an attempt does what the attempt does,** and is refused if the attempt is. -/
theorem perform_of_attempt (ha : e.attempt? c = some a) :
    (∃ metrics, (e.perform c).2 = { (e.attempt a).2 with metrics }) ∧
      ∀ err, (e.attempt a).1 = ⟨.error err, a.buffer, []⟩ → (e.perform c).1 = c.refusal err := by
  cases c with
  | execute h buffer count mode =>
    cases ha
    exact ⟨⟨_, rfl⟩, fun err hx => congrArg Reply.executed hx⟩
  | control h word arg buffer =>
    obtain ⟨rfl, rfl, hserved⟩ := serve_of_attempt ha
    obtain ⟨metrics, hc⟩ := e.control_eq a.session word arg (some a.buffer)
    rw [perform, hc]
    refine ⟨⟨metrics, ?_⟩, fun err hx => ?_⟩
    · dsimp only
      rw [show (e.serve a.session word arg (some a.buffer)).2 = _ from hserved.engine a.session]
      rfl
    · exact congrArg Reply.controlled (hserved.refused a.session err (congrArg Reply.executed hx))
  | _ => cases ha

/-- **A call that is no attempt does not touch the power,** unless it puts a failure in store. -/
theorem perform_power_of_no_attempt (ha : e.attempt? c = none) (hc : c ≠ .armPowerFailure) :
    (e.perform c).2.power = e.power := by
  cases c with
  | openSession scope =>
    change (e.openSession scope).2.power = e.power
    rcases e.openSession_cases scope with ⟨err, ho⟩ | ⟨staging, metrics, -, ho⟩ <;> rw [ho]
  | execute => cases ha
  | control h word arg buffer =>
    obtain ⟨metrics, hm⟩ := e.control_eq h word arg buffer
    rw [perform, hm]
    exact serve_power_of_no_attempt ha
  | armPowerFailure => exact absurd rfl hc
  | createContext | destroyContext | poke | injectFault | clearFaults | armFailure => rfl
  | close | bindContext | unbindContext | reserve | release | bindPm | unbindPm | info =>
    exact perform_power_of_direct rfl rfl rfl

/-- **Nobody holds a reference between two calls.** -/
theorem ReachedFreely.power_refs (he : e.ReachedFreely config) : e.power.refs = 0 := by
  refine he.induction (motive := fun e => e.power.refs = 0) (fun _ _ hs => ?_) fun e c hr => ?_
  · rw [(eq_fresh_of_start hs).2]
    rfl
  · cases ha : e.attempt? c with
    | some a =>
      obtain ⟨metrics, hp⟩ := (perform_of_attempt ha).1
      rw [hp]
      exact attempt_refs.trans hr
    | none =>
      by_cases hc : c = .armPowerFailure
      · rw [hc]
        exact hr
      · rw [perform_power_of_no_attempt ha hc, hr]

/-- **Power references are balanced.** In every state that a run of any length leads to, nobody holds
a reference. A call that is an attempt holds one for everything that it hands to the executor. If the
gate lets it through, it uses up a failure in store and is refused with nothing handed to the
executor and nothing else done, or it switches the device on exactly once, whatever it comes to. No
other call touches the power, unless it puts a failure in store. -/
theorem power_is_balanced (he : e.ReachedFreely config) (c : Call) :
    e.power.refs = 0 ∧
    (∀ a, e.attempt? c = some a →
      (∃ metrics, (e.perform c).2 = { (e.attempt a).2 with metrics }) ∧
      (∀ w ∈ (e.attempt a).1.submitted, 1 ≤ w.powerRefs) ∧
      (e.LetsThrough a → e.power.failNext = true →
        (e.perform c).1 = c.refusal (.powerOn "power rail did not come up") ∧
        (e.attempt a).1 = ⟨.error (.powerOn "power rail did not come up"), a.buffer, []⟩ ∧
        (e.perform c).2.executor = e.executor ∧
        (e.perform c).2.power = ⟨0, e.power.powerOns, false⟩) ∧
      (e.LetsThrough a → e.power.failNext = false →
        (e.perform c).2.power = ⟨0, e.power.powerOns + 1, false⟩)) ∧
    ((∀ a, e.attempt? c = some a → ¬e.LetsThrough a) → c ≠ .armPowerFailure →
      (e.perform c).2.power = e.power) := by
  have hr := he.power_refs
  refine ⟨hr, fun a ha => ?_, fun hn hc => ?_⟩
  · obtain ⟨⟨metrics, hp⟩, hrefused⟩ := perform_of_attempt ha
    refine ⟨⟨metrics, hp⟩, attempt_held, fun hl hf => ?_, fun hl hf => ?_⟩
    · have hx := attempt_of_failNext hl hf
      rw [hp, hx, ← hr]
      exact ⟨hrefused _ (by rw [hx]), rfl, rfl, rfl⟩
    · rw [hp]
      exact attempt_power hl hf hr
  · cases ha : e.attempt? c with
    | none => exact perform_power_of_no_attempt ha hc
    | some a =>
      obtain ⟨⟨metrics, hp⟩, -⟩ := perform_of_attempt ha
      rw [hp]
      exact attempt_power_of_not_letsThrough (hn a ha)

/-- A run behind which a session has its windows open and a power failure is in store. -/
def dimRun : List Call :=
  [.openSession .device, .bindContext ⟨1⟩ none, .reserve ⟨1⟩ .hwpmLegacy false, .bindPm ⟨1⟩,
    .armPowerFailure]

theorem power_is_balanced_when_dim :
    (small dimRun).ReachedFreely .small ∧
      ((small dimRun).perform (.execute ⟨1⟩ ⟨.list [.write32 0x419000 7], none, none⟩ 1
        .continueOnError)).2.power = ⟨0, 0, false⟩ := by
  have he : (small dimRun).ReachedFreely .small := reachedFreely_small dimRun
  have hl : (small dimRun).LetsThrough
      ⟨⟨1⟩, ⟨.list [.write32 0x419000 7], none, none⟩, 1, .continueOnError⟩ := ⟨_, rfl, rfl⟩
  have h := power_is_balanced he (.execute ⟨1⟩ ⟨.list [.write32 0x419000 7], none, none⟩ 1
    .continueOnError)
  obtain ⟨-, -, hfails, -⟩ := h.2.1 _ rfl
  exact ⟨he, (hfails hl rfl).2.2.2⟩

end Engine

end Perfmon
