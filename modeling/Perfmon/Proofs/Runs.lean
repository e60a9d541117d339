import Mathlib.Data.List.Induction
import Perfmon.Engine.Call
/-!
# Runs

The states that runs of calls lead to. Handles are 32 bits wide, so most of what is true of such a
state is true as long as fewer sessions have been opened than there are handles; `openings` counts
them along the run. `ReachedBy.induction` goes through the calls of a run with that count.

What is true of the past of a state is said of the run itself (`Run`), and proved by adding one call
after the other at its end (`Run.induction`).
-/

namespace Perfmon

/-- How many sessions an answer says were opened. -/
def Reply.openings : Reply → Nat
  | .opened (.ok _) => 1
  | _ => 0

/-- Whether a call is there to make an executor call fail. -/
def Call.disturbs : Call → Bool
  | .armFailure _ _ => true
  | _ => false

/-- A configuration with room for two operations in a window. -/
def Config.small : Config :=
  ⟨48, 16, 32, {}⟩

namespace Engine

theorem eq_fresh_of_start {config : Config} {memory : Memory} {e : Engine}
    (h : Engine.start config memory = .ok e) :
    config.validate = .ok () ∧ e = fresh config memory := by
  unfold start at h
  split at h
  · cases h
  · rename_i hv
    cases h
    exact ⟨hv, rfl⟩

/-- How many sessions a run opens. -/
def openings (e : Engine) : List Call → Nat
  | [] => 0
  | c :: cs => (e.perform c).1.openings + (e.perform c).2.openings cs

/-- The engine gets into this state by a run of calls of some kind that opens fewer sessions than
there are handles. -/
def ReachedBy (allowed : Call → Prop) (config : Config) (e : Engine) : Prop :=
  ∃ memory start calls, Engine.start config memory = .ok start ∧ (∀ c ∈ calls, allowed c) ∧
    start.openings calls < UInt32.size ∧ e = start.performAll calls

/-- The engine gets into this state by a run of any calls, among them those that make executor
calls fail. -/
def Reached (config : Config) (e : Engine) : Prop :=
  ReachedBy (fun _ => True) config e

/-- The engine gets into this state by a run in which no executor call is made to fail. -/
def ReachedUndisturbed (config : Config) (e : Engine) : Prop :=
  ReachedBy (fun c => c.disturbs = false) config e

/-- A run without disturbances is a run. -/
theorem ReachedUndisturbed.reached {config : Config} {e : Engine}
    (h : e.ReachedUndisturbed config) : e.Reached config := by
  obtain ⟨memory, start, calls, hs, -, hn, he⟩ := h
  exact ⟨memory, start, calls, hs, fun _ _ => trivial, hn, he⟩

/-- The engine gets into this state by a run of any calls, however many sessions it opens. -/
def ReachedFreely (config : Config) (e : Engine) : Prop :=
  ∃ memory start calls, Engine.start config memory = .ok start ∧ e = start.performAll calls

/-- The engine gets into this state by a run of any calls, however many sessions it opens, and no
executor call is about to fail. So it is behind a run in which none is made to fail
(`ReachedUndisturbed.quietly`), and behind one whose failures have all come about. -/
structure ReachedQuietly (config : Config) (e : Engine) : Prop where
  freely : e.ReachedFreely config
  quiet : e.executor.armed = []

theorem ReachedBy.freely {allowed : Call → Prop} {config : Config} {e : Engine}
    (h : ReachedBy allowed config e) : e.ReachedFreely config := by
  obtain ⟨memory, start, calls, hs, -, -, he⟩ := h
  exact ⟨memory, start, calls, hs, he⟩

/-! ## Runs in two parts -/

theorem performAll_append (e : Engine) (cs ds : List Call) :
    e.performAll (cs ++ ds) = (e.performAll cs).performAll ds :=
  List.foldl_append

theorem openings_append (e : Engine) (cs ds : List Call) :
    e.openings (cs ++ ds) = e.openings cs + (e.performAll cs).openings ds := by
  induction cs generalizing e with
  | nil => exact (Nat.zero_add _).symm
  | cons c cs ih =>
    rw [List.cons_append, openings, openings, ih, Nat.add_assoc]
    rfl

/-- Calls of a kind that opens no sessions. -/
theorem openings_map_eq_zero {α : Type} {call : α → Call}
    (hc : ∀ e a, (Engine.perform e (call a)).1.openings = 0) (e : Engine) (as : List α) :
    e.openings (as.map call) = 0 := by
  induction as generalizing e with
  | nil => rfl
  | cons a as ih => rw [List.map_cons, openings, hc, ih]

/-! ## Induction -/

/-- What every call of a run keeps, the number of openings counted along, holds behind the run. -/
theorem performAll_induction {allowed : Call → Prop} {motive : Nat → Engine → Prop}
    (step : ∀ n e c, allowed c → n + (e.perform c).1.openings < UInt32.size → motive n e →
      motive (n + (e.perform c).1.openings) (e.perform c).2) :
    ∀ (calls : List Call) (n : Nat) (e : Engine), (∀ c ∈ calls, allowed c) →
      n + e.openings calls < UInt32.size → motive n e →
      motive (n + e.openings calls) (e.performAll calls)
  | [], _, _, _, _, h => h
  | c :: cs, n, e, hc, hn, h => by
    rw [openings, ← Nat.add_assoc] at hn ⊢
    have hstep := step n e c (hc c List.mem_cons_self) (by omega) h
    exact performAll_induction step cs _ _ (fun d hd => hc d (List.mem_cons_of_mem _ hd)) hn hstep

/-- Induction along a run, with the number of sessions opened so far. -/
theorem ReachedBy.induction {allowed : Call → Prop} {config : Config} {e : Engine}
    {motive : Nat → Engine → Prop} (h : ReachedBy allowed config e)
    (start : ∀ memory e, Engine.start config memory = .ok e → motive 0 e)
    (step : ∀ n e c, allowed c → n + (e.perform c).1.openings < UInt32.size → motive n e →
      motive (n + (e.perform c).1.openings) (e.perform c).2) :
    ∃ n < UInt32.size, motive n e := by
  obtain ⟨memory, e₀, calls, hs, hc, hn, rfl⟩ := h
  have h := performAll_induction step calls 0 e₀ hc (by omega) (start memory e₀ hs)
  exact ⟨_, by omega, h⟩

/-- Induction along a run of any length. -/
theorem ReachedFreely.induction {config : Config} {e : Engine} {motive : Engine → Prop}
    (h : e.ReachedFreely config)
    (start : ∀ memory e, Engine.start config memory = .ok e → motive e)
    (step : ∀ e c, motive e → motive (e.perform c).2) : motive e := by
  obtain ⟨memory, e₀, calls, hs, rfl⟩ := h
  have hrun : ∀ (calls : List Call) (e : Engine), motive e → motive (e.performAll calls) := by
    intro calls
    induction calls with
    | nil => exact fun e he => he
    | cons c cs ih => exact fun e he => ih _ (step e c he)
  exact hrun calls e₀ (start memory e₀ hs)

/-! ## Runs with their past -/

/-- A run of calls of some kind from the start of an engine, which opens fewer sessions than there
are handles. -/
structure Run (allowed : Call → Prop) (config : Config) (start : Engine) (calls : List Call) :
    Prop where
  started : ∃ memory, Engine.start config memory = .ok start
  kind : ∀ c ∈ calls, allowed c
  openings : start.openings calls < UInt32.size

variable {allowed : Call → Prop} {config : Config} {start : Engine} {before after calls : List Call}

theorem Run.reached (hr : Run allowed config start calls) :
    ReachedBy allowed config (start.performAll calls) := by
  obtain ⟨memory, hs⟩ := hr.started
  exact ⟨memory, start, calls, hs, hr.kind, hr.openings, rfl⟩

theorem Run.eq_fresh (hr : Run allowed config start calls) :
    ∃ memory, start = fresh config memory := by
  obtain ⟨memory, hs⟩ := hr.started
  exact ⟨memory, (eq_fresh_of_start hs).2⟩

/-- The beginning of a run is a run. -/
theorem Run.of_append (hr : Run allowed config start (before ++ after)) :
    Run allowed config start before where
  started := hr.started
  kind c hc := hr.kind c (List.mem_append_left after hc)
  openings := by
    have hn := hr.openings
    rw [openings_append] at hn
    omega

theorem performAll_concat (e : Engine) (cs : List Call) (c : Call) :
    e.performAll (cs ++ [c]) = ((e.performAll cs).perform c).2 :=
  performAll_append e cs [c]

/-- Induction along a run with its past, from its start on. -/
theorem Run.induction {motive : List Call → Prop} (hr : Run allowed config start calls)
    (nil : motive [])
    (concat : ∀ cs c, Run allowed config start (cs ++ [c]) → motive cs → motive (cs ++ [c])) :
    motive calls := by
  induction calls using List.reverseRecOn with
  | nil => exact nil
  | append_singleton cs c ih => exact concat cs c hr (ih hr.of_append)

/-! ## A small engine -/

/-- The small engine behind a run. -/
def small (calls : List Call) : Engine :=
  (fresh .small).performAll calls

theorem small_append (past rest : List Call) :
    small (past ++ rest) = (small past).performAll rest :=
  performAll_append _ _ _

theorem run_small (hc : ∀ c ∈ calls, allowed c)
    (hn : (fresh .small).openings calls < UInt32.size) : Run allowed .small (fresh .small) calls :=
  ⟨⟨_, rfl⟩, hc, hn⟩

theorem reachedBy_small {allowed : Call → Prop} {calls : List Call} (hc : ∀ c ∈ calls, allowed c)
    (hn : (fresh .small).openings calls < UInt32.size) : ReachedBy allowed .small (small calls) :=
  ⟨_, fresh .small, calls, rfl, hc, hn, rfl⟩

theorem reachedFreely_small (calls : List Call) : (small calls).ReachedFreely .small :=
  ⟨_, fresh .small, calls, rfl, rfl⟩

end Engine

end Perfmon
