import Perfmon.Config.Load
import Perfmon.Console
import Perfmon.Stress
/-!
# The report of a race

What a race of sessions prints: what is going to be raced for, and, if every round came out as it
should, how many reservations were granted and refused.
-/

namespace Perfmon

/-- The causes of a fault. -/
def StressFault.causes : StressFault → List Cause
  | .nothingToDo => [.message "--sessions and --rounds must be greater than 0"]
  | .noContexts => [.message "--contexts must be greater than 0 with --ctxsw"]
  | .session e => [.message e.message]
  | .reservation e => [.message "Reservation failed outright", .message e.message]
  | .leftOver count => [.message s!"{count} reservation(s) survived session close"]
  | .unexpected round granted expected =>
    [.message s!"round {round}: {granted} reservation(s) granted, expected {expected}"]

namespace StressOptions

/-- The line in front of a race. -/
def heading (o : StressOptions) : Line :=
  let mode := if o.contextSwitched then "context switched" else "global"
  .note <| s!"{o.rounds} round(s) of {o.sessions} sessions racing for {o.resource} ({mode}), " ++
    s!"expecting {o.winners} winner(s) per round"

/-- The lines behind a race whose rounds all came out as they should. -/
def closing (total : Tally) (e : Engine) : List Line :=
  let held :=
    if e.power.refs = 0 then []
    else [.warning s!"{e.power.refs} power reference(s) still held"]
  let summary :=
    s!"{total.granted} granted, {total.busy} refused as busy, reservation table consistent"
  held ++ [.success summary]

/-- Runs a race with a configuration; the reservations of its rounds take effect in the given
orders. -/
def race (o : StressOptions) (order : Nat → List Handle → List Handle) (config : Config)
    (memory : Memory := .ordinary) : CommandResult :=
  match Engine.start config memory with
  | .error reason => ⟨[], some reason.startCauses⟩
  | .ok engine =>
    match Stress.run o order engine with
    | .error fault => ⟨[o.heading], some fault.causes⟩
    | .ok (total, engine) => ⟨o.heading :: closing total engine, none⟩

/-- Runs a race. The sessions of a round reserve in the order in which they were opened. -/
def execute (o : StressOptions) (env : Environment) (files : Files)
    (memory : Memory := .ordinary) : CommandResult :=
  match o.check with
  | .error fault => ⟨[], some fault.causes⟩
  | .ok () =>
    match Config.load env files o.config with
    | .error failure => ⟨[], some failure.causes⟩
    | .ok config => o.race (fun _ hs => hs) config memory

end StressOptions

end Perfmon
