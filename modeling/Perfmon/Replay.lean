import Perfmon.Engine.Execute
import Perfmon.Script
/-!
# Replaying scripts

The steps of a script carried out on an engine, one after the other. A script names its sessions;
the replay remembers which handle each name stands for: the one that the last successful `open`
under that name returned, until a `close` under it succeeds.

A step may be at fault itself, and then it is not carried out and the replay ends. Otherwise it has
an outcome, which matches the step's expectation or not. A mismatch ends the replay only where it is
told to stop at the first one.
-/

namespace Perfmon

/-- What is wrong with a step. -/
inductive StepFault where
  /-- The step names a session that is not open. -/
  | unopenedSession (name : String)
  /-- The step destroys a context that does not exist. -/
  | noContext (fd : Descriptor)
  /-- The step executes something that is no operation. -/
  | badOp (fault : ScriptOpFault)
  deriving DecidableEq, Repr

/-- The messages of a fault, the one that says most about the place first. -/
def StepFault.messages : StepFault → List String
  | .unopenedSession name => [s!"script refers to unopened session '{name}'"]
  | .noContext fd => [s!"no context behind fd {fd}"]
  | .badOp fault => fault.messages

/-- What a step has done. -/
inductive Deed where
  | createdContext (ctx : ContextId) (fd : Descriptor)
  | destroyedContext (ctx : ContextId)
  | opened (scope : Scope) (name : String) (h : Handle)
  | closed (name : String)
  | boundContext (name : String) (fd : Option Descriptor)
  | unboundContext (name : String)
  | reserved (name : String) (r : Resource) (held : Reserved)
  | released (name : String) (r : Resource)
  | boundPm (name : String)
  | unboundPm (name : String)
  | looked (info : SessionInfo)
  | executed (name : String) (report : ExecReport) (ops : List RegOp)
  deriving DecidableEq, Repr

/-- What a step has come to: it has done something, or the engine has refused it. -/
abbrev Outcome := Except Error Deed

/-- The kind of an outcome, as expectations name it. -/
def Outcome.kind : Outcome → String
  | .ok _ => "ok"
  | .error e => e.kind

/-- The kind of outcome that a step expects. -/
def ScriptStep.expected (s : ScriptStep) : String :=
  s.expect.getD "ok"

/-- A replay under way. -/
structure Replay where
  /-- The engine. -/
  engine : Engine
  /-- The handles that the names of the script stand for. -/
  sessions : Assoc String Handle

namespace Replay

/-- The replay of which no step has been carried out. -/
def start (engine : Engine) : Replay :=
  ⟨engine, .empty⟩

/-- The replay after an operation of its engine: the outcome, and the replay with the engine put
back. -/
def settle {α : Type} (r : Replay) (done : Except Error α × Engine) (deed : α → Deed) :
    Outcome × Replay :=
  (done.1.map deed, { r with engine := done.2 })

/-- Carries out an operation on the session behind a name. -/
def withName {α : Type} (r : Replay) (name : String) (f : Handle → Except Error α × Engine)
    (deed : α → Deed) : Except StepFault (Outcome × Replay) :=
  match r.sessions.find? name with
  | some h => .ok (r.settle (f h) deed)
  | none => .error (.unopenedSession name)

/-- Opens a session and gives it a name, which no longer stands for another session. -/
def openAs (r : Replay) (name : String) (scope : Scope) : Outcome × Replay :=
  match r.engine.openSession scope with
  | (.ok h, engine) => (.ok (.opened scope name h), ⟨engine, r.sessions.insert name h⟩)
  | (.error e, engine) => (.error e, { r with engine })

/-- Closes the session behind a name, which then stands for none. -/
def closeAs (r : Replay) (name : String) (h : Handle) : Outcome × Replay :=
  match r.engine.close h with
  | (.ok (), engine) => (.ok (.closed name), ⟨engine, r.sessions.erase name⟩)
  | (.error e, engine) => (.error e, { r with engine })

/-- The operations of a step for the engine; the first one at fault counts. -/
def regOps : List ScriptOp → Except StepFault (List RegOp)
  | [] => .ok []
  | op :: ops =>
    match op.toRegOp with
    | .ok regOp => (regOps ops).map (regOp :: ·)
    | .error fault => .error (.badOp fault)

/-- Executes a batch for the session behind a name. -/
def executeAs (r : Replay) (name : String) (h : Handle) (mode : ExecMode) (count : Option UInt32)
    (ops : List RegOp) : Outcome × Replay :=
  let count := count.getD (.ofNat ops.length)
  let (execution, engine) := r.engine.execute h { memory := .list ops } count.toNat mode
  let deed (report : ExecReport) : Deed := .executed name report execution.buffer.memory.toList
  (execution.result.map deed, { r with engine })

/-- Carries out a step, unless it is at fault itself. -/
def apply (r : Replay) : ScriptAction → Except StepFault (Outcome × Replay)
  | .createContext fd =>
    let (ctx, engine) := r.engine.createContext fd
    .ok (.ok (.createdContext ctx fd), { r with engine })
  | .destroyContext fd =>
    match r.engine.destroyContext fd with
    | (some ctx, engine) => .ok (.ok (.destroyedContext ctx), { r with engine })
    | (none, _) => .error (.noContext fd)
  | .openSession name scope => .ok (r.openAs name scope)
  | .close name =>
    match r.sessions.find? name with
    | some h => .ok (r.closeAs name h)
    | none => .error (.unopenedSession name)
  | .bindContext name fd =>
    r.withName name (r.engine.bindContext · fd) fun () => .boundContext name fd
  | .unbindContext name => r.withName name r.engine.unbindContext fun () => .unboundContext name
  | .reserve name resource contextSwitched =>
    r.withName name (r.engine.reserve · resource contextSwitched) (.reserved name resource)
  | .release name resource =>
    r.withName name (r.engine.release · resource) fun () => .released name resource
  | .bindPm name => r.withName name r.engine.bindPm fun () => .boundPm name
  | .unbindPm name => r.withName name r.engine.unbindPm fun () => .unboundPm name
  | .info name => r.withName name (fun h => (r.engine.info h, r.engine)) .looked
  | .exec name mode count ops =>
    match r.sessions.find? name with
    | none => .error (.unopenedSession name)
    | some h => (regOps ops).map (r.executeAs name h mode count)

end Replay

/-- A step that has been carried out. -/
structure StepRecord where
  /-- The step. -/
  step : ScriptStep
  /-- What it has come to. -/
  outcome : Outcome

/-- Whether a step has come to what was expected. -/
def StepRecord.isMatch (r : StepRecord) : Bool :=
  r.step.expected == r.outcome.kind

/-- What a replay has come to. -/
structure Transcript where
  /-- The steps that were carried out, in their order. -/
  records : List StepRecord
  /-- What is wrong with the step behind them, if that is where the replay ended. -/
  fault : Option StepFault
  /-- The replay at its end, with its sessions still open. -/
  last : Replay

namespace Transcript

/-- The counter of the steps that have not come to what was expected. It has 32 bits, one of them
for the sign, and goes from the largest number to the smallest one. -/
def mismatches (t : Transcript) : Int32 :=
  t.records.foldl (fun n r => if r.isMatch then n else n + 1) 0

end Transcript

namespace Replay

/-- Carries out steps one after the other, up to the first one at fault or, if told so, the first
one that does not come to what was expected. -/
def run (failFast : Bool) : List ScriptStep → Replay → Transcript
  | [], r => ⟨[], none, r⟩
  | step :: steps, r =>
    match r.apply step.action with
    | .error fault => ⟨[], some fault, r⟩
    | .ok (outcome, r) =>
      let record : StepRecord := ⟨step, outcome⟩
      if failFast && !record.isMatch then ⟨[record], none, r⟩
      else
        let rest := run failFast steps r
        { rest with records := record :: rest.records }

end Replay

end Perfmon
