import Perfmon.CommandLine
import Perfmon.Replay.Report
import Perfmon.Stress.Report
/-!
# Commands

What the program can be asked to do: to replay a script, or to have sessions race for a resource.
The configuration of either may come from a file that the arguments or the environment name; the
arguments win.
-/

namespace Perfmon

/-- Something that the program can be asked to do. -/
inductive Command where
  /-- To replay a script. -/
  | run (o : RunOptions)
  /-- To have sessions race for a resource. -/
  | stress (o : StressOptions)
  deriving DecidableEq, Repr

/-- What the arguments of the program ask for. -/
inductive Invocation where
  /-- Nothing that can be understood. -/
  | refused
  /-- How the program is used. -/
  | help
  /-- The version of the program. -/
  | version
  /-- A command. -/
  | command (c : Command)
  deriving DecidableEq, Repr

/-- Whether a text names a file at all. -/
def isPath (s : String) : Bool :=
  s ≠ ""

/-- The number that a text stands for. -/
def count? (s : String) : Option Nat :=
  Text.readUnsigned? 10 Config.sizeBound s.toList

/-! ## Options -/

/-- The options that every command has. -/
def commonOptions : List CommandOption :=
  [.value "config" (some 'c') isPath, .flag "verbose" (some 'v'), .flag "json-logs" none, .help]

/-- The file with the configuration: the one that is given, else the one that the environment names.
The environment may not name an empty one. -/
def Settings.configFile? (s : Settings) (env : Environment) : Option (Option String) :=
  match s.get? "config", env.get? "REGSCOPE_CONFIG" with
  | some path, _ => some (some path)
  | none, some path => if isPath path then some (some path) else none
  | none, none => some none

namespace RunOptions

/-- What the command takes. -/
def grammar : CommandGrammar where
  options := [.flag "metrics" none, .flag "fail-fast" none] ++ commonOptions
  operands := 1

/-- The options that arguments come to. -/
def ofSettings? (env : Environment) (s : Settings) : Option RunOptions := do
  let script ← s.operands.head?
  let config ← s.configFile? env
  return { script, config, metrics := s.has "metrics", failFast := s.has "fail-fast" }

end RunOptions

namespace StressOptions

/-- What the command takes. -/
def grammar : CommandGrammar where
  options := [
    .value "sessions" (some 's') fun v => (count? v).isSome,
    .value "resource" (some 'r') fun v => (Resource.ofName? v).isSome,
    .flag "ctxsw" none,
    .value "contexts" none fun v => (count? v).isSome,
    .value "rounds" none fun v => (count? v).isSome] ++ commonOptions
  operands := 0

/-- The options that arguments come to. -/
def ofSettings? (env : Environment) (s : Settings) : Option StressOptions := do
  let config ← s.configFile? env
  let number (name : String) (default : Nat) : Nat := ((s.get? name).bind count?).getD default
  return {
    sessions := number "sessions" 8
    resource := ((s.get? "resource").bind Resource.ofName?).getD .hwpmLegacy
    contextSwitched := s.has "ctxsw"
    contexts := number "contexts" 1
    rounds := number "rounds" 10
    config }

end StressOptions

/-! ## Invocations -/

namespace Invocation

/-- What the arguments of a command ask for. -/
def ofCommand {α : Type} (g : CommandGrammar) (ofSettings? : Settings → Option α)
    (command : α → Command) (args : List String) : Invocation :=
  match Settings.ofTexts g args with
  | .error .help => .help
  | .error .mistake => .refused
  | .ok s =>
    match ofSettings? s with
    | some o => .command (command o)
    | none => .refused

/-- The names that help can be asked for. -/
def topics : List String :=
  ["run", "stress", "help"]

/-- The options that may stand in the place of a command. -/
def ownOptions : List CommandOption :=
  [.help, .flag "version" (some 'V')]

/-- What the arguments of the program ask for. -/
def ofArgs (env : Environment) : List String → Invocation
  | [] => .refused
  | "run" :: args => ofCommand RunOptions.grammar (RunOptions.ofSettings? env) .run args
  | "stress" :: args => ofCommand StressOptions.grammar (StressOptions.ofSettings? env) .stress args
  | ["help"] => .help
  | ["help", topic] => if topic ∈ topics then .help else .refused
  | text :: _ =>
    match (Argument.ofText ownOptions text).1 with
    | .flag name :: _ => if name = CommandOption.help.name then .help else .version
    | _ => .refused

/-- The name of the program and its version. -/
def versionText : String :=
  "regscope 0.1.0"

/-- How the program is used. -/
def usage : List String :=
  ["Usage: regscope run SCRIPT [-c FILE] [--metrics] [--fail-fast] [-v] [--json-logs]",
    "       regscope stress [-s N] [-r RESOURCE] [--ctxsw] [--contexts N] [--rounds N] [-c FILE]",
    "                       [-v] [--json-logs]",
    "       regscope --help | --version"]

end Invocation

namespace Command

/-- The files that a command may read. -/
def paths : Command → List String
  | .run o => o.script :: o.config.toList
  | .stress o => o.config.toList

/-- Carries out a command. -/
def execute (env : Environment) (files : Files) (c : Command) (memory : Memory := .ordinary) :
    CommandResult :=
  match c with
  | .run o => o.execute env files memory
  | .stress o => o.execute env files memory

end Command

end Perfmon
