import Perfmon.Cause
import Perfmon.Config.Decode
/-!
# Loading a configuration

The configuration of a command: from a file if there is one, else from the environment alone. Either
way it is checked before anything else is done with it.
-/

namespace Perfmon

/-- The files that can be read, by name. -/
abbrev Files := List (String × String)

/-- The text of a file. -/
def Files.read? (files : Files) (path : String) : Option String :=
  files.lookup path

namespace Config

/-- Why there is no configuration. -/
inductive LoadFailure where
  /-- The file cannot be read. -/
  | unreadable (path : String)
  /-- The text is no configuration. -/
  | malformed
  /-- No engine can work with the configuration. -/
  | invalid (reason : Invalid)
  deriving DecidableEq, Repr

/-- The causes of a failure to load a configuration. -/
def LoadFailure.causes : LoadFailure → List Cause
  | .unreadable path => [.message s!"Failed to read config {path}", .unreadable]
  | .malformed => [.message "Failed to parse profiler config", .badToml]
  | .invalid reason => [.message "Invalid profiler config", .message reason.message]

/-- The causes of a failure to start an engine. -/
def Invalid.startCauses (reason : Invalid) : List Cause :=
  [.message "Failed to start profiler engine", .message invalidHeading, .message reason.message]

/-- The configuration itself, if an engine can work with it. -/
def checked (c : Config) : Except LoadFailure Config :=
  match c.validate with
  | .ok () => .ok c
  | .error reason => .error (.invalid reason)

/-- The configuration in a text. -/
def ofText (env : Environment) (text : String) : Except LoadFailure Config :=
  match (Toml.ofText? text).bind (ofToml? (ofEnvironment env)) with
  | some c => c.checked
  | none => .error .malformed

/-- The configuration in a file, or the one of the environment if there is no file. -/
def load (env : Environment) (files : Files) : Option String → Except LoadFailure Config
  | none => (ofEnvironment env).checked
  | some path =>
    match files.read? path with
    | some text => ofText env text
    | none => .error (.unreadable path)

end Config

end Perfmon
