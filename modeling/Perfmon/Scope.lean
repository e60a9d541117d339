/-!
# Scopes and execution modes

What a session may reserve for, chosen when it is opened, and what a batch of register operations
promises when one of them fails.
-/

namespace Perfmon

/-- What a session reserves counters for. -/
inductive Scope where
  /-- The whole device, or one context of it. -/
  | device
  /-- Exactly one context. -/
  | context
  deriving DecidableEq, Repr

namespace Scope

/-- The name of a scope. -/
def label : Scope → String
  | .device => "device"
  | .context => "context"

instance : ToString Scope := ⟨label⟩

/-- Every scope. -/
def all : List Scope :=
  [.device, .context]

/-- The scope with a name, in letters of either case. No character outside ASCII has a lower case
that occurs in a name, so folding ASCII alone is enough. -/
def ofName? (s : String) : Option Scope :=
  match s.toLower with
  | "device" => some .device
  | "context" => some .context
  | _ => none

/-- Why a text names no scope. -/
def unknownName (s : String) : String :=
  s!"unknown reservation scope '{s}'"

end Scope

/-- What a batch of register operations promises when one of them fails. -/
inductive ExecMode where
  /-- A failing operation keeps every operation of its window from being applied. -/
  | allOrNone
  /-- A failing operation is reported and the others are applied. -/
  | continueOnError
  deriving DecidableEq, Repr

namespace ExecMode

/-- The name of a mode. -/
def label : ExecMode → String
  | .allOrNone => "all_or_none"
  | .continueOnError => "continue_on_error"

/-- Every mode. -/
def all : List ExecMode :=
  [.allOrNone, .continueOnError]

/-- The number of a mode in a request. -/
def raw : ExecMode → UInt32
  | .allOrNone => 0
  | .continueOnError => 1

/-- The mode that a number in a request selects: one selects continue-on-error, every other number
all-or-none. -/
def ofRaw (n : UInt32) : ExecMode :=
  if n = 1 then .continueOnError else .allOrNone

@[simp] theorem ofRaw_raw (m : ExecMode) : ofRaw m.raw = m := by
  cases m <;> rfl

end ExecMode

end Perfmon
