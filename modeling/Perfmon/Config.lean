import Perfmon.Device
import Perfmon.RegOp.Record
import Perfmon.Request
import Perfmon.Text.Number
/-!
# Configuration

The limits of an engine and the capabilities of its device. Limits that are not configured come from
environment variables, or from fixed values where a variable is missing or is no number.
-/

namespace Perfmon

/-- The environment variables that are set. -/
abbrev Environment := List (String × String)

/-- The value of a variable. -/
def Environment.get? (env : Environment) (name : String) : Option String :=
  env.lookup name

/-- The limits of an engine and the capabilities of its device. -/
structure Config where
  /-- How many bytes of operations are staged at once. -/
  windowBytes : Nat
  /-- The largest number of operations in a batch. -/
  maxRegOps : Nat
  /-- The largest length of an argument block. -/
  maxArgSize : Nat
  /-- What the device can do. -/
  device : Capabilities
  deriving DecidableEq, Repr

namespace Config

/-- Sizes are below this bound. -/
def sizeBound : Nat := UInt64.size

/-- Numbers of operations are below this bound. -/
def countBound : Nat := UInt32.size

/-- The number in a variable, or a fixed one if the variable holds none below the bound. -/
def fromEnvironment (env : Environment) (name : String) (bound default : Nat) : Nat :=
  ((env.get? name).bind fun text => Text.readUnsigned? 10 bound text.toList).getD default

/-- The configuration of an engine for which nothing is configured. -/
def ofEnvironment (env : Environment) : Config where
  windowBytes := fromEnvironment env "REGSCOPE_WINDOW_BYTES" sizeBound 4096
  maxRegOps := fromEnvironment env "REGSCOPE_MAX_REG_OPS" countBound 1024
  maxArgSize := fromEnvironment env "REGSCOPE_MAX_ARG_SIZE" sizeBound 32
  device := {}

/-- How many operations fit into a window. -/
def windowCapacity (c : Config) : Nat :=
  c.windowBytes / RegOp.recordSize

/-- The configuration with room for exactly so many operations in a window, as long as their length
in bytes is a size; otherwise its high bits are lost. -/
def withWindowCapacity (c : Config) (ops : Nat) : Config :=
  { c with windowBytes := ops * RegOp.recordSize % sizeBound }

/-- A capacity whose length in bytes is a size is the one that the windows have. -/
theorem windowCapacity_withWindowCapacity (c : Config) {ops : Nat}
    (h : ops * RegOp.recordSize < sizeBound) : (c.withWindowCapacity ops).windowCapacity = ops := by
  rw [windowCapacity, withWindowCapacity, Nat.mod_eq_of_lt h]
  exact Nat.mul_div_cancel ops (by decide)

/-- Why an engine cannot work with a configuration. -/
inductive Invalid where
  /-- No operation fits into a window. -/
  | windowTooSmall
  /-- No operation is allowed in a batch. -/
  | noRegOps
  /-- Not every request's argument block is allowed. -/
  | argSizeTooSmall (size : Nat)
  /-- Argument blocks are allowed that no request word can announce. -/
  | argSizeTooLarge
  deriving DecidableEq, Repr

/-- The length of the largest argument block. -/
def largestArgs : Nat :=
  ((Request.all.map fun r => r.argSize.toNat).max?).getD 0

/-- The largest length that a request word can announce. -/
def largestEncodable : Nat := 0x3fff

/-- What stands in front of the reason when an engine refuses to start. -/
def invalidHeading : String :=
  "Invalid configuration"

/-- The text of a refusal. -/
def Invalid.message : Invalid → String
  | .windowTooSmall => s!"window_bytes must hold at least one {RegOp.recordSize}-byte register op"
  | .noRegOps => "max_reg_ops must be greater than 0"
  | .argSizeTooSmall size =>
    s!"max_arg_size {size} is smaller than the largest request ({largestArgs} bytes)"
  | .argSizeTooLarge => s!"max_arg_size too large (max {largestEncodable})"

/-- Whether an engine can work with a configuration; the first reason against it counts. -/
def validate (c : Config) : Except Invalid Unit :=
  if c.windowCapacity = 0 then .error .windowTooSmall
  else if c.maxRegOps = 0 then .error .noRegOps
  else if c.maxArgSize < largestArgs then .error (.argSizeTooSmall c.maxArgSize)
  else if largestEncodable < c.maxArgSize then .error .argSizeTooLarge
  else .ok ()

end Config

end Perfmon
