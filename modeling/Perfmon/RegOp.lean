/-!
# Register operations

One register operation as callers hand it over: a code, a register offset, a value and a mask, and
room for a status. Codes and statuses stay numbers here, because a caller may hand over any byte;
`RegOp.Kind` and `RegOp.statusName` say which of them mean something.
-/

namespace Perfmon

/-- A register operation in the form in which callers hold it. -/
structure RegOp where
  /-- The code of the operation, see `RegOp.Kind`. -/
  code : UInt8
  /-- The outcome, filled in when the operation is executed. -/
  status : UInt8
  /-- The offset of the register. -/
  offset : UInt32
  /-- The value to write, or the value that was read. -/
  value : UInt64
  /-- The bits that a write clears before it sets those of the value. -/
  mask : UInt64
  deriving DecidableEq, Repr

namespace RegOp

/-- The operations that a code can stand for. -/
inductive Kind where
  | read32
  | write32
  | read64
  | write64
  | read08
  | write08
  deriving DecidableEq, Repr

namespace Kind

/-- Every kind, in the order of the codes. -/
def all : List Kind :=
  [.read32, .write32, .read64, .write64, .read08, .write08]

/-- The code of a kind. -/
def code : Kind → UInt8
  | .read32 => 0
  | .write32 => 1
  | .read64 => 2
  | .write64 => 3
  | .read08 => 4
  | .write08 => 5

/-- The kind with a code, if there is one. -/
def ofCode? (c : UInt8) : Option Kind :=
  all.find? (·.code == c)

@[simp] theorem ofCode?_code (k : Kind) : ofCode? k.code = some k := by
  cases k <;> decide

theorem code_of_ofCode? {c : UInt8} {k : Kind} (h : ofCode? c = some k) : k.code = c := by
  have hk := List.find?_some h
  exact eq_of_beq hk

/-- The codes without a meaning are those above the last one with one. -/
theorem ofCode?_eq_none_iff {c : UInt8} : ofCode? c = none ↔ 5 < c := by
  unfold ofCode?
  simp only [all, code, List.find?_eq_none, List.mem_cons, List.not_mem_nil, or_false,
    forall_eq_or_imp, forall_eq, beq_iff_eq]
  grind

/-- Whether operations of a kind change their register. -/
def isWrite : Kind → Bool
  | .write32 | .write64 | .write08 => true
  | .read32 | .read64 | .read08 => false

/-- The name of a kind. -/
def label : Kind → String
  | .read32 => "read32"
  | .write32 => "write32"
  | .read64 => "read64"
  | .write64 => "write64"
  | .read08 => "read08"
  | .write08 => "write08"

/-- The mask of a write that replaces every bit of its register; a read has none. -/
def plainMask : Kind → UInt64
  | .write32 => 0xffffffff
  | .write64 => 0xffffffffffffffff
  | .write08 => 0xff
  | .read32 | .read64 | .read08 => 0

end Kind

/-! ## Statuses -/

/-- The status of an operation that was carried out. -/
def success : UInt8 := 0x00
/-- The status of an operation whose code means nothing. -/
def invalidOp : UInt8 := 0x01
/-- The status of an operation on a context image in the absence of a context. -/
def invalidType : UInt8 := 0x02
/-- The status of an operation on an offset that cannot be accessed. -/
def invalidOffset : UInt8 := 0x04
/-- The status of an operation that the device does not offer. -/
def unsupportedOp : UInt8 := 0x08
/-- The status of an operation with an unusable mask. -/
def invalidMask : UInt8 := 0x10

/-- The name of a status. -/
def statusName (s : UInt8) : String :=
  if s = success then "success"
  else if s = invalidOp then "invalid_op"
  else if s = invalidType then "invalid_type"
  else if s = invalidOffset then "invalid_offset"
  else if s = unsupportedOp then "unsupported_op"
  else if s = invalidMask then "invalid_mask"
  else "unknown"

/-! ## Building and reading operations -/

/-- An operation that has not been executed. -/
def ofKind (k : Kind) (offset : UInt32) (value mask : UInt64) : RegOp :=
  ⟨k.code, success, offset, value, mask⟩

/-- The operation that empty memory stands for: a read of register zero. -/
def blank : RegOp :=
  ⟨0, success, 0, 0, 0⟩

instance : Inhabited RegOp := ⟨blank⟩

/-- A read of the low half of a register. -/
def read32 (offset : UInt32) : RegOp :=
  ofKind .read32 offset 0 Kind.read32.plainMask

/-- A read of a whole register. -/
def read64 (offset : UInt32) : RegOp :=
  ofKind .read64 offset 0 Kind.read64.plainMask

/-- A write that replaces the low half of a register. -/
def write32 (offset value : UInt32) : RegOp :=
  ofKind .write32 offset value.toUInt64 Kind.write32.plainMask

/-- A write that replaces a whole register. -/
def write64 (offset : UInt32) (value : UInt64) : RegOp :=
  ofKind .write64 offset value Kind.write64.plainMask

/-- The kind of an operation; an unknown code has none. -/
def kind? (op : RegOp) : Option Kind :=
  Kind.ofCode? op.code

/-- Whether an operation was carried out. -/
def succeeded (op : RegOp) : Bool :=
  op.status == success

end RegOp

end Perfmon
