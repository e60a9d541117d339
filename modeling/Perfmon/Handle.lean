/-!
# Identifiers

The numbers under which sessions and contexts are known. A context is a group of execution
contexts of one client; clients name it by a file descriptor, the library by an identifier that is
never used twice.
-/

namespace Perfmon

/-- The number under which a session is known to its caller. -/
structure Handle where
  /-- The number itself. -/
  number : UInt32
  deriving DecidableEq, Repr

/-- A handle is written as its number. -/
instance : ToString Handle where
  toString h := toString h.number.toNat

/-- The identifier of a context. -/
structure ContextId where
  /-- The number itself. -/
  number : UInt64
  deriving DecidableEq, Repr

/-- A context is written as its number behind `ctx#`. -/
instance : ToString ContextId where
  toString c := s!"ctx#{c.number.toNat}"

/-- The file descriptor by which a client names a context; a negative one names none. -/
abbrev Descriptor := Int32

end Perfmon
