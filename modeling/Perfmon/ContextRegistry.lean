import Perfmon.Assoc
import Perfmon.Handle
/-!
# The context registry

Which contexts exist, and by which descriptor each is reached. Identifiers are handed out by
counting, so one that has gone is not used again. Giving a descriptor a second context destroys
the first.
-/

namespace Perfmon

/-- The contexts that exist. -/
structure ContextRegistry where
  /-- The context behind each descriptor. -/
  entries : Assoc Descriptor ContextId
  /-- How many contexts have been created; the last identifier handed out. -/
  created : UInt64

namespace ContextRegistry

/-- The registry without contexts. -/
def empty : ContextRegistry :=
  ⟨.empty, 0⟩

/-- The identifier that the next context gets. -/
def nextId (c : ContextRegistry) : ContextId :=
  ⟨c.created + 1⟩

/-- Creates a context behind a descriptor. -/
def create (c : ContextRegistry) (fd : Descriptor) : ContextId × ContextRegistry :=
  (c.nextId, ⟨c.entries.insert fd c.nextId, c.created + 1⟩)

/-- Destroys the context behind a descriptor, if there is one. -/
def destroy (c : ContextRegistry) (fd : Descriptor) : Option ContextId × ContextRegistry :=
  (c.entries.find? fd, { c with entries := c.entries.erase fd })

/-- The context that a caller's descriptor means; a negative descriptor means none. -/
def resolve (c : ContextRegistry) (fd : Descriptor) : Option ContextId :=
  if fd < 0 then none else c.entries.find? fd

/-- Whether a context exists. -/
def isLive (c : ContextRegistry) (ctx : ContextId) : Bool :=
  c.entries.values.contains ctx

/-- How many contexts exist. -/
def size (c : ContextRegistry) : Nat :=
  c.entries.size

end ContextRegistry

end Perfmon
