import Perfmon.Json
import Perfmon.Session
/-!
# Sessions in JSON

What callers can see of a session, as an object. A resource that is not reserved is left out.
-/

namespace Perfmon.SessionInfo

/-- The reservations of a session. -/
def reservationsJson (s : SessionInfo) : Json :=
  .ofFields <| Resource.all.filterMap fun r =>
    (s.reservations.get r).map fun held =>
      (r.label, .ofFields
        [("reserved", .bool true), ("context_switched", .bool held.isContextSwitched)])

/-- What callers can see of a session. -/
def toJson (s : SessionInfo) : Json :=
  .ofFields [
    ("handle", .ofNat s.handle.number.toNat),
    ("scope", .ofString s.scope.label),
    ("context_bound", .bool s.binding.isBound),
    ("context", (s.binding.context?.map fun c => Json.ofNat c.number.toNat).getD .null),
    ("reservations", s.reservationsJson),
    ("pm_bound", .bool s.pmBound)]

end Perfmon.SessionInfo
