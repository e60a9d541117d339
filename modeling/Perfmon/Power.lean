import Perfmon.Error
/-!
# Power

The device is on while somebody holds a reference on its power. `busy` takes a reference and `idle`
gives one back; a failure can be put in store for the next `busy`. References and switchings are
counted as exact integers, without the width of a counter.
-/

namespace Perfmon

/-- The state of the power controller. -/
structure Power where
  /-- How many references are held. -/
  refs : Nat
  /-- How often the device was switched on. -/
  powerOns : Nat
  /-- Whether the next attempt to take a reference fails. -/
  failNext : Bool
  deriving DecidableEq, Repr

namespace Power

/-- The power of a device that is off. -/
def off : Power :=
  ⟨0, 0, false⟩

/-- Takes a reference. The first one switches the device on; a failure in store is used up. -/
def busy (p : Power) : Except Error Unit × Power :=
  if p.failNext then (.error (.powerOn "power rail did not come up"), { p with failNext := false })
  else (.ok (), { p with
    refs := p.refs + 1
    powerOns := if p.refs = 0 then p.powerOns + 1 else p.powerOns })

/-- Without a failure in store the device is switched on. -/
theorem busy_of_not_failNext {p : Power} (h : p.failNext = false) : p.busy.1 = .ok () := by
  unfold busy
  rw [h]
  rfl

/-- A failure in store is used up, and nothing else happens. -/
theorem busy_of_failNext {p : Power} (h : p.failNext = true) :
    p.busy = (.error (.powerOn "power rail did not come up"), { p with failNext := false }) := by
  unfold busy
  rw [h]
  rfl

theorem busy_eq {p : Power} (h : p.failNext = false) :
    ∃ n, p.busy = (.ok (), ⟨p.refs + 1, n, false⟩) := by
  unfold busy
  rw [h]
  exact ⟨_, rfl⟩

/-- A failure to power the device on keeps the references. -/
theorem refs_of_busy_error {p : Power} {err : Error} (h : p.busy.1 = .error err) :
    p.busy.2.refs = p.refs := by
  unfold busy at h ⊢
  split
  · rfl
  · rename_i hf
    rw [if_neg hf] at h
    cases h

/-- Whoever has taken a reference holds one. -/
theorem refs_of_busy_ok {p : Power} (h : p.busy.1 = .ok ()) : 1 ≤ p.busy.2.refs := by
  unfold busy at h ⊢
  split at h
  · cases h
  · rename_i hf
    rw [if_neg hf]
    exact Nat.le_add_left 1 p.refs

/-- Gives a reference back; without references nothing happens. -/
def idle (p : Power) : Power :=
  { p with refs := p.refs - 1 }

/-- After taking a reference and giving it back the power is what it was, but for having been switched
on if nobody held one before. -/
theorem busy_idle {p : Power} (h : p.failNext = false) :
    p.busy.2.idle = { p with powerOns := if p.refs = 0 then p.powerOns + 1 else p.powerOns } := by
  unfold busy
  rw [h]
  rfl

/-- Puts a failure in store. -/
def armFailure (p : Power) : Power :=
  { p with failNext := true }

end Power

end Perfmon
