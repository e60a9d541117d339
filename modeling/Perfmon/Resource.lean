/-!
# Performance-monitoring resources

The counter blocks that sessions reserve, and a small container that holds one value for each of
them. The container is two fields, so two of them are equal when they agree on every resource
(`PerResource.ext_get`), and `get_set` is all that a proof needs to know about an update.
-/

namespace Perfmon

/-- A block of performance counters that can be reserved. -/
inductive Resource where
  /-- The legacy hardware counters. -/
  | hwpmLegacy
  /-- The counters of the multiprocessors. -/
  | smpc
  deriving DecidableEq, Repr

namespace Resource

/-- Every resource, in the order in which reports list them. -/
def all : List Resource :=
  [.hwpmLegacy, .smpc]

theorem mem_all (r : Resource) : r ∈ all := by
  cases r <;> simp [all]

/-- The number of a resource in a request. -/
def raw : Resource → UInt32
  | .hwpmLegacy => 0
  | .smpc => 1

/-- The resource that a number in a request means. -/
def ofRaw? (n : UInt32) : Option Resource :=
  if n = 0 then some .hwpmLegacy else if n = 1 then some .smpc else none

@[simp] theorem ofRaw?_raw (r : Resource) : ofRaw? r.raw = some r := by
  cases r <;> rfl

theorem ofRaw?_eq_none_iff {n : UInt32} : ofRaw? n = none ↔ ∀ r : Resource, n ≠ r.raw := by
  constructor
  · rintro h r rfl
    rw [ofRaw?_raw] at h
    cases h
  · intro h
    rw [ofRaw?, if_neg (show ¬n = 0 from h .hwpmLegacy), if_neg (show ¬n = 1 from h .smpc)]

/-- The name of a resource. -/
def label : Resource → String
  | .hwpmLegacy => "hwpm_legacy"
  | .smpc => "smpc"

instance : ToString Resource := ⟨label⟩

/-- The resource with a name, in letters of either case; the legacy counters have a short name too.
No character outside ASCII has a lower case that occurs in a name, so folding ASCII is enough. -/
def ofName? (s : String) : Option Resource :=
  match s.toLower with
  | "hwpm_legacy" | "hwpm" => some .hwpmLegacy
  | "smpc" => some .smpc
  | _ => none

/-- Why a text names no resource. -/
def unknownName (s : String) : String :=
  s!"unknown PM resource name '{s}'"

/-- Why a number means no resource. -/
def unknownRaw (n : UInt32) : String :=
  s!"unknown PM resource type {n.toNat}"

end Resource

/-! ## One value for each resource -/

/-- A value for each resource. -/
structure PerResource (α : Type) where
  /-- The value for the legacy counters. -/
  hwpmLegacy : α
  /-- The value for the multiprocessor counters. -/
  smpc : α
  deriving DecidableEq, Repr

namespace PerResource

variable {α : Type}

/-- The same value for every resource. -/
def const (a : α) : PerResource α :=
  ⟨a, a⟩

/-- The value for a resource. -/
def get (t : PerResource α) : Resource → α
  | .hwpmLegacy => t.hwpmLegacy
  | .smpc => t.smpc

/-- The same values except for one resource. -/
def set (t : PerResource α) (r : Resource) (a : α) : PerResource α :=
  match r with
  | .hwpmLegacy => { t with hwpmLegacy := a }
  | .smpc => { t with smpc := a }

/-- The values passed through a function. -/
def map {β : Type} (f : α → β) (t : PerResource α) : PerResource β :=
  ⟨f t.hwpmLegacy, f t.smpc⟩

@[simp] theorem get_const (a : α) (r : Resource) : (const a).get r = a := by
  cases r <;> rfl

@[simp] theorem get_map {β : Type} (f : α → β) (t : PerResource α) (r : Resource) :
    (t.map f).get r = f (t.get r) := by
  cases r <;> rfl

@[simp] theorem get_set_self (t : PerResource α) (r : Resource) (a : α) :
    (t.set r a).get r = a := by
  cases r <;> rfl

theorem get_set (t : PerResource α) (r q : Resource) (a : α) :
    (t.set r a).get q = if q = r then a else t.get q := by
  cases r <;> cases q <;> rfl

@[simp] theorem get_set_of_ne (t : PerResource α) {r q : Resource} (a : α) (h : q ≠ r) :
    (t.set r a).get q = t.get q := by
  simp [get_set, h]

/-- Two containers that agree on every resource are the same. -/
theorem ext_get {s t : PerResource α} (h : ∀ r, s.get r = t.get r) : s = t := by
  have h₁ : s.hwpmLegacy = t.hwpmLegacy := h .hwpmLegacy
  have h₂ : s.smpc = t.smpc := h .smpc
  cases s
  cases t
  simp_all

/-- Giving a resource back the value that it had leaves nothing of another one. -/
theorem set_set_of_get {t : PerResource α} {r : Resource} {b : α} (h : t.get r = b) (a : α) :
    (t.set r a).set r b = t := by
  refine ext_get fun q => ?_
  rw [get_set, get_set]
  split
  · rename_i hq
    rw [hq, h]
  · rfl

end PerResource

end Perfmon
