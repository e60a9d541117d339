import Perfmon.Proofs.Changes
/-!
# Records that agree with the device

A session writes down what it has reserved, and the device keeps a table and sets of bound sessions
of its own; nobody compares the two at run time. `Settled` says that they agree. Every change keeps
a settled record settled (`Settled.change`), because reservations are frozen while the windows are
open: the resources that are bound are still those that the record names when the time comes to
close the windows. Whatever a session does leaves the others as they were (`Change.sameFor`).
-/

namespace Perfmon

variable {s s' : SessionRecord} {t t' : Holdings} {r q : Resource} {k : Handle}

namespace SessionRecord

theorem mem_reserved : r ∈ s.reserved ↔ (s.reservations.get r).isSome = true := by
  simp [SessionInfo.reserved, Resource.mem_all]

@[simp] theorem handle_record (mode : ReservationMode) : (s.record r mode).handle = s.handle := rfl

@[simp] theorem handle_strike : (s.strike r).handle = s.handle := rfl

theorem reservations_record (mode : ReservationMode) :
    (s.record r mode).reservations.get q
      = if q = r then some (.ofMode mode) else s.reservations.get q := by
  simp only [record, PerResource.get_set]

theorem reservedFor_record (mode : ReservationMode) :
    (s.record r mode).reservedFor.get q
      = if q = r then mode.context? else s.reservedFor.get q := by
  simp only [record, PerResource.get_set]

theorem reservations_strike :
    (s.strike r).reservations.get q = if q = r then none else s.reservations.get q := by
  simp only [strike, PerResource.get_set]

theorem reservedFor_strike :
    (s.strike r).reservedFor.get q = if q = r then none else s.reservedFor.get q := by
  simp only [strike, PerResource.get_set]

end SessionRecord

/-! ## Other sessions -/

/-- Two states of the holdings are the same for a session. -/
structure SameFor (k : Handle) (t t' : Holdings) : Prop where
  mode : ∀ r, t'.table.modeOf? r k = t.table.modeOf? r k
  bound : ∀ r, k ∈ t'.bound.get r ↔ k ∈ t.bound.get r

theorem SameFor.refl (k : Handle) (t : Holdings) : SameFor k t t :=
  ⟨fun _ => rfl, fun _ => Iff.rfl⟩

/-- A change is nothing to any other session. -/
theorem Change.sameFor (h : Change s t s' t') (hk : k ≠ s.handle) : SameFor k t t' := by
  cases h with
  | none | bindContext | unbindContext | adopt => exact SameFor.refl k t
  | grant r mode hb hp hm hf =>
    refine ⟨fun q => ?_, fun _ => Iff.rfl⟩
    rw [ReservationTable.modeOf?_enter hm, if_neg fun h => hk h.2]
  | release r hp =>
    refine ⟨fun q => ?_, fun _ => Iff.rfl⟩
    rw [ReservationTable.modeOf?_release, if_neg fun h => hk h.2]
  | bindPm hb hp hr hh =>
    refine ⟨fun _ => rfl, fun q => ?_⟩
    rw [Device.mem_enterBound]
    simp [hk]
  | unbindPm hp =>
    refine ⟨fun _ => rfl, fun q => ?_⟩
    rw [Device.mem_leaveBound]
    simp [hk]

/-- The end of a session is nothing to any other session. -/
theorem Holdings.leave_sameFor (unbound released : Bool) (hk : k ≠ s.handle) :
    SameFor k t (t.leave s unbound released) := by
  refine ⟨fun q => ?_, fun q => ?_⟩
  · unfold leave
    cases released with
    | false => rfl
    | true =>
      simp only [if_true]
      rw [ReservationTable.modeOf?_releaseAll, if_neg hk]
  · unfold leave
    cases unbound && s.pmBound with
    | false => exact Iff.rfl
    | true =>
      simp only [if_true]
      rw [Device.mem_leaveBound]
      simp [hk]

theorem Change.handle_eq (h : Change s t s' t') : s'.handle = s.handle := by
  cases h <;> rfl

/-! ## The rules of arbitration -/

theorem Change.wellFormed (h : Change s t s' t') (ht : t.table.WellFormed) :
    t'.table.WellFormed := by
  cases h with
  | grant r mode hb hp hm hf => exact ht.enter hm hf
  | release r hp => exact ht.release
  | _ => exact ht

theorem Holdings.leave_wellFormed (unbound released : Bool) (ht : t.table.WellFormed) :
    (t.leave s unbound released).table.WellFormed := by
  unfold leave
  cases released with
  | false => exact ht
  | true => exact ht.releaseAll

/-! ## Agreement -/

/-- The record of a session agrees with the holdings: it names the resources that the session holds,
with the mode and the context, and the session has just these bound while its windows are open. -/
structure Settled (s : SessionRecord) (t : Holdings) : Prop where
  reservations : ∀ r, s.reservations.get r = (t.table.modeOf? r s.handle).map .ofMode
  reservedFor : ∀ r, s.reservedFor.get r = (t.table.modeOf? r s.handle).bind (·.context?)
  bound : ∀ r, s.handle ∈ t.bound.get r ↔
    s.pmBound = true ∧ (s.reservations.get r).isSome = true
  reserved : s.pmBound = true → s.reserved ≠ []

theorem Settled.congr (h : Settled s t) (ht : SameFor s.handle t t') : Settled s t' where
  reservations r := by rw [h.reservations, ht.mode]
  reservedFor r := by rw [h.reservedFor, ht.mode]
  bound r := by rw [ht.bound, h.bound]
  reserved := h.reserved

/-- A session that has nothing bound is settled as soon as its reservations agree. -/
theorem Settled.of_not_pmBound (hp : s.pmBound = false)
    (hr : ∀ r, s.reservations.get r = (t.table.modeOf? r s.handle).map .ofMode)
    (hf : ∀ r, s.reservedFor.get r = (t.table.modeOf? r s.handle).bind (·.context?))
    (hb : ∀ r, s.handle ∉ t.bound.get r) : Settled s t where
  reservations := hr
  reservedFor := hf
  bound r := by simp [hp, hb r]
  reserved h := by rw [hp] at h; cases h

theorem Settled.not_mem_bound (h : Settled s t) (hp : s.pmBound = false) (r : Resource) :
    s.handle ∉ t.bound.get r := by
  rw [h.bound, hp]
  simp

/-- A session that does not exist yet is settled by an empty record. -/
theorem settled_new {h : Handle} (hm : ∀ r, t.table.modeOf? r h = none)
    (hb : ∀ r, h ∉ t.bound.get r) (scope : Scope) : Settled (.new h scope) t := by
  refine Settled.of_not_pmBound rfl ?_ ?_ hb
  · intro r
    rw [show (SessionRecord.new h scope).handle = h from rfl, hm]
    exact PerResource.get_const none r
  · intro r
    rw [show (SessionRecord.new h scope).handle = h from rfl, hm]
    exact PerResource.get_const none r

/-- Writing down a mode settles a session that holds the resource in this mode now and was settled
before. -/
theorem Settled.record {mode : ReservationMode} (h : Settled s t) (hp : s.pmBound = false)
    (ht : ∀ q, t'.table.modeOf? q s.handle
      = if q = r then some mode else t.table.modeOf? q s.handle)
    (hb : t'.bound = t.bound) : Settled (s.record r mode) t' := by
  refine Settled.of_not_pmBound hp ?_ ?_ ?_
  · intro q
    rw [SessionRecord.reservations_record, SessionRecord.handle_record, ht, h.reservations]
    split <;> rfl
  · intro q
    rw [SessionRecord.reservedFor_record, SessionRecord.handle_record, ht, h.reservedFor]
    split <;> rfl
  · rw [hb]
    exact h.not_mem_bound hp

/-- **A change keeps a settled record settled.** -/
theorem Settled.change (h : Settled s t) (hc : Change s t s' t') : Settled s' t' := by
  cases hc with
  | none => exact h
  | bindContext | unbindContext => exact ⟨h.reservations, h.reservedFor, h.bound, h.reserved⟩
  | grant r mode hb hp hm hf =>
    refine h.record hp (fun q => ?_) rfl
    rw [ReservationTable.modeOf?_enter hm]
    simp
  | adopt r held hb hp hm =>
    refine h.record hp (fun q => ?_) rfl
    by_cases hq : q = r
    · rw [if_pos hq, hq, hm]
    · rw [if_neg hq]
  | release r hp =>
    refine Settled.of_not_pmBound hp ?_ ?_ (h.not_mem_bound hp)
    · intro q
      rw [SessionRecord.reservations_strike, ReservationTable.modeOf?_release, h.reservations]
      by_cases hq : q = r <;> simp [hq]
    · intro q
      rw [SessionRecord.reservedFor_strike, ReservationTable.modeOf?_release, h.reservedFor]
      by_cases hq : q = r <;> simp [hq]
  | bindPm hb hp hr hh =>
    refine ⟨h.reservations, h.reservedFor, fun q => ?_, fun _ => hr⟩
    -- Nothing was bound before, so what is bound now is what the record names.
    have hq : s.handle ∉ t.bound.get q := h.not_mem_bound hp q
    rw [Device.mem_enterBound, SessionRecord.mem_reserved]
    simp [hq]
  | unbindPm hp =>
    -- The record still names what was bound, so nothing stays behind.
    refine ⟨h.reservations, h.reservedFor, fun q => ?_, fun hf => by cases hf⟩
    have hq := h.bound q
    rw [Device.mem_leaveBound, SessionRecord.mem_reserved, hq]
    constructor
    · rintro ⟨⟨-, hs⟩, hn⟩
      exact absurd ⟨rfl, hs⟩ hn
    · rintro ⟨hf, -⟩
      cases hf

end Perfmon
