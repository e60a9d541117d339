import Mathlib.Data.List.Nodup
import Perfmon.Reservation.Table
/-!
# The holders of a resource

What the operations of the reservation table do to the mode in which a session holds a resource, and
the rules of arbitration that every one of them keeps: no session holds a resource twice, and no two
holders are in each other's way (`WellFormed`). From the rules it follows that a resource has either
one global holder or context-switched ones with different contexts (`global_or_contextSwitched`).
-/

namespace Perfmon.ReservationTable

variable {t : ReservationTable} {r q : Resource} {s k : Handle} {m : ReservationMode}

/-! ## The mode of a session -/

@[simp] theorem modeOf?_empty : empty.modeOf? r s = none := by
  simp [modeOf?]

theorem holders_enter :
    (t.enter r s m).holders q = if q = r then t.holders r ++ [⟨s, m⟩] else t.holders q := by
  simp only [enter, holders, PerResource.get_set]

theorem modeOf?_enter (h : t.modeOf? r s = none) :
    (t.enter r s m).modeOf? q k = if q = r ∧ k = s then some m else t.modeOf? q k := by
  unfold modeOf? at h ⊢
  rw [holders_enter]
  by_cases hq : q = r
  · subst hq
    rw [if_pos rfl, List.find?_append]
    by_cases hk : k = s
    · subst hk
      rw [Option.map_eq_none_iff] at h
      simp [h]
    · have hks : (s == k) = false := beq_false_of_ne (Ne.symm hk)
      simp [hks, hk]
  · simp [hq]

theorem find?_without :
    (t.without r s).find? (·.session == k) =
      if k = s then none else (t.holders r).find? (·.session == k) := by
  unfold without
  rw [List.find?_filter]
  by_cases hk : k = s
  · subst hk
    rw [if_pos rfl, List.find?_eq_none]
    intro x _
    simp
  · rw [if_neg hk]
    congr 1
    funext x
    by_cases hx : x.session = k
    · simp [hx, hk]
    · simp [hx]

theorem modeOf?_release :
    (t.release r s).2.modeOf? q k = if q = r ∧ k = s then none else t.modeOf? q k := by
  unfold modeOf?
  rw [holders_release]
  by_cases hq : q = r
  · subst hq
    rw [if_pos rfl, find?_without]
    by_cases hk : k = s <;> simp [hk]
  · simp [hq]

theorem modeOf?_releaseAll :
    (t.releaseAll s).2.modeOf? q k = if k = s then none else t.modeOf? q k := by
  unfold modeOf?
  rw [holders_releaseAll, find?_without]
  by_cases hk : k = s <;> simp [hk]

/-- What a reservation can come to: the session holds the resource already, or a holder is in the
way, or the session is entered. -/
theorem reserve_cases (t : ReservationTable) (r : Resource) (s : Handle) (m : ReservationMode) :
    (∃ held, t.modeOf? r s = some held ∧ t.reserve r s m = (.ok (.alreadyHeld held), t)) ∨
    (∃ h, t.modeOf? r s = none ∧ t.blocker? r m = some h ∧
      t.reserve r s m = (.error ⟨r, h⟩, t)) ∨
    (t.modeOf? r s = none ∧ t.blocker? r m = none ∧
      t.reserve r s m = (.ok .granted, t.enter r s m)) := by
  unfold reserve
  cases hm : t.modeOf? r s with
  | some held => exact Or.inl ⟨held, rfl, rfl⟩
  | none =>
    cases hb : t.blocker? r m with
    | some h => exact Or.inr (Or.inl ⟨h, rfl, rfl, rfl⟩)
    | none => exact Or.inr (Or.inr ⟨rfl, rfl, rfl⟩)

/-! ## The rules of arbitration -/

/-- The holders of one resource keep to the rules: they are different sessions, and none is in the
way of another. -/
structure Compatible (hs : List Holder) : Prop where
  distinct : (hs.map (·.session)).Nodup
  peaceful : hs.Pairwise fun a b => a.mode.conflicts b.mode = false

/-- The holders of every resource keep to the rules. -/
def WellFormed (t : ReservationTable) : Prop :=
  ∀ r, Compatible (t.holders r)

theorem wellFormed_empty : WellFormed empty := by
  intro r
  rw [holders_empty]
  exact ⟨List.nodup_nil, List.Pairwise.nil⟩

theorem Compatible.sublist {hs gs : List Holder} (h : Compatible hs) (hg : gs.Sublist hs) :
    Compatible gs :=
  ⟨h.distinct.sublist (hg.map _), h.peaceful.sublist hg⟩

theorem modeOf?_eq_none_iff : t.modeOf? r s = none ↔ ∀ x ∈ t.holders r, x.session ≠ s := by
  simp [modeOf?]

/-- The holders without one who is none of them. -/
theorem without_of_modeOf?_none (h : t.modeOf? r s = none) : t.without r s = t.holders r := by
  rw [without, List.filter_eq_self]
  intro x hx
  rw [bne_iff_ne]
  exact modeOf?_eq_none_iff.mp h x hx

/-- What a session holds is what it holds in some mode. -/
theorem mem_heldBy_iff : r ∈ t.heldBy s ↔ t.modeOf? r s ≠ none := by
  rw [Ne, modeOf?_eq_none_iff]
  simp [heldBy, holds, Resource.mem_all]

theorem nodup_heldBy (t : ReservationTable) (s : Handle) : (t.heldBy s).Nodup :=
  List.Nodup.filter _ (by decide)

theorem blocker?_eq_none_iff :
    t.blocker? r m = none ↔ ∀ x ∈ t.holders r, m.conflicts x.mode = false := by
  simp [blocker?]

theorem blocker?_eq_some {x : Holder} (h : t.blocker? r m = some x) :
    x ∈ t.holders r ∧ m.conflicts x.mode = true := by
  unfold blocker? at h
  exact ⟨List.mem_of_find?_eq_some h, by simpa using List.find?_some h⟩

theorem WellFormed.enter (ht : t.WellFormed) (hm : t.modeOf? r s = none)
    (hb : t.blocker? r m = none) : (t.enter r s m).WellFormed := by
  intro q
  rw [holders_enter]
  by_cases hq : q = r
  · obtain ⟨hd, hp⟩ := ht r
    rw [modeOf?_eq_none_iff] at hm
    rw [blocker?_eq_none_iff] at hb
    rw [if_pos hq]
    -- The new holder stands at the end, so it is compared with all the others.
    refine ⟨?_, ?_⟩
    · rw [List.map_append, List.nodup_append]
      refine ⟨hd, by simp, ?_⟩
      intro a ha b hb' hab
      obtain ⟨x, hx, rfl⟩ := List.mem_map.mp ha
      rw [List.map_singleton, List.mem_singleton] at hb'
      exact hm x hx (hab.trans hb')
    · rw [List.pairwise_append]
      refine ⟨hp, List.pairwise_singleton _ _, ?_⟩
      intro a ha b hb'
      rw [List.mem_singleton] at hb'
      rw [hb', ReservationMode.conflicts_comm]
      exact hb a ha
  · rw [if_neg hq]
    exact ht q

theorem WellFormed.release (ht : t.WellFormed) : (t.release r s).2.WellFormed := by
  intro q
  rw [holders_release]
  split
  · exact (ht r).sublist List.filter_sublist
  · exact ht q

theorem WellFormed.releaseAll (ht : t.WellFormed) : (t.releaseAll s).2.WellFormed := by
  intro q
  rw [holders_releaseAll]
  exact (ht q).sublist List.filter_sublist

/-- In a table that keeps to the rules, the holders are what looking up their sessions finds. -/
theorem modeOf?_eq_some_iff (ht : t.WellFormed) :
    t.modeOf? r s = some m ↔ ⟨s, m⟩ ∈ t.holders r := by
  unfold modeOf?
  constructor
  · intro h
    obtain ⟨x, hx, rfl⟩ := Option.map_eq_some_iff.mp h
    have hs : x.session = s := by simpa using List.find?_some hx
    rw [← hs]
    exact List.mem_of_find?_eq_some hx
  · intro h
    cases hf : (t.holders r).find? (·.session == s) with
    | none =>
      have hn := List.find?_eq_none.mp hf _ h
      simp at hn
    | some x =>
      have hs : x.session = s := by simpa using List.find?_some hf
      have hx : x = ⟨s, m⟩ :=
        List.inj_on_of_nodup_map (ht r).distinct (List.mem_of_find?_eq_some hf) h hs
      rw [hx]
      rfl

/-- Holders that keep to the rules are one global holder, or context-switched ones with different
contexts. -/
theorem Compatible.global_or_contextSwitched {hs : List Holder} (h : Compatible hs) :
    (∃ s, hs = [⟨s, .global⟩]) ∨
      (∀ x ∈ hs, x.mode.isContextSwitched = true) ∧ (hs.map (·.mode.context?)).Nodup := by
  obtain ⟨-, hp⟩ := h
  induction hs with
  | nil => exact Or.inr ⟨by simp, List.nodup_nil⟩
  | cons x hs ih =>
    rw [List.pairwise_cons] at hp
    obtain ⟨hx, hrest⟩ := hp
    obtain ⟨s, m⟩ := x
    cases m with
    | global =>
      -- A global holder is in everybody's way, so there is nobody else.
      cases hs with
      | nil => exact Or.inl ⟨s, rfl⟩
      | cons y hs =>
        have := hx y List.mem_cons_self
        simp [ReservationMode.conflicts] at this
    | contextSwitched c =>
      -- Whoever is at peace with a context-switched holder follows another context.
      have hc : ∀ y ∈ hs, ∃ d, y.mode = .contextSwitched d ∧ c ≠ d := by
        intro y hy
        have hcy := hx y hy
        cases hm : y.mode with
        | global => simp [hm, ReservationMode.conflicts] at hcy
        | contextSwitched d => exact ⟨d, rfl, by simpa [hm, ReservationMode.conflicts] using hcy⟩
      rcases ih hrest with ⟨k, hk⟩ | ⟨hall, hnd⟩
      · obtain ⟨d, hd, -⟩ := hc ⟨k, .global⟩ (by simp [hk])
        cases hd
      · refine Or.inr ⟨?_, ?_⟩
        · intro y hy
          rcases List.mem_cons.mp hy with hy | hy
          · rw [hy]; rfl
          · exact hall y hy
        · rw [List.map_cons, List.nodup_cons]
          refine ⟨?_, hnd⟩
          intro hmem
          obtain ⟨y, hy, hyc⟩ := List.mem_map.mp hmem
          obtain ⟨d, hd, hne⟩ := hc y hy
          rw [hd] at hyc
          exact hne (Option.some.inj hyc).symm

end Perfmon.ReservationTable
