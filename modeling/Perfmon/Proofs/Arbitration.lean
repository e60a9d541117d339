import Perfmon.Proofs.Bookkeeping
/-!
# Arbitration

In every state that an undisturbed run leads to, each resource is either held globally by one open
session or context-switched by open sessions for different contexts, and only holders have it bound.
The rules among the holders are kept by the table alone. That the holders are open, and the bound
sessions holders, needs the records: a session that is closed gives up what its record names, and
this is all that it had (`Consistent.absent_leave`).
-/

namespace Perfmon

namespace Ledger

variable {l l' : Ledger} {n k : Nat} {h : Handle}

/-- Whoever is not open is not known to the device either. -/
def Orderly (l : Ledger) : Prop :=
  ∀ h, l.record? h = none → l.holdings.Absent h

/-- A session whose end is not disturbed leaves nothing behind. -/
theorem Consistent.absent_leave {s : SessionRecord} (hc : Consistent n l)
    (hs : l.record? h = some s) : (l.holdings.leave s true true).Absent h := by
  have hk : s.handle = h := hc.keyed h s hs
  have hset := hc.settled h s hs
  intro r
  have hb := hset.bound r
  rw [hk] at hb
  simp only [Holdings.leave, if_true, Bool.true_and, hk]
  refine ⟨?_, ?_⟩
  · rw [ReservationTable.modeOf?_releaseAll, if_pos rfl]
  · cases hp : s.pmBound with
    | false =>
      rw [if_neg Bool.false_ne_true, hb, hp]
      simp
    | true =>
      -- Everything that is bound is in the record, so closing the windows misses nothing.
      rw [if_pos rfl, Device.mem_leaveBound, SessionRecord.mem_reserved, hb]
      rintro ⟨⟨-, hr⟩, hn⟩
      exact hn ⟨rfl, hr⟩

/-- **An undisturbed step keeps the ledger orderly.** -/
theorem Orderly.step {quiet : Prop} (ho : Orderly l) (hc : Consistent n l) (hq : quiet)
    (hs : Step quiet l k l') : Orderly l' := by
  cases hs with
  | stay => exact ho
  | openSession scope =>
    intro k hk
    have hn : l.record? k = none := by
      dsimp only at hk
      rw [record?_put] at hk
      split at hk
      · cases hk
      · exact hk
    exact ho k hn
  | change hs hch =>
    rename_i h s s' t'
    have hkey := hc.keyed h s hs
    intro k hk
    dsimp only at hk
    rw [record?_put] at hk
    split at hk
    · cases hk
    · rename_i hne
      exact (ho k hk).congr (hch.sameFor (by rw [hkey]; exact hne))
  | close unbound released hs hcl =>
    rename_i h s
    have hkey := hc.keyed h s hs
    obtain ⟨rfl, rfl⟩ := hcl hq
    intro k hk
    by_cases hne : k = h
    · rw [hne]
      exact hc.absent_leave hs
    · dsimp only at hk
      rw [record?_drop, if_neg hne] at hk
      exact (ho k hk).congr (Holdings.leave_sameFor true true (by rw [hkey]; exact hne))

end Ledger

namespace Engine

theorem ReachedUndisturbed.orderly {config : Config} {e : Engine}
    (h : e.ReachedUndisturbed config) : e.ledger.Orderly := by
  refine (h.induction (motive := fun e => e.ledger.Orderly) ?_ ?_).2
  · intro memory k _
    exact absent_fresh config memory k
  · intro n k e e' hc ha hm ho
    exact ho.step hc ha hm.step

/-- **Arbitration holds in every state that an undisturbed run leads to.** The holders of a resource
are different open sessions; there is one that holds it globally, or all of them hold it for
different contexts; and only they have it bound. -/
theorem arbitration_holds {config : Config} {e : Engine} (he : e.ReachedUndisturbed config)
    (r : Resource) :
    (∀ x ∈ e.device.reservations.holders r, e.sessions.contains x.session = true) ∧
    ((e.device.reservations.holders r).map (·.session)).Nodup ∧
    ((∃ h, e.device.reservations.holders r = [⟨h, .global⟩]) ∨
      (∀ x ∈ e.device.reservations.holders r, x.mode.isContextSwitched = true) ∧
        ((e.device.reservations.holders r).map (·.mode.context?)).Nodup) ∧
    ∀ h ∈ e.device.boundTo r, ∃ x ∈ e.device.reservations.holders r, x.session = h := by
  have ho := he.orderly
  have hw := ReachedBy.wellFormed he
  -- Whoever the device knows of is open.
  have hopen : ∀ h, ¬e.device.holdings.Absent h → ∃ s, e.sessions.find? h = some s := by
    intro h hu
    cases hs : e.sessions.find? h with
    | some s => exact ⟨s, rfl⟩
    | none => exact absurd (ho h (by simp [ledger, hs])) hu
  refine ⟨?_, (hw r).distinct, (hw r).global_or_contextSwitched, ?_⟩
  · intro x hx
    obtain ⟨s, hs⟩ := hopen x.session (by
      intro hu
      exact ReservationTable.modeOf?_eq_none_iff.mp (hu r).1 x hx rfl)
    simp [Assoc.contains, hs]
  · intro h hb
    obtain ⟨s, hs⟩ := hopen h fun hu => (hu r).2 hb
    obtain ⟨hk, hset⟩ := ReachedBy.settled he hs
    rw [← hk] at hb ⊢
    have hr := (hset.bound r).mp hb
    rw [hset.reservations r, Option.isSome_map] at hr
    obtain ⟨m, hm⟩ := Option.isSome_iff_exists.mp hr.2
    exact ⟨⟨s.handle, m⟩, (ReservationTable.modeOf?_eq_some_iff hw).mp hm, rfl⟩

/-- A run with two sessions that follow different contexts, one of which binds another context
while its windows are open, and a third one that comes in vain and goes. -/
def sharedRun : List Call :=
  [.createContext 3, .createContext 5, .openSession .device, .openSession .context,
    .openSession .device, .bindContext ⟨1⟩ (some 3), .reserve ⟨1⟩ .smpc true, .bindPm ⟨1⟩,
    .unbindContext ⟨1⟩, .bindContext ⟨1⟩ (some 5), .bindContext ⟨2⟩ (some 5),
    .reserve ⟨2⟩ .smpc true, .bindPm ⟨2⟩, .reserve ⟨3⟩ .smpc true, .close ⟨3⟩]

theorem arbitration_holds_while_shared :
    (small sharedRun).ReachedUndisturbed .small ∧
      (small sharedRun).device.reservations.holders .smpc
        = [⟨⟨1⟩, .contextSwitched ⟨1⟩⟩, ⟨⟨2⟩, .contextSwitched ⟨2⟩⟩] ∧
      (small sharedRun).device.boundTo .smpc = [⟨1⟩, ⟨2⟩] ∧
      (((small sharedRun).device.reservations.holders .smpc).map (·.session)).Nodup := by
  have he : (small sharedRun).ReachedUndisturbed .small :=
    reachedBy_small (by decide) (by decide)
  exact ⟨he, rfl, rfl, (arbitration_holds he .smpc).2.1⟩

end Engine

end Perfmon
