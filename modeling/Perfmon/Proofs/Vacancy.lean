import Perfmon.Proofs.Attendance
import Perfmon.Proofs.PowerBalance
/-!
# When everybody has gone

An undisturbed engine in which no session is open is as good as new: nobody holds anything or has
anything bound, no reference on the power is held, and no session is counted
(`ReachedUndisturbed.vacant`). All sessions that are open can be closed in any order, because the
end of one does not keep another from going (`closeAll_in_turn`).
-/

namespace Perfmon

namespace Engine

variable {allowed : Call → Prop} {config : Config} {e : Engine} {h k : Handle}
  {before after order : List Handle}

/-- Nobody is there and nothing is left behind. -/
structure Vacant (e : Engine) : Prop where
  sessions : e.sessionCount = 0
  holders : ∀ r, e.device.reservations.holders r = []
  bound : ∀ r, e.device.boundTo r = []
  power : e.power.refs = 0
  gauge : e.metrics.sessionsOpen = 0

/-! ## Counting -/

/-- The session that is opened next is not open. -/
theorem not_open_next {n : Nat} (hc : e.ledger.Consistent n) (hn : n + 1 < UInt32.size) :
    e.sessions.contains ⟨e.nextHandle⟩ = false := by
  have hnext : e.nextHandle.toNat = n + 1 := hc.next.trans (Nat.mod_eq_of_lt hn)
  have hlt : n < e.nextHandle.toNat := by omega
  have hunused := (hc.unused ⟨e.nextHandle⟩ hlt).1
  simp only [ledger, Option.map_eq_none_iff] at hunused
  simp [Assoc.contains, hunused]

/-- The metrics count the sessions that are open. -/
theorem ReachedBy.sessionsOpen (he : ReachedBy allowed config e) :
    e.metrics.sessionsOpen = e.sessionCount := by
  obtain ⟨-, -, -, hcount⟩ := he.induction
    (motive := fun n e => e.ledger.Consistent n ∧ e.metrics.sessionsOpen = e.sessionCount)
    (fun memory e hs => by
      obtain ⟨-, rfl⟩ := eq_fresh_of_start hs
      exact ⟨consistent_fresh config memory, rfl⟩)
    (by
      intro n e c _ hn hi
      obtain ⟨hc, hcount⟩ := hi
      refine ⟨hc.step (perform_step e c) hn, ?_⟩
      unfold sessionCount at hcount ⊢
      cases e.perform_attended c with
      | comes scope staging call reply sessions next gauge =>
        rw [reply] at hn
        rw [gauge, sessions, Assoc.size_insert (not_open_next hc hn), hcount]
      | goes k call opened reply sessions next gauge =>
        have hsize := Assoc.size_erase opened
        rw [gauge, sessions]
        omega
      | stays openings closings sessions next gauge =>
        rw [gauge, Assoc.size_congr sessions, hcount])
  exact hcount

theorem ReachedUndisturbed.vacant (he : e.ReachedUndisturbed config)
    (hn : ∀ h, e.sessions.contains h = false) : e.Vacant := by
  have hnone : e.sessions.contains = (Assoc.empty : Assoc Handle Session).contains := by
    funext k
    rw [hn k]
    rfl
  have hcount : e.sessionCount = 0 := Assoc.size_congr hnone
  -- Whoever the device knows of would be open.
  have habsent : ∀ h, e.device.holdings.Absent h := by
    intro h
    have hh := hn h
    simp only [Assoc.contains, Option.isSome_eq_false_iff, Option.isNone_iff_eq_none] at hh
    exact he.orderly h (by simp [ledger, hh])
  refine ⟨hcount, ?_, ?_, (ReachedBy.freely he).power_refs, (ReachedBy.sessionsOpen he).trans hcount⟩
  · intro r
    rw [List.eq_nil_iff_forall_not_mem]
    intro x hx
    exact ReservationTable.modeOf?_eq_none_iff.mp (habsent x.session r).1 x hx rfl
  · intro r
    rw [List.eq_nil_iff_forall_not_mem]
    intro x hx
    exact (habsent x r).2 hx

/-! ## Closing in turn -/

theorem contains_close (e : Engine) (h k : Handle) :
    (e.close h).2.sessions.contains k = (k != h && e.sessions.contains k) := by
  cases hs : e.sessions.find? h with
  | some s =>
    obtain ⟨executor, trail, hc⟩ := close_of_open hs
    rw [hc]
    exact Assoc.contains_erase k
  | none =>
    rw [close, hs]
    by_cases hk : k = h
    · simp [hk, Assoc.contains, hs]
    · simp [hk]

/-- Who is still there when some have been closed. -/
theorem contains_closeAll (e : Engine) (hs : List Handle) (k : Handle) :
    (e.closeAll hs).sessions.contains k = (!hs.contains k && e.sessions.contains k) := by
  induction hs generalizing e with
  | nil => rfl
  | cons h hs ih =>
    show ((e.close h).2.closeAll hs).sessions.contains k = _
    rw [ih, contains_close]
    by_cases hk : k = h
    · simp [hk]
    · have hne : (k != h) = true := bne_iff_ne.mpr hk
      simp [hk, hne]

theorem closeAll_eq_performAll (e : Engine) (hs : List Handle) :
    e.closeAll hs = e.performAll (hs.map .close) := by
  unfold closeAll performAll
  rw [List.foldl_map]
  rfl

theorem openings_map_close (e : Engine) (hs : List Handle) : e.openings (hs.map .close) = 0 :=
  openings_map_eq_zero (fun _ _ => rfl) e hs

/-- Whoever is open when a row of closings begins can still be closed when its turn comes. -/
theorem closeAll_in_turn (hn : (before ++ h :: after).Nodup) (ho : e.sessions.contains h = true) :
    ((e.closeAll before).close h).1 = .ok () := by
  have hnot : h ∉ before := by
    intro hb
    exact List.disjoint_of_nodup_append hn hb List.mem_cons_self
  have hstill : (e.closeAll before).sessions.contains h = true := by
    rw [contains_closeAll, ho]
    simp [hnot]
  obtain ⟨s, hs⟩ := Option.isSome_iff_exists.mp hstill
  obtain ⟨executor, trail, hc⟩ := close_of_open hs
  rw [hc]

theorem ReachedUndisturbed.closeAll (he : e.ReachedUndisturbed config) (hs : List Handle) :
    (e.closeAll hs).ReachedUndisturbed config := by
  obtain ⟨memory, start, calls, hstart, hc, hn, rfl⟩ := he
  refine ⟨memory, start, calls ++ hs.map .close, hstart, ?_, ?_, ?_⟩
  · intro c hmem
    rcases List.mem_append.mp hmem with hmem | hmem
    · exact hc c hmem
    · obtain ⟨h, -, rfl⟩ := List.mem_map.mp hmem
      rfl
  · rw [openings_append, openings_map_close]
    exact hn
  · rw [closeAll_eq_performAll, performAll_append]

/-- **When all sessions are closed, in any order, nothing is left behind.** -/
theorem ReachedUndisturbed.closeAll_vacant (he : e.ReachedUndisturbed config)
    (ho : ∀ h, e.sessions.contains h = true → h ∈ order) : (e.closeAll order).Vacant := by
  refine (he.closeAll order).vacant ?_
  intro h
  rw [contains_closeAll]
  by_cases hh : e.sessions.contains h = true
  · simp [ho h hh]
  · simp [hh]

end Engine

end Perfmon
