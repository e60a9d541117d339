import Perfmon.Proofs.Ledger
/-!
# Bookkeeping

The record of a session and the tables of the device tell the same story, in every state that a run
leads to. Failing executor calls do not matter, because an operation writes its record only when the
device has done its part; and while the windows of a session are open its reservations are frozen,
so that what is bound is what the record names.

The invariant, `Consistent`, has one more part. A session that has gone may stay in the tables when
its end was disturbed, so a new session has to have a number that nobody had before it; this is so
as long as the numbers do not wrap.
-/

namespace Perfmon

/-- The device does not know of a session. -/
def Holdings.Absent (t : Holdings) (h : Handle) : Prop :=
  ∀ r, t.table.modeOf? r h = none ∧ h ∉ t.bound.get r

theorem Holdings.Absent.congr {t t' : Holdings} {h : Handle} (ha : t.Absent h)
    (ht : SameFor h t t') : t'.Absent h := by
  intro r
  rw [ht.mode, ht.bound]
  exact ha r

namespace Ledger

/-- The records of the open sessions agree with the holdings, the table keeps to its rules, and the
numbers above the count of openings are unused. -/
structure Consistent (n : Nat) (l : Ledger) : Prop where
  table : l.holdings.table.WellFormed
  keyed : ∀ h s, l.record? h = some s → s.handle = h
  settled : ∀ h s, l.record? h = some s → Settled s l.holdings
  next : l.next.toNat = (n + 1) % UInt32.size
  unused : ∀ h : Handle, n < h.number.toNat → l.record? h = none ∧ l.holdings.Absent h

variable {l l' : Ledger} {n k : Nat} {h : Handle}

theorem record?_put (s : SessionRecord) (h k : Handle) :
    (l.put h s).record? k = if k = h then some s else l.record? k := rfl

theorem record?_drop (h k : Handle) :
    (l.drop h).record? k = if k = h then none else l.record? k := rfl

/-- A step that touches one session only, and leaves its record settled or takes it away. -/
theorem Consistent.touch {s : SessionRecord} {t' : Holdings} (hc : Consistent n l)
    (hs : l.record? h = some s) (hw : t'.table.WellFormed)
    (ht : ∀ k ≠ h, SameFor k l.holdings t')
    {new : Option SessionRecord} (hn : ∀ s', new = some s' → s'.handle = h ∧ Settled s' t') :
    Consistent n { l with
      record? := fun k => if k = h then new else l.record? k, holdings := t' } where
  table := hw
  keyed k r hr := by
    dsimp only at hr
    split at hr
    · rename_i hk
      rw [hk]
      exact (hn r hr).1
    · exact hc.keyed k r hr
  settled k r hr := by
    dsimp only at hr ⊢
    split at hr
    · exact (hn r hr).2
    · rename_i hk
      refine (hc.settled k r hr).congr ?_
      rw [hc.keyed k r hr]
      exact ht k hk
  next := hc.next
  unused k hk := by
    have hu := hc.unused k hk
    -- An open session has a number in use.
    have hne : k ≠ h := by
      rintro rfl
      rw [hu.1] at hs
      cases hs
    refine ⟨?_, hu.2.congr (ht k hne)⟩
    dsimp only
    rw [if_neg hne]
    exact hu.1

/-- The device does not know of the session that is opened next. -/
theorem Consistent.absent_next (hc : Consistent n l) (hn : n + 1 < UInt32.size) :
    l.holdings.Absent ⟨l.next⟩ := by
  refine (hc.unused _ ?_).2
  rw [hc.next, Nat.mod_eq_of_lt hn]
  omega

theorem Consistent.openSession (hc : Consistent n l) (hn : n + 1 < UInt32.size) (scope : Scope) :
    Consistent (n + 1)
      { l.put ⟨l.next⟩ (.new ⟨l.next⟩ scope) with next := l.next + 1 } where
  table := hc.table
  keyed k r hr := by
    dsimp only at hr
    rw [record?_put] at hr
    split at hr
    · rename_i hk
      cases hr
      exact hk.symm
    · exact hc.keyed k r hr
  settled k r hr := by
    dsimp only at hr
    rw [record?_put] at hr
    split at hr
    · cases hr
      have hu := hc.absent_next hn
      exact settled_new (fun q => (hu q).1) (fun q => (hu q).2) scope
    · exact hc.settled k r hr
  next := by
    -- The number wraps just when the remainder does, so no bound is needed here.
    dsimp only
    rw [UInt32.toNat_add, hc.next]
    simp
  unused k hk := by
    have hu := hc.unused k (by omega)
    refine ⟨?_, hu.2⟩
    dsimp only
    rw [record?_put, if_neg ?_]
    · exact hu.1
    · rintro rfl
      rw [show (Handle.mk l.next).number = l.next from rfl, hc.next, Nat.mod_eq_of_lt hn] at hk
      omega

/-- **Every step keeps the ledger consistent,** disturbed or not. -/
theorem Consistent.step {quiet : Prop} (hc : Consistent n l) (hs : Step quiet l k l')
    (hn : n + k < UInt32.size) : Consistent (n + k) l' := by
  cases hs with
  | stay => exact hc
  | openSession scope => exact hc.openSession hn scope
  | change hs hch =>
    rename_i h s s' t'
    have hk := hc.keyed h s hs
    refine hc.touch hs (hch.wellFormed hc.table)
      (fun k hne => hch.sameFor (by rw [hk]; exact hne)) ?_
    intro r hr
    cases hr
    exact ⟨hch.handle_eq.trans hk, (hc.settled h s hs).change hch⟩
  | close unbound released hs hq =>
    rename_i h s
    have hk := hc.keyed h s hs
    refine hc.touch hs (Holdings.leave_wellFormed unbound released hc.table)
      (fun k hne => Holdings.leave_sameFor unbound released (by rw [hk]; exact hne)) ?_
    intro r hr
    cases hr

/-- What is true of the records of new sessions, and kept by the changes of settled ones, stays true
of all open sessions. -/
theorem Consistent.records {quiet : Prop} {P : SessionRecord → Prop} (hc : Consistent n l)
    (hs : Step quiet l k l') (new : ∀ h scope, P (.new h scope))
    (change : ∀ {s t s' t'}, Settled s t → Change s t s' t' → P s → P s')
    (hp : ∀ h s, l.record? h = some s → P s) : ∀ h s, l'.record? h = some s → P s := by
  intro k r hk
  cases hs with
  | stay => exact hp k r hk
  | openSession scope =>
    dsimp only at hk
    rw [record?_put] at hk
    split at hk
    · cases hk
      exact new _ scope
    · exact hp k r hk
  | change hs hch =>
    rename_i h s s' t'
    dsimp only at hk
    rw [record?_put] at hk
    split at hk
    · cases hk
      exact change (hc.settled h s hs) hch (hp h s hs)
    · exact hp k r hk
  | close unbound released hs hq =>
    dsimp only at hk
    rw [record?_drop] at hk
    split at hk
    · cases hk
    · exact hp k r hk

end Ledger

namespace Engine

theorem absent_fresh (config : Config) (memory : Memory) (h : Handle) :
    (fresh config memory).ledger.holdings.Absent h := by
  intro r
  refine ⟨ReservationTable.modeOf?_empty, ?_⟩
  rw [show (fresh config memory).ledger.holdings.bound = .const [] from rfl, PerResource.get_const]
  exact List.not_mem_nil

theorem consistent_fresh (config : Config) (memory : Memory) :
    (fresh config memory).ledger.Consistent 0 := by
  refine ⟨ReservationTable.wellFormed_empty, ?_, ?_, rfl,
    fun h _ => ⟨rfl, absent_fresh config memory h⟩⟩
  · intro h s hs
    cases hs
  · intro h s hs
    cases hs

/-- **In every state that a run leads to the ledger is consistent.** -/
theorem ReachedBy.consistent {allowed : Call → Prop} {config : Config} {e : Engine}
    (h : ReachedBy allowed config e) : ∃ n < UInt32.size, e.ledger.Consistent n :=
  h.induction (motive := fun n e => e.ledger.Consistent n)
    (fun memory _ hs => by rw [(eq_fresh_of_start hs).2]; exact consistent_fresh config memory)
    fun _ e c _ hn hc => hc.step (perform_step e c) hn

theorem ReachedBy.wellFormed {allowed : Call → Prop} {config : Config} {e : Engine}
    (h : ReachedBy allowed config e) : e.device.reservations.WellFormed := by
  obtain ⟨n, -, hc⟩ := h.consistent
  exact hc.table

/-- An open session has the handle under which it is open, and its record is settled. -/
theorem ReachedBy.settled {allowed : Call → Prop} {config : Config} {e : Engine}
    (he : ReachedBy allowed config e) {h : Handle} {s : Session}
    (hs : e.sessions.find? h = some s) :
    s.handle = h ∧ Settled s.toSessionRecord e.device.holdings := by
  obtain ⟨n, -, hc⟩ := he.consistent
  exact ⟨hc.keyed h _ (record?_of_find? hs), hc.settled h _ (record?_of_find? hs)⟩

/-- What is true of the records of new sessions, and kept by the changes of settled ones, is true of
all open sessions in every state that a run leads to. -/
theorem ReachedBy.records {allowed : Call → Prop} {config : Config} {e : Engine}
    {P : SessionRecord → Prop} (he : ReachedBy allowed config e) (new : ∀ h scope, P (.new h scope))
    (change : ∀ {s t s' t'}, Settled s t → Change s t s' t' → P s → P s') {h : Handle}
    {s : Session} (hs : e.sessions.find? h = some s) : P s.toSessionRecord := by
  obtain ⟨-, -, -, hp⟩ := he.induction
    (motive := fun n e => e.ledger.Consistent n ∧ ∀ h s, e.ledger.record? h = some s → P s)
    (fun memory e hs => by
      obtain ⟨-, rfl⟩ := eq_fresh_of_start hs
      exact ⟨consistent_fresh config memory, fun _ _ hr => (by cases hr)⟩)
    fun n e c _ hn ⟨hc, hp⟩ =>
      ⟨hc.step (perform_step e c) hn, hc.records (perform_step e c) new change hp⟩
  exact hp h _ (record?_of_find? hs)

/-- Induction along an undisturbed run: no failure is ever armed, and every call moves the engine
from a consistent ledger. -/
theorem ReachedUndisturbed.induction {config : Config} {e : Engine} {motive : Engine → Prop}
    (h : e.ReachedUndisturbed config) (start : ∀ memory, motive (fresh config memory))
    (step : ∀ n k e e', e.ledger.Consistent n → e.executor.armed = [] → Moved e k e' →
      motive e → motive e') :
    e.executor.armed = [] ∧ motive e := by
  have hind : ∃ n < UInt32.size,
      e.ledger.Consistent n ∧ e.executor.armed = [] ∧ motive e := by
    refine ReachedBy.induction
      (motive := fun n e => e.ledger.Consistent n ∧ e.executor.armed = [] ∧ motive e) h ?_ ?_
    · intro memory e hs
      obtain ⟨-, rfl⟩ := eq_fresh_of_start hs
      exact ⟨consistent_fresh config memory, rfl, start memory⟩
    · intro n e c hcd hn hi
      obtain ⟨hc, ha, hmot⟩ := hi
      have hm := perform_moved e hcd
      exact ⟨hc.step hm.step hn, hm.quiet ha, step _ _ _ _ hc ha hm hmot⟩
  obtain ⟨-, -, -, ha, hmot⟩ := hind
  exact ⟨ha, hmot⟩

/-- **The record of an open session agrees with the device,** whichever executor calls were made to
fail on the way: it names the resources that the session holds, with their modes and contexts, and
while the windows are open the session has just these bound. -/
theorem record_agrees {config : Config} {e : Engine} (he : e.Reached config) {h : Handle}
    {s : Session} (hs : e.sessions.find? h = some s) (r : Resource) :
    ((s.reservations.get r).isSome = true ↔ ∃ m, ⟨h, m⟩ ∈ e.device.reservations.holders r) ∧
    (∀ m, ⟨h, m⟩ ∈ e.device.reservations.holders r →
      s.reservations.get r = some ⟨m.isContextSwitched⟩ ∧ s.reservedFor.get r = m.context?) ∧
    (s.reservations.get r = none → s.reservedFor.get r = none) ∧
    (h ∈ e.device.boundTo r ↔ s.pmBound = true ∧ (s.reservations.get r).isSome = true) ∧
    (s.pmBound = true → ∃ q, (s.reservations.get q).isSome = true) := by
  obtain ⟨hk, hset⟩ := ReachedBy.settled he hs
  have hmode : ∀ m, e.device.reservations.modeOf? r s.handle = some m ↔
      ⟨h, m⟩ ∈ e.device.reservations.holders r := by
    intro m
    rw [hk]
    exact ReservationTable.modeOf?_eq_some_iff he.wellFormed
  have hres : s.reservations.get r
      = (e.device.reservations.modeOf? r s.handle).map .ofMode := hset.reservations r
  have hfor : s.reservedFor.get r
      = (e.device.reservations.modeOf? r s.handle).bind (·.context?) := hset.reservedFor r
  refine ⟨?_, ?_, ?_, ?_, ?_⟩
  · rw [hres, Option.isSome_map, Option.isSome_iff_exists]
    exact exists_congr hmode
  · intro m hm
    rw [hres, hfor, (hmode m).mpr hm]
    exact ⟨rfl, rfl⟩
  · intro hn
    rw [hres, Option.map_eq_none_iff] at hn
    rw [hfor, hn]
    rfl
  · rw [← hk]
    exact hset.bound r
  · intro hp
    obtain ⟨q, hq⟩ := List.exists_mem_of_ne_nil _ (hset.reserved hp)
    exact ⟨q, SessionRecord.mem_reserved.mp hq⟩

/-- A run in which the windows cannot be opened at first, and cannot be closed at last. -/
def stuckRun : List Call :=
  [.createContext 3, .openSession .device, .bindContext ⟨1⟩ (some 3), .reserve ⟨1⟩ .smpc true,
    .armFailure .bind, .bindPm ⟨1⟩, .bindPm ⟨1⟩, .armFailure .unbind, .unbindPm ⟨1⟩,
    .release ⟨1⟩ .smpc]

theorem record_agrees_while_stuck :
    (small stuckRun).Reached .small ∧
      ∃ s, (small stuckRun).sessions.find? ⟨1⟩ = some s ∧ s.pmBound = true ∧
        (⟨1⟩ ∈ (small stuckRun).device.boundTo .smpc ↔
          s.pmBound = true ∧ (s.reservations.get .smpc).isSome = true) := by
  have he : (small stuckRun).Reached .small :=
    reachedBy_small (fun _ _ => trivial) (by decide)
  exact ⟨he, _, rfl, rfl, (record_agrees he rfl .smpc).2.2.2.1⟩

end Engine

end Perfmon
