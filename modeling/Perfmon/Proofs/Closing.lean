import Perfmon.Proofs.Arbitration
import Perfmon.Proofs.Calls
/-!
# Closing

A session can be closed whatever it has been through. Taking it down works from its own record, in
which everything stands that it has bound (`Consistent.absent_leave`), and from the table, in which
everything stands that it holds; a failure to close the windows does not keep it from going
(`Session.teardown_released`).

What was closed stays closed, because handles are not given out twice as long as they do not wrap
(`Consistent.stays_closed`). So every later call to the session is turned away (`TurnsAway`).
-/

namespace Perfmon

/-! ## Taking a session down -/

namespace Executor

variable {x : Executor} {c k : ExecutorCall}

/-- A call does not bring the failures of other kinds of call closer. -/
theorem strikes_pass_of_ne (h : k ≠ c) : (x.pass c).strikes k = x.strikes k := by
  rw [Bool.eq_iff_iff]
  simp only [strikes, pass, List.contains_iff_mem, List.mem_filterMap]
  constructor
  · rintro ⟨⟨q, n⟩, hm, hq⟩
    by_cases hqc : q = c
    · -- What is left of a failure is of the kind that it was.
      have hkc : k = c := by
        cases n with
        | zero => simp [countDown, hqc] at hq
        | succ n =>
          simp only [countDown, hqc, ne_eq, not_true, if_false, Nat.add_one_ne_zero] at hq
          cases hq
          rfl
      exact absurd hkc h
    · rw [countDown, if_pos hqc] at hq
      cases hq
      exact hm
  · intro hm
    exact ⟨(k, 0), hm, if_pos h⟩

end Executor

namespace Session

variable {s : Session} {x : Executor}

theorem strikes_closeWindows {k : ExecutorCall} (hk : k ≠ .unbind) :
    (s.closeWindows x).strikes k = x.strikes k := by
  unfold closeWindows
  split
  · rcases x.unbind_cases s.handle s.reserved with ⟨-, err, hx⟩ | hx
    · rw [hx]
      exact Executor.strikes_pass_of_ne hk
    · rw [hx]
      exact Executor.strikes_pass_of_ne (x := x) hk
  · rfl

theorem giveUpAll_eq (hr : x.strikes .releaseAll = false) :
    s.giveUpAll x = (x.device.reservations.heldBy s.handle, { x.pass .releaseAll with
      device := { x.device with
        reservations := (x.device.reservations.releaseAll s.handle).2 } }) := by
  unfold giveUpAll Executor.releaseAll
  rw [Executor.call_of_not_strikes hr, ← ReservationTable.releaseAll_fst]
  rfl

/-- A session that is taken down gives up what it holds, also if its windows could not be closed. -/
theorem teardown_released (hr : x.strikes .releaseAll = false) :
    (s.teardown x).1 = x.device.reservations.heldBy s.handle ∧
      (s.teardown x).2.device.reservations
        = (x.device.reservations.releaseAll s.handle).2 := by
  obtain ⟨unbound, -, hd⟩ := s.closeWindows_cases x
  have hw : (s.closeWindows x).strikes .releaseAll = false := by
    rw [strikes_closeWindows (by decide), hr]
  rw [teardown, giveUpAll_eq hw, hd]
  exact ⟨rfl, rfl⟩

/-- Its windows are closed if they are open and the call to do so is not made to fail. -/
theorem teardown_unbound (hu : s.pmBound = true → x.strikes .unbind = false) :
    (s.teardown x).2.device.bound = (x.device.holdings.leave s.toSessionRecord true true).bound := by
  obtain ⟨released, -, hd⟩ := s.giveUpAll_cases (s.closeWindows x)
  rw [teardown, hd]
  dsimp only [Holdings.leave, Device.holdings, closeWindows]
  cases hp : s.pmBound with
  | false => rfl
  | true =>
    simp only [if_true, Bool.and_self, Executor.unbind]
    rw [Executor.call_of_not_strikes (hu hp)]
    rfl

end Session

/-! ## What was closed stays closed -/

namespace Ledger

variable {l l' : Ledger} {n k : Nat} {h : Handle}

/-- An open session has one of the numbers that have been given out. -/
theorem Consistent.number_le {s : SessionRecord} (hc : Consistent n l) (hs : l.record? h = some s) :
    h.number.toNat ≤ n := by
  by_contra hn
  rw [(hc.unused h (Nat.lt_of_not_le hn)).1] at hs
  cases hs

/-- No step opens a session under a number that has been given out before. -/
theorem Consistent.stays_closed {quiet : Prop} (hc : Consistent n l) (hs : Step quiet l k l')
    (hn : n + k < UInt32.size) (hh : h.number.toNat ≤ n) (hr : l.record? h = none) :
    l'.record? h = none := by
  cases hs with
  | stay => exact hr
  | openSession scope =>
    have hne : h ≠ ⟨l.next⟩ := by
      rintro rfl
      rw [hc.next, Nat.mod_eq_of_lt hn] at hh
      omega
    exact (if_neg hne).trans hr
  | change hs hch =>
    rename_i q s s' t'
    have hne : h ≠ q := by
      rintro rfl
      rw [hr] at hs
      cases hs
    exact (if_neg hne).trans hr
  | close unbound released hs hq =>
    rename_i q s
    dsimp only
    rw [record?_drop, hr, ite_self]

end Ledger

namespace Engine

variable {e : Engine} {h : Handle} {s : Session}

theorem record?_eq_none_iff : e.ledger.record? h = none ↔ e.sessions.find? h = none :=
  Option.map_eq_none_iff

theorem consistent_performAll {config : Config} {memory : Memory} {calls : List Call}
    (hn : (fresh config memory).openings calls < UInt32.size) :
    ((fresh config memory).performAll calls).ledger.Consistent
      ((fresh config memory).openings calls) := by
  have h := performAll_induction (motive := fun n e => e.ledger.Consistent n)
    (fun _ e c _ hn hc => hc.step (perform_step e c) hn) calls 0 (fresh config memory)
    (fun _ _ => trivial) (by omega) (consistent_fresh config memory)
  rwa [Nat.zero_add] at h

/-- A run does not open a session again under a number that has been given out before it. -/
theorem stays_closed {n : Nat} (hc : e.ledger.Consistent n) (hh : h.number.toNat ≤ n)
    (hclosed : e.sessions.find? h = none) {calls : List Call}
    (hn : n + e.openings calls < UInt32.size) : (e.performAll calls).sessions.find? h = none := by
  obtain ⟨-, -, hr⟩ := performAll_induction
    (motive := fun n e => e.ledger.Consistent n ∧ h.number.toNat ≤ n ∧ e.ledger.record? h = none)
    (fun n e c _ hn hi => by
      obtain ⟨hc, hh, hr⟩ := hi
      have hs := perform_step e c
      exact ⟨hc.step hs hn, Nat.le_add_right_of_le hh, hc.stays_closed hs hn hh hr⟩)
    calls n e (fun _ _ => trivial) hn ⟨hc, hh, record?_eq_none_iff.mpr hclosed⟩
  exact record?_eq_none_iff.mp hr

/-! ## Calls to a session that is not open -/

/-- No call gets through to a session. A direct call changes nothing at all. A request is counted;
if it is not refused for the session, then for what it says, as in any state and by any session. -/
structure TurnsAway (e : Engine) (h : Handle) : Prop where
  direct : ∀ c : Call, c.target? = some h → c.isRequest = false →
    e.perform c = (c.refusal (.unknownSession h), e)
  request : ∀ word arg buffer, ∃ err,
    e.control h word arg buffer = (⟨.error err, arg, buffer⟩,
      { e with metrics := e.metrics.countRequest (Request.nameOfWord word) err.kind }) ∧
    (err = .unknownSession h ∨ ∀ e' : Engine, e'.config = e.config → ∀ k,
      (e'.control k word arg buffer).1 = ⟨.error err, arg, buffer⟩)

theorem turnsAway_of_not_open (hs : e.sessions.find? h = none) : e.TurnsAway h where
  direct _ ht hd := perform_of_not_open hs ht hd
  request word arg buffer := by
    rcases e.serve_cases word arg buffer with ⟨err, hr⟩ | ⟨f, hf, -⟩
    · refine ⟨err, control_of_serve_error (hr e rfl h), Or.inr fun e' hcfg k => ?_⟩
      rw [control_of_serve_error (hr e' hcfg k)]
    · have hp := perform_of_not_open hs (hf.target h) (hf.direct h)
      have hserve : e.serve h word arg buffer = (⟨.error (.unknownSession h), arg, buffer⟩, e) :=
        Prod.ext (hf.refused h _ (congrArg Prod.fst hp))
          ((hf.engine h).trans (congrArg Prod.snd hp))
      exact ⟨_, control_of_serve_error hserve, Or.inl rfl⟩

/-! ## Closing -/

/-- What is left in the device and in the trail when a session has been closed: the other holders of
every resource in their order, and one entry for each resource that the session held. -/
structure CleanedUp (h : Handle) (e e' : Engine) : Prop where
  holders : ∀ r, e'.device.reservations.holders r
    = (e.device.reservations.holders r).filter (·.session ≠ h)
  released : ∃ freed : List Resource, freed.Sublist Resource.all ∧
    (∀ r, r ∈ freed ↔ ∃ m, ⟨h, m⟩ ∈ e.device.reservations.holders r) ∧
    e'.trail.events
      = e.trail.events ++ (freed.map (.released h) ++ [.sessionClosed h freed.length])

theorem mem_heldBy {t : ReservationTable} {r : Resource} :
    r ∈ t.heldBy h ↔ ∃ m, ⟨h, m⟩ ∈ t.holders r := by
  simp only [ReservationTable.heldBy, ReservationTable.holds, List.mem_filter, Resource.mem_all,
    true_and, List.any_eq_true, beq_iff_eq]
  constructor
  · rintro ⟨⟨k, m⟩, hm, rfl⟩
    exact ⟨m, hm⟩
  · rintro ⟨m, hm⟩
    exact ⟨⟨h, m⟩, hm, rfl⟩

theorem close_cleanedUp (hs : e.sessions.find? h = some s) (hk : s.handle = h)
    (hr : e.executor.strikes .releaseAll = false) : CleanedUp h e (e.close h).2 := by
  obtain ⟨hfreed, htable⟩ := s.teardown_released hr
  rw [hk] at hfreed htable
  unfold close
  rw [hs]
  dsimp only
  refine ⟨fun r => ?_, e.device.reservations.heldBy h, List.filter_sublist,
    fun _ => mem_heldBy, ?_⟩
  · dsimp only [device]
    rw [htable, ReservationTable.holders_releaseAll, ReservationTable.without]
    exact List.filter_congr fun x _ => Bool.eq_iff_iff.mpr (by simp)
  · rw [hfreed, AuditTrail.events_recordAll]
    rfl

theorem close_not_bound {n : Nat} (hc : e.ledger.Consistent n)
    (hs : e.sessions.find? h = some s) (hu : s.pmBound = true → e.executor.strikes .unbind = false)
    (r : Resource) : h ∉ (e.close h).2.device.boundTo r := by
  have hgone := (hc.absent_leave (record?_of_find? hs) r).2
  unfold close
  rw [hs]
  dsimp only [device, Device.boundTo]
  rw [s.teardown_unbound hu]
  exact hgone

/-- **Closing a session cleans up behind it.** Any open session can be closed, and from then on no
call gets through to it, whatever happens meanwhile. Unless the very call to give up everything is
made to fail, the session is taken out of the reservation table and nobody else is, and the trail
names what it held; and unless the call to close its windows is, it has nothing bound any more. -/
theorem close_cleans_up {config : Config} {memory : Memory} {start : Engine}
    (hstart : Engine.start config memory = .ok start)
    {before after : List Call} (hs : (start.performAll before).sessions.find? h = some s)
    (hn : start.openings (before ++ .close h :: after) < UInt32.size) :
    ((start.performAll before).close h).1 = .ok () ∧
    ((start.performAll before).executor.strikes .releaseAll = false →
      CleanedUp h (start.performAll before) (start.performAll (before ++ [.close h]))) ∧
    ((start.performAll before).executor.strikes .unbind = false ∨ s.pmBound = false →
      ∀ r, h ∉ (start.performAll (before ++ [.close h])).device.boundTo r) ∧
    (start.performAll (before ++ .close h :: after)).TurnsAway h := by
  obtain ⟨-, rfl⟩ := eq_fresh_of_start hstart
  have hclose : (fresh config memory).performAll (before ++ [.close h])
      = (((fresh config memory).performAll before).close h).2 := performAll_append _ _ _
  have hafter : (fresh config memory).performAll (before ++ .close h :: after)
      = ((fresh config memory).performAll (before ++ [.close h])).performAll after := by
    rw [performAll_append, performAll_append]
    rfl
  rw [List.append_cons, openings_append] at hn
  have hn₁ : (fresh config memory).openings (before ++ [.close h]) < UInt32.size := by omega
  have hc₁ := consistent_performAll hn₁
  rw [openings_append] at hn₁
  have hc₀ := consistent_performAll (Nat.lt_of_le_of_lt (Nat.le_add_right _ _) hn₁)
  have hrec := record?_of_find? hs
  have hk := hc₀.keyed h _ hrec
  refine ⟨?_, fun hr => ?_, fun hu r => ?_, ?_⟩
  · rw [close, hs]
  · rw [hclose]
    exact close_cleanedUp hs hk hr
  · rw [hclose]
    refine close_not_bound hc₀ hs (fun hp => ?_) r
    rcases hu with hu | hu
    · exact hu
    · rw [hp] at hu
      cases hu
  · rw [hafter]
    refine turnsAway_of_not_open (stays_closed hc₁ ?_ ?_ hn)
    · rw [openings_append]
      exact Nat.le_add_right_of_le (hc₀.number_le hrec)
    · rw [hclose, close, hs]
      exact Assoc.find?_erase_self _ _

/-- A run that leaves a session with its windows open, whose context it has forgotten and which is
gone; and closing its windows is going to fail. -/
def strandedRun : List Call :=
  [.createContext 3, .createContext 5, .openSession .device, .openSession .context,
    .bindContext ⟨1⟩ (some 3), .bindContext ⟨2⟩ (some 5), .reserve ⟨1⟩ .smpc true,
    .reserve ⟨2⟩ .smpc true, .reserve ⟨1⟩ .hwpmLegacy false, .bindPm ⟨1⟩, .unbindContext ⟨1⟩,
    .destroyContext 3, .armFailure .unbind]

theorem close_cleans_up_when_stranded :
    (small strandedRun).device.boundTo .smpc = [⟨1⟩] ∧
      (small strandedRun).executor.strikes .unbind = true ∧
      ((small strandedRun).close ⟨1⟩).1 = .ok () ∧
      CleanedUp ⟨1⟩ (small strandedRun) (small (strandedRun ++ [.close ⟨1⟩])) ∧
      (small (strandedRun ++ .close ⟨1⟩ :: [.openSession .device, .bindPm ⟨1⟩])).TurnsAway ⟨1⟩ := by
  have hstart : Engine.start .small = .ok (fresh .small) := rfl
  have hn : (fresh .small).openings
      (strandedRun ++ .close ⟨1⟩ :: [.openSession .device, .bindPm ⟨1⟩]) < UInt32.size := by
    decide
  obtain ⟨s, hs⟩ : ∃ s, (small strandedRun).sessions.find? ⟨1⟩ = some s := ⟨_, rfl⟩
  obtain ⟨hok, hclean, -, haway⟩ := close_cleans_up hstart hs hn
  exact ⟨rfl, rfl, hok, hclean rfl, haway⟩

/-- The reason is not always that the session is not open: a request is read first, here one to
reserve a resource that does not exist. -/
theorem requests_are_read_first :
    ¬∀ (before after : List Call) (h : Handle) (c : Call),
      (small before).sessions.contains h = true →
      (fresh .small).openings (before ++ .close h :: after) < UInt32.size →
      c.target? = some h →
      ((small (before ++ .close h :: after)).perform c).1.error? = some (.unknownSession h) := by
  intro hall
  have h := hall [.openSession .device] [] ⟨1⟩
    (.control ⟨1⟩ Request.reserveResource.word (2 :: List.replicate 15 0) none) rfl (by decide) rfl
  have hread : ((small [.openSession .device, .close ⟨1⟩]).perform
      (.control ⟨1⟩ Request.reserveResource.word (2 :: List.replicate 15 0) none)).1.error?
        = some (.invalidArgument "unknown PM resource 2") := by
    decide
  cases hread.symm.trans h

end Engine

end Perfmon
