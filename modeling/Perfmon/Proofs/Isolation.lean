import Perfmon.Proofs.Arbitration
import Perfmon.Proofs.Calls
/-!
# Isolation of sessions

A call addressed to one session is nothing to the others, however it comes out: they stay open with
the records that they had, their entries in the reservation table stay in their order, and they have
bound what they had bound. All of them share the table and the bound sets, so this is a matter of
what is done there: the entries of one session leave, or one is put in at the end
(`ReservationTable.Apart`).
-/

namespace Perfmon

namespace ReservationTable

variable {t t' : ReservationTable} {r : Resource} {a : Handle} {m : ReservationMode}

/-- Two states of the table differ in the entries of one session only, and what is in both of them
stands in the same order. -/
structure Apart (a : Handle) (t t' : ReservationTable) : Prop where
  others : ∀ r, (t'.holders r).filter (·.session ≠ a) = (t.holders r).filter (·.session ≠ a)
  order : ∀ r, (t'.holders r).filter (· ∈ t.holders r) = (t.holders r).filter (· ∈ t'.holders r)

theorem Apart.refl (a : Handle) (t : ReservationTable) : Apart a t t :=
  ⟨fun _ => rfl, fun _ => rfl⟩

/-- What a session does to each resource separately: nothing, or its entries leave, or it is put in
at the end. -/
theorem Apart.of_holders
    (h : ∀ r, t'.holders r = t.holders r ∨ t'.holders r = t.without r a ∨
      ∃ m, (∀ x ∈ t.holders r, x.session ≠ a) ∧ t'.holders r = t.holders r ++ [⟨a, m⟩]) :
    Apart a t t' := by
  refine ⟨fun r => ?_, fun r => ?_⟩
  · rcases h r with hr | hr | ⟨m, -, hr⟩
    · rw [hr]
    · rw [hr, without, List.filter_filter]
      refine List.filter_congr fun x _ => ?_
      simp
    · rw [hr, List.filter_append]
      simp
  · rcases h r with hr | hr | ⟨m, hn, hr⟩
    · rw [hr]
    · -- Whoever is left was there before, and nobody else is left.
      rw [hr]
      have hleft : ∀ x ∈ t.without r a, x ∈ t.holders r := fun x hx => (List.mem_filter.mp hx).1
      rw [List.filter_eq_self.mpr (by simpa using hleft)]
      refine List.filter_congr fun x hx => ?_
      simp only [without, List.mem_filter, hx, true_and, Bool.decide_eq_true]
    · -- The one who is new was not there before.
      have hnew : (⟨a, m⟩ : Holder) ∉ t.holders r := fun hx => hn _ hx rfl
      rw [hr, List.filter_append, List.filter_singleton, decide_eq_false hnew, cond_false,
        List.append_nil]
      refine List.filter_congr fun x hx => ?_
      simp [hx]

theorem Apart.enter (hm : t.modeOf? r a = none) : Apart a t (t.enter r a m) := by
  refine .of_holders fun q => ?_
  rw [holders_enter]
  by_cases hq : q = r
  · rw [hq, if_pos rfl]
    exact Or.inr (Or.inr ⟨m, modeOf?_eq_none_iff.mp hm, rfl⟩)
  · rw [if_neg hq]
    exact Or.inl rfl

theorem Apart.release : Apart a t (t.release r a).2 := by
  refine .of_holders fun q => ?_
  rw [holders_release]
  by_cases hq : q = r
  · rw [hq, if_pos rfl]
    exact Or.inr (Or.inl rfl)
  · rw [if_neg hq]
    exact Or.inl rfl

theorem Apart.releaseAll : Apart a t (t.releaseAll a).2 :=
  .of_holders fun _ => Or.inr (Or.inl (holders_releaseAll _ _ _))

end ReservationTable

variable {s s' : SessionRecord} {t t' : Holdings}

theorem Change.apart (h : Change s t s' t') : t.table.Apart s.handle t'.table := by
  cases h with
  | grant r mode hb hp hm hf => exact .enter hm
  | release r hp => exact .release
  | _ => exact .refl _ _

theorem Holdings.leave_apart (unbound released : Bool) :
    t.table.Apart s.handle (t.leave s unbound released).table := by
  unfold leave
  cases released with
  | false => exact .refl _ _
  | true => exact .releaseAll

namespace Engine

/-- Two states of an engine differ in one session and in what is counted, and the device keeps the
same of all other sessions. -/
structure Apart (a : Handle) (e e' : Engine) : Prop where
  sessions : ∀ k ≠ a, e'.sessions.find? k = e.sessions.find? k
  table : e.device.reservations.Apart a e'.device.reservations
  bound : ∀ k ≠ a, ∀ r, k ∈ e'.device.boundTo r ↔ k ∈ e.device.boundTo r

variable {e e' : Engine} {a b : Handle} {c : Call}

theorem Apart.refl (a : Handle) (e : Engine) : Apart a e e :=
  ⟨fun _ _ => rfl, .refl _ _, fun _ _ _ => Iff.rfl⟩

theorem insert_apart (t : Assoc Handle Session) (a : Handle) (s : Session) :
    ∀ k ≠ a, (t.insert a s).find? k = t.find? k := by
  intro k hk
  rw [Assoc.find?_insert, if_neg hk]

section

variable (hkey : ∀ s, e.sessions.find? a = some s → s.handle = a)
include hkey

theorem close_apart : Apart a e (e.close a).2 := by
  cases hs : e.sessions.find? a with
  | none =>
    rw [close, hs]
    exact .refl a e
  | some s =>
    obtain ⟨unbound, released, x', metrics, trail, -, ht, he⟩ := close_leaves hs
    have htable := congrArg Holdings.table ht
    have hbound := congrArg Holdings.bound ht
    obtain rfl := hkey s hs
    rw [he]
    refine ⟨fun k hk => ?_, ?_, fun k hk r => ?_⟩
    · dsimp only
      rw [Assoc.find?_erase, if_neg hk]
    · dsimp only [device, Device.holdings] at htable ⊢
      rw [htable]
      exact Holdings.leave_apart (t := e.device.holdings) (s := s.toSessionRecord) _ _
    · dsimp only [device, Device.holdings, Device.boundTo] at hbound ⊢
      rw [hbound]
      exact (Holdings.leave_sameFor unbound released hk).bound r

/-- A direct call that is addressed to a session leaves the others alone. -/
theorem perform_apart (ht : c.target? = some a) (hd : c.isRequest = false) :
    Apart a e (e.perform c).2 := by
  cases hs : e.sessions.find? a with
  | none =>
    rw [perform_of_not_open hs ht hd]
    exact .refl a e
  | some s =>
    cases ho : c.operates with
    | true =>
      obtain ⟨s', x', metrics, trail, hc, he⟩ := perform_operation ho ht hs
      obtain rfl := hkey s hs
      rw [he]
      exact ⟨insert_apart _ _ s', hc.change.apart, fun k hk => (hc.change.sameFor hk).bound⟩
    | false =>
      cases c with
      | control => cases hd
      | close k =>
        cases ht
        exact close_apart hkey
      | execute k buffer count mode =>
        cases ht
        obtain ⟨staging, x', metrics, power, hx, he⟩ := execute_touched hs buffer count mode
        rw [perform, he]
        refine ⟨insert_apart _ _ _, ?_, fun k _ r => ?_⟩
        · dsimp only [device]
          rw [hx.device.reservations]
          exact .refl _ _
        · dsimp only [device, Device.boundTo]
          rw [hx.device.bound]
      | openSession | createContext | destroyContext | poke | injectFault | clearFaults
        | armPowerFailure | armFailure => cases ht
      | bindContext | unbindContext | reserve | release | bindPm | unbindPm | info => cases ho

end

/-- **Sessions are isolated from each other.** Whatever is asked of a session, and however it comes
out, any other session is open behind it if it was open before, with the same record; in the
reservation table the entries of all other sessions are the same and stand in the same order, also
towards what is left of those of the session itself; and the other sessions have bound what they had
bound. -/
theorem sessions_are_isolated {config : Config} (he : e.Reached config) (ht : c.target? = some a)
    (hb : b ≠ a) (r : Resource) :
    (e.perform c).2.sessions.find? b = e.sessions.find? b ∧
    ((e.perform c).2.device.reservations.holders r).filter (·.session ≠ a)
      = (e.device.reservations.holders r).filter (·.session ≠ a) ∧
    ((e.perform c).2.device.reservations.holders r).filter
        (· ∈ e.device.reservations.holders r)
      = (e.device.reservations.holders r).filter
        (· ∈ (e.perform c).2.device.reservations.holders r) ∧
    (b ∈ (e.perform c).2.device.boundTo r ↔ b ∈ e.device.boundTo r) := by
  have hkey : ∀ s, e.sessions.find? a = some s → s.handle = a := fun s hs =>
    (ReachedBy.settled he hs).1
  suffices h : Apart a e (e.perform c).2 from
    ⟨h.sessions b hb, h.table.others r, h.table.order r, h.bound b hb r⟩
  cases hd : c.isRequest with
  | false => exact perform_apart hkey ht hd
  | true =>
    cases c with
    | control k word arg buffer =>
      cases ht
      obtain ⟨metrics, hc⟩ := e.control_eq a word arg buffer
      rw [perform, hc]
      suffices h : Apart a e (e.serve a word arg buffer).2 from ⟨h.sessions, h.table, h.bound⟩
      rcases e.serve_cases word arg buffer with ⟨err, hs⟩ | ⟨f, hf, -⟩
      · rw [hs e rfl a]
        exact .refl a e
      · rw [hf.engine a]
        exact perform_apart hkey (hf.target a) (hf.direct a)
    | _ => cases hd

/-- One of two sessions that share a resource is closed. -/
theorem sessions_are_isolated_while_shared :
    (small sharedRun).Reached .small ∧
      ((small sharedRun).device.reservations.holders .smpc).length = 2 ∧
      ((small sharedRun).perform (.close ⟨1⟩)).2.sessions.contains ⟨1⟩ = false ∧
      ((small sharedRun).perform (.close ⟨1⟩)).2.sessions.find? ⟨2⟩
        = (small sharedRun).sessions.find? ⟨2⟩ ∧
      (⟨2⟩ ∈ ((small sharedRun).perform (.close ⟨1⟩)).2.device.boundTo .smpc ↔
        ⟨2⟩ ∈ (small sharedRun).device.boundTo .smpc) := by
  have he : (small sharedRun).Reached .small := reachedBy_small (fun _ _ => trivial) (by decide)
  obtain ⟨hopen, -, -, hbound⟩ := sessions_are_isolated (c := .close ⟨1⟩) (b := ⟨2⟩) he rfl
    (by decide) .smpc
  exact ⟨he, rfl, rfl, hopen, hbound⟩

end Engine

end Perfmon
