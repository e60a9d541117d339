import Perfmon.Proofs.Closing
import Perfmon.Proofs.Refusals
/-!
# Undoing

What a session acquires it can give up again, and then everything is as it was before: the records of
all sessions, the holders of every resource in their order, and the sets of bound sessions
(`acquiring_is_undone`). A release takes out every entry of its session, and so does closing the
windows with the sets; that this is no more than was put in is because the record of the session
agrees with the device, which therefore knew nothing of it.
-/

namespace Perfmon

/-! ## Holders and bound sessions -/

/-- A session that was entered and gives up again has not been there. -/
theorem ReservationTable.release_enter {t : ReservationTable} {r : Resource} {s : Handle}
    (h : t.modeOf? r s = none) (m : ReservationMode) : ((t.enter r s m).release r s).2 = t := by
  refine ext_holders fun q => ?_
  rw [holders_release]
  split
  · rename_i hq
    have hothers := without_of_modeOf?_none h
    rw [without] at hothers
    rw [without, holders_enter, if_pos rfl, List.filter_append, hothers, hq]
    simp
  · rename_i hq
    rw [holders_enter, if_neg hq]

/-- A session that was entered in the bound sets and leaves again has not been there. -/
theorem Device.leaveBound_enterBound {s : Handle} {b : PerResource (List Handle)}
    (h : ∀ r, s ∉ b.get r) (rs : List Resource) : leaveBound s rs (enterBound s rs b) = b := by
  refine PerResource.ext_get fun q => ?_
  rw [get_leaveBound, get_enterBound]
  by_cases hq : q ∈ rs
  · have hothers : (b.get q).filter (· ≠ s) = b.get q := by
      rw [List.filter_eq_self]
      intro x hx
      rw [decide_eq_true_iff]
      rintro rfl
      exact h q hx
    rw [if_pos hq, if_pos ⟨hq, h q⟩, List.filter_append, hothers]
    simp
  · simp [hq]

/-- What a session does not hold has not been written down of it, so a reservation that is written
down and struck out again has not been there. -/
theorem Settled.strike_record {s : SessionRecord} {t : Holdings} (h : Settled s t) {r : Resource}
    (hm : t.table.modeOf? r s.handle = none) (mode : ReservationMode) :
    (s.record r mode).strike r = s := by
  have hr : s.reservations.get r = none := by
    rw [h.reservations, hm]
    rfl
  have hf : s.reservedFor.get r = none := by
    rw [h.reservedFor, hm]
    rfl
  simp only [SessionRecord.record, SessionRecord.strike, PerResource.set_set_of_get hr,
    PerResource.set_set_of_get hf]

/-! ## Operations of a session -/

namespace Session

/-- An operation has succeeded, and given the session and the device back as they were before. -/
structure GivesBack (s : Session) (x : Executor) (out : Except Error Unit × Session × Executor) :
    Prop where
  ok : out.1 = .ok ()
  session : out.2.1 = s
  device : out.2.2.device = x.device

variable {s : Session} {x : Executor} {contexts : ContextRegistry} {r : Resource}

theorem release_of_not_strikes (hp : s.pmBound = false) (hx : x.strikes .release = false) :
    s.release x r = (.ok (), s.mapRecord (·.strike r), { x.pass .release with
      device := { x.device with
        reservations := (x.device.reservations.release r s.handle).2 } }) := by
  unfold release Executor.release
  rw [hp, Executor.call_of_not_strikes hx]
  rfl

theorem unbindPm_of_not_strikes (hp : s.pmBound = true) (hx : x.strikes .unbind = false) :
    s.unbindPm x = (.ok (), { s with pmBound := false }, { x.pass .unbind with
      device := { x.device with
        bound := Device.leaveBound s.handle s.reserved x.device.bound } }) := by
  unfold unbindPm Executor.unbind
  rw [hp, Executor.call_of_not_strikes hx]
  rfl

/-- Closing windows that are not open is nothing. -/
theorem unbindPm_of_not_pmBound (hp : s.pmBound = false) : s.unbindPm x = (.ok (), s, x) := by
  unfold unbindPm
  rw [hp]
  rfl

/-- Opening windows that are open, or when there are none, is nothing. -/
theorem bindPm_of_nothing_to_do (hb : s.binding.isBound = true)
    (hn : s.pmBound = true ∨ s.reserved = []) : s.bindPm contexts x = (.ok (), s, x) := by
  unfold bindPm
  rw [hb, if_pos hn]
  rfl

/-- What a session has newly reserved it can give up. -/
theorem release_reserve (hset : Settled s.toSessionRecord x.device.holdings)
    (hm : x.device.reservations.modeOf? r s.handle = none) (hx : x.strikes .release = false)
    {contextSwitched : Bool} {held : Reserved}
    (hok : (s.reserve x r contextSwitched).1 = .ok held) :
    GivesBack s x ((s.reserve x r contextSwitched).2.1.release
      (s.reserve x r contextSwitched).2.2 r) := by
  rcases s.reserve_cases x r contextSwitched with
    ⟨err, x', -, hres⟩ | ⟨mode, hc, ⟨held', hheld, -⟩ | ⟨-, -, hres⟩⟩
  · rw [hres] at hok
    cases hok
  · rw [hm] at hheld
    cases hheld
  · obtain ⟨-, hp, -⟩ := checkReserve_ok hc
    have hstrikes : (x.pass .reserve).strikes .release = false := by
      rw [Executor.strikes_pass_of_ne (by decide), hx]
    rw [hres]
    dsimp only
    rw [release_of_not_strikes]
    · refine ⟨rfl, ?_, ?_⟩
      · show { s with toSessionRecord := (s.toSessionRecord.record r mode).strike r } = s
        rw [hset.strike_record hm]
      · show { x.device with
          reservations := ((x.device.reservations.enter r s.handle mode).release r s.handle).2 } = _
        rw [ReservationTable.release_enter hm]
    · exact hp
    · exact hstrikes

/-- Windows that were closed are closed again behind an attempt to open them, which may have failed:
then there is nothing to close. -/
theorem unbindPm_bindPm (hset : Settled s.toSessionRecord x.device.holdings)
    (hp : s.pmBound = false) (hx : x.strikes .unbind = false) :
    GivesBack s x ((s.bindPm contexts x).2.1.unbindPm (s.bindPm contexts x).2.2) := by
  rcases s.bindPm_cases contexts x with ⟨result, x', hidle, hbind⟩ | ⟨-, -, -, -, hbind⟩
  · rw [hbind]
    dsimp only
    rw [unbindPm_of_not_pmBound hp]
    exact ⟨rfl, rfl, hidle.device⟩
  · have hbound : ∀ q, s.handle ∉ x.device.bound.get q := hset.not_mem_bound hp
    have hstrikes : (x.pass .bind).strikes .unbind = false := by
      rw [Executor.strikes_pass_of_ne (by decide), hx]
    rw [hbind]
    dsimp only
    rw [unbindPm_of_not_strikes]
    · refine ⟨rfl, ?_, ?_⟩
      · rw [← hp]
      · show { x.device with
          bound := Device.leaveBound s.handle s.reserved
            (Device.enterBound s.handle s.reserved x.device.bound) } = _
        rw [Device.leaveBound_enterBound hbound]
    · rfl
    · exact hstrikes

/-- A session that was told about its context had not been told before. -/
theorem unbindContext_bindContext {s' : Session} {fd : Option Descriptor}
    (h : s.bindContext contexts fd = .ok s') : s'.unbindContext = s := by
  unfold bindContext at h
  split at h
  · cases h
  · rename_i hb
    have hunbound : s.binding = .unbound := by
      cases hs : s.binding with
      | unbound => rfl
      | noContext | context ctx =>
        rw [hs] at hb
        exact absurd rfl hb
    unfold unbindContext
    split at h
    · cases h
      rw [← hunbound]
    · cases h
    · split at h
      · cases h
        rw [← hunbound]
      · cases h

/-- Behind an attempt to open the windows that has succeeded there is nothing more to open. -/
theorem bindPm_ok (hok : (s.bindPm contexts x).1 = .ok ()) :
    (s.bindPm contexts x).2.1.binding.isBound = true ∧
      ((s.bindPm contexts x).2.1.pmBound = true ∨ (s.bindPm contexts x).2.1.reserved = []) := by
  unfold bindPm at hok ⊢
  split at hok
  · cases hok
  · rename_i hb
    have htold : s.binding.isBound = true := by simpa using hb
    rw [if_neg hb]
    split at hok
    · rename_i hn
      rw [if_pos hn]
      exact ⟨htold, hn⟩
    · rename_i hn
      rw [if_neg hn]
      split at hok
      · cases hok
      · split at hok
        · cases hok
        · exact ⟨htold, Or.inl rfl⟩

/-- Behind an attempt to close the windows that has succeeded they are closed. -/
theorem unbindPm_ok (hok : (s.unbindPm x).1 = .ok ()) : (s.unbindPm x).2.1.pmBound = false := by
  unfold unbindPm at hok ⊢
  split at hok
  · rename_i hp
    rw [if_pos hp]
    simpa using hp
  · rename_i hp
    rw [if_neg hp]
    split at hok
    · cases hok
    · rfl

end Session

/-! ## The engine -/

namespace Engine

variable {config : Config} {e : Engine} {h : Handle} {s : Session} {x : Executor}

/-- When a session has been worked on twice, and it and the device are as they were, everything is. -/
theorem untouched_of_back (hs : e.sessions.find? h = some s) (hx : x.device = e.device)
    (s' : Session) (metrics : Metrics) (trail : AuditTrail) :
    e.Untouched { e with
      sessions := (e.sessions.insert h s').insert h s, executor := x, metrics, trail } where
  config := rfl
  memory := rfl
  sessions := by rw [Assoc.insert_insert, Assoc.insert_of_find? hs]
  nextHandle := rfl
  device := hx
  contexts := rfl
  power := rfl

/-- An operation that leaves its session and the executor alone is nothing at all. -/
theorem withSession_of_nothing {f : Session → Executor → Except Error Unit × Session × Executor}
    (hs : e.sessions.find? h = some s) (hf : f s e.executor = (.ok (), s, e.executor)) :
    e.withSession h f = (.ok (), e) := by
  rw [withSession_of_open hs, hf]
  dsimp only
  rw [Assoc.insert_of_find? hs]

theorem release_reserve (hs : e.sessions.find? h = some s) (hk : s.handle = h)
    (hset : Settled s.toSessionRecord e.device.holdings) {r : Resource} {contextSwitched : Bool}
    {held : Reserved} (hm : e.device.reservations.modeOf? r h = none)
    (hx : e.executor.strikes .release = false)
    (hok : (e.reserve h r contextSwitched).1 = .ok held) :
    ((e.reserve h r contextSwitched).2.release h r).1 = .ok () ∧
      e.Untouched ((e.reserve h r contextSwitched).2.release h r).2 := by
  obtain ⟨metrics, trail, hres⟩ := reserve_of_open hs r contextSwitched
  rw [hres] at hok ⊢
  have hback : s.GivesBack e.executor _ := Session.release_reserve hset (hk ▸ hm) hx hok
  dsimp only
  generalize s.reserve e.executor r contextSwitched = out at hback ⊢
  obtain ⟨trail', hrel⟩ := release_of_open (e := { e with
    sessions := e.sessions.insert h out.2.1, executor := out.2.2, metrics, trail })
    (Assoc.find?_insert_self _ _ _) r
  rw [hrel]
  refine ⟨hback.ok, ?_⟩
  dsimp only
  rw [hback.session]
  exact untouched_of_back hs hback.device out.2.1 metrics trail'

theorem unbindPm_bindPm (hs : e.sessions.find? h = some s)
    (hset : Settled s.toSessionRecord e.device.holdings) (hp : s.pmBound = false)
    (hx : e.executor.strikes .unbind = false) :
    ((e.bindPm h).2.unbindPm h).1 = .ok () ∧ e.Untouched ((e.bindPm h).2.unbindPm h).2 := by
  have hbind : e.bindPm h = _ := withSession_of_open hs _
  rw [hbind]
  have hback : s.GivesBack e.executor ((s.bindPm e.contexts e.executor).2.1.unbindPm
    (s.bindPm e.contexts e.executor).2.2) := Session.unbindPm_bindPm hset hp hx
  dsimp only
  generalize s.bindPm e.contexts e.executor = out at hback ⊢
  unfold unbindPm
  rw [withSession_of_open (Assoc.find?_insert_self _ _ _)]
  refine ⟨hback.ok, ?_⟩
  dsimp only
  rw [hback.session]
  exact untouched_of_back hs hback.device out.2.1 e.metrics e.trail

theorem unbindContext_bindContext (hs : e.sessions.find? h = some s) {fd : Option Descriptor}
    (hok : (e.bindContext h fd).1 = .ok ()) :
    ((e.bindContext h fd).2.unbindContext h).1 = .ok () ∧
      e.Untouched ((e.bindContext h fd).2.unbindContext h).2 := by
  unfold bindContext at hok ⊢
  rw [withSession_of_open hs] at hok ⊢
  cases hb : s.bindContext e.contexts fd with
  | error err =>
    rw [hb] at hok
    cases hok
  | ok s' =>
    dsimp only
    unfold unbindContext
    rw [withSession_of_open (Assoc.find?_insert_self _ _ _)]
    refine ⟨rfl, ?_⟩
    dsimp only
    rw [Session.unbindContext_bindContext hb]
    exact untouched_of_back hs rfl s' e.metrics e.trail

theorem bindPm_bindPm (hs : e.sessions.find? h = some s) (hok : (e.bindPm h).1 = .ok ()) :
    (e.bindPm h).2.bindPm h = (.ok (), (e.bindPm h).2) := by
  have hbind : e.bindPm h = _ := withSession_of_open hs _
  rw [hbind] at hok ⊢
  obtain ⟨htold, hn⟩ := Session.bindPm_ok hok
  exact withSession_of_nothing (Assoc.find?_insert_self _ _ _)
    (Session.bindPm_of_nothing_to_do htold hn)

theorem unbindPm_unbindPm (hs : e.sessions.find? h = some s) (hok : (e.unbindPm h).1 = .ok ()) :
    (e.unbindPm h).2.unbindPm h = (.ok (), (e.unbindPm h).2) := by
  have hunbind : e.unbindPm h = _ := withSession_of_open hs _
  rw [hunbind] at hok ⊢
  exact withSession_of_nothing (Assoc.find?_insert_self _ _ _)
    (Session.unbindPm_of_not_pmBound (Session.unbindPm_ok hok))

/-- **Acquiring is undone by giving up.** In every state, for every open session: a resource that the
session does not hold and newly reserves it can release, windows that are closed and that it opens it
can close, and a context that it is told about it can forget, and everything is then as it was: the
records of all sessions, the device with the holders of every resource in their order and with its
bound sets, the contexts and the power. For the windows this is so even when opening them fails. To
release and to close fails only where a failure of just that call was armed. Opening windows that
were just opened, and closing those that were just closed, succeeds and changes nothing at all. -/
theorem acquiring_is_undone (he : e.Reached config) (hs : e.sessions.find? h = some s) :
    (∀ r contextSwitched held, e.executor.strikes .release = false →
      e.device.reservations.holds r h = false →
      (e.reserve h r contextSwitched).1 = .ok held →
      ((e.reserve h r contextSwitched).2.release h r).1 = .ok () ∧
        e.Untouched ((e.reserve h r contextSwitched).2.release h r).2) ∧
    (e.executor.strikes .unbind = false → s.pmBound = false →
      ((e.bindPm h).2.unbindPm h).1 = .ok () ∧ e.Untouched ((e.bindPm h).2.unbindPm h).2) ∧
    (∀ fd, (e.bindContext h fd).1 = .ok () →
      ((e.bindContext h fd).2.unbindContext h).1 = .ok () ∧
        e.Untouched ((e.bindContext h fd).2.unbindContext h).2) ∧
    ((e.bindPm h).1 = .ok () → (e.bindPm h).2.bindPm h = (.ok (), (e.bindPm h).2)) ∧
    ((e.unbindPm h).1 = .ok () →
      (e.unbindPm h).2.unbindPm h = (.ok (), (e.unbindPm h).2)) := by
  obtain ⟨hk, hset⟩ := he.settled hs
  refine ⟨fun r contextSwitched held hx hh hok => ?_, fun hx hp => unbindPm_bindPm hs hset hp hx,
    fun fd => unbindContext_bindContext hs, bindPm_bindPm hs, unbindPm_unbindPm hs⟩
  have hm : e.device.reservations.modeOf? r h = none := by
    rw [ReservationTable.modeOf?_eq_none_iff]
    simpa [ReservationTable.holds] using hh
  exact release_reserve hs hk hset hm hx hok

/-- A run with a session that holds a resource, another one that can share it, and a third one that
has not been told about its context. -/
def acquiringRun : List Call :=
  [.createContext 3, .createContext 5, .openSession .device, .openSession .device,
    .openSession .context, .bindContext ⟨1⟩ (some 3), .reserve ⟨1⟩ .smpc true,
    .bindContext ⟨2⟩ (some 5)]

theorem acquiring_is_undone_while_shared :
    (small acquiringRun).Reached .small ∧
      (((small acquiringRun).reserve ⟨2⟩ .smpc true).2.device.reservations.holders .smpc
        = [⟨⟨1⟩, .contextSwitched ⟨1⟩⟩, ⟨⟨2⟩, .contextSwitched ⟨2⟩⟩] ∧
        (small acquiringRun).Untouched
          (((small acquiringRun).reserve ⟨2⟩ .smpc true).2.release ⟨2⟩ .smpc).2) ∧
      (((small acquiringRun).bindPm ⟨1⟩).2.device.boundTo .smpc = [⟨1⟩] ∧
        (small acquiringRun).Untouched (((small acquiringRun).bindPm ⟨1⟩).2.unbindPm ⟨1⟩).2 ∧
        ((small acquiringRun).bindPm ⟨1⟩).2.bindPm ⟨1⟩
          = (.ok (), ((small acquiringRun).bindPm ⟨1⟩).2)) ∧
      (small acquiringRun).Untouched
        (((small acquiringRun).bindContext ⟨3⟩ (some 3)).2.unbindContext ⟨3⟩).2 := by
  have he : (small acquiringRun).Reached .small := reachedBy_small (fun _ _ => trivial) (by decide)
  obtain ⟨s₁, hs₁, hp₁⟩ : ∃ s, (small acquiringRun).sessions.find? ⟨1⟩ = some s ∧
    s.pmBound = false := ⟨_, rfl, rfl⟩
  obtain ⟨s₂, hs₂⟩ : ∃ s, (small acquiringRun).sessions.find? ⟨2⟩ = some s := ⟨_, rfl⟩
  obtain ⟨s₃, hs₃⟩ : ∃ s, (small acquiringRun).sessions.find? ⟨3⟩ = some s := ⟨_, rfl⟩
  obtain ⟨-, hwindows, -, hagain, -⟩ := acquiring_is_undone he hs₁
  obtain ⟨hreserved, -⟩ := acquiring_is_undone he hs₂
  obtain ⟨-, -, hcontext, -, -⟩ := acquiring_is_undone he hs₃
  exact ⟨he, ⟨rfl, (hreserved .smpc true _ rfl rfl rfl).2⟩,
    ⟨rfl, (hwindows rfl hp₁).2, hagain rfl⟩, (hcontext (some 3) rfl).2⟩

end Engine

end Perfmon
