import Perfmon.Proofs.Entries
import Perfmon.Proofs.ExecGate
import Perfmon.Proofs.Granting
import Perfmon.Proofs.Undoing
import Perfmon.Proofs.Windowing
/-!
# Opening and closing the windows

A session opens the windows of what its record says it has reserved, and the device looks in its
table whether this is so. Record and table agree in every state, so the device has no reason to
refuse (`Settled.bind_reserved`): what keeps a session from opening its windows it finds out by
itself, from what it has been told about its context. `Session.Opens` lists the answers with what
they say about the session; `windows_open_unless_astray` says the same of the table and the
contexts.
-/

namespace Perfmon

/-! ## What the device finds -/

/-- What a record names as reserved is held, says the table. -/
theorem Settled.holds_of_reserved {s : SessionRecord} {t : Holdings} (h : Settled s t)
    {r : Resource} (hr : r ∈ s.reserved) : t.table.holds r s.handle = true := by
  rw [SessionRecord.mem_reserved, h.reservations, Option.isSome_map] at hr
  obtain ⟨mode, hm⟩ := Option.isSome_iff_exists.mp hr
  by_contra hn
  have hnone : t.table.modeOf? r s.handle = none := by
    rw [ReservationTable.modeOf?_eq_none_iff]
    simpa [ReservationTable.holds] using hn
  rw [hm] at hnone
  cases hnone

/-- **The device does not refuse what a session has reserved.** -/
theorem Settled.bind_reserved {s : SessionRecord} {d : Device} (h : Settled s d.holdings) :
    d.bind s.handle s.reserved
      = (.ok (), { d with bound := Device.enterBound s.handle s.reserved d.bound }) := by
  have hnone : s.reserved.find? (fun r => !d.reservations.holds r s.handle) = none := by
    rw [List.find?_eq_none]
    intro r hr
    have hheld : d.reservations.holds r s.handle = true := h.holds_of_reserved hr
    simp [hheld]
  unfold Device.bind
  rw [hnone]

/-! ## The answers of a session -/

namespace Session

variable {s : Session} {x : Executor} {contexts : ContextRegistry}

/-- The answer to a session that opens its windows and whether they are open behind it, with what
the answer says about the session. -/
inductive Opens (s : Session) (contexts : ContextRegistry) : Except Error Unit → Bool → Prop
  /-- The session has not been told about its context. -/
  | untold (hb : s.binding.isBound = false) : Opens s contexts (.error contextMissing) s.pmBound
  /-- The context is not good for the reservations. -/
  | astray {err : Error} (hb : s.binding.isBound = true) (hp : s.pmBound = false)
      (hr : s.reserved ≠ []) (hc : s.checkContext contexts = .error err) :
      Opens s contexts (.error err) false
  /-- The windows are open already. -/
  | already (hb : s.binding.isBound = true) (hp : s.pmBound = true) : Opens s contexts (.ok ()) true
  /-- There are no windows to open. -/
  | idle (hb : s.binding.isBound = true) (hp : s.pmBound = false) (hr : s.reserved = []) :
      Opens s contexts (.ok ()) false
  /-- The windows have been opened. -/
  | opened (hb : s.binding.isBound = true) (hp : s.pmBound = false) (hr : s.reserved ≠ [])
      (hc : s.checkContext contexts = .ok ()) : Opens s contexts (.ok ()) true

/-- **A session is answered by itself,** unless a failure of just this call was armed: the device
has nothing to say against what is reserved. -/
theorem bindPm_opens (hset : Settled s.toSessionRecord x.device.holdings)
    (hx : x.strikes .bind = false) :
    s.Opens contexts (s.bindPm contexts x).1 (s.bindPm contexts x).2.1.pmBound := by
  unfold bindPm
  cases hb : s.binding.isBound with
  | false => exact .untold hb
  | true =>
    cases hp : s.pmBound with
    | true =>
      rw [if_neg (by simp), if_pos (Or.inl rfl)]
      dsimp only
      rw [hp]
      exact .already hb hp
    | false =>
      by_cases hr : s.reserved = []
      · rw [if_neg (by simp), if_pos (Or.inr hr)]
        dsimp only
        rw [hp]
        exact .idle hb hp hr
      · rw [if_neg (by simp), if_neg (by simp [hr])]
        cases hc : s.checkContext contexts with
        | error err =>
          dsimp only
          rw [hp]
          exact .astray hb hp hr hc
        | ok u =>
          have hdevice : x.device.bind s.handle s.reserved = _ := hset.bind_reserved
          dsimp only
          rw [Executor.bind, Executor.call_of_not_strikes hx, hdevice]
          exact .opened hb hp hr hc

theorem Opens.error_iff {result : Except Error Unit} {isOpen : Bool}
    (ho : s.Opens contexts result isOpen) :
    (∃ err, result = .error err) ↔ s.binding.isBound = false ∨
      s.pmBound = false ∧ s.reserved ≠ [] ∧ s.checkContext contexts ≠ .ok () := by
  cases ho with
  | untold hb => simp [hb]
  | astray hb hp hr hc => simp [hp, hr, hc]
  | already hb hp => simp [hb, hp]
  | idle hb hp hr => simp [hb, hr]
  | opened hb hp hr hc => simp [hb, hc]

/-- The windows that are open behind an answer that is no refusal are those of what is reserved. -/
theorem Opens.isOpen_iff {result : Except Error Unit} {isOpen : Bool}
    (ho : s.Opens contexts result isOpen) (hr : s.pmBound = true → s.reserved ≠ [])
    (hok : result = .ok ()) : isOpen = true ↔ s.reserved ≠ [] := by
  cases ho with
  | untold | astray => cases hok
  | already hb hp => simp [hr hp]
  | idle hb hp hn => simp [hn]
  | opened hb hp hn => simp [hn]

end Session

/-! ## Whose refusal it is -/

/-- An error with which the device refuses to open windows. -/
def Device.Refusal (err : Error) : Prop :=
  ∃ (r : Resource) (k : Handle), err = .invalidState s!"{r} is not reserved by session {k}"

theorem Device.refusal_of_bind {d : Device} {k : Handle} {rs : List Resource} {err : Error}
    (h : (d.bind k rs).1 = .error err) : Refusal err := by
  unfold bind at h
  split at h
  · rename_i r _
    exact ⟨r, k, (Except.error.inj h).symm⟩
  · cases h

namespace Session

variable {s : Session} {contexts : ContextRegistry}

/-- What a session finds wrong with its context is not what the device would say: the texts differ
behind the name of the resource at the latest. -/
theorem not_refusal_of_checkContext {err : Error} (h : s.checkContext contexts = .error err) :
    ¬Device.Refusal err := by
  rintro ⟨r, k, rfl⟩
  unfold checkContext at h
  split at h
  · split at h
    · rename_i q c _
      have htext := congrArg String.toList (Error.invalidState.inj (Except.error.inj h))
      cases q <;> cases r <;> simp [String.toList_append, toString, Resource.label] at htext
    · cases h
  · split at h
    · have htext := congrArg String.toList (Error.invalidState.inj (Except.error.inj h))
      cases r <;> simp [String.toList_append, toString, Resource.label] at htext
    · split at h
      · rename_i q c _
        have htext := congrArg String.toList (Error.invalidState.inj (Except.error.inj h))
        cases q <;> cases r <;> simp [String.toList_append, toString, Resource.label] at htext
      · cases h

theorem not_refusal_contextMissing : ¬Device.Refusal contextMissing := by
  rintro ⟨r, k, h⟩
  have htext := congrArg String.toList (Error.invalidState.inj h)
  cases r <;> simp [String.toList_append, toString, Resource.label] at htext

theorem Opens.not_refusal {result : Except Error Unit} {isOpen : Bool}
    (ho : s.Opens contexts result isOpen) {err : Error} (he : result = .error err) :
    ¬Device.Refusal err := by
  cases ho with
  | untold hb =>
    cases he
    exact not_refusal_contextMissing
  | astray hb hp hr hc =>
    cases he
    exact not_refusal_of_checkContext hc
  | already | idle | opened => cases he

end Session

/-! ## The engine -/

namespace Engine

variable {config : Config} {e : Engine} {h : Handle} {s : Session}

/-- A session holds a resource. -/
def HoldsAny (e : Engine) (h : Handle) : Prop :=
  ∃ r mode, e.HeldBy r h mode

/-- The context of a session is not good for what the session holds: it has gone, or the session
holds a resource for another context, or for one when it has none. -/
def Strays (e : Engine) (h : Handle) (s : Session) : Prop :=
  (∃ ctx, s.binding.context? = some ctx ∧ e.contexts.isLive ctx = false) ∨
    ∃ r ctx, e.HeldBy r h (.contextSwitched ctx) ∧ s.binding.context? ≠ some ctx

/-- A session holds something when its record names something as reserved. -/
theorem ReachedUndisturbed.holdsAny_iff (he : e.ReachedUndisturbed config)
    (hs : e.sessions.find? h = some s) : e.HoldsAny h ↔ s.reserved ≠ [] := by
  obtain ⟨rfl, hset⟩ := ReachedBy.settled he hs
  have hmem : ∀ r, r ∈ s.reserved ↔ ∃ mode, e.HeldBy r s.handle mode := by
    intro r
    have hres : s.reservations.get r
        = (e.device.reservations.modeOf? r s.handle).map .ofMode := hset.reservations r
    rw [SessionRecord.mem_reserved, hres, Option.isSome_map, Option.isSome_iff_exists]
    exact exists_congr fun mode => he.heldBy_iff_modeOf?.symm
  constructor
  · rintro ⟨r, hr⟩
    exact List.ne_nil_of_mem ((hmem r).mpr hr)
  · intro hne
    obtain ⟨r, hr⟩ := List.exists_mem_of_ne_nil _ hne
    exact ⟨r, (hmem r).mp hr⟩

/-- A session strays when it finds something wrong with its context. -/
theorem ReachedUndisturbed.strays_iff (he : e.ReachedUndisturbed config)
    (hs : e.sessions.find? h = some s) :
    e.Strays h s ↔ s.checkContext e.contexts ≠ .ok () := by
  have hfollows : ∀ r ctx, e.HeldBy r h (.contextSwitched ctx) ↔ s.reservedFor.get r = some ctx :=
    fun r ctx => he.heldBy_iff.trans (he.reached.follows_iff hs)
  rw [Ne, Session.checkContext_eq_ok_iff, not_and_or]
  unfold Strays
  simp [hfollows]

/-- Opening windows is nothing to who holds what. -/
theorem bindPm_holdsAny (hs : e.sessions.find? h = some s) :
    (e.bindPm h).2.HoldsAny h ↔ e.HoldsAny h := by
  have hbind : e.bindPm h = _ := withSession_of_open hs _
  unfold HoldsAny HeldBy
  rw [hbind]
  simp only [device, Session.bindPm_table, contains_insert hs]

/-- **Windows open unless their session has strayed, and they close always.** In every state, for
every open session: closing the windows succeeds, and they are closed. Opening them fails exactly if
the session has not been told about its context, or the windows are not open yet, the session holds
something, and its context has gone or is not the one that it holds a resource for. The device would
not refuse what the session has reserved, and no error is one with which it refuses anything. When
opening has succeeded, the windows are open exactly if the session holds something. -/
theorem windows_open_unless_astray (he : e.ReachedUndisturbed config)
    (hs : e.sessions.find? h = some s) :
    ((e.unbindPm h).1 = .ok () ∧
      ∃ s', (e.unbindPm h).2.sessions.find? h = some s' ∧ s'.pmBound = false) ∧
    ((∃ err, (e.bindPm h).1 = .error err) ↔
      s.binding.isBound = false ∨ s.pmBound = false ∧ e.HoldsAny h ∧ e.Strays h s) ∧
    ((e.device.bind h s.reserved).1 = .ok () ∧
      ∀ err, (e.bindPm h).1 = .error err → ¬Device.Refusal err) ∧
    ((e.bindPm h).1 = .ok () → ∃ s', (e.bindPm h).2.sessions.find? h = some s' ∧
      (s'.pmBound = true ↔ (e.bindPm h).2.HoldsAny h)) := by
  obtain ⟨hk, hset⟩ := ReachedBy.settled he hs
  have hx := Executor.strikes_of_quiet he.quietly.quiet
  have hopens : s.Opens e.contexts _ _ := Session.bindPm_opens hset (hx .bind)
  have hbind : e.bindPm h = _ := withSession_of_open hs _
  refine ⟨?_, ?_, ⟨?_, ?_⟩, fun hok => ?_⟩
  · have hunbind : e.unbindPm h = _ := withSession_of_open hs _
    have hok : (s.unbindPm e.executor).1 = .ok () := by
      cases hp : s.pmBound with
      | true => rw [Session.unbindPm_of_not_strikes hp (hx .unbind)]
      | false => rw [Session.unbindPm_of_not_pmBound hp]
    rw [hunbind]
    exact ⟨hok, _, Assoc.find?_insert_self _ _ _, Session.unbindPm_ok hok⟩
  · rw [hbind, he.holdsAny_iff hs, he.strays_iff hs]
    exact hopens.error_iff
  · have hdevice : e.device.bind s.handle s.reserved = _ := hset.bind_reserved
    rw [← hk, hdevice]
  · rw [hbind]
    exact fun err herr => hopens.not_refusal herr
  · rw [bindPm_holdsAny hs, he.holdsAny_iff hs]
    rw [hbind] at hok ⊢
    exact ⟨_, Assoc.find?_insert_self _ _ _, hopens.isOpen_iff hset.reserved hok⟩

/-- A run behind which a session holds a resource for a context and is bound to another one, and a
second session holds the same resource for the context that it is bound to. -/
def exchangedRun : List Call :=
  [.createContext 3, .createContext 5, .openSession .device, .openSession .context,
    .bindContext ⟨1⟩ (some 3), .reserve ⟨1⟩ .smpc true, .unbindContext ⟨1⟩,
    .bindContext ⟨1⟩ (some 5), .bindContext ⟨2⟩ (some 5), .reserve ⟨2⟩ .smpc false]

theorem windows_open_unless_astray_when_exchanged :
    (small exchangedRun).ReachedUndisturbed .small ∧
      (∃ err, ((small exchangedRun).bindPm ⟨1⟩).1 = .error err ∧ ¬Device.Refusal err) ∧
      ∃ s, ((small exchangedRun).bindPm ⟨2⟩).2.sessions.find? ⟨2⟩ = some s ∧ s.pmBound = true := by
  have he : (small exchangedRun).ReachedUndisturbed .small :=
    reachedBy_small (by decide) (by decide)
  obtain ⟨s₁, hs₁, hp₁, hc₁⟩ : ∃ s, (small exchangedRun).sessions.find? ⟨1⟩ = some s ∧
    s.pmBound = false ∧ s.binding.context? = some ⟨2⟩ := ⟨_, rfl, rfl, rfl⟩
  obtain ⟨s₂, hs₂⟩ : ∃ s, (small exchangedRun).sessions.find? ⟨2⟩ = some s := ⟨_, rfl⟩
  obtain ⟨-, hfails, ⟨-, hwhose⟩, -⟩ := windows_open_unless_astray he hs₁
  obtain ⟨-, -, -, hopen⟩ := windows_open_unless_astray he hs₂
  have hheld : (small exchangedRun).HeldBy .smpc ⟨1⟩ (.contextSwitched ⟨1⟩) := by decide
  have hstrays : (small exchangedRun).Strays ⟨1⟩ s₁ :=
    Or.inr ⟨.smpc, ⟨1⟩, hheld, by rw [hc₁]; decide⟩
  obtain ⟨err, herr⟩ := hfails.mpr (Or.inr ⟨hp₁, ⟨_, _, hheld⟩, hstrays⟩)
  obtain ⟨s, hs, hbound⟩ := hopen rfl
  exact ⟨he, ⟨err, herr, hwhose err herr⟩, s, hs,
    hbound.mpr ⟨.smpc, .contextSwitched ⟨2⟩, by decide⟩⟩

end Engine

end Perfmon
