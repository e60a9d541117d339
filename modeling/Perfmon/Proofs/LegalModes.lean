import Perfmon.Proofs.AccessClasses
import Perfmon.Proofs.FixedModes
/-!
# Only legal modes are held

Three things are checked when a session asks for a resource, and never again: a session of context
scope is not given anything global, a mode that follows a context follows the one that the session
has, and the device has to be able to do it. That this is enough is because an entry of the table
goes back to a grant (`Run.granted`), a context that a session has goes back to a call that told the
session about it (`Run.told`), and nothing ever changes what the device can do
(`perform_capabilities`).
-/

namespace Perfmon

/-! ## Operations and contexts -/

namespace Session

variable {s s' : Session} {contexts : ContextRegistry} {ctx : ContextId}

/-- A session that has been told about its context works without one, or has the one behind the
descriptor. -/
theorem bindContext_ok {fd : Option Descriptor} (h : s.bindContext contexts fd = .ok s')
    (hctx : s'.binding.context? = some ctx) : ∃ d, fd = some d ∧ contexts.resolve d = some ctx := by
  unfold bindContext at h
  split at h
  · cases h
  · split at h
    · cases h
      cases hctx
    · cases h
    · split at h
      · rename_i hd
        cases h
        cases hctx
        exact ⟨_, rfl, hd⟩
      · cases h

theorem reserve_binding (s : Session) (x : Executor) (r : Resource) (contextSwitched : Bool) :
    (s.reserve x r contextSwitched).2.1.binding = s.binding := by
  rcases s.reserve_cases x r contextSwitched with
    ⟨err, x', -, hx⟩ | ⟨mode, -, ⟨held, -, hx⟩ | ⟨-, -, hx⟩⟩
  · rw [hx]
  · rw [hx]
    rfl
  · rw [hx]
    rfl

theorem release_binding (s : Session) (x : Executor) (r : Resource) :
    (s.release x r).2.1.binding = s.binding := by
  rcases s.release_cases x r with ⟨err, x', -, hx⟩ | ⟨-, hx⟩
  · rw [hx]
  · rw [hx]
    rfl

theorem bindPm_binding (s : Session) (contexts : ContextRegistry) (x : Executor) :
    (s.bindPm contexts x).2.1.binding = s.binding := by
  rcases s.bindPm_cases contexts x with ⟨result, x', -, hx⟩ | ⟨-, -, -, -, hx⟩
  · rw [hx]
  · rw [hx]

theorem unbindPm_binding (s : Session) (x : Executor) :
    (s.unbindPm x).2.1.binding = s.binding := by
  rcases s.unbindPm_cases x with ⟨result, x', -, hx⟩ | ⟨-, hx⟩
  · rw [hx]
  · rw [hx]

end Session

/-! ## What the device can do -/

namespace Engine

variable {e : Engine} {h k : Handle} {s s' : Session} {r : Resource} {mode : ReservationMode}
  {ctx : ContextId} {c : Call}

/-- **No call changes what the device can do.** -/
theorem perform_capabilities (e : Engine) (c : Call) :
    (e.perform c).2.device.capabilities = e.device.capabilities := by
  rcases e.perform_cases c with ⟨-, -, metrics, hc⟩ | ⟨d, -, hd, -, -, metrics, hc⟩
  · rw [hc]
    rfl
  · rw [hc]
    change (e.perform d).2.device.capabilities = _
    cases ht : d.target? with
    | some h =>
      obtain ⟨sessions, x, power, metrics, trail, he, hx⟩ := addressed_frame ht hd
      rw [he]
      exact hx
    | none =>
      cases d with
      | openSession scope =>
        change (e.openSession scope).2.device.capabilities = _
        rcases e.openSession_cases scope with ⟨err, ho⟩ | ⟨staging, metrics, -, ho⟩
        · rw [ho]
        · rw [ho]
          rfl
      | createContext | destroyContext | poke | injectFault | clearFaults | armPowerFailure
        | armFailure => rfl
      | _ => cases ht

/-! ## What sessions are told about contexts -/

/-- The context that a session has. -/
def contextOf? (e : Engine) (h : Handle) : Option ContextId :=
  (e.sessions.find? h).bind (·.binding.context?)

/-- A call that tells a session to follow the context behind a descriptor, and is not refused. -/
def Tells (e : Engine) (c : Call) (h : Handle) (ctx : ContextId) : Prop :=
  ∃ fd, e.asDirect? c = some (.bindContext h (some fd)) ∧ e.contexts.resolve fd = some ctx ∧
    (e.perform c).1.error? = none

theorem contextOf?_insert (e : Engine) (s' : Session) :
    ((e.sessions.insert h s').find? k).bind (·.binding.context?)
      = if k = h then s'.binding.context? else e.contextOf? k := by
  rw [Assoc.find?_insert]
  split <;> rfl

/-- Work on a session that leaves it its context leaves every session its context. -/
theorem contextOf?_of_insert (hs : e.sessions.find? h = some s) (hb : s'.binding = s.binding)
    (hk : ((e.sessions.insert h s').find? k).bind (·.binding.context?) = some ctx) :
    e.contextOf? k = some ctx := by
  rw [contextOf?_insert] at hk
  split at hk
  · rename_i hkh
    rw [contextOf?, hkh, hs, ← hk, hb]
    rfl
  · exact hk

/-- A session that is opened has not been told anything. -/
theorem contextOf?_of_openSession {scope : Scope}
    (hctx : (e.openSession scope).2.contextOf? k = some ctx) : e.contextOf? k = some ctx := by
  rcases e.openSession_cases scope with ⟨err, ho⟩ | ⟨staging, metrics, -, ho⟩
  · rwa [ho] at hctx
  · rw [ho, contextOf?, contextOf?_insert] at hctx
    split at hctx
    · cases hctx
    · exact hctx

theorem contextOf?_of_close (hs : e.sessions.find? h = some s)
    (hctx : (e.close h).2.contextOf? k = some ctx) : e.contextOf? k = some ctx := by
  unfold close at hctx
  rw [hs] at hctx
  dsimp only [contextOf?] at hctx
  rw [Assoc.find?_erase] at hctx
  split at hctx
  · cases hctx
  · exact hctx

theorem bindContext_tells (hs : e.sessions.find? h = some s) {fd : Option Descriptor}
    (hctx : (e.bindContext h fd).2.contextOf? k = some ctx) :
    e.contextOf? k = some ctx ∨ e.Tells (.bindContext h fd) k ctx := by
  simp only [bindContext, withSession_of_open hs] at hctx
  cases hb : s.bindContext e.contexts fd with
  | error err =>
    rw [hb] at hctx
    exact Or.inl (contextOf?_of_insert hs rfl hctx)
  | ok s' =>
    rw [hb] at hctx
    rw [contextOf?, contextOf?_insert] at hctx
    split at hctx
    · rename_i hkh
      subst hkh
      obtain ⟨d, rfl, hres⟩ := Session.bindContext_ok hb hctx
      refine Or.inr ⟨d, rfl, hres, ?_⟩
      simp only [perform, bindContext, withSession_of_open hs, hb]
      rfl
    · exact Or.inl hctx

/-- A direct call leaves a session the context that it has, or tells it one. -/
theorem direct_tells (hd : c.isRequest = false)
    (hctx : (e.perform c).2.contextOf? k = some ctx) :
    e.contextOf? k = some ctx ∨ e.Tells c k ctx := by
  cases ht : c.target? with
  | none =>
    cases c with
    | openSession scope => exact Or.inl (contextOf?_of_openSession hctx)
    | createContext | destroyContext | poke | injectFault | clearFaults | armPowerFailure
      | armFailure => exact Or.inl hctx
    | _ => cases ht
  | some h =>
    cases hs : e.sessions.find? h with
    | none =>
      rw [perform_of_not_open hs ht hd] at hctx
      exact Or.inl hctx
    | some s =>
      cases c with
      | bindContext h fd =>
        cases ht
        exact bindContext_tells hs hctx
      | unbindContext h =>
        cases ht
        simp only [perform, unbindContext, withSession_of_open hs] at hctx
        rw [contextOf?, contextOf?_insert] at hctx
        split at hctx
        · cases hctx
        · exact Or.inl hctx
      | reserve h r contextSwitched =>
        cases ht
        obtain ⟨metrics, trail, hx⟩ := reserve_of_open hs r contextSwitched
        simp only [perform, hx] at hctx
        exact Or.inl (contextOf?_of_insert hs (s.reserve_binding e.executor r contextSwitched) hctx)
      | release h r =>
        cases ht
        obtain ⟨trail, hx⟩ := release_of_open hs r
        simp only [perform, hx] at hctx
        exact Or.inl (contextOf?_of_insert hs (s.release_binding e.executor r) hctx)
      | bindPm h =>
        cases ht
        simp only [perform, bindPm, withSession_of_open hs] at hctx
        exact Or.inl (contextOf?_of_insert hs (s.bindPm_binding e.contexts e.executor) hctx)
      | unbindPm h =>
        cases ht
        simp only [perform, unbindPm, withSession_of_open hs] at hctx
        exact Or.inl (contextOf?_of_insert hs (s.unbindPm_binding e.executor) hctx)
      | info => exact Or.inl hctx
      | execute h buffer count mode =>
        cases ht
        obtain ⟨staging, x', metrics, power, -, he⟩ := execute_touched hs buffer count mode
        rw [perform, he] at hctx
        exact Or.inl (contextOf?_of_insert hs (by rfl) hctx)
      | close h =>
        cases ht
        exact Or.inl (contextOf?_of_close hs hctx)
      | control => cases hd
      | openSession | createContext | destroyContext | poke | injectFault | clearFaults
        | armPowerFailure | armFailure => cases ht

/-- **A call leaves a session the context that it has, or tells it one.** -/
theorem perform_tells (hctx : (e.perform c).2.contextOf? k = some ctx) :
    e.contextOf? k = some ctx ∨ e.Tells c k ctx := by
  rcases e.perform_cases c with ⟨-, -, metrics, hc⟩ | ⟨d, had, hd, -, herr, metrics, hc⟩
  · rw [hc] at hctx
    exact Or.inl hctx
  · rw [hc] at hctx
    refine (direct_tells hd hctx).imp_right ?_
    rintro ⟨fd, hd', hres, hok⟩
    rw [asDirect?_of_direct hd] at hd'
    exact ⟨fd, had.trans hd', hres, herr.trans hok⟩

/-! ## Runs -/

variable {allowed : Call → Prop} {config : Config} {start : Engine} {calls more : List Call}

/-- Some call of a run has told a session to follow a context. -/
def Told (start : Engine) (calls : List Call) (h : Handle) (ctx : ContextId) : Prop :=
  ∃ past c rest, calls = past ++ c :: rest ∧ (start.performAll past).Tells c h ctx

theorem Told.append (ht : Told start calls h ctx) (more : List Call) :
    Told start (calls ++ more) h ctx := by
  obtain ⟨past, c, rest, rfl, ht⟩ := ht
  exact ⟨past, c, rest ++ more, by simp, ht⟩

/-- **What context a session has, it has been told.** -/
theorem Run.told (hr : Run allowed config start calls)
    (hctx : (start.performAll calls).contextOf? h = some ctx) : Told start calls h ctx := by
  revert hctx
  refine hr.induction (motive := fun calls =>
    (start.performAll calls).contextOf? h = some ctx → Told start calls h ctx) ?_ ?_
  · obtain ⟨memory, rfl⟩ := hr.eq_fresh
    nofun
  · intro cs c hr ih hctx
    rw [performAll_concat] at hctx
    rcases perform_tells hctx with hold | htells
    · exact (ih hold).append [c]
    · exact ⟨cs, c, [], rfl, htells⟩

theorem Run.capabilities (hr : Run allowed config start calls) :
    (start.performAll calls).device.capabilities = config.device := by
  refine hr.induction (motive := fun calls =>
    (start.performAll calls).device.capabilities = config.device) ?_ ?_
  · obtain ⟨memory, rfl⟩ := hr.eq_fresh
    rfl
  · intro cs c hr ih
    rw [performAll_concat, perform_capabilities, ih]

/-- In context scope, what is held follows a context, in the table and in what the session has
written down. -/
theorem ReachedBy.contextSwitched_of_context_scope (he : ReachedBy allowed config e)
    (hs : e.sessions.find? h = some s) (hscope : s.scope = .context) :
    (∀ held, s.reservations.get r = some held → held = ⟨true⟩) ∧
      ∀ mode, ⟨h, mode⟩ ∈ e.device.reservations.holders r → mode.isContextSwitched = true := by
  obtain ⟨hk, hset⟩ := ReachedBy.settled he hs
  have hmode : ∀ mode, e.device.reservations.modeOf? r h = some mode →
      mode.isContextSwitched = true := by
    intro mode hm
    have hres := hset.reservations r
    have hfor := hset.reservedFor r
    rw [hk, show e.device.holdings.table.modeOf? r h = some mode from hm] at hres hfor
    -- The session has written the reservation down, so there is a context that it follows.
    have hscoped := he.scoped hs hscope r (by rw [hres]; rfl)
    rw [hfor] at hscoped
    cases mode with
    | global => cases hscoped
    | contextSwitched ctx => rfl
  refine ⟨fun held hheld => ?_, fun mode hm => hmode mode ?_⟩
  · rw [hset.reservations, hk, Option.map_eq_some_iff] at hheld
    obtain ⟨mode, hm, rfl⟩ := hheld
    rw [Reserved.ofMode, hmode mode hm]
  · exact (ReservationTable.modeOf?_eq_some_iff he.wellFormed).mpr hm

/-- **Only legal modes are held,** whatever is called: what an open session of context scope holds
follows a context; a context that an entry of the table follows is one that the session was told by
some call, which found it behind a descriptor; and if the device has no global mode for the counters
of the multiprocessors, nobody holds them in it. -/
theorem legal_modes_only (hr : Run (fun _ => True) config start calls) :
    (∀ h s, (start.performAll calls).sessions.find? h = some s → s.scope = .context → ∀ r,
      (∀ held, s.reservations.get r = some held → held = ⟨true⟩) ∧
      ∀ mode, ⟨h, mode⟩ ∈ (start.performAll calls).device.reservations.holders r →
        mode.isContextSwitched = true) ∧
    (∀ r h ctx, ⟨h, .contextSwitched ctx⟩ ∈ (start.performAll calls).device.reservations.holders r →
      Told start calls h ctx) ∧
    ((start.performAll calls).device.capabilities.smpcGlobalMode = false → ∀ h,
      ⟨h, .global⟩ ∉ (start.performAll calls).device.reservations.holders .smpc) := by
  have he := hr.reached
  have hgrant : ∀ r h mode, ⟨h, mode⟩ ∈ (start.performAll calls).device.reservations.holders r →
      GrantedSince start calls r h mode := fun r h mode hm =>
    hr.granted ((ReservationTable.modeOf?_eq_some_iff (ReachedBy.wellFormed he)).mpr hm)
  refine ⟨fun h s hs hscope r => ReachedBy.contextSwitched_of_context_scope he hs hscope,
    fun r h ctx hm => ?_, fun hlacks h hm => ?_⟩
  · -- When it was granted the resource, the session had the context, so it was told before.
    obtain ⟨past, g, rest, rfl, ⟨⟨s, cs, hs, -, hc⟩, -⟩, -⟩ := hgrant r h _ hm
    obtain ⟨-, -, hasks⟩ := Session.checkReserve_ok hc
    have hctx : (start.performAll past).contextOf? h = some ctx := by
      rw [contextOf?, hs]
      exact hasks
    exact (hr.of_append.told hctx).append _
  · obtain ⟨past, g, rest, rfl, ⟨⟨s, cs, hs, -, hc⟩, -⟩, -⟩ := hgrant .smpc h _ hm
    -- The device could do as little then as now, and the grant was checked against that.
    rw [hr.capabilities] at hlacks
    rw [hr.of_append.capabilities] at hc
    rcases s.checkReserve_cases config.device .smpc cs with
      ⟨-, reason, hx⟩ | ⟨-, mode, -, ⟨-, what, hx⟩ | ⟨hcan, hx⟩⟩
    · cases hx.symm.trans hc
    · cases hx.symm.trans hc
    · obtain rfl : mode = .global := Except.ok.inj (hx.symm.trans hc)
      exact hcan ⟨rfl, rfl, hlacks⟩

/-- A run in which a session of context scope moves to another context between two reservations, and
one of device scope asks for the counters of the multiprocessors without a context. -/
def twoContextsRun : List Call :=
  [.createContext 3, .openSession .context, .bindContext ⟨1⟩ (some 3),
    .reserve ⟨1⟩ .hwpmLegacy false, .unbindContext ⟨1⟩, .createContext 4,
    .bindContext ⟨1⟩ (some 4), .openSession .device, .bindContext ⟨2⟩ none,
    .reserve ⟨2⟩ .smpc false, .reserve ⟨1⟩ .smpc false, .reserve ⟨1⟩ .hwpmLegacy true]

theorem legal_modes_only_over_two_contexts :
    (small twoContextsRun).device.reservations.holders .hwpmLegacy
        = [⟨⟨1⟩, .contextSwitched ⟨1⟩⟩] ∧
      (small twoContextsRun).device.reservations.holders .smpc
        = [⟨⟨1⟩, .contextSwitched ⟨2⟩⟩] ∧
      Told (fresh .small) twoContextsRun ⟨1⟩ ⟨1⟩ ∧ Told (fresh .small) twoContextsRun ⟨1⟩ ⟨2⟩ ∧
      ∀ h, ⟨h, .global⟩ ∉ (small twoContextsRun).device.reservations.holders .smpc := by
  have hr : Run (fun _ => True) .small (fresh .small) twoContextsRun :=
    run_small (fun _ _ => trivial) (by decide)
  obtain ⟨-, htold, hglobal⟩ := legal_modes_only hr
  exact ⟨rfl, rfl, htold .hwpmLegacy ⟨1⟩ ⟨1⟩ (by decide), htold .smpc ⟨1⟩ ⟨2⟩ (by decide),
    hglobal rfl⟩

end Engine

end Perfmon
