import Perfmon.Proofs.Holders
import Perfmon.Session
/-!
# What an operation does to a session and to the device

Everything that a session's operations do to its record and to what the device keeps of reservations
is one `Change`. `Session.Changed` ties an operation to its change and to what it leaves alone, with
one lemma for each operation; proofs about operations start from the changes and do not open the
operations again.

An executor call that fails has not reached the device, which is why a failing operation is no
change: the record is written only behind the call.
-/

namespace Perfmon

/-- What a device keeps of reservations: who holds a resource, and who has it bound. -/
structure Holdings where
  /-- Who holds which resource. -/
  table : ReservationTable
  /-- The sessions that have each resource bound. -/
  bound : PerResource (List Handle)

/-- What the device keeps of reservations. -/
def Device.holdings (d : Device) : Holdings :=
  ⟨d.reservations, d.bound⟩

/-- The holdings behind the end of a session, as far as it was taken out of the bound sets and out
of the table. -/
def Holdings.leave (t : Holdings) (s : SessionRecord) (unbound released : Bool) : Holdings where
  table := if released then (t.table.releaseAll s.handle).2 else t.table
  bound := if unbound && s.pmBound then Device.leaveBound s.handle s.reserved t.bound else t.bound

/-! ## Sets of bound sessions -/

namespace Device

variable {s k : Handle} {q : Resource}

theorem get_enterBound (s : Handle) (q : Resource) (rs : List Resource)
    (b : PerResource (List Handle)) :
    (enterBound s rs b).get q
      = if q ∈ rs ∧ s ∉ b.get q then b.get q ++ [s] else b.get q := by
  induction rs generalizing b with
  | nil => simp [enterBound]
  | cons r rs ih =>
    rw [enterBound, List.foldl_cons, ← enterBound, ih, PerResource.get_set]
    by_cases hq : q = r
    · subst hq
      -- Entered once, the session is there already when the resource comes again.
      by_cases hs : s ∈ b.get q <;> simp [hs]
    · simp [hq]

theorem get_leaveBound (s : Handle) (q : Resource) (rs : List Resource)
    (b : PerResource (List Handle)) :
    (leaveBound s rs b).get q = if q ∈ rs then (b.get q).filter (· ≠ s) else b.get q := by
  induction rs generalizing b with
  | nil => simp [leaveBound]
  | cons r rs ih =>
    rw [leaveBound, List.foldl_cons, ← leaveBound, ih, PerResource.get_set]
    by_cases hq : q = r
    · simp [hq, List.filter_filter]
    · simp [hq]

theorem mem_enterBound {rs : List Resource} {b : PerResource (List Handle)} :
    k ∈ (enterBound s rs b).get q ↔ k ∈ b.get q ∨ k = s ∧ q ∈ rs := by
  rw [get_enterBound]
  split
  · rename_i h
    rw [List.mem_append, List.mem_singleton, and_iff_left h.1]
  · rename_i h
    refine ⟨Or.inl, ?_⟩
    rintro (hk | ⟨rfl, hq⟩)
    · exact hk
    · by_contra hk
      exact h ⟨hq, hk⟩

theorem mem_leaveBound {rs : List Resource} {b : PerResource (List Handle)} :
    k ∈ (leaveBound s rs b).get q ↔ k ∈ b.get q ∧ ¬(k = s ∧ q ∈ rs) := by
  rw [get_leaveBound]
  split <;> rename_i h <;> simp [h]

end Device

/-! ## Changes -/

/-- A session may ask for a mode: for the global one in device scope only, and otherwise for the one
that follows its context. -/
def SessionRecord.MayAsk (s : SessionRecord) : ReservationMode → Prop
  | .global => s.scope = .device
  | .contextSwitched ctx => s.binding.context? = some ctx

/-- What an operation of a session can do to its record and to the device. -/
inductive Change (s : SessionRecord) (t : Holdings) : SessionRecord → Holdings → Prop
  /-- Nothing. -/
  | none : Change s t s t
  /-- The session is told about its context. -/
  | bindContext (b : ContextBinding) (hu : s.binding.isBound = false) (hb : b.isBound = true)
      (hc : s.scope = .context → b.context?.isSome = true) :
      Change s t { s with binding := b } t
  /-- The session forgets its context. -/
  | unbindContext : Change s t { s with binding := .unbound } t
  /-- The session becomes a holder of a resource. -/
  | grant (r : Resource) (mode : ReservationMode) (hb : s.binding.isBound = true)
      (hp : s.pmBound = false) (hm : t.table.modeOf? r s.handle = .none)
      (hf : t.table.blocker? r mode = .none) (ha : s.MayAsk mode) :
      Change s t (s.record r mode) { t with table := t.table.enter r s.handle mode }
  /-- The session writes down how it holds a resource already. -/
  | adopt (r : Resource) (held : ReservationMode) (hb : s.binding.isBound = true)
      (hp : s.pmBound = false) (hm : t.table.modeOf? r s.handle = some held) :
      Change s t (s.record r held) t
  /-- The session gives up a resource. -/
  | release (r : Resource) (hp : s.pmBound = false) :
      Change s t (s.strike r) { t with table := (t.table.release r s.handle).2 }
  /-- The register windows of the session are opened. -/
  | bindPm (hb : s.binding.isBound = true) (hp : s.pmBound = false) (hr : s.reserved ≠ [])
      (hh : ∀ r ∈ s.reserved, t.table.holds r s.handle = true) :
      Change s t { s with pmBound := true }
        { t with bound := Device.enterBound s.handle s.reserved t.bound }
  /-- The register windows of the session are closed. -/
  | unbindPm (hp : s.pmBound = true) :
      Change s t { s with pmBound := false }
        { t with bound := Device.leaveBound s.handle s.reserved t.bound }

/-! ## Executor calls -/

namespace Executor

variable {s : Handle} {r : Resource} {mode : ReservationMode}

theorem armed_pass {x : Executor} {c : ExecutorCall} (h : x.armed = []) :
    (x.pass c).armed = [] := by
  rw [pass, h, List.filterMap_nil]

/-- A call fails without reaching the device, or it is made. -/
theorem call_cases {α : Type} (x : Executor) (c : ExecutorCall) (failed : α)
    (f : Device → α × Device) :
    (x.armed ≠ [] ∧ x.call c failed f = (failed, x.pass c)) ∨
      x.call c failed f = ((f x.device).1, { x.pass c with device := (f x.device).2 }) := by
  unfold call
  cases hs : x.strikes c with
  | true =>
    refine Or.inl ⟨?_, rfl⟩
    intro ha
    rw [strikes, ha] at hs
    cases hs
  | false => exact Or.inr rfl

/-- A call that is not due to fail reaches the device. -/
theorem call_of_not_strikes {α : Type} {x : Executor} {c : ExecutorCall}
    (h : x.strikes c = false) (failed : α) (f : Device → α × Device) :
    x.call c failed f = ((f x.device).1, { x.pass c with device := (f x.device).2 }) := by
  unfold call
  rw [h]
  rfl

/-- A reservation fails and changes nothing, or finds the session among the holders, or makes it
one. It fails because a failure is armed or because another holder is in the way. -/
theorem reserve_cases (x : Executor) (s : Handle) (r : Resource) (mode : ReservationMode) :
    (∃ e, x.reserve s r mode = (.error e, x.pass .reserve) ∧
      (x.armed = [] → ∃ b, x.device.reservations.modeOf? r s = none ∧
        x.device.reservations.blocker? r mode = some b ∧ e = Conflict.toError ⟨r, b⟩)) ∨
    (∃ held, x.device.reservations.modeOf? r s = some held ∧
      x.reserve s r mode = (.ok (.alreadyHeld held), x.pass .reserve)) ∨
    (x.device.reservations.modeOf? r s = none ∧ x.device.reservations.blocker? r mode = none ∧
      x.reserve s r mode = (.ok .granted, { x.pass .reserve with
        device := { x.device with reservations := x.device.reservations.enter r s mode } })) := by
  unfold reserve
  rcases call_cases x .reserve (.error (ExecutorCall.injectedError .reserve))
    (·.reserve s r mode) with ⟨ha, hx⟩ | hx
  · exact Or.inl ⟨_, hx, fun hq => absurd hq ha⟩
  · rw [hx]
    unfold Device.reserve
    rcases x.device.reservations.reserve_cases r s mode with
      ⟨held, hm, hr⟩ | ⟨b, hm, hb, hr⟩ | ⟨hm, hf, hr⟩
    · rw [hr]; exact Or.inr (Or.inl ⟨held, hm, rfl⟩)
    · rw [hr]; exact Or.inl ⟨_, rfl, fun _ => ⟨b, hm, hb, rfl⟩⟩
    · rw [hr]; exact Or.inr (Or.inr ⟨hm, hf, rfl⟩)

theorem release_cases (x : Executor) (s : Handle) (r : Resource) :
    (x.armed ≠ [] ∧ ∃ e, x.release s r = (.error e, x.pass .release)) ∨
    ∃ o, x.release s r = (.ok o, { x.pass .release with
      device := { x.device with reservations := (x.device.reservations.release r s).2 } }) := by
  rcases call_cases x .release (Except.error (ExecutorCall.injectedError .release))
    (fun d => (Except.ok (d.release s r).1, (d.release s r).2)) with ⟨ha, hx⟩ | hx
  · exact Or.inl ⟨ha, _, hx⟩
  · exact Or.inr ⟨_, hx⟩

theorem releaseAll_cases (x : Executor) (s : Handle) :
    (x.armed ≠ [] ∧ ∃ e, x.releaseAll s = (.error e, x.pass .releaseAll)) ∨
    x.releaseAll s = (.ok (x.device.reservations.heldBy s), { x.pass .releaseAll with
      device := { x.device with reservations := (x.device.reservations.releaseAll s).2 } }) := by
  rw [← ReservationTable.releaseAll_fst]
  rcases call_cases x .releaseAll (Except.error (ExecutorCall.injectedError .releaseAll))
    (fun d => (Except.ok (d.releaseAll s).1, (d.releaseAll s).2)) with ⟨ha, hx⟩ | hx
  · exact Or.inl ⟨ha, _, hx⟩
  · exact Or.inr hx

theorem bind_cases (x : Executor) (s : Handle) (rs : List Resource) :
    (∃ e, x.bind s rs = (.error e, x.pass .bind)) ∨
    ((∀ r ∈ rs, x.device.reservations.holds r s = true) ∧
      x.bind s rs = (.ok (), { x.pass .bind with
        device := { x.device with bound := Device.enterBound s rs x.device.bound } })) := by
  unfold bind
  rcases call_cases x .bind (.error (ExecutorCall.injectedError .bind)) (·.bind s rs) with
    ⟨-, hx⟩ | hx
  · exact Or.inl ⟨_, hx⟩
  · rw [hx]
    unfold Device.bind
    cases hf : rs.find? fun r => !x.device.reservations.holds r s with
    | some r => exact Or.inl ⟨_, rfl⟩
    | none => exact Or.inr ⟨by simpa using List.find?_eq_none.mp hf, rfl⟩

theorem unbind_cases (x : Executor) (s : Handle) (rs : List Resource) :
    (x.armed ≠ [] ∧ ∃ e, x.unbind s rs = (.error e, x.pass .unbind)) ∨
    x.unbind s rs = (.ok (), { x.pass .unbind with
      device := { x.device with bound := Device.leaveBound s rs x.device.bound } }) := by
  rcases call_cases x .unbind (Except.error (ExecutorCall.injectedError .unbind))
    (fun d => (Except.ok (), d.unbind s rs)) with ⟨ha, hx⟩ | hx
  · exact Or.inl ⟨ha, _, hx⟩
  · exact Or.inr hx

/-- Nothing has come of a call but that an armed failure may have been used up. -/
structure Idle (x x' : Executor) : Prop where
  device : x'.device = x.device
  quiet : x.armed = [] → x'.armed = []

theorem Idle.refl (x : Executor) : Idle x x :=
  ⟨rfl, id⟩

theorem Idle.failed (x : Executor) (c : ExecutorCall) : Idle x (x.pass c) :=
  ⟨rfl, armed_pass⟩

end Executor

/-! ## Operations of a session -/

namespace Session

/-- What an operation of a session has done: a change of the record and of the device's holdings,
and nothing else but that armed failures may have been used up. -/
structure Changed (s : Session) (x : Executor) (s' : Session) (x' : Executor) : Prop where
  change : Change s.toSessionRecord x.device.holdings s'.toSessionRecord x'.device.holdings
  staging : s'.staging = s.staging
  device : x'.device =
    { x.device with reservations := x'.device.reservations, bound := x'.device.bound }
  quiet : x.armed = [] → x'.armed = []

/-- Nothing has come of an operation, so there is no change. -/
theorem Changed.idle {x x' : Executor} (s : Session) (h : x.Idle x') : Changed s x s x' := by
  refine ⟨?_, rfl, ?_, h.quiet⟩
  · rw [h.device]
    exact .none
  · rw [h.device]

theorem Changed.refl (s : Session) (x : Executor) : Changed s x s x :=
  .idle s (.refl x)

theorem bindContext_changed {s s' : Session} {contexts : ContextRegistry}
    {fd : Option Descriptor} (x : Executor) (h : s.bindContext contexts fd = .ok s') :
    Changed s x s' x := by
  unfold bindContext at h
  split at h
  · cases h
  · rename_i hb
    have hu : s.binding.isBound = false := by simpa using hb
    split at h
    · rename_i hs
      cases h
      exact ⟨.bindContext .noContext hu rfl (by simp [hs]), rfl, rfl, id⟩
    · cases h
    · split at h
      · cases h
        exact ⟨.bindContext _ hu rfl fun _ => rfl, rfl, rfl, id⟩
      · cases h

theorem unbindContext_changed (s : Session) (x : Executor) :
    Changed s x s.unbindContext x :=
  ⟨.unbindContext, rfl, rfl, id⟩

theorem requestedMode_ok {s : Session} {caps : Capabilities} {r : Resource} {c : Bool}
    {mode : ReservationMode} (h : s.requestedMode caps r c = .ok mode) :
    s.toSessionRecord.MayAsk mode := by
  unfold requestedMode at h
  split at h
  · rename_i hctx
    cases h
    exact hctx
  · rename_i hctx
    cases h
    exact hctx
  · cases h
  · cases h
  · rename_i hs
    split at h
    · cases h
    · cases h
      exact hs

/-- A session that may go to the device for a reservation knows about its context, its windows are
closed, and it may ask for the mode for which it goes there. -/
theorem checkReserve_ok {s : Session} {caps : Capabilities} {r : Resource} {c : Bool}
    {mode : ReservationMode} (h : s.checkReserve caps r c = .ok mode) :
    s.binding.isBound = true ∧ s.pmBound = false ∧ s.toSessionRecord.MayAsk mode := by
  unfold checkReserve at h
  split at h
  · cases h
  · rename_i hb
    split at h
    · cases h
    · rename_i hp
      exact ⟨by simpa using hb, by simpa using hp, requestedMode_ok h⟩

/-- What a reservation comes to: nothing has happened, or the session has the resource already, or
it has been entered in the table in the mode for which it went there. -/
theorem reserve_cases (s : Session) (x : Executor) (r : Resource) (c : Bool) :
    (∃ err x', x.Idle x' ∧ s.reserve x r c = (.error err, s, x')) ∨
    ∃ mode, s.checkReserve x.device.capabilities r c = .ok mode ∧
      ((∃ held, x.device.reservations.modeOf? r s.handle = some held ∧
        s.reserve x r c
          = (.ok (.ofMode held), s.mapRecord (·.record r held), x.pass .reserve)) ∨
      (x.device.reservations.modeOf? r s.handle = none ∧
        x.device.reservations.blocker? r mode = none ∧
        s.reserve x r c
          = (.ok (.ofMode mode), s.mapRecord (·.record r mode), { x.pass .reserve with
              device := { x.device with
                reservations := x.device.reservations.enter r s.handle mode } }))) := by
  unfold reserve
  cases s.checkReserve x.device.capabilities r c with
  | error err => exact Or.inl ⟨err, x, .refl x, rfl⟩
  | ok mode =>
    rcases x.reserve_cases s.handle r mode with ⟨err, hx, -⟩ | ⟨held, hm, hx⟩ | ⟨hm, hf, hx⟩
    · simp only [hx]
      exact Or.inl ⟨err, _, .failed x .reserve, rfl⟩
    · simp only [hx]
      exact Or.inr ⟨mode, rfl, Or.inl ⟨held, hm, rfl⟩⟩
    · simp only [hx]
      exact Or.inr ⟨mode, rfl, Or.inr ⟨hm, hf, rfl⟩⟩

theorem reserve_changed (s : Session) (x : Executor) (r : Resource) (c : Bool) :
    Changed s x (s.reserve x r c).2.1 (s.reserve x r c).2.2 := by
  rcases s.reserve_cases x r c with
    ⟨err, x', hi, hx⟩ | ⟨mode, hc, ⟨held, hm, hx⟩ | ⟨hm, hf, hx⟩⟩
  · rw [hx]
    exact .idle s hi
  · obtain ⟨hb, hp, -⟩ := checkReserve_ok hc
    rw [hx]
    exact ⟨.adopt r held hb hp hm, rfl, rfl, Executor.armed_pass⟩
  · obtain ⟨hb, hp, ha⟩ := checkReserve_ok hc
    rw [hx]
    exact ⟨.grant r mode hb hp hm hf ha, rfl, rfl, Executor.armed_pass⟩

theorem release_cases (s : Session) (x : Executor) (r : Resource) :
    (∃ err x', x.Idle x' ∧ s.release x r = (.error err, s, x')) ∨
    (s.pmBound = false ∧ s.release x r
      = (.ok (), s.mapRecord (·.strike r), { x.pass .release with
          device := { x.device with
            reservations := (x.device.reservations.release r s.handle).2 } })) := by
  unfold release
  split
  · exact Or.inl ⟨_, x, .refl x, rfl⟩
  · rename_i hp
    rcases x.release_cases s.handle r with ⟨-, err, hx⟩ | ⟨o, hx⟩
    · simp only [hx]
      exact Or.inl ⟨err, _, .failed x .release, rfl⟩
    · refine Or.inr ⟨by simpa using hp, ?_⟩
      simp only [hx]

theorem release_changed (s : Session) (x : Executor) (r : Resource) :
    Changed s x (s.release x r).2.1 (s.release x r).2.2 := by
  rcases s.release_cases x r with ⟨err, x', hi, hx⟩ | ⟨hp, hx⟩
  · rw [hx]
    exact .idle s hi
  · rw [hx]
    exact ⟨.release r hp, rfl, rfl, Executor.armed_pass⟩

/-- What opening the windows comes to: nothing has happened, or they are open. -/
theorem bindPm_cases (s : Session) (contexts : ContextRegistry) (x : Executor) :
    (∃ result x', x.Idle x' ∧ s.bindPm contexts x = (result, s, x')) ∨
    (s.binding.isBound = true ∧ s.pmBound = false ∧ s.reserved ≠ [] ∧
      (∀ r ∈ s.reserved, x.device.reservations.holds r s.handle = true) ∧
      s.bindPm contexts x = (.ok (), { s with pmBound := true }, { x.pass .bind with
        device := { x.device with
          bound := Device.enterBound s.handle s.reserved x.device.bound } })) := by
  unfold bindPm
  split
  · exact Or.inl ⟨_, x, .refl x, rfl⟩
  · rename_i hb
    split
    · exact Or.inl ⟨_, x, .refl x, rfl⟩
    · rename_i hpr
      obtain ⟨hp, hr⟩ := not_or.mp hpr
      split
      · exact Or.inl ⟨_, x, .refl x, rfl⟩
      · rcases x.bind_cases s.handle s.reserved with ⟨err, hx⟩ | ⟨hh, hx⟩
        · simp only [hx]
          exact Or.inl ⟨_, _, .failed x .bind, rfl⟩
        · refine Or.inr ⟨by simpa using hb, by simpa using hp, hr, hh, ?_⟩
          simp only [hx]

theorem bindPm_changed (s : Session) (contexts : ContextRegistry) (x : Executor) :
    Changed s x (s.bindPm contexts x).2.1 (s.bindPm contexts x).2.2 := by
  rcases s.bindPm_cases contexts x with ⟨result, x', hi, hx⟩ | ⟨hb, hp, hr, hh, hx⟩
  · rw [hx]
    exact .idle s hi
  · rw [hx]
    exact ⟨.bindPm hb hp hr hh, rfl, rfl, Executor.armed_pass⟩

theorem unbindPm_cases (s : Session) (x : Executor) :
    (∃ result x', x.Idle x' ∧ s.unbindPm x = (result, s, x')) ∨
    (s.pmBound = true ∧ s.unbindPm x
      = (.ok (), { s with pmBound := false }, { x.pass .unbind with
          device := { x.device with
            bound := Device.leaveBound s.handle s.reserved x.device.bound } })) := by
  unfold unbindPm
  split
  · exact Or.inl ⟨_, x, .refl x, rfl⟩
  · rename_i hp
    rcases x.unbind_cases s.handle s.reserved with ⟨-, err, hx⟩ | hx
    · simp only [hx]
      exact Or.inl ⟨_, _, .failed x .unbind, rfl⟩
    · refine Or.inr ⟨by simpa using hp, ?_⟩
      simp only [hx]

theorem unbindPm_changed (s : Session) (x : Executor) :
    Changed s x (s.unbindPm x).2.1 (s.unbindPm x).2.2 := by
  rcases s.unbindPm_cases x with ⟨result, x', hi, hx⟩ | ⟨hp, hx⟩
  · rw [hx]
    exact .idle s hi
  · rw [hx]
    exact ⟨.unbindPm hp, rfl, rfl, Executor.armed_pass⟩

/-- Closing the windows of a session that goes takes it out of the bound sets, unless an armed
failure strikes. -/
theorem closeWindows_cases (s : Session) (x : Executor) :
    ∃ done : Bool, (x.armed = [] → done = true ∧ (s.closeWindows x).armed = []) ∧
      (s.closeWindows x).device = { x.device with bound :=
        if done && s.pmBound then Device.leaveBound s.handle s.reserved x.device.bound
        else x.device.bound } := by
  unfold closeWindows
  cases hp : s.pmBound with
  | false => exact ⟨true, fun h => ⟨rfl, h⟩, rfl⟩
  | true =>
    rcases x.unbind_cases s.handle s.reserved with ⟨ha, e, hx⟩ | hx
    · simp only [hx]
      exact ⟨false, fun h => absurd h ha, rfl⟩
    · simp only [hx]
      exact ⟨true, fun h => ⟨rfl, Executor.armed_pass h⟩, rfl⟩

/-- Giving up everything takes a session out of the table, unless an armed failure strikes. -/
theorem giveUpAll_cases (s : Session) (x : Executor) :
    ∃ done : Bool, (x.armed = [] → done = true ∧ (s.giveUpAll x).2.armed = []) ∧
      (s.giveUpAll x).2.device = { x.device with reservations :=
        if done then (x.device.reservations.releaseAll s.handle).2
        else x.device.reservations } := by
  unfold giveUpAll
  rcases x.releaseAll_cases s.handle with ⟨ha, e, hx⟩ | hx
  · simp only [hx]
    exact ⟨false, fun h => absurd h ha, rfl⟩
  · simp only [hx]
    exact ⟨true, fun h => ⟨rfl, Executor.armed_pass h⟩, rfl⟩

/-- What taking a session down leaves of the holdings: unless an armed failure strikes, the session
has nothing bound and holds nothing any more. -/
theorem teardown_cases (s : Session) (x : Executor) :
    ∃ unbound released : Bool,
      (x.armed = [] → unbound = true ∧ released = true ∧ (s.teardown x).2.armed = []) ∧
      (s.teardown x).2.device.holdings = x.device.holdings.leave s.toSessionRecord unbound released
      := by
  obtain ⟨unbound, hu, hud⟩ := s.closeWindows_cases x
  obtain ⟨released, hr, hrd⟩ := s.giveUpAll_cases (s.closeWindows x)
  refine ⟨unbound, released, ?_, ?_⟩
  · intro ha
    obtain ⟨hu, hq⟩ := hu ha
    obtain ⟨hr, hq⟩ := hr hq
    exact ⟨hu, hr, hq⟩
  · rw [teardown, Device.holdings, hrd, hud]
    rfl

/-- Taking a session down is nothing to what the device can do. -/
theorem teardown_capabilities (s : Session) (x : Executor) :
    (s.teardown x).2.device.capabilities = x.device.capabilities := by
  obtain ⟨_, -, hu⟩ := s.closeWindows_cases x
  obtain ⟨_, -, hr⟩ := s.giveUpAll_cases (s.closeWindows x)
  rw [teardown, hr, hu]

end Session

end Perfmon
