import Mathlib.Data.Finset.Card
import Perfmon.Proofs.DeadContexts
import Perfmon.Proofs.Rounds
/-!
# The outcome of a race

Sessions are spread over the contexts in turn, so as many modes are asked for in a round as there
are contexts, or sessions if these are fewer (`card_modesAsked`); and as many reservations are
granted as there are modes, whoever comes first. At the end of a round nobody is left, so the next
one begins like the first (`race_idle`), and all of them together come to the same in whatever
orders the reservations take effect (`races_come_out_alike`).
-/

namespace Perfmon

/-- A race that can be run with a configuration, on a device that grants what is raced for, and with
memory for a session. -/
structure StressOptions.Fits (o : StressOptions) (config : Config) (memory : Memory) : Prop where
  sessions : 1 ≤ o.sessions
  rounds : 1 ≤ o.rounds
  contexts : o.contextSwitched = true → 1 ≤ o.contexts
  device : config.device.profilerDevice = true
  smpc : o.contextSwitched = false → o.resource = .smpc → config.device.smpcGlobalMode = true
  staging : ∃ staging, Staging.allocate memory config.windowCapacity = .ok staging

/-- Behind each descriptor there is a context, and for reservations that follow contexts there are
as many different descriptors as the race asks for. -/
structure ContextRegistry.Offers (c : ContextRegistry) (o : StressOptions) (fds : List Descriptor) :
    Prop where
  live : ∀ fd ∈ fds, (c.resolve fd).isSome = true
  distinct : o.contextSwitched = true → fds.Nodup
  length : o.contextSwitched = true → fds.length = o.contexts

theorem ContextRegistry.Offers.length_pos {c : ContextRegistry} {o : StressOptions}
    {fds : List Descriptor} {config : Config} {memory : Memory} (ho : c.Offers o fds)
    (hf : o.Fits config memory)
    (hcs : o.contextSwitched = true) : 0 < fds.length := by
  rw [ho.length hcs]
  exact hf.contexts hcs

namespace Stress

open Engine

variable {start e : Engine} {config : Config} {memory : Memory} {contexts : ContextRegistry}
  {fds : List Descriptor} {o : StressOptions} {staging : Staging} {h : Handle} {n m : Nat}
  {order : Nat → List Handle → List Handle}

/-! ## The modes of a round -/

/-- The mode that the session which comes in at some turn asks for. -/
def modeAt (contexts : ContextRegistry) (fds : List Descriptor) (contextSwitched : Bool)
    (turn : Nat) : ReservationMode :=
  match contextSwitched, (bindingOf contexts fds turn).context? with
  | true, some ctx => .contextSwitched ctx
  | _, _ => .global

theorem bindingOf_of_live (hl : ∀ fd ∈ fds, (contexts.resolve fd).isSome = true)
    (hpos : 0 < fds.length) (turn : Nat) :
    ∃ fd ctx, fds[turn % fds.length]? = some fd ∧ contexts.resolve fd = some ctx ∧
      bindingOf contexts fds turn = .context ctx := by
  have hturn := List.getElem?_eq_getElem (Nat.mod_lt turn hpos)
  obtain ⟨ctx, hctx⟩ := Option.isSome_iff_exists.mp (hl _ (List.mem_of_getElem? hturn))
  refine ⟨_, ctx, hturn, hctx, ?_⟩
  simp only [bindingOf, hturn, Option.bind_some, hctx]

theorem checkReserve_entrant {caps : Capabilities} {r : Resource} {contextSwitched : Bool}
    (hl : ∀ fd ∈ fds, (contexts.resolve fd).isSome = true)
    (hpos : contextSwitched = true → 0 < fds.length)
    (hsmpc : contextSwitched = false → r = .smpc → caps.smpcGlobalMode = true) (turn : Nat) :
    (entrant contexts fds staging h turn).checkReserve caps r contextSwitched
      = .ok (modeAt contexts fds contextSwitched turn) := by
  have hbound : (bindingOf contexts fds turn).isBound = true := by
    unfold bindingOf
    split <;> rfl
  have hcheck : (entrant contexts fds staging h turn).checkReserve caps r contextSwitched
      = (entrant contexts fds staging h turn).requestedMode caps r contextSwitched := by
    simp [Session.checkReserve, entrant, hbound, Session.new, SessionRecord.new]
  rw [hcheck]
  cases contextSwitched with
  | false =>
    have hlegal : ¬(r = .smpc ∧ !caps.smpcGlobalMode) := by
      rintro ⟨hr, hmode⟩
      simp [hsmpc rfl hr] at hmode
    simp only [Session.requestedMode, entrant, Session.new, SessionRecord.new, if_neg hlegal]
    rfl
  | true =>
    obtain ⟨fd, ctx, -, -, hb⟩ := bindingOf_of_live hl (hpos rfl) turn
    simp [Session.requestedMode, modeAt, entrant, Session.new, SessionRecord.new, hb,
      ContextBinding.context?]

theorem isContextSwitched_modeAt {contextSwitched : Bool}
    (hl : ∀ fd ∈ fds, (contexts.resolve fd).isSome = true)
    (hpos : contextSwitched = true → 0 < fds.length) (turn : Nat) :
    (modeAt contexts fds contextSwitched turn).isContextSwitched = contextSwitched := by
  cases contextSwitched with
  | false => rfl
  | true =>
    obtain ⟨fd, ctx, -, -, hb⟩ := bindingOf_of_live hl (hpos rfl) turn
    simp [modeAt, hb, ContextBinding.context?, ReservationMode.isContextSwitched]

/-- The contexts' turns come round. -/
theorem modeAt_mod (contexts : ContextRegistry) (fds : List Descriptor) (contextSwitched : Bool)
    (turn : Nat) :
    modeAt contexts fds contextSwitched (turn % fds.length)
      = modeAt contexts fds contextSwitched turn := by
  simp only [modeAt, bindingOf, Nat.mod_mod]

/-- Sessions whose contexts differ ask for different modes. -/
theorem modeAt_inj {i j : Nat} (hc : contexts.Counted m) (ho : contexts.Offers o fds)
    (hcs : o.contextSwitched = true) (hi : i < fds.length) (hj : j < fds.length)
    (hij : modeAt contexts fds true i = modeAt contexts fds true j) : i = j := by
  obtain ⟨fd, ctx, hfd, hctx, hb⟩ := bindingOf_of_live ho.live (by omega) i
  obtain ⟨fd', ctx', hfd', hctx', hb'⟩ := bindingOf_of_live ho.live (by omega) j
  rw [Nat.mod_eq_of_lt hi] at hfd
  rw [Nat.mod_eq_of_lt hj] at hfd'
  have hsame : ctx = ctx' := by
    simpa [modeAt, hb, hb', ContextBinding.context?] using hij
  subst hsame
  obtain rfl := hc.distinct fd fd' ctx (ContextRegistry.find?_of_resolve hctx)
    (ContextRegistry.find?_of_resolve hctx')
  exact (List.getElem?_inj hi (ho.distinct hcs)).mp (hfd.trans hfd'.symm)

/-- The modes that so many sessions ask for. -/
def modesAsked (contexts : ContextRegistry) (fds : List Descriptor) (o : StressOptions) :
    Finset ReservationMode :=
  (Finset.range o.sessions).image (modeAt contexts fds o.contextSwitched)

/-- **As many modes are asked for as there are winners.** -/
theorem card_modesAsked (hc : contexts.Counted m) (ho : contexts.Offers o fds)
    (hs : 1 ≤ o.sessions) (hctx : o.contextSwitched = true → 1 ≤ o.contexts) :
    (modesAsked contexts fds o).card = o.winners := by
  unfold modesAsked StressOptions.winners
  cases hcs : o.contextSwitched with
  | false =>
    have hne : (Finset.range o.sessions).Nonempty := Finset.nonempty_range_iff.mpr (by omega)
    rw [show modeAt contexts fds false = fun _ => .global from rfl, Finset.image_const hne]
    rfl
  | true =>
    have hlen : fds.length = o.contexts := ho.length hcs
    have hpos : 1 ≤ o.contexts := hctx hcs
    -- One turn of each context is enough.
    have hround : (Finset.range o.sessions).image (modeAt contexts fds true)
        = (Finset.range (min o.contexts o.sessions)).image (modeAt contexts fds true) := by
      ext mode
      simp only [Finset.mem_image, Finset.mem_range]
      constructor
      · rintro ⟨i, hi, rfl⟩
        have hlt : i % fds.length < o.contexts := by
          rw [hlen]
          exact Nat.mod_lt i hpos
        have hle : i % fds.length ≤ i := Nat.mod_le i fds.length
        exact ⟨i % fds.length, by omega, modeAt_mod contexts fds true i⟩
      · rintro ⟨i, hi, rfl⟩
        exact ⟨i, by omega, rfl⟩
    rw [hround, Finset.card_image_of_injOn, Finset.card_range]
    · rfl
    · intro i hi j hj hij
      rw [Finset.mem_coe, Finset.mem_range] at hi hj
      exact modeAt_inj hc ho hcs (by omega) (by omega) hij

/-! ## A round -/

/-- An undisturbed engine on which so many sessions have been opened and nobody is left. -/
structure Idle (start : Engine) (n : Nat) (e : Engine) : Prop where
  passes : Passes start n e
  nobody : ∀ h, e.sessions.contains h = false

theorem Idle.reached (hi : Idle start n e) (hs : Engine.start config memory = .ok start)
    (hn : n < UInt32.size) : e.ReachedUndisturbed config := by
  obtain ⟨⟨calls, hc, rfl, rfl⟩, -⟩ := hi
  exact ⟨memory, start, calls, hs, hc, hn, rfl⟩

theorem Idle.consistent (hi : Idle start n e) (hs : Engine.start config memory = .ok start)
    (hn : n < UInt32.size) : e.ledger.Consistent n := by
  obtain ⟨-, rfl⟩ := eq_fresh_of_start hs
  have hc := hi.passes.consistent (consistent_fresh config memory) (by omega)
  rwa [Nat.zero_add] at hc

theorem Idle.admits (hi : Idle start n e) (hs : Engine.start config memory = .ok start)
    (hd : config.device.profilerDevice = true)
    (hm : Staging.allocate memory config.windowCapacity = .ok staging) :
    e.Admits .device staging := by
  obtain ⟨-, rfl⟩ := eq_fresh_of_start hs
  exact hi.passes.admits ⟨hd, hm⟩

theorem Idle.capabilities (hi : Idle start n e) (hs : Engine.start config memory = .ok start) :
    e.device.capabilities = config.device := by
  obtain ⟨-, rfl⟩ := eq_fresh_of_start hs
  exact hi.passes.capabilities

/-- The mode that the session with a handle asks for. -/
def asks (contexts : ContextRegistry) (fds : List Descriptor) (contextSwitched : Bool)
    (hs : List Handle) (h : Handle) : ReservationMode :=
  modeAt contexts fds contextSwitched (hs.idxOf h)

theorem toFinset_map_asks {hs order : List Handle} (hnodup : hs.Nodup)
    (hlen : hs.length = o.sessions) (hp : order.Perm hs) :
    (order.map (asks contexts fds o.contextSwitched hs)).toFinset = modesAsked contexts fds o := by
  ext mode
  simp only [modesAsked, List.mem_toFinset, List.mem_map, hp.mem_iff, Finset.mem_image,
    Finset.mem_range]
  constructor
  · rintro ⟨h, hh, rfl⟩
    exact ⟨hs.idxOf h, hlen ▸ List.idxOf_lt_length_of_mem hh, rfl⟩
  · rintro ⟨i, hi, rfl⟩
    rw [← hlen] at hi
    refine ⟨hs[i], List.getElem_mem hi, ?_⟩
    rw [asks, hnodup.idxOf_getElem i hi]

/-- Everybody who has come in waits for a resource that nobody held before. -/
theorem Lined.waits {e' : Engine} {hs : List Handle} (hl : Lined e fds staging 0 hs e')
    (hf : o.Fits config memory) (hcaps : e.device.capabilities = config.device)
    (ho : e.contexts.Offers o fds) (hfree : e.device.reservations.holders o.resource = []) :
    ∀ h ∈ hs, Waits e' o.resource o.contextSwitched h
      (asks e.contexts fds o.contextSwitched hs h) := by
  intro h hh
  have hlt := List.idxOf_lt_length_of_mem hh
  have hent := hl.entered (hs.idxOf h) h (by rw [List.getElem?_eq_getElem hlt, List.getElem_idxOf])
  have hdevice : e'.device = e.device := by rw [device, hl.executor, device]
  rw [Nat.zero_add] at hent
  refine ⟨⟨_, hent, rfl, ?_⟩, ?_⟩
  · rw [hdevice, hcaps]
    exact checkReserve_entrant ho.live (ho.length_pos hf) hf.smpc _
  · rw [hdevice, ReservationTable.modeOf?_eq_none_iff, hfree]
    intro x hx
    cases hx

theorem race_of_phases {order : List Handle → List Handle} {hs : List Handle} {t : Tally}
    {e₁ e₂ e₃ : Engine} (hopen : openSessions fds o.sessions 0 e = .ok (hs, e₁))
    (hreserve : reserveAll o.resource o.contextSwitched (order hs) .zero e₁ = .ok (t, e₂))
    (hclose : closeSessions hs e₂ = .ok e₃)
    (hnone : e₃.device.reservations.holders o.resource = []) :
    race o fds order e = .ok (t, e₃) := by
  simp only [race, hopen, hreserve, hclose, hnone, bind, Except.bind, pure, Except.pure,
    List.length_nil]

/-- A round grants as many reservations as modes are asked for, in whatever order they take effect,
and leaves nobody behind. -/
theorem race_grants_modes {order : List Handle → List Handle}
    (hs : Engine.start config memory = .ok start) (hf : o.Fits config memory) (hi : Idle start n e)
    (ho : e.contexts.Offers o fds) (hp : ∀ hs, (order hs).Perm hs)
    (hn : n + o.sessions < UInt32.size) :
    ∃ e', race o fds order e = .ok (⟨(modesAsked e.contexts fds o).card,
        o.sessions - (modesAsked e.contexts fds o).card⟩, e') ∧
      Idle start (n + o.sessions) e' ∧ e'.contexts = e.contexts ∧
      e'.device.reservations.holders o.resource = [] := by
  obtain ⟨staging, hmem⟩ := hf.staging
  have hu := hi.reached hs (by omega)
  have hfree := (hu.vacant hi.nobody).holders o.resource
  obtain ⟨handles, e₁, hopen, hlen, hl⟩ := openSessions_lined o.sessions 0
    (hi.admits hs hf.device hmem) ho.live (hi.consistent hs (by omega)) hn
  have hwaits := hl.waits hf (hi.capabilities hs) ho hfree
  have hnone : heldModes e₁ o.resource = ∅ := by
    rw [heldModes, device, hl.executor, ← device, hfree]
    rfl
  -- All of them ask, in the order at hand.
  obtain ⟨e₂, hreserve, hphase, hstill⟩ := reserveAll_tally (t := .zero)
    ((hp handles).nodup_iff.mpr hl.nodup) (by rw [hl.executor]; exact hu.quietly.quiet)
    (fun h hh => hwaits h ((hp handles).mem_iff.mp hh))
    (fun h _ => isContextSwitched_modeAt ho.live (ho.length_pos hf) _) (by rw [hnone]; simp)
  rw [hnone, Finset.sdiff_empty, toFinset_map_asks hl.nodup hlen (hp handles),
    (hp handles).length_eq, hlen] at hreserve
  simp only [Tally.zero, Nat.zero_add] at hreserve
  -- All of them are still there, and nobody else.
  have hthere : ∀ h ∈ handles, e₂.sessions.contains h = true := by
    intro h hh
    rw [hstill, hl.contains hh]
  have hgone := hl.nobody_left hi.nobody hstill
  have hround := (hl.phase.trans hphase).trans (closeAll_phase e₂ handles)
  rw [hlen, Nat.add_zero] at hround
  have hidle : Idle start (n + o.sessions) (e₂.closeAll handles) :=
    ⟨hi.passes.trans hround.passes, hgone⟩
  have hleft := ((hidle.reached hs hn).vacant hgone).holders o.resource
  refine ⟨e₂.closeAll handles, ?_, hidle, hround.contexts, hleft⟩
  exact race_of_phases hopen hreserve (closeSessions_of_open hl.nodup hthere) hleft

/-- **A round grants as many reservations as there are winners.** -/
theorem race_idle {order : List Handle → List Handle} (hs : Engine.start config memory = .ok start)
    (hf : o.Fits config memory) (hi : Idle start n e) (hc : e.contexts.Counted m)
    (ho : e.contexts.Offers o fds) (hp : ∀ hs, (order hs).Perm hs)
    (hn : n + o.sessions < UInt32.size) :
    ∃ e', race o fds order e = .ok (⟨o.winners, o.sessions - o.winners⟩, e') ∧
      Idle start (n + o.sessions) e' ∧ e'.contexts = e.contexts ∧
      e'.device.reservations.holders o.resource = [] := by
  have hround := race_grants_modes hs hf hi ho hp hn
  rwa [card_modesAsked hc ho hf.sessions hf.contexts] at hround

/-! ## All rounds -/

theorem raceAll_idle (left round : Nat) (total : Tally)
    (hs : Engine.start config memory = .ok start) (hf : o.Fits config memory) (hi : Idle start n e) (hc : e.contexts.Counted m)
    (ho : e.contexts.Offers o fds) (hp : ∀ k hs, (order k hs).Perm hs)
    (hn : n + left * o.sessions < UInt32.size) :
    ∃ e', raceAll o fds order left round total e
        = .ok (⟨total.granted + left * o.winners,
            total.busy + left * (o.sessions - o.winners)⟩, e') ∧
      Idle start (n + left * o.sessions) e' ∧ e'.contexts = e.contexts := by
  induction left generalizing round total e n with
  | zero => exact ⟨e, by simp [raceAll], by simpa using hi, rfl⟩
  | succ left ih =>
    rw [Nat.succ_mul] at hn
    obtain ⟨e₁, hrace, hi₁, hctx₁, -⟩ := race_idle hs hf hi hc ho (hp round) (by omega)
    obtain ⟨e₂, hrest, hi₂, hctx₂⟩ := ih (round + 1)
      (total.add ⟨o.winners, o.sessions - o.winners⟩) hi₁ (by rwa [hctx₁]) (by rwa [hctx₁])
      (by omega)
    refine ⟨e₂, ?_, ?_, hctx₂.trans hctx₁⟩
    · rw [raceAll, hrace]
      dsimp only
      rw [if_pos rfl, hrest]
      simp only [Tally.add, Nat.succ_mul]
      congr 3 <;> omega
    · rw [Nat.succ_mul]
      rwa [Nat.add_assoc, Nat.add_comm o.sessions] at hi₂

/-- What is expected of the rounds of a race: each grants as many reservations as there are winners,
refuses the other sessions because the resource is held, and leaves it without a holder; and so all
rounds come to that many times as much. -/
structure Verdict (o : StressOptions) (order : Nat → List Handle → List Handle)
    (fds : List Descriptor) (e : Engine) : Prop where
  round : ∀ k < o.rounds, ∃ before after,
    raceAll o fds order k 0 .zero e
      = .ok (⟨k * o.winners, k * (o.sessions - o.winners)⟩, before) ∧
    race o fds (order k) before = .ok (⟨o.winners, o.sessions - o.winners⟩, after) ∧
    after.device.reservations.holders o.resource = []
  total : ∃ after, raceAll o fds order o.rounds 0 .zero e
    = .ok (⟨o.rounds * o.winners, o.rounds * (o.sessions - o.winners)⟩, after)

theorem verdict_of_idle (hs : Engine.start config memory = .ok start) (hf : o.Fits config memory)
    (hi : Idle start n e) (hc : e.contexts.Counted m) (ho : e.contexts.Offers o fds)
    (hp : ∀ k hs, (order k hs).Perm hs) (hn : n + o.sessions * o.rounds < UInt32.size) :
    Verdict o order fds e where
  round k hk := by
    have hle : k * o.sessions + o.sessions ≤ o.sessions * o.rounds := by
      rw [← Nat.succ_mul, Nat.mul_comm o.sessions]
      exact Nat.mul_le_mul_right o.sessions hk
    obtain ⟨before, hbefore, hib, hctx⟩ := raceAll_idle k 0 .zero hs hf hi hc ho hp (by omega)
    obtain ⟨after, hrace, -, -, hnone⟩ := race_idle hs hf hib (by rwa [hctx]) (by rwa [hctx]) (hp k)
      (by omega)
    exact ⟨before, after, by simpa [Tally.zero] using hbefore, hrace, hnone⟩
  total := by
    rw [Nat.mul_comm] at hn
    obtain ⟨after, hall, -, -⟩ := raceAll_idle o.rounds 0 .zero hs hf hi hc ho hp hn
    exact ⟨after, by simpa [Tally.zero] using hall⟩

/-! ## The contexts of a race -/

theorem createContexts_eq_performAll (fds : List Descriptor) (e : Engine) :
    createContexts fds e = e.performAll (fds.map .createContext) := by
  unfold createContexts performAll
  rw [List.foldl_map]
  rfl

theorem createContexts_passes (fds : List Descriptor) (e : Engine) :
    Passes e 0 (createContexts fds e) := by
  refine ⟨fds.map .createContext, ?_, openings_map_eq_zero (fun _ _ => rfl) e fds,
    createContexts_eq_performAll fds e⟩
  intro c hc
  obtain ⟨fd, -, rfl⟩ := List.mem_map.mp hc
  rfl

theorem sessions_createContexts (fds : List Descriptor) (e : Engine) :
    (createContexts fds e).sessions = e.sessions := by
  induction fds generalizing e with
  | nil => rfl
  | cons fd fds ih => exact ih (e.createContext fd).2

/-- What is behind a descriptor when contexts have been created. -/
theorem find?_createContexts (fds : List Descriptor) (e : Engine) (fd : Descriptor) :
    ((createContexts fds e).contexts.entries.find? fd).isSome
      = (fds.contains fd || (e.contexts.entries.find? fd).isSome) := by
  induction fds generalizing e with
  | nil => rfl
  | cons fd' fds ih =>
    show ((createContexts fds (e.createContext fd').2).contexts.entries.find? fd).isSome = _
    rw [ih]
    show (fds.contains fd || (((e.contexts.create fd').2).entries.find? fd).isSome) = _
    rw [ContextRegistry.find?_create, List.contains_cons]
    by_cases hfd : fd = fd'
    · simp [hfd]
    · have hne : (fd == fd') = false := beq_false_of_ne hfd
      rw [if_neg hfd, hne, Bool.false_or]

/-- The number of contexts, cut down to a descriptor, is a number of descriptors. -/
theorem count_lt (o : StressOptions) : (Int32.ofNat o.contexts).toInt.toNat < 0x80000000 := by
  have hlt := (Int32.ofNat o.contexts).toInt_lt
  omega

theorem length_descriptors_lt (o : StressOptions) : o.descriptors.length < 0x80000000 := by
  unfold StressOptions.descriptors
  split
  · rw [List.length_map, List.length_range]
    exact count_lt o
  · simp

theorem nonneg_of_mem_descriptors {fd : Descriptor} (hfd : fd ∈ o.descriptors) : ¬fd < 0 := by
  unfold StressOptions.descriptors at hfd
  split at hfd
  · obtain ⟨i, hi, rfl⟩ := List.mem_map.mp hfd
    have hlt := (List.mem_range.mp hi).trans (count_lt o)
    rw [Int32.lt_iff_toInt_lt, Int32.toInt_ofNat_of_lt hlt]
    exact Int.not_lt.mpr (Int.natCast_nonneg i)
  · cases hfd

theorem nodup_descriptors (o : StressOptions) : o.descriptors.Nodup := by
  unfold StressOptions.descriptors
  split
  · refine List.Nodup.map_on ?_ List.nodup_range
    intro i hi j hj hij
    have hi := (List.mem_range.mp hi).trans (count_lt o)
    have hj := (List.mem_range.mp hj).trans (count_lt o)
    have hint := congrArg Int32.toInt hij
    rw [Int32.toInt_ofNat_of_lt hi, Int32.toInt_ofNat_of_lt hj] at hint
    exact Int.ofNat_inj.mp hint
  · exact List.nodup_nil

/-- The contexts that a race creates are those that it needs, if their number fits. -/
theorem offers_createContexts (e : Engine)
    (hlen : o.contextSwitched = true → o.descriptors.length = o.contexts) :
    (createContexts o.descriptors e).contexts.Offers o o.descriptors where
  live fd hfd := by
    rw [ContextRegistry.resolve, if_neg (nonneg_of_mem_descriptors hfd), find?_createContexts]
    simp [hfd]
  distinct _ := nodup_descriptors o
  length := hlen

/-! ## All races -/

/-- **A race comes out the same in whatever orders the reservations take effect.** On a device that
allows sessions of its whole, for a race that fits the configuration: on any undisturbed engine in
which nobody is left, over any contexts that are there for it, as long as the handles suffice; and
so from the start, over the contexts that the race creates for itself. -/
theorem races_come_out_alike (hf : o.Fits config memory)
    (hs : Engine.start config memory = .ok start) (hp : ∀ k hs, (order k hs).Perm hs) :
    (∀ calls fds, (∀ c ∈ calls, c.disturbs = false) →
      start.openings calls + o.sessions * o.rounds < UInt32.size →
      calls.countP Call.creates < UInt64.size →
      (∀ h, (start.performAll calls).sessions.contains h = false) →
      (start.performAll calls).contexts.Offers o fds →
      Verdict o order fds (start.performAll calls)) ∧
    (o.sessions * o.rounds < UInt32.size →
      (o.contextSwitched = true → o.descriptors.length = o.contexts) →
      ∃ after, run o order start
        = .ok (⟨o.rounds * o.winners, o.rounds * (o.sessions - o.winners)⟩, after)) := by
  constructor
  · intro calls fds hquiet hn hcreates hnobody ho
    have hi : Idle start (start.openings calls) (start.performAll calls) :=
      ⟨⟨calls, hquiet, rfl, rfl⟩, hnobody⟩
    exact verdict_of_idle hs hf hi (counted_of_start hs calls hcreates) ho hp hn
  · intro hn hlen
    have hnone : ∀ h, start.sessions.contains h = false := by
      obtain ⟨-, rfl⟩ := eq_fresh_of_start hs
      intro h
      rfl
    have hi : Idle start 0 (createContexts o.descriptors start) := by
      refine ⟨createContexts_passes o.descriptors start, ?_⟩
      rwa [sessions_createContexts]
    have hcreates : (o.descriptors.map Call.createContext).countP Call.creates < UInt64.size := by
      have hle : (o.descriptors.map Call.createContext).countP Call.creates
          ≤ (o.descriptors.map Call.createContext).length := List.countP_le_length
      rw [List.length_map] at hle
      have hlt := length_descriptors_lt o
      exact (hle.trans_lt hlt).trans (by decide)
    have hc := counted_of_start hs (o.descriptors.map .createContext) hcreates
    rw [← createContexts_eq_performAll] at hc
    exact (verdict_of_idle hs hf hi hc (offers_createContexts start hlen) hp (by omega)).total

/-- Three sessions that race twice for the multiprocessor counters of two contexts. -/
def pairedRace : StressOptions :=
  ⟨3, .smpc, true, 2, 2, none⟩

/-- Sessions reserve in the order in which they were opened, and in odd rounds the other way
round. -/
def backAndForth (round : Nat) (hs : List Handle) : List Handle :=
  if round % 2 = 1 then hs.reverse else hs

theorem races_come_out_alike_back_and_forth :
    Verdict pairedRace backAndForth [3, 5]
      (small [.createContext 3, .openSession .device, .createContext 5, .close ⟨1⟩]) ∧
    ∃ after, run pairedRace backAndForth (fresh .small) = .ok (⟨4, 2⟩, after) := by
  have hfits : pairedRace.Fits .small .ordinary := by
    refine ⟨by decide, by decide, fun _ => by decide, rfl, ?_, ⟨_, rfl⟩⟩
    intro hcs
    cases hcs
  have hperm : ∀ k hs, (backAndForth k hs).Perm hs := by
    intro k hs
    unfold backAndForth
    split
    · exact List.reverse_perm hs
    · exact List.Perm.refl hs
  have hstart : Engine.start .small = .ok (fresh .small) := rfl
  obtain ⟨hany, hown⟩ := races_come_out_alike hfits hstart hperm
  refine ⟨?_, hown (by decide) (fun _ => rfl)⟩
  refine hany _ _ (by decide) (by decide) (by decide) (fun _ => rfl) ?_
  refine ⟨?_, fun _ => by decide, fun _ => rfl⟩
  intro fd hfd
  rcases List.mem_cons.mp hfd with rfl | hfd
  · rfl
  · obtain rfl := List.mem_singleton.mp hfd
    rfl

/-! ## Races that come out otherwise -/

/-- A configuration with the largest window that can be configured. -/
def vastWindow : Config :=
  ⟨UInt64.size - 1, 16, 32, {}⟩

/-- One round of eight sessions that race for the legacy counters. -/
def plainRace : StressOptions :=
  ⟨8, .hwpmLegacy, false, 1, 1, none⟩

/-- One round of two sessions that race for the legacy counters of a context each. -/
def twinRace : StressOptions :=
  ⟨2, .hwpmLegacy, true, 2, 1, none⟩

theorem createContexts_append (fds fds' : List Descriptor) (e : Engine) :
    createContexts (fds ++ fds') e = createContexts fds' (createContexts fds e) :=
  List.foldl_append

theorem created_createContexts (fds : List Descriptor) (e : Engine) :
    (createContexts fds e).contexts.created = e.contexts.created + UInt64.ofNat fds.length := by
  induction fds generalizing e with
  | nil => simp [createContexts]
  | cons fd fds ih =>
    show (createContexts fds (e.createContext fd).2).contexts.created = _
    rw [ih]
    show e.contexts.created + 1 + UInt64.ofNat fds.length = _
    rw [List.length_cons, Nat.add_comm, UInt64.ofNat_add, UInt64.add_assoc]
    rfl

/-- A context stays behind its descriptor when others are created behind others. -/
theorem find?_createContexts_of_not_mem {fd : Descriptor} (hfd : fd ∉ fds) (e : Engine) :
    (createContexts fds e).contexts.entries.find? fd = e.contexts.entries.find? fd := by
  induction fds generalizing e with
  | nil => rfl
  | cons fd' fds ih =>
    rw [List.mem_cons, not_or] at hfd
    show (createContexts fds (e.createContext fd').2).contexts.entries.find? fd = _
    rw [ih hfd.2]
    show (e.contexts.create fd').2.entries.find? fd = _
    rw [ContextRegistry.find?_create, if_neg hfd.1]

/-- Behind a descriptor there is the context that was created last. -/
theorem find?_createContexts_replicate (fd : Descriptor) (k : Nat) (e : Engine) :
    (createContexts (List.replicate (k + 1) fd) e).contexts.entries.find? fd
      = some ⟨e.contexts.created + UInt64.ofNat (k + 1)⟩ := by
  rw [List.replicate_succ', createContexts_append]
  show ((createContexts (List.replicate k fd) e).contexts.create fd).2.entries.find? fd = _
  rw [ContextRegistry.find?_create, if_pos rfl, ContextRegistry.nextId, created_createContexts,
    List.length_replicate, UInt64.ofNat_add, UInt64.add_assoc]
  rfl

/-- Two descriptors that lead to the same context make one winner. -/
theorem card_modesAsked_of_shared {ctx : ContextId} (h₀ : contexts.resolve 0 = some ctx)
    (h₁ : contexts.resolve 1 = some ctx) : (modesAsked contexts [0, 1] twinRace).card = 1 := by
  have hfirst : modeAt contexts [0, 1] true 0 = .contextSwitched ctx := by
    simp [modeAt, bindingOf, h₀, ContextBinding.context?]
  have hsecond : modeAt contexts [0, 1] true 1 = .contextSwitched ctx := by
    simp [modeAt, bindingOf, h₁, ContextBinding.context?]
  show ((Finset.range 2).image (modeAt contexts [0, 1] true)).card = 1
  rw [Finset.range_add_one, Finset.image_insert, Finset.range_one, Finset.image_singleton, hfirst,
    hsecond, Finset.insert_eq_of_mem (Finset.mem_singleton_self _), Finset.card_singleton]

/-- A context is created behind the first descriptor, and others, one after the other, behind the
second one. -/
def renewed (k : Nat) : Engine :=
  createContexts (List.replicate (k + 1) 1) ((fresh .small).createContext 0).2

theorem find?_renewed_zero (k : Nat) : (renewed k).contexts.entries.find? 0 = some ⟨1⟩ := by
  have hnot : (0 : Descriptor) ∉ List.replicate (k + 1) (1 : Descriptor) := by
    intro hmem
    cases List.eq_of_mem_replicate hmem
  rw [renewed, find?_createContexts_of_not_mem hnot]
  rfl

theorem find?_renewed_one (k : Nat) :
    (renewed k).contexts.entries.find? 1 = some ⟨1 + UInt64.ofNat (k + 1)⟩ := by
  rw [renewed, find?_createContexts_replicate]
  rfl

theorem renewed_idle (k : Nat) : Idle (fresh .small) 0 (renewed k) := by
  have hfirst : Passes (fresh .small) 0 ((fresh .small).createContext 0).2 :=
    createContexts_passes [0] (fresh .small)
  refine ⟨hfirst.trans (createContexts_passes _ _), ?_⟩
  intro h
  rw [renewed, sessions_createContexts]
  rfl

/-- When the identifiers have come round, two descriptors lead to one context, and a race for both
grants one reservation instead of two. -/
theorem raceAll_renewed {k : Nat} (hk : UInt64.ofNat (k + 1) = 0)
    (hp : ∀ hs, (order 0 hs).Perm hs) :
    (renewed k).contexts.Offers twinRace [0, 1] ∧
      raceAll twinRace [0, 1] order 1 0 .zero (renewed k) = .error (.unexpected 0 1 2) := by
  have h₀ : (renewed k).contexts.resolve 0 = some ⟨1⟩ := by
    rw [ContextRegistry.resolve, if_neg (by decide), find?_renewed_zero]
  have h₁ : (renewed k).contexts.resolve 1 = some ⟨1⟩ := by
    rw [ContextRegistry.resolve, if_neg (by decide), find?_renewed_one, hk]
    rfl
  have hoffers : (renewed k).contexts.Offers twinRace [0, 1] := by
    refine ⟨?_, fun _ => by decide, fun _ => rfl⟩
    intro fd hfd
    rcases List.mem_cons.mp hfd with rfl | hfd
    · rw [h₀, Option.isSome_some]
    · obtain rfl := List.mem_singleton.mp hfd
      rw [h₁, Option.isSome_some]
  have hfits : twinRace.Fits .small .ordinary := by
    refine ⟨by decide, by decide, fun _ => by decide, rfl, ?_, ⟨_, rfl⟩⟩
    intro hcs
    cases hcs
  have hstart : Engine.start .small = .ok (fresh .small) := rfl
  obtain ⟨after, hrace, -⟩ := race_grants_modes hstart hfits (renewed_idle k) hoffers hp (by decide)
  rw [card_modesAsked_of_shared h₀ h₁] at hrace
  refine ⟨hoffers, ?_⟩
  rw [raceAll, hrace]
  rfl

/-- No machine has memory for a session with the largest window. -/
theorem openSession_vast (memory : Memory) :
    (fresh vastWindow memory).openSession .device
      = (.error (.noMemory "register op copy window"), fresh vastWindow memory) := by
  have hvast : largestPiece < vastWindow.windowCapacity * Staging.callerOpSize := by decide
  have hmemory : Staging.allocate (fresh vastWindow memory).memory
      (fresh vastWindow memory).config.windowCapacity
        = .error (.noMemory "register op copy window") :=
    Staging.allocate_of_vast memory hvast
  unfold openSession
  rw [hmemory]
  rfl

/-- **Races can come out otherwise.** Without memory for a session none can be run, and when the
identifiers of contexts have come round one descriptor may stand for the context of another. -/
theorem races_can_come_out_otherwise :
    (vastWindow.device.profilerDevice = true ∧ plainRace.check = .ok () ∧
      plainRace.sessions * plainRace.rounds < UInt32.size ∧
      ∀ memory, Engine.start vastWindow memory = .ok (fresh vastWindow memory) ∧
        ∀ order, run plainRace order (fresh vastWindow memory)
          = .error (.session (.noMemory "register op copy window"))) ∧
    (renewed (UInt64.size - 1)).contexts.Offers twinRace [0, 1] ∧
    raceAll twinRace [0, 1] (fun _ hs => hs) 1 0 .zero (renewed (UInt64.size - 1))
      = .error (.unexpected 0 1 2) := by
  refine ⟨⟨rfl, rfl, by decide, fun memory => ⟨rfl, fun order => ?_⟩⟩, ?_⟩
  · show raceAll plainRace [] order 1 0 .zero (fresh vastWindow memory) = _
    rw [raceAll, race, show plainRace.sessions = 7 + 1 from rfl, openSessions, openSession_vast]
    rfl
  have hround : UInt64.ofNat (UInt64.size - 1 + 1) = 0 := by decide
  exact raceAll_renewed hround (fun hs => .refl hs)

end Stress

end Perfmon
