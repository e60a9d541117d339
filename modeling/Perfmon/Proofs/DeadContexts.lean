import Perfmon.Proofs.ExecGate
/-!
# Dead contexts do not come back

Identifiers of contexts are handed out by counting, so an identifier that is in use is one of those
handed out (`ContextRegistry.Counted`), and one that has been handed out and is not in use is gone
for good (`ContextRegistry.Gone`): no descriptor leads to it again, whichever context the descriptor
is given next. A session keeps the identifier of its context and not the descriptor, and is asked
whether the context exists before each batch, so a session that is left with a dead context executes
nothing any more.
-/

namespace Perfmon

/-- Whether a call creates a context. -/
def Call.creates : Call → Bool
  | .createContext _ => true
  | _ => false

/-! ## The registry -/

namespace ContextRegistry

variable {c : ContextRegistry} {ctx : ContextId} {fd : Descriptor} {n : Nat} {call : Call}
  {calls : List Call}

/-- A context exists if it is behind some descriptor, be it one that no caller can name. -/
theorem isLive_iff : c.isLive ctx = true ↔ ∃ fd, c.entries.find? fd = some ctx := by
  unfold isLive
  rw [List.contains_iff_mem, Assoc.values, List.mem_map]
  constructor
  · rintro ⟨⟨fd, _⟩, hmem, rfl⟩
    exact ⟨fd, (c.entries.mem_entries_iff).mp hmem⟩
  · rintro ⟨fd, hfd⟩
    exact ⟨(fd, ctx), (c.entries.mem_entries_iff).mpr hfd, rfl⟩

theorem find?_of_resolve (h : c.resolve fd = some ctx) : c.entries.find? fd = some ctx := by
  unfold resolve at h
  split at h
  · cases h
  · exact h

/-- The registry after a call. -/
def after (c : ContextRegistry) : Call → ContextRegistry
  | .createContext fd => (c.create fd).2
  | .destroyContext fd => (c.destroy fd).2
  | _ => c

/-- An identifier has been handed out. -/
def Issued (c : ContextRegistry) (ctx : ContextId) : Prop :=
  1 ≤ ctx.number.toNat ∧ ctx.number.toNat ≤ c.created.toNat

/-- The identifiers in use are among those that have been handed out, and no two descriptors lead to
the same one. -/
structure Counted (c : ContextRegistry) (n : Nat) : Prop where
  created : c.created.toNat = n
  issued : ∀ fd ctx, c.entries.find? fd = some ctx → c.Issued ctx
  distinct : ∀ fd fd' ctx, c.entries.find? fd = some ctx → c.entries.find? fd' = some ctx →
    fd = fd'

/-- A context that existed and does not exist any more. -/
def Gone (c : ContextRegistry) (ctx : ContextId) : Prop :=
  c.Issued ctx ∧ ∀ fd, c.entries.find? fd ≠ some ctx

theorem counted_empty : empty.Counted 0 :=
  ⟨rfl, fun _ _ h => (nomatch h), fun _ _ _ h => (nomatch h)⟩

theorem toNat_nextId (c : ContextRegistry) :
    c.nextId.number.toNat = (c.created.toNat + 1) % UInt64.size :=
  UInt64.toNat_add c.created 1

/-- The next identifier has not been handed out, not even when the numbers start over at zero. -/
theorem not_issued_nextId (c : ContextRegistry) : ¬c.Issued c.nextId := by
  have hc := c.created.toNat_lt_size
  have hn := c.toNat_nextId
  rintro ⟨hpos, hle⟩
  rcases Nat.lt_or_eq_of_le hc with hlt | heq
  · rw [Nat.mod_eq_of_lt hlt] at hn
    omega
  · rw [← heq, Nat.mod_self] at hn
    omega

theorem toNat_created_create (fd : Descriptor) (hn : c.created.toNat + 1 < UInt64.size) :
    (c.create fd).2.created.toNat = c.created.toNat + 1 :=
  c.toNat_nextId.trans (Nat.mod_eq_of_lt hn)

theorem issued_nextId (hn : c.created.toNat + 1 < UInt64.size) :
    (c.create fd).2.Issued c.nextId := by
  have hnext := toNat_created_create fd hn
  exact ⟨by rw [show c.nextId.number.toNat = _ from hnext]; omega, Nat.le_refl _⟩

/-- What has been handed out stays handed out. -/
theorem Issued.create (h : c.Issued ctx) (hn : c.created.toNat + 1 < UInt64.size) :
    (c.create fd).2.Issued ctx := by
  obtain ⟨hpos, hle⟩ := h
  refine ⟨hpos, ?_⟩
  rw [toNat_created_create fd hn]
  omega

theorem find?_create {d : Descriptor} :
    (c.create fd).2.entries.find? d = if d = fd then some c.nextId else c.entries.find? d :=
  Assoc.find?_insert c.entries fd d c.nextId

theorem find?_destroy {d : Descriptor} :
    (c.destroy fd).2.entries.find? d = if d = fd then none else c.entries.find? d :=
  Assoc.find?_erase c.entries fd d

theorem Counted.create (h : c.Counted n) (hn : n + 1 < UInt64.size) :
    (c.create fd).2.Counted (n + 1) := by
  obtain ⟨hcreated, hissued, hdistinct⟩ := h
  rw [← hcreated] at hn
  -- Behind any other descriptor there is a context that had been handed out before.
  have hnew : ∀ d, c.entries.find? d ≠ some c.nextId := fun d hd =>
    c.not_issued_nextId (hissued d _ hd)
  refine ⟨?_, fun d ctx hd => ?_, fun d d' ctx hd hd' => ?_⟩
  · rw [toNat_created_create fd hn, hcreated]
  · rw [find?_create] at hd
    split at hd
    · cases hd
      exact issued_nextId hn
    · exact (hissued d ctx hd).create hn
  · rw [find?_create] at hd hd'
    split at hd <;> split at hd'
    · rename_i hdfd hdfd'
      rw [hdfd, hdfd']
    · cases hd
      exact absurd hd' (hnew d')
    · cases hd'
      exact absurd hd (hnew d)
    · exact hdistinct d d' ctx hd hd'

theorem Counted.destroy (h : c.Counted n) : (c.destroy fd).2.Counted n := by
  obtain ⟨hcreated, hissued, hdistinct⟩ := h
  have hold : ∀ {d ctx}, (c.destroy fd).2.entries.find? d = some ctx →
      c.entries.find? d = some ctx := by
    intro d ctx hd
    rw [find?_destroy] at hd
    split at hd
    · cases hd
    · exact hd
  exact ⟨hcreated, fun d ctx hd => hissued d ctx (hold hd),
    fun d d' ctx hd hd' => hdistinct d d' ctx (hold hd) (hold hd')⟩

/-- **A context that has gone does not come back.** -/
theorem Gone.create (h : c.Gone ctx) (hn : c.created.toNat + 1 < UInt64.size) :
    (c.create fd).2.Gone ctx := by
  obtain ⟨hissued, hgone⟩ := h
  refine ⟨hissued.create hn, fun d hd => ?_⟩
  rw [find?_create] at hd
  split at hd
  · cases hd
    exact c.not_issued_nextId hissued
  · exact hgone d hd

theorem Gone.destroy (h : c.Gone ctx) : (c.destroy fd).2.Gone ctx := by
  obtain ⟨hissued, hgone⟩ := h
  refine ⟨hissued, fun d hd => ?_⟩
  rw [find?_destroy] at hd
  split at hd
  · cases hd
  · exact hgone d hd

/-! ## Calls and the registry -/

/-- The registry behind calls, which keeps whatever creating and destroying contexts keep. -/
theorem Counted.after (h : c.Counted n) (hn : n + [call].countP Call.creates < UInt64.size) :
    (c.after call).Counted (n + [call].countP Call.creates) := by
  cases call with
  | createContext fd => exact h.create hn
  | destroyContext fd => exact h.destroy
  | _ => exact h

theorem Issued.after (h : c.Counted n) (hn : n + [call].countP Call.creates < UInt64.size)
    (hi : c.Issued ctx) : (c.after call).Issued ctx := by
  cases call with
  | createContext fd => exact hi.create (by rw [h.created]; exact hn)
  | _ => exact hi

theorem Gone.after (h : c.Counted n) (hn : n + [call].countP Call.creates < UInt64.size)
    (hg : c.Gone ctx) : (c.after call).Gone ctx := by
  cases call with
  | createContext fd => exact hg.create (by rw [h.created]; exact hn)
  | destroyContext fd => exact hg.destroy
  | _ => exact hg

/-- What a registry with so many identifiers handed out keeps at every call, it keeps along calls,
as long as the numbers suffice. -/
theorem Counted.induction {motive : ContextRegistry → Prop}
    (step : ∀ c n call, c.Counted n → n + [call].countP Call.creates < UInt64.size → motive c →
      motive (c.after call)) :
    ∀ (calls : List Call) {c : ContextRegistry} {n : Nat}, c.Counted n →
      n + calls.countP Call.creates < UInt64.size → motive c →
      (calls.foldl ContextRegistry.after c).Counted (n + calls.countP Call.creates) ∧
        motive (calls.foldl ContextRegistry.after c)
  | [], _, _, h, _, hm => ⟨h, hm⟩
  | call :: calls, c, n, h, hn, hm => by
    rw [← List.singleton_append, List.countP_append, ← Nat.add_assoc] at hn ⊢
    exact Counted.induction step calls (h.after (by omega)) hn (step c n call h (by omega) hm)

theorem Counted.issued_of_isLive (h : c.Counted n) (hl : c.isLive ctx = true) : c.Issued ctx := by
  obtain ⟨fd, hfd⟩ := isLive_iff.mp hl
  exact h.issued fd ctx hfd

theorem Issued.gone (hi : c.Issued ctx) (hl : c.isLive ctx = false) : c.Gone ctx := by
  refine ⟨hi, fun fd hfd => ?_⟩
  rw [isLive_iff.mpr ⟨fd, hfd⟩] at hl
  cases hl

theorem Gone.not_isLive (h : c.Gone ctx) : c.isLive ctx = false := by
  rw [Bool.eq_false_iff]
  intro hl
  obtain ⟨fd, hfd⟩ := isLive_iff.mp hl
  exact h.2 fd hfd

end ContextRegistry

namespace Engine

variable {e start : Engine} {ctx : ContextId} {config : Config} {memory : Memory}
  {calls : List Call} {s : Session} {h : Handle} {count : Nat} {mode : ExecMode}

/-- No call but those that create and destroy contexts changes the registry. -/
theorem perform_contexts (e : Engine) (c : Call) :
    (e.perform c).2.contexts = e.contexts.after c := by
  have haddressed : ∀ {d : Call} {h : Handle}, d.target? = some h → d.isRequest = false →
      (e.perform d).2.contexts = e.contexts := by
    intro d h ht hd
    obtain ⟨sessions, x, power, metrics, trail, he, -⟩ := addressed_frame (e := e) ht hd
    rw [he]
  cases c with
  | createContext | destroyContext | poke | injectFault | clearFaults | armPowerFailure
    | armFailure => rfl
  | openSession scope =>
    change (e.openSession scope).2.contexts = e.contexts
    rcases e.openSession_cases scope with ⟨err, ho⟩ | ⟨staging, metrics, -, ho⟩ <;> rw [ho]
  | close | bindContext | unbindContext | reserve | release | bindPm | unbindPm | info | execute =>
    exact haddressed rfl rfl
  | control h word arg buffer =>
    rcases e.perform_cases (.control h word arg buffer) with
      ⟨-, -, metrics, hc⟩ | ⟨d, -, hd, ht, -, metrics, hc⟩
    · rw [hc]
      rfl
    · rw [hc]
      exact haddressed ht hd

theorem performAll_contexts (e : Engine) (calls : List Call) :
    (e.performAll calls).contexts = calls.foldl ContextRegistry.after e.contexts := by
  induction calls generalizing e with
  | nil => rfl
  | cons c calls ih => rw [List.foldl_cons, ← perform_contexts, ← ih]; rfl

/-- Along a run the registry stays counted, as long as the numbers suffice, and keeps whatever calls
keep of it. -/
theorem performAll_registry {motive : ContextRegistry → Prop}
    (step : ∀ c n call, c.Counted n → n + [call].countP Call.creates < UInt64.size → motive c →
      motive (c.after call)) (calls : List Call) {n : Nat} (hc : e.contexts.Counted n)
    (hn : n + calls.countP Call.creates < UInt64.size) (hm : motive e.contexts) :
    (e.performAll calls).contexts.Counted (n + calls.countP Call.creates) ∧
      motive (e.performAll calls).contexts := by
  rw [performAll_contexts]
  exact hc.induction step calls hn hm

theorem counted_of_start (hs : Engine.start config memory = .ok start) (calls : List Call)
    (hn : calls.countP Call.creates < UInt64.size) :
    (start.performAll calls).contexts.Counted (calls.countP Call.creates) := by
  obtain ⟨-, rfl⟩ := eq_fresh_of_start hs
  obtain ⟨hcounted, -⟩ := performAll_registry (e := fresh config memory) (motive := fun _ => True)
    (fun _ _ _ _ _ _ => trivial) calls ContextRegistry.counted_empty (by omega) trivial
  rwa [Nat.zero_add] at hcounted

/-- A session is refused to execute anything in a context that does not exist, for the state it is
in. -/
theorem checkExec_of_not_isLive (hb : s.binding = .context ctx)
    (hl : e.contexts.isLive ctx = false) (hpos : 1 ≤ count) (hle : count ≤ e.config.maxRegOps) :
    ∃ reason, e.checkExec s count = .error (.invalidState reason) := by
  have hstale : s.checkContext e.contexts = .error (.staleContext ctx) := by
    rw [Session.checkContext, hb]
    simp only [ContextBinding.context?, hl, Bool.not_false, if_true]
  unfold checkExec
  rw [if_neg (by omega), if_neg (by omega)]
  split
  · exact ⟨_, rfl⟩
  · exact ⟨_, hstale⟩

/-- What is so of a context that does not exist any more: it is not behind any descriptor, no
context that is created is this one, and whoever is bound to it and attempts to execute a batch of a
size that is allowed is refused for the state it is in, with everything left as it was but the
counts. -/
structure Buried (e : Engine) (ctx : ContextId) : Prop where
  notLive : e.contexts.isLive ctx = false
  unresolved : ∀ fd, e.contexts.resolve fd ≠ some ctx
  notCreated : ∀ fd, (e.createContext fd).1 ≠ ctx
  refused : ∀ c h s buffer count mode, e.sessions.find? h = some s → s.binding = .context ctx →
    e.asDirect? c = some (.execute h buffer count mode) → 1 ≤ count →
    count ≤ e.config.maxRegOps →
    ∃ reason metrics, (e.perform c).1.error? = some (.invalidState reason) ∧
      (e.perform c).2 = { e with metrics }

theorem buried_of_gone (hg : e.contexts.Gone ctx) : e.Buried ctx where
  notLive := hg.not_isLive
  unresolved fd hfd := hg.2 fd (ContextRegistry.find?_of_resolve hfd)
  notCreated fd := by
    rintro rfl
    exact e.contexts.not_issued_nextId hg.1
  refused := by
    intro c h s buffer count mode hs hb hd hpos hle
    obtain ⟨reason, hx⟩ := checkExec_of_not_isLive hb hg.not_isLive hpos hle
    have hexec : e.perform (.execute h buffer count mode)
        = (.executed ⟨.error (.invalidState reason), buffer, []⟩, e) := by
      simp only [perform, execute, hs, hx]
    rcases e.perform_cases c with ⟨hn, -⟩ | ⟨d, hd', -, -, herr, metrics, hc⟩
    · cases hn.symm.trans hd
    · obtain rfl := Option.some.inj (hd'.symm.trans hd)
      rw [hexec] at herr hc
      exact ⟨reason, metrics, herr, hc⟩

/-- **Dead contexts stay dead.** However many sessions are opened, and whatever is called in
between, as long as fewer contexts are created than there are numbers: different descriptors stand
for different contexts; what a descriptor is resolved to exists; and a context that existed at some
point of the run and did not exist at a later one is buried ever after. -/
theorem dead_contexts_stay_dead (hs : Engine.start config memory = .ok start)
    (hn : calls.countP Call.creates < UInt64.size) :
    (∀ fd fd' ctx, (start.performAll calls).contexts.entries.find? fd = some ctx →
      (start.performAll calls).contexts.entries.find? fd' = some ctx → fd = fd') ∧
    (∀ fd ctx, (start.performAll calls).contexts.resolve fd = some ctx →
      (start.performAll calls).contexts.isLive ctx = true) ∧
    ∀ first between later ctx, calls = first ++ between ++ later →
      (start.performAll first).contexts.isLive ctx = true →
      (start.performAll (first ++ between)).contexts.isLive ctx = false →
      (start.performAll calls).Buried ctx := by
  refine ⟨(counted_of_start hs calls hn).distinct, fun fd ctx hfd => ?_, ?_⟩
  · exact ContextRegistry.isLive_iff.mpr ⟨fd, ContextRegistry.find?_of_resolve hfd⟩
  · rintro first between later ctx rfl hlive hdead
    simp only [List.countP_append] at hn
    have hfirst := counted_of_start hs first (by omega)
    -- It was handed out when it existed, and is still when it does not exist any more.
    obtain ⟨hcounted, hissued⟩ := performAll_registry (motive := (·.Issued ctx))
      (fun _ _ _ hc hn hi => hi.after hc hn) between hfirst (by omega)
      (hfirst.issued_of_isLive hlive)
    rw [← performAll_append] at hcounted hissued
    obtain ⟨-, hgone⟩ := performAll_registry (motive := (·.Gone ctx))
      (fun _ _ _ hc hn hg => hg.after hc hn) later hcounted (by omega) (hissued.gone hdead)
    rw [performAll_append]
    exact buried_of_gone hgone

/-- A run in which the context of a session that has its windows open is destroyed, and other
contexts are created behind the same descriptor. -/
def buriedRun : List Call :=
  [.createContext 3, .openSession .device, .bindContext ⟨1⟩ (some 3), .reserve ⟨1⟩ .smpc true,
    .bindPm ⟨1⟩, .destroyContext 3, .createContext 3, .createContext (-4), .createContext 3]

theorem dead_contexts_stay_dead_behind_one_descriptor :
    (small buriedRun).contexts.resolve 3 = some ⟨4⟩ ∧
      (small buriedRun).contexts.entries.find? (-4) = some ⟨3⟩ ∧
      (small buriedRun).Buried ⟨1⟩ ∧ (small buriedRun).Buried ⟨2⟩ ∧
      ∃ s, (small buriedRun).sessions.find? ⟨1⟩ = some s ∧ s.pmBound = true ∧
        ∃ reason metrics,
          ((small buriedRun).perform (.execute ⟨1⟩ ⟨.list [.write32 0x419000 7], none, none⟩ 1
            .continueOnError)).1.error? = some (.invalidState reason) ∧
          ((small buriedRun).perform (.execute ⟨1⟩ ⟨.list [.write32 0x419000 7], none, none⟩ 1
            .continueOnError)).2 = { small buriedRun with metrics } := by
  have hstart : Engine.start .small = .ok (fresh .small) := rfl
  have hcount : buriedRun.countP Call.creates < UInt64.size := by decide
  obtain ⟨-, -, hburied⟩ := dead_contexts_stay_dead hstart hcount
  have hdestroyed : (small buriedRun).Buried ⟨1⟩ :=
    hburied (buriedRun.take 1) ((buriedRun.drop 1).take 5) (buriedRun.drop 6) ⟨1⟩ rfl rfl rfl
  have hreplaced : (small buriedRun).Buried ⟨2⟩ :=
    hburied (buriedRun.take 7) (buriedRun.drop 7) [] ⟨2⟩ rfl rfl rfl
  exact ⟨rfl, rfl, hdestroyed, hreplaced, _, rfl, rfl,
    hdestroyed.refused _ ⟨1⟩ _ _ 1 .continueOnError rfl rfl rfl (by decide) (by decide)⟩

end Engine

end Perfmon
