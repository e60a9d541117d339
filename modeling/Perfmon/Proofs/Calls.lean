import Perfmon.Engine.Call
import Perfmon.Proofs.Batches
/-!
# What a call comes to

Calls are addressed to a session or to nobody. A direct call to a session that is not open is
refused (`perform_of_not_open`). On an open one it is an operation, which is a change of the session
and of the executor (`perform_operation`), or a batch (`execute_touched`), or the end of the session
(`close_leaves`).

A control request either is refused whoever it is addressed to, and then nothing happens, or it is
one direct call: the engine is left as that call leaves it, and the request fails exactly if the
call does (`serve_cases`). The channel adds the count of the request and nothing else
(`control_eq`), so what is true of all direct calls is true of requests without a look at their
words and argument blocks.
-/

namespace Perfmon

/-! ## Calls and answers -/

namespace Call

/-- The session that a call is addressed to. -/
def target? : Call → Option Handle
  | .close h | .bindContext h _ | .unbindContext h | .reserve h _ _ | .release h _ | .bindPm h
  | .unbindPm h | .info h | .execute h _ _ _ | .control h _ _ _ => some h
  | .openSession _ | .createContext _ | .destroyContext _ | .poke _ _ | .injectFault _
  | .clearFaults | .armPowerFailure | .armFailure _ _ => none

/-- Whether a call goes over the control channel. -/
def isRequest : Call → Bool
  | .control _ _ _ _ => true
  | _ => false

/-- Whether a call is there to execute a batch. -/
def executes : Call → Bool
  | .execute _ _ _ _ => true
  | .control _ word _ _ => word == Request.execRegOps.word
  | _ => false

/-- Whether a call is an operation of a session: neither its end nor a batch. -/
def operates : Call → Bool
  | .bindContext _ _ | .unbindContext _ | .reserve _ _ _ | .release _ _ | .bindPm _ | .unbindPm _
  | .info _ => true
  | _ => false

/-- The answer to a call that is refused without a touch to the caller's memory. -/
def refusal (err : Error) : Call → Reply
  | .openSession _ => .opened (.error err)
  | .reserve _ _ _ => .reserved (.error err)
  | .info _ => .info (.error err)
  | .execute _ buffer _ _ => .executed ⟨.error err, buffer, []⟩
  | .control _ _ arg buffer => .controlled ⟨.error err, arg, buffer⟩
  | _ => .done (.error err)

end Call

/-- The error of a result. -/
def failure? {α : Type} : Except Error α → Option Error
  | .ok _ => none
  | .error err => some err

@[simp] theorem failure?_map {α β : Type} (f : α → β) (r : Except Error α) :
    failure? (r.map f) = failure? r := by
  cases r <;> rfl

theorem failure?_eq_none_iff {r : Except Error Unit} : failure? r = none ↔ r = .ok () := by
  cases r <;> simp [failure?]

theorem failure?_eq_some_iff {α : Type} {r : Except Error α} {err : Error} :
    failure? r = some err ↔ r = .error err := by
  cases r <;> simp [failure?]

/-- The error that an answer reports. -/
def Reply.error? : Reply → Option Error
  | .done r => failure? r
  | .opened r => failure? r
  | .reserved r => failure? r
  | .info r => failure? r
  | .executed x => failure? x.result
  | .controlled x => failure? x.result
  | .context _ => none

namespace Engine

variable {e : Engine} {h : Handle} {s : Session} {c : Call}

/-! ## Direct calls -/

/-- A direct call to a session that is not open is refused. -/
theorem perform_of_not_open (hn : e.sessions.find? h = none) (ht : c.target? = some h)
    (hd : c.isRequest = false) : e.perform c = (c.refusal (.unknownSession h), e) := by
  have hw : ∀ {α : Type} (f : Session → Executor → Except Error α × Session × Executor),
      e.withSession h f = (.error (.unknownSession h), e) := by
    intro α f
    rw [withSession, hn]
  cases c with
  | control => cases hd
  | openSession | createContext | destroyContext | poke | injectFault | clearFaults
    | armPowerFailure | armFailure => cases ht
  | close | execute | info =>
    cases ht
    simp only [perform, close, execute, info, hn, Call.refusal]
  | reserve =>
    cases ht
    simp only [perform, reserve, Assoc.contains, hn, Option.isSome_none, Bool.not_false, if_true,
      Call.refusal]
  | bindContext | unbindContext | release | bindPm | unbindPm =>
    cases ht
    simp only [perform, bindContext, unbindContext, release, bindPm, unbindPm, hw, Call.refusal]

theorem withSession_of_open {α : Type} (hs : e.sessions.find? h = some s)
    (f : Session → Executor → Except Error α × Session × Executor) :
    e.withSession h f = ((f s e.executor).1, { e with
      sessions := e.sessions.insert h (f s e.executor).2.1
      executor := (f s e.executor).2.2 }) := by
  rw [withSession, hs]

/-- An opening fails and changes nothing, or there is a new session with staging memory of its own. -/
theorem openSession_cases (e : Engine) (scope : Scope) :
    (∃ err, e.openSession scope = (.error err, e)) ∨
    ∃ staging metrics, Staging.allocate e.memory e.config.windowCapacity = .ok staging ∧
      e.openSession scope = (.ok ⟨e.nextHandle⟩, { e with
        sessions := e.sessions.insert ⟨e.nextHandle⟩ (.new ⟨e.nextHandle⟩ scope staging)
        nextHandle := e.nextHandle + 1
        metrics
        trail := e.trail.record (.sessionOpened ⟨e.nextHandle⟩ scope) }) := by
  unfold openSession
  split
  · exact Or.inl ⟨_, rfl⟩
  · cases Staging.allocate e.memory e.config.windowCapacity with
    | error err => exact Or.inl ⟨err, rfl⟩
    | ok staging => exact Or.inr ⟨staging, _, rfl, rfl⟩

/-- A reservation is counted and entered in the trail, and otherwise up to the session. -/
theorem reserve_of_open (hs : e.sessions.find? h = some s) (r : Resource) (contextSwitched : Bool) :
    ∃ metrics trail, e.reserve h r contextSwitched
      = ((s.reserve e.executor r contextSwitched).1, { e with
          sessions := e.sessions.insert h (s.reserve e.executor r contextSwitched).2.1
          executor := (s.reserve e.executor r contextSwitched).2.2, metrics, trail }) := by
  have hopen : (!e.sessions.contains h) = false := by simp [Assoc.contains, hs]
  simp only [reserve, hopen, Bool.false_eq_true, if_false, withSession_of_open hs]
  cases (s.reserve e.executor r contextSwitched).1 with
  | error err => exact ⟨_, _, rfl⟩
  | ok held => exact ⟨e.metrics, _, rfl⟩

theorem release_of_open (hs : e.sessions.find? h = some s) (r : Resource) :
    ∃ trail, e.release h r = ((s.release e.executor r).1, { e with
      sessions := e.sessions.insert h (s.release e.executor r).2.1
      executor := (s.release e.executor r).2.2, trail }) := by
  simp only [release, withSession_of_open hs]
  cases (s.release e.executor r).1 with
  | error err => exact ⟨e.trail, rfl⟩
  | ok _ => exact ⟨_, rfl⟩

/-- An operation of an open session changes the session and the executor, and may be counted and
entered in the trail. -/
theorem perform_operation (hc : c.operates = true) (ht : c.target? = some h)
    (hs : e.sessions.find? h = some s) :
    ∃ s' x' metrics trail, s.Changed e.executor s' x' ∧ (e.perform c).2
      = { e with sessions := e.sessions.insert h s', executor := x', metrics, trail } := by
  cases c with
  | bindContext k fd =>
    cases ht
    simp only [perform, bindContext, withSession_of_open hs]
    cases hb : s.bindContext e.contexts fd with
    | error err => exact ⟨s, e.executor, e.metrics, e.trail, .refl s e.executor, rfl⟩
    | ok s' => exact ⟨s', e.executor, e.metrics, e.trail, Session.bindContext_changed _ hb, rfl⟩
  | unbindContext k =>
    cases ht
    simp only [perform, unbindContext, withSession_of_open hs]
    exact ⟨_, _, e.metrics, e.trail, s.unbindContext_changed e.executor, rfl⟩
  | reserve k r contextSwitched =>
    cases ht
    obtain ⟨metrics, trail, he⟩ := reserve_of_open hs r contextSwitched
    simp only [perform, he]
    exact ⟨_, _, metrics, trail, s.reserve_changed e.executor r contextSwitched, rfl⟩
  | release k r =>
    cases ht
    obtain ⟨trail, he⟩ := release_of_open hs r
    simp only [perform, he]
    exact ⟨_, _, e.metrics, trail, s.release_changed e.executor r, rfl⟩
  | bindPm k =>
    cases ht
    simp only [perform, bindPm, withSession_of_open hs]
    exact ⟨_, _, e.metrics, e.trail, s.bindPm_changed e.contexts e.executor, rfl⟩
  | unbindPm k =>
    cases ht
    simp only [perform, unbindPm, withSession_of_open hs]
    exact ⟨_, _, e.metrics, e.trail, s.unbindPm_changed e.executor, rfl⟩
  | info k =>
    cases ht
    refine ⟨s, e.executor, e.metrics, e.trail, .refl s e.executor, ?_⟩
    rw [Assoc.insert_of_find? hs]
    rfl
  | _ => cases hc

/-- What the end of an open session leaves behind. -/
theorem close_leaves (hs : e.sessions.find? h = some s) :
    ∃ unbound released x' metrics trail,
      (e.executor.armed = [] → unbound = true ∧ released = true ∧ x'.armed = []) ∧
      x'.device.holdings = e.device.holdings.leave s.toSessionRecord unbound released ∧
      (e.close h).2
        = { e with sessions := e.sessions.erase h, executor := x', metrics, trail } := by
  obtain ⟨unbound, released, hq, ht⟩ := s.teardown_cases e.executor
  rw [close, hs]
  exact ⟨unbound, released, _, _, _, hq, ht, rfl⟩

/-- What a batch of a session leaves of the executor and of the staging memory. -/
structure Touched (s : Session) (x : Executor) (staging : Staging) (x' : Executor) : Prop where
  device : x.device.RegistersOnly x'.device
  quiet : x.armed = [] → x'.armed = []
  user : staging.user.length = s.staging.user.length
  internal : staging.device.length = s.staging.device.length

theorem Touched.refl (s : Session) (x : Executor) : Touched s x s.staging x :=
  ⟨.refl _, id, rfl, rfl⟩

theorem runBatch_touched (e : Engine) (h : Handle) (s : Session) (buffer : OpsBuffer) (count : Nat)
    (mode : ExecMode) :
    ∃ staging x' metrics, Touched s e.executor staging x' ∧
      (e.runBatch h s buffer count mode).2 = { e with
        sessions := e.sessions.insert h { s with staging }
        executor := x', metrics } := by
  have hb := Batch.run_advanced ⟨s.binding.context?, s.accessClass, mode, e.power.refs⟩
    (.ofBatch count s.staging.capacity)
    ⟨e.executor, s.staging, buffer, e.metrics, emptyReport mode, []⟩
  exact ⟨_, _, _, ⟨hb.device, hb.quiet, hb.user, hb.internal⟩, rfl⟩

theorem runBatch_power (e : Engine) (h : Handle) (s : Session) (buffer : OpsBuffer) (count : Nat)
    (mode : ExecMode) : (e.runBatch h s buffer count mode).2.power = e.power := rfl

/-- What can become of an attempt: the gate refuses it, or the device does not power on, or its
batch is run. -/
theorem execute_cases (e : Engine) (h : Handle) (buffer : OpsBuffer) (count : Nat)
    (mode : ExecMode) :
    (∃ err, (∀ s, e.sessions.find? h = some s → e.checkExec s count ≠ .ok ()) ∧
      e.execute h buffer count mode = (⟨.error err, buffer, []⟩, e)) ∨
    ∃ s, e.sessions.find? h = some s ∧ e.checkExec s count = .ok () ∧
      ((∃ err, e.power.busy.1 = .error err ∧ e.execute h buffer count mode
          = (⟨.error err, buffer, []⟩, { e with power := e.power.busy.2 })) ∨
        (e.power.busy.1 = .ok () ∧ e.execute h buffer count mode
          = (({ e with power := e.power.busy.2 }.runBatch h s buffer count mode).1,
            { ({ e with power := e.power.busy.2 }.runBatch h s buffer count mode).2 with
              power := e.power.busy.2.idle }))) := by
  unfold execute
  cases hs : e.sessions.find? h with
  | none => exact Or.inl ⟨_, fun s hs => (by cases hs), rfl⟩
  | some s =>
    cases hg : e.checkExec s count with
    | error err =>
      refine Or.inl ⟨err, fun r hr => ?_, by simp only [hg]⟩
      rw [← Option.some.inj hr, hg]
      nofun
    | ok _ =>
      refine Or.inr ⟨s, rfl, hg, ?_⟩
      simp only [hg]
      cases hp : e.power.busy with
      | mk result power =>
        cases result with
        | error err =>
          dsimp only
          exact Or.inl ⟨err, rfl, rfl⟩
        | ok _ =>
          dsimp only
          rw [runBatch_power]
          exact Or.inr ⟨rfl, rfl⟩

/-- A batch changes registers and the content of its session's staging memory; what else it leaves
behind are counts. -/
theorem execute_touched (hs : e.sessions.find? h = some s) (buffer : OpsBuffer) (count : Nat)
    (mode : ExecMode) :
    ∃ staging x' metrics power, Touched s e.executor staging x' ∧
      (e.execute h buffer count mode).2 = { e with
        sessions := e.sessions.insert h { s with staging }
        executor := x', metrics, power } := by
  -- A batch that is not let through leaves the session as it is.
  have hstay : ∀ power, { e with power } = { e with
      sessions := e.sessions.insert h { s with staging := s.staging }
      executor := e.executor, metrics := e.metrics, power } := by
    intro power
    rw [show ({ s with staging := s.staging } : Session) = s from rfl, Assoc.insert_of_find? hs]
  rcases e.execute_cases h buffer count mode with
    ⟨err, -, hx⟩ | ⟨r, hr, -, ⟨err, -, hx⟩ | ⟨-, hx⟩⟩
  · exact ⟨_, _, _, e.power, .refl s e.executor, by rw [hx]; exact hstay e.power⟩
  · exact ⟨_, _, _, _, .refl s e.executor, by rw [hx]; exact hstay _⟩
  · obtain rfl : s = r := Option.some.inj (hs.symm.trans hr)
    obtain ⟨staging, x', metrics, hb, he⟩ :=
      runBatch_touched { e with power := e.power.busy.2 } h s buffer count mode
    exact ⟨staging, x', metrics, _, hb, by rw [hx, he]⟩

/-- A direct call to a session has nothing to do with the configuration, the contexts and the handle
of the next session, nor with what the device can do. -/
theorem addressed_frame (ht : c.target? = some h) (hd : c.isRequest = false) :
    ∃ sessions executor power metrics trail,
      (e.perform c).2 = { e with sessions, executor, power, metrics, trail } ∧
        executor.device.capabilities = e.device.capabilities := by
  cases hs : e.sessions.find? h with
  | none =>
    rw [perform_of_not_open hs ht hd]
    exact ⟨e.sessions, e.executor, e.power, e.metrics, e.trail, rfl, rfl⟩
  | some s =>
    cases ho : c.operates with
    | true =>
      obtain ⟨s', x', metrics, trail, hc, he⟩ := perform_operation ho ht hs
      exact ⟨_, x', e.power, metrics, trail, he, by rw [hc.device]; rfl⟩
    | false =>
      cases c with
      | close k =>
        cases ht
        rw [perform, close, hs]
        exact ⟨_, _, e.power, _, _, rfl, s.teardown_capabilities e.executor⟩
      | execute k buffer count mode =>
        cases ht
        obtain ⟨staging, x', metrics, power, hx, he⟩ := execute_touched hs buffer count mode
        exact ⟨_, x', power, metrics, e.trail, he, hx.device.capabilities⟩
      | control => cases hd
      | openSession | createContext | destroyContext | poke | injectFault | clearFaults
        | armPowerFailure | armFailure => cases ht
      | bindContext | unbindContext | reserve | release | bindPm | unbindPm | info => cases ho

/-! ## Requests -/

variable {r : Request} {block arg : List UInt8} {buffer : Option OpsBuffer}

/-- A block as long as the word of a request says, which stands at the front of the memory that it
travels back to. -/
structure Fits (r : Request) (block arg : List UInt8) : Prop where
  length : block.length = r.argSize.toNat
  front : r.code.readsArgs = true → block ++ arg.drop r.argSize.toNat = arg

/-- There is room for a block where it is given back to. -/
theorem Fits.room (hf : Fits r block arg) (hr : r.code.readsArgs = true) :
    r.argSize.toNat ≤ arg.length := by
  have hlen := congrArg List.length (hf.front hr)
  rw [List.length_append, hf.length] at hlen
  omega

/-- What was taken from the caller's memory fits into it. A block that travels back is one that was
handed over, so the memory was found long enough before the operation. -/
theorem fits_of_takeBlock {config : Config} {word : UInt32}
    (ht : takeBlock config word arg = .ok block) (hw : Request.ofWord? word = some r) :
    Fits r block arg := by
  have hback : r.code.readsArgs = true → r.code.writesArgs = true := by
    cases r <;> decide
  obtain rfl := Request.word_of_ofWord? hw
  unfold takeBlock at ht
  rw [Request.decode_word] at ht
  dsimp only at ht
  split at ht
  · cases ht
  split at ht
  · cases ht
  split at ht
  · split at ht
    · cases ht
    · rename_i hlen
      obtain rfl := Except.ok.inj ht
      exact ⟨List.length_take_of_le (Nat.not_lt.mp hlen), fun _ => List.take_append_drop _ _⟩
  · rename_i hw
    obtain rfl := Except.ok.inj ht
    exact ⟨List.length_replicate, fun hr => absurd (hback hr) hw⟩

/-- A request whose block does not travel back comes to what its operation comes to. -/
theorem finish_unread (hr : r.code.readsArgs = false) (result : Except Error Unit) :
    finish r (result.map fun _ => block) arg buffer = ⟨result, arg, buffer⟩ := by
  cases result with
  | error err => rfl
  | ok _ => simp only [finish, Except.map, Except.bind, giveBack, hr, Bool.false_eq_true, if_false]

/-- Nothing is in the way of a block that fits when it is written and given back. -/
theorem finish_written {α : Type} [Layout α] [LawfulLayout α] (hf : Fits r block arg)
    (hr : r.code.readsArgs = true) (hs : Layout.size α = r.argSize.toNat) (a : α) :
    finish r (writeBlock block a) arg buffer
      = ⟨.ok (), Layout.toBytes a ++ arg.drop (Layout.size α), buffer⟩ := by
  have hlen : block.length = (Layout.toBytes a).length := by
    rw [hf.length, LawfulLayout.length_toBytes, hs]
  have hwrite : writeBlock block a = .ok (Layout.toBytes a) := by
    rw [writeBlock, if_neg (Nat.not_lt.mpr (Nat.le_of_eq hlen.symm)), ← hlen, List.drop_length,
      List.append_nil]
  have hgive : giveBack r (Layout.toBytes a) arg
      = .ok (Layout.toBytes a ++ arg.drop (Layout.size α)) := by
    rw [giveBack, hr, if_pos rfl, hs]
    exact if_neg (Nat.not_lt.mpr (hf.room hr))
  simp only [finish, hwrite, Except.bind, hgive]

/-- Requests that differ only in the session they are addressed to are answered by the same direct
call to these sessions. -/
structure ServedBy (e : Engine) (answer : Handle → Controlled × Engine) (arg : List UInt8)
    (buffer : Option OpsBuffer) (f : Handle → Call) : Prop where
  target : ∀ h, (f h).target? = some h
  direct : ∀ h, (f h).isRequest = false
  engine : ∀ h, (answer h).2 = (e.perform (f h)).2
  error : ∀ h, failure? (answer h).1.result = (e.perform (f h)).1.error?
  refused : ∀ h err, (e.perform (f h)).1 = (f h).refusal err →
    (answer h).1 = ⟨.error err, arg, buffer⟩

/-- What a request comes to, in whatever state: a refusal, or a direct call to the session. -/
def Comes (answer : Engine → Handle → Controlled × Engine) (arg : List UInt8)
    (buffer : Option OpsBuffer) (executes : Bool) : Prop :=
  (∃ err, ∀ e h, answer e h = (⟨.error err, arg, buffer⟩, e)) ∨
    ∃ f, (∀ e, ServedBy e (answer e) arg buffer f) ∧ ∀ h, (f h).executes = executes

/-- A request whose call answers with success or an error only. -/
theorem ServedBy.of_done {f : Handle → Call} {result : Handle → Except Error Unit × Engine}
    (unread : r.code.readsArgs = false := by decide)
    (target : ∀ h, (f h).target? = some h := by exact fun _ => rfl)
    (direct : ∀ h, (f h).isRequest = false := by exact fun _ => rfl)
    (hf : ∀ h err, (f h).refusal err = .done (.error err) := by exact fun _ _ => rfl)
    (hp : ∀ h, e.perform (f h) = (.done (result h).1, (result h).2) := by exact fun _ => rfl) :
    ServedBy e (fun h => (finish r ((result h).1.map fun _ => block) arg buffer, (result h).2)) arg
      buffer f where
  target := target
  direct := direct
  engine h := by rw [hp]
  error h := by
    rw [hp, finish_unread unread]
    rfl
  refused h err hr := by
    rw [hp, hf] at hr
    rw [finish_unread unread]
    dsimp only at hr ⊢
    rw [Reply.done.inj hr]

theorem servedBy_reserve (e : Engine) (q : Resource) (contextSwitched : Bool)
    (unread : r.code.readsArgs = false) :
    ServedBy e (fun h =>
      (finish r (((e.reserve h q contextSwitched).1.map fun _ => ()).map fun _ => block) arg buffer,
        (e.reserve h q contextSwitched).2)) arg buffer (.reserve · q contextSwitched) where
  target _ := rfl
  direct _ := rfl
  engine _ := rfl
  error h := by
    rw [finish_unread unread]
    exact failure?_map _ _
  refused h err hr := by
    have hres : (e.reserve h q contextSwitched).1 = .error err := Reply.reserved.inj hr
    rw [finish_unread unread]
    dsimp only
    rw [hres]
    rfl

/-- A request to execute a batch is answered by the attempt. -/
theorem servedBy_execute (e : Engine) {args : ExecArgs} (hd : decodeBlock ExecArgs block = .ok args)
    (hf : Fits .execRegOps block arg) (ops : OpsBuffer) :
    ServedBy e (fun h => e.controlExec h block arg (some ops)) arg (some ops)
      fun h => .execute h ops args.count.toNat (.ofRaw args.mode) where
  target _ := rfl
  direct _ := rfl
  engine h := by
    simp only [controlExec, hd]
    split <;> rfl
  error h := by
    show _ = failure? (e.execute h ops args.count.toNat (.ofRaw args.mode)).1.result
    simp only [controlExec, hd]
    split
    · rename_i hres
      rw [hres]
      rfl
    · rename_i report hres
      rw [hres, finish_written hf rfl rfl]
      rfl
  refused h err hr := by
    have hx : (e.execute h ops args.count.toNat (.ofRaw args.mode)).1 = ⟨.error err, ops, []⟩ :=
      Reply.executed.inj hr
    simp only [controlExec, hd, hx]

/-- The direct call for which a request stands, if its arguments are in order. -/
def directCall? (r : Request) (block : List UInt8) (buffer : Option OpsBuffer) :
    Option (Handle → Call) :=
  match r with
  | .bindContext =>
    (decodeBlock BindContextArgs block).toOption.map fun args h =>
      .bindContext h (descriptorOfArg args.descriptor)
  | .unbindContext => some .unbindContext
  | .reserveResource =>
    (do
      let args ← decodeBlock ReserveArgs block
      let r ← resourceOfRaw args.resource
      pure (r, args.contextSwitched)).toOption.map fun (asked : Resource × Bool) h =>
        .reserve h asked.1 asked.2
  | .releaseResource =>
    (do
      let args ← decodeBlock ReleaseArgs block
      resourceOfRaw args.resource).toOption.map fun r h => .release h r
  | .bindResources => some .bindPm
  | .unbindResources => some .unbindPm
  | .execRegOps =>
    match decodeBlock ExecArgs block, buffer with
    | .ok args, some ops => some fun h => .execute h ops args.count.toNat (.ofRaw args.mode)
    | _, _ => none

/-- What a request comes to in whatever state: a refusal, or the direct call for which it stands. -/
def ComesTo (answer : Engine → Handle → Controlled × Engine) (arg : List UInt8)
    (buffer : Option OpsBuffer) : Option (Handle → Call) → Prop
  | none => ∃ err, ∀ e h, answer e h = (⟨.error err, arg, buffer⟩, e)
  | some f => ∀ e, ServedBy e (answer e) arg buffer f

theorem controlExec_comesTo (hf : Fits .execRegOps block arg) (buffer : Option OpsBuffer) :
    ComesTo (fun e h => e.controlExec h block arg buffer) arg buffer
      (directCall? .execRegOps block buffer) := by
  unfold directCall?
  cases hd : decodeBlock ExecArgs block with
  | error err => exact ⟨err, fun e h => by simp only [controlExec, hd]⟩
  | ok args =>
    cases buffer with
    | none =>
      exact ⟨.transferFault 0 "no register op buffer supplied", fun e h => by
        simp only [controlExec, hd]⟩
    | some ops => exact fun e => servedBy_execute e hd hf ops

theorem dispatch_comesTo (hf : Fits r block arg) (buffer : Option OpsBuffer) :
    ComesTo (fun e h => e.dispatch h r block arg buffer) arg buffer
      (directCall? r block buffer) := by
  cases r with
  | bindContext =>
    unfold dispatch directCall?
    dsimp only
    cases decodeBlock BindContextArgs block with
    | error err => exact ⟨err, fun _ _ => rfl⟩
    | ok args => exact fun _ => .of_done
  | unbindContext => exact fun _ => .of_done
  | reserveResource =>
    unfold dispatch directCall?
    dsimp only
    split
    · rename_i err hd
      rw [hd]
      exact ⟨err, fun _ _ => rfl⟩
    · rename_i hd
      rw [hd]
      exact fun e => servedBy_reserve e _ _ rfl
  | releaseResource =>
    unfold dispatch directCall?
    dsimp only
    split
    · rename_i err hd
      rw [hd]
      exact ⟨err, fun _ _ => rfl⟩
    · rename_i hd
      rw [hd]
      exact fun _ => .of_done
  | bindResources => exact fun _ => .of_done
  | unbindResources => exact fun _ => .of_done
  | execRegOps => exact controlExec_comesTo hf buffer

/-- Only the request to execute a batch stands for one. -/
theorem executes_of_directCall? {f : Handle → Call}
    (hf : directCall? r block buffer = some f) (h : Handle) :
    (f h).executes = (r == .execRegOps) := by
  cases r with
  | bindContext | reserveResource | releaseResource =>
    obtain ⟨args, -, rfl⟩ := Option.map_eq_some_iff.mp hf
    rfl
  | unbindContext | bindResources | unbindResources =>
    cases hf
    rfl
  | execRegOps =>
    unfold directCall? at hf
    dsimp only at hf
    split at hf
    · cases hf
      rfl
    · cases hf

theorem dispatch_comes (hf : Fits r block arg) (buffer : Option OpsBuffer) :
    Comes (fun e h => e.dispatch h r block arg buffer) arg buffer (r == .execRegOps) := by
  have hcomes := dispatch_comesTo hf buffer
  cases hf : directCall? r block buffer with
  | none =>
    rw [hf] at hcomes
    exact Or.inl hcomes
  | some f =>
    rw [hf] at hcomes
    exact Or.inr ⟨f, hcomes, executes_of_directCall? hf⟩

/-- **A request is refused for what it says, whoever it is addressed to and whatever state the
engine is in, or it is a direct call.** -/
theorem serve_cases (e : Engine) (word : UInt32) (arg : List UInt8) (buffer : Option OpsBuffer) :
    (∃ err, ∀ e' : Engine, e'.config = e.config → ∀ h,
      e'.serve h word arg buffer = (⟨.error err, arg, buffer⟩, e')) ∨
      ∃ f, ServedBy e (fun h => e.serve h word arg buffer) arg buffer f ∧
        ∀ h, (f h).executes = (word == Request.execRegOps.word) := by
  cases ht : takeBlock e.config word arg with
  | error err =>
    refine Or.inl ⟨err, fun e' hc h => ?_⟩
    rw [serve, hc, ht]
  | ok block =>
    cases hr : Request.ofWord? word with
    | none =>
      refine Or.inl ⟨.unknownRequest word, fun e' hc h => ?_⟩
      simp only [serve, hc, ht, hr]
    | some r =>
      have hserve : ∀ e' : Engine, e'.config = e.config → ∀ h,
          e'.serve h word arg buffer = e'.dispatch h r block arg buffer := by
        intro e' hc h
        simp only [serve, hc, ht, hr]
      rcases dispatch_comes (fits_of_takeBlock ht hr) buffer with ⟨err, hd⟩ | ⟨f, hf, hx⟩
      · refine Or.inl ⟨err, fun e' hc h => ?_⟩
        rw [hserve e' hc h]
        exact hd e' h
      · refine Or.inr ⟨f, ?_, fun h => ?_⟩
        · rw [funext (hserve e rfl)]
          exact hf e
        · have hw := Request.word_of_ofWord? hr
          rw [hx h, ← hw]
          cases r <;> decide

/-- The channel adds the count of the request. -/
theorem control_eq (e : Engine) (h : Handle) (word : UInt32) (arg : List UInt8)
    (buffer : Option OpsBuffer) :
    ∃ metrics, e.control h word arg buffer
      = ((e.serve h word arg buffer).1, { (e.serve h word arg buffer).2 with metrics }) :=
  ⟨_, rfl⟩

/-- A request that is refused without an effect is counted. -/
theorem control_of_serve_error {word : UInt32} {err : Error}
    (hs : e.serve h word arg buffer = (⟨.error err, arg, buffer⟩, e)) :
    e.control h word arg buffer = (⟨.error err, arg, buffer⟩,
      { e with metrics := e.metrics.countRequest (Request.nameOfWord word) err.kind }) := by
  rw [control, hs]
  rfl

/-! ## Direct calls behind requests -/

/-- The direct call that a call comes to; a request that is refused for what it says comes to
none. -/
def asDirect? (e : Engine) : Call → Option Call
  | .control h word arg buffer =>
    match takeBlock e.config word arg, Request.ofWord? word with
    | .ok block, some r => (directCall? r block buffer).map (· h)
    | _, _ => none
  | c => some c

theorem asDirect?_of_direct (hd : c.isRequest = false) : e.asDirect? c = some c := by
  cases c with
  | control => cases hd
  | _ => rfl

/-- No request is there to close a session. -/
theorem eq_close_of_asDirect? (hc : e.asDirect? c = some (.close h)) : c = .close h := by
  cases c with
  | control k word arg buffer =>
    unfold asDirect? at hc
    dsimp only at hc
    split at hc
    · obtain ⟨f, hf, hfk⟩ := Option.map_eq_some_iff.mp hc
      rename_i r _ _
      cases r with
      | bindContext | reserveResource | releaseResource =>
        obtain ⟨args, -, rfl⟩ := Option.map_eq_some_iff.mp hf
        cases hfk
      | unbindContext | bindResources | unbindResources =>
        cases hf
        cases hfk
      | execRegOps =>
        unfold directCall? at hf
        dsimp only at hf
        split at hf
        · cases hf
          cases hfk
        · cases hf
    · cases hc
  | _ => exact Option.some.inj hc

/-- What a request is served with, if it comes to a direct call, and if it comes to none. -/
theorem serve_asDirect (e : Engine) (h : Handle) (word : UInt32) (arg : List UInt8)
    (buffer : Option OpsBuffer) :
    (e.asDirect? (.control h word arg buffer) = none ∧
      ∃ err, e.serve h word arg buffer = (⟨.error err, arg, buffer⟩, e)) ∨
    ∃ f, e.asDirect? (.control h word arg buffer) = some (f h) ∧
      ServedBy e (fun h => e.serve h word arg buffer) arg buffer f := by
  cases ht : takeBlock e.config word arg with
  | error err => exact Or.inl ⟨by simp only [asDirect?, ht], err, by rw [serve, ht]⟩
  | ok block =>
    cases hr : Request.ofWord? word with
    | none =>
      exact Or.inl ⟨by simp only [asDirect?, ht, hr], .unknownRequest word, by
        simp only [serve, ht, hr]⟩
    | some r =>
      have hserve : (fun h => e.serve h word arg buffer)
          = fun h => e.dispatch h r block arg buffer := by
        funext h
        simp only [serve, ht, hr]
      have hcomes := dispatch_comesTo (fits_of_takeBlock ht hr) buffer
      cases hf : directCall? r block buffer with
      | none =>
        rw [hf] at hcomes
        obtain ⟨err, herr⟩ := hcomes
        exact Or.inl ⟨by simp only [asDirect?, ht, hr, hf, Option.map_none], err,
          (congrFun hserve h).trans (herr e h)⟩
      | some f =>
        rw [hf] at hcomes
        exact Or.inr ⟨f, by simp only [asDirect?, ht, hr, hf, Option.map_some],
          hserve ▸ hcomes e⟩

/-- **A call is refused for what it says, or it does what the direct call does to which it comes.**
The channel adds the count of the request. -/
theorem perform_cases (e : Engine) (c : Call) :
    (e.asDirect? c = none ∧ (∃ err, (e.perform c).1.error? = some err) ∧
      ∃ metrics, (e.perform c).2 = { e with metrics }) ∨
    ∃ d, e.asDirect? c = some d ∧ d.isRequest = false ∧ d.target? = c.target? ∧
      (e.perform c).1.error? = (e.perform d).1.error? ∧
      ∃ metrics, (e.perform c).2 = { (e.perform d).2 with metrics } := by
  cases hd : c.isRequest with
  | false => exact Or.inr ⟨c, asDirect?_of_direct hd, hd, rfl, rfl, _, rfl⟩
  | true =>
    cases c with
    | control h word arg buffer =>
      obtain ⟨metrics, hc⟩ := e.control_eq h word arg buffer
      rw [perform, hc]
      rcases e.serve_asDirect h word arg buffer with ⟨hn, err, hs⟩ | ⟨f, hf, hserved⟩
      · rw [hs]
        exact Or.inl ⟨hn, ⟨err, rfl⟩, metrics, rfl⟩
      · refine Or.inr ⟨f h, hf, hserved.direct h, hserved.target h, hserved.error h, metrics, ?_⟩
        rw [show (e.serve h word arg buffer).2 = _ from hserved.engine h]
    | _ => cases hd

end Engine

end Perfmon
