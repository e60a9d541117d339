import Perfmon.Proofs.Admission
import Perfmon.Proofs.ExecGate
/-!
# Windowing

How a batch is cut into windows cannot be seen in what it does: in continue-on-error mode a batch
comes to what interpreting its operations one at a time comes to, whatever the size of the staging
memory and whatever was left in it.

`Carried p b` says what the caller's memory and the registers are when the windows so far have
covered the first `p` operations, in either mode; `Upto p b` adds what is reported of them in
continue-on-error mode. A window takes a batch from its start to its stop (`Upto.runWindow`), and so
all of them take it from the beginning to the end (`Upto.run`).
-/

namespace Perfmon

theorem Executor.execute_of_not_strikes {x : Executor} (h : x.strikes .exec = false)
    (ctx : Option ContextId) (mode : ExecMode) (ops : List DeviceOp) :
    x.execute ctx mode ops
      = ((x.device.execute ctx mode ops).1,
          { x.pass .exec with device := (x.device.execute ctx mode ops).2 }) :=
  call_of_not_strikes h _ _

theorem Executor.strikes_of_quiet {x : Executor} (h : x.armed = []) (c : ExecutorCall) :
    x.strikes c = false := by
  unfold strikes
  rw [h]
  rfl

namespace Batch

variable {j : BatchJob} {b₀ b : Batch} {p : Nat}

/-! ## One window -/

/-- What the staging memory hands out is what went in, whatever was there before. -/
theorem take_load {s : Staging} {cls : AccessClass} {ops : List RegOp}
    (h : ops.length ≤ s.device.length) :
    (s.load cls ops).device.take ops.length = ops.map (DeviceOp.ofRegOp cls) := by
  have hfront : (putDevice cls ops s.device).take ops.length = _ :=
    take_putDevice (Nat.le_refl _) h cls
  rwa [List.take_length] at hfront

theorem take_unload {s : Staging} {done : List DeviceOp} (hd : done.length ≤ s.device.length)
    (hu : done.length ≤ s.user.length) :
    ((s.putBack done).unload done.length).user.take done.length
      = done.map DeviceOp.toRegOp := by
  have ht : (s.putBack done).device.take done.length = done := take_overlay hd
  have hfront : (putCallers done s.user).take done.length = _ :=
    take_putCallers (Nat.le_refl _) hu
  unfold Staging.unload
  rw [ht]
  rwa [List.take_length] at hfront

/-- What interpreting operations comes to where a batch stands. -/
def interpret (j : BatchJob) (b : Batch) (ops : List RegOp) : List RegOp × Registers :=
  b.executor.device.interpret j.cls j.context ops b.executor.device.registers

/-- What a batch is when a window of operations has been executed and taken back, but not written
back yet. -/
structure Processed (j : BatchJob) (w : Window) (ops : List RegOp) (b b' : Batch) : Prop where
  buffer : b'.buffer = b.buffer
  registers : b'.executor.device.registers = (interpret j b ops).2
  armed : b'.executor.armed = (b.executor.pass .exec).armed
  submitted : b'.submitted = ⟨j.context, ops.map (.ofRegOp j.cls), j.powerRefs⟩ :: b.submitted
  directOps : b'.report.directOps
    = (if w.start = 0 then !ops.isEmpty && j.cls == .global else b.report.directOps)
  allPassed : b'.report.allPassed
    = (b.report.allPassed && (interpret j b ops).1.all (·.succeeded))
  windows : b'.report.windows = b.report.windows
  metrics : b'.metrics = count b.metrics (interpret j b ops).1
  execCalls : b'.executor.device.execCalls = b.executor.device.execCalls + 1

/-- Writes a window back, with which the batch goes on if that works. -/
def writeBack (w : Window) (ops : List RegOp) (b : Batch) : Except Error Unit × Batch :=
  match b.buffer.copyOut w.start ops with
  | .error e => (.error e, b)
  | .ok buffer =>
    (.ok (), { b with
      buffer
      report := { b.report with windows := b.report.windows + 1, ops := w.stop } })

/-- The steps of a window between the two transfers. -/
def process (j : BatchJob) (w : Window) (ops : List RegOp) (b : Batch) :
    Except Error (List RegOp) × Batch :=
  let (done, b) := submit j w.len { b with staging := b.staging.load j.cls ops }
  match done.outcome with
  | .error failure => (.error (.hardwareExecution w.start failure.message), b)
  | .ok () => (.ok (collect w done b).1, (collect w done b).2)

theorem runWindow_eq (j : BatchJob) (w : Window) (b : Batch) :
    runWindow j w b = match b.buffer.copyIn w.start w.len with
      | .error e => (.error e, b)
      | .ok ops =>
        match process j w ops b with
        | (.error e, b) => (.error e, b)
        | (.ok ops, b) => writeBack w ops b := by
  unfold runWindow
  cases b.buffer.copyIn w.start w.len with
  | error e => rfl
  | ok ops =>
    unfold process
    dsimp only
    cases (submit j w.len { b with staging := b.staging.load j.cls ops }).1.outcome with
    | error failure => rfl
    | ok _ => rfl

/-- What the executor is handed is the window in the device's form. -/
theorem submit_load {len : Nat} {ops : List RegOp} (hl : ops.length = len)
    (hd : len ≤ b.staging.device.length) :
    submit j len { b with staging := b.staging.load j.cls ops }
      = ((b.executor.execute j.context j.mode (ops.map (.ofRegOp j.cls))).1,
          { b with
            executor := (b.executor.execute j.context j.mode (ops.map (.ofRegOp j.cls))).2
            staging := (b.staging.load j.cls ops).putBack
              (b.executor.execute j.context j.mode (ops.map (.ofRegOp j.cls))).1.ops
            submitted := ⟨j.context, ops.map (.ofRegOp j.cls), j.powerRefs⟩ :: b.submitted }) := by
  subst hl
  unfold submit
  dsimp only
  rw [take_load hd]

section

variable {w : Window} {ops : List RegOp} (hx : b.executor.strikes .exec = false)
  (hm : j.mode = .allOrNone → ∀ op ∈ ops, b.executor.device.Admits j.cls j.context op)
  (hu : w.len ≤ b.staging.user.length) (hd : w.len ≤ b.staging.device.length)
  (hl : ops.length = w.len)
include hx hm hu hd hl

/-- The executor does with the operations of a window what the interpreter does, if nothing is in
its way: a failure that is armed, or an operation that cannot be carried out in all-or-none mode. -/
theorem process_interpret :
    Processed j w ops b (process j w ops b).2 ∧
      (process j w ops b).1 = .ok (interpret j b ops).1 := by
  obtain ⟨done, d', hrun, hdone, hregs⟩ :=
    b.executor.device.execute_ofRegOp j.cls j.context ops
  rw [← Device.execute_of_admits hm] at hrun
  change done.map DeviceOp.toRegOp = (interpret j b ops).1 at hdone
  have hcalls := b.executor.device.execCalls_execute j.context j.mode (ops.map (.ofRegOp j.cls))
  rw [hrun] at hcalls
  have hlen : done.length = w.len := by
    have h := congrArg List.length hdone
    rw [List.length_map, interpret, Device.length_interpret, hl] at h
    exact h
  have hsub := submit_load (j := j) (b := b) hl hd
  rw [Executor.execute_of_not_strikes hx, hrun] at hsub
  -- On the way out: what comes back is the window that the device has put back.
  have htake : (((b.staging.load j.cls ops).putBack done).unload w.len).user.take w.len
      = done.map DeviceOp.toRegOp := by
    rw [← hlen]
    refine take_unload ?_ ?_
    · simp [Staging.load, hlen, hd]
    · simp [Staging.load, hlen, hu]
  unfold process
  rw [hsub]
  dsimp only [collect]
  rw [htake, hdone]
  exact ⟨⟨rfl, hregs, rfl, rfl, rfl, rfl, rfl, rfl, hcalls⟩, rfl⟩

theorem runWindow_interpret (hin : b.buffer.copyIn w.start w.len = .ok ops) :
    ∃ b', Processed j w ops b b' ∧ runWindow j w b = writeBack w (interpret j b ops).1 b' := by
  obtain ⟨hproc, hok⟩ := process_interpret hx hm hu hd hl
  have hpair : process j w ops b = (.ok (interpret j b ops).1, (process j w ops b).2) :=
    Prod.ext hok rfl
  refine ⟨_, hproc, ?_⟩
  rw [runWindow_eq, hin]
  dsimp only
  rw [hpair]

end

/-! ## All windows -/

/-- What interpreting the first `n` operations of a batch comes to. -/
def interpreted (j : BatchJob) (b : Batch) (n : Nat) : List RegOp × Registers :=
  interpret j b (b.buffer.memory.slice 0 n)

theorem length_interpreted (h : p ≤ b.buffer.memory.size) :
    (interpreted j b p).1.length = p := by
  unfold interpreted interpret
  rw [Device.length_interpret, OpsMemory.length_slice (by omega)]

theorem interpreted_zero (j : BatchJob) (b : Batch) :
    interpreted j b 0 = ([], b.executor.device.registers) := by
  have hs : b.buffer.memory.slice 0 0 = [] :=
    List.eq_nil_of_length_eq_zero (OpsMemory.length_slice (Nat.zero_le _))
  unfold interpreted
  rw [hs]
  rfl

/-- What the caller's memory and the registers are when the windows so far have covered the first
`p` operations of a batch. -/
structure Carried (j : BatchJob) (b₀ : Batch) (p : Nat) (b : Batch) : Prop where
  buffer : b.buffer = { b₀.buffer with memory := b₀.buffer.memory.splice 0 (interpreted j b₀ p).1 }
  registers : b.executor.device.registers = (interpreted j b₀ p).2
  rest : Advanced j b₀ b

theorem Carried.zero : Carried j b 0 b := by
  refine ⟨?_, ?_, Advanced.refl j b⟩
  · rw [interpreted_zero, OpsMemory.splice_nil]
  · rw [interpreted_zero]

section

variable {len : Nat} (h : Carried j b₀ p b)
include h

theorem Carried.size (hp : p ≤ b₀.buffer.memory.size) :
    b.buffer.memory.size = b₀.buffer.memory.size := by
  rw [h.buffer]
  exact OpsMemory.size_splice (by rw [length_interpreted hp]; exact hp)

/-- A window finds in the memory what stood there at the beginning. -/
theorem Carried.copyIn (hp : p ≤ b₀.buffer.memory.size) :
    b.buffer.copyIn p len = b₀.buffer.copyIn p len := by
  have hs := b₀.buffer.memory.slice_splice (interpreted j b₀ p).1 len
  have hsize := h.size hp
  rw [length_interpreted hp] at hs
  rw [h.buffer] at hsize ⊢
  unfold OpsBuffer.copyIn
  rw [OpsBuffer.accessFault?_congr hsize, hs]

/-- What a window puts back stands behind what the windows before it have put back. -/
theorem Carried.copyOut {ops : List RegOp} (hp : p ≤ b₀.buffer.memory.size) :
    b.buffer.copyOut p ops = (b₀.buffer.copyOut p ops).map fun _ =>
      { b₀.buffer with
        memory := b₀.buffer.memory.splice 0 ((interpreted j b₀ p).1 ++ ops) } := by
  have hs := b₀.buffer.memory.splice_splice (interpreted j b₀ p).1 ops
  have hsize := h.size hp
  rw [length_interpreted hp] at hs
  rw [h.buffer] at hsize ⊢
  unfold OpsBuffer.copyOut
  rw [OpsBuffer.accessFault?_congr hsize, hs]
  cases OpsBuffer.accessFault? b₀.buffer.memory b₀.buffer.unwritableFrom p ops.length <;> rfl

/-- Interpreting on from where the batch stands is interpreting from its beginning. -/
theorem Carried.interpreted_add (hp : p + len ≤ b₀.buffer.memory.size) :
    interpreted j b₀ (p + len)
      = ((interpreted j b₀ p).1 ++ (interpret j b (b₀.buffer.memory.slice p len)).1,
          (interpret j b (b₀.buffer.memory.slice p len)).2) := by
  have hwin : interpret j b (b₀.buffer.memory.slice p len)
      = b₀.executor.device.interpret j.cls j.context (b₀.buffer.memory.slice p len)
          (interpreted j b₀ p).2 := by
    unfold interpret
    rw [Device.interpret_congr h.rest.device, h.registers]
  rw [interpreted, OpsMemory.slice_append hp, hwin]
  exact Device.interpret_append _ _ _ _ _ _

end

/-- A window that can be read is executed as the interpreter would, if nothing is in the way. -/
theorem Carried.runWindow {w : Window} (h : Carried j b₀ w.start b)
    (hx : b.executor.strikes .exec = false)
    (hm : j.mode = .allOrNone → ∀ op ∈ b₀.buffer.memory.slice w.start w.len,
      b₀.executor.device.Admits j.cls j.context op)
    (hu : w.len ≤ b₀.staging.user.length) (hd : w.len ≤ b₀.staging.device.length)
    (hin : b₀.buffer.copyIn w.start w.len = .ok (b₀.buffer.memory.slice w.start w.len))
    (hsize : w.stop ≤ b₀.buffer.memory.size) :
    ∃ b', Processed j w (b₀.buffer.memory.slice w.start w.len) b b' ∧
      Batch.runWindow j w b
        = writeBack w (interpret j b (b₀.buffer.memory.slice w.start w.len)).1 b' := by
  refine runWindow_interpret hx ?_ ?_ ?_ (OpsMemory.length_slice hsize) ?_
  · intro hall op hop
    exact (Device.admits_congr h.rest.device op).mpr (hm hall op hop)
  · rw [h.rest.user]
    exact hu
  · rw [h.rest.internal]
    exact hd
  · rw [h.copyIn (Nat.le_trans (Nat.le_add_right _ _) hsize)]
    exact hin

/-- What a batch is when the windows have covered its first `p` operations. -/
structure Upto (j : BatchJob) (b₀ : Batch) (p : Nat) (b : Batch) : Prop where
  buffer : b.buffer = { b₀.buffer with memory := b₀.buffer.memory.splice 0 (interpreted j b₀ p).1 }
  registers : b.executor.device.registers = (interpreted j b₀ p).2
  allPassed : b.report.allPassed = (interpreted j b₀ p).1.all (·.succeeded)
  directOps : 0 < p → b.report.directOps = (j.cls == .global)
  ops : b.report.ops = p
  rest : Advanced j b₀ b

theorem Upto.carried (h : Upto j b₀ p b) : Carried j b₀ p b :=
  ⟨h.buffer, h.registers, h.rest⟩

theorem Upto.zero (ha : b.report.allPassed = true) (ho : b.report.ops = 0) : Upto j b 0 b := by
  have hc : Carried j b 0 b := Carried.zero
  refine ⟨hc.buffer, hc.registers, ?_, fun h => absurd h (Nat.lt_irrefl 0), ho, hc.rest⟩
  rw [interpreted_zero, ha]
  rfl

/-- A window takes a batch from its start to its stop. -/
theorem Upto.runWindow {w : Window} (h : Upto j b₀ w.start b) (hm : j.mode = .continueOnError)
    (hq : b₀.executor.armed = []) (hu : w.len ≤ b₀.staging.user.length)
    (hd : w.len ≤ b₀.staging.device.length) (hb : b₀.buffer.Holds w.stop) (hw : 0 < w.len) :
    ∃ b', Batch.runWindow j w b = (.ok (), b') ∧ Upto j b₀ w.stop b' := by
  have hl : (b₀.buffer.memory.slice w.start w.len).length = w.len :=
    OpsMemory.length_slice hb.size
  have hp : w.start ≤ b₀.buffer.memory.size := Nat.le_trans (Nat.le_add_right _ _) hb.size
  have hstop : interpreted j b₀ w.stop = _ := h.carried.interpreted_add hb.size
  obtain ⟨b₁, hproc, hrun⟩ := h.carried.runWindow
    (Executor.strikes_of_quiet (h.rest.quiet hq) .exec) (by rw [hm]; nofun) hu hd hb.copyIn hb.size
  obtain ⟨buffer, hout⟩ : ∃ buffer, b₀.buffer.copyOut w.start
      (interpret j b (b₀.buffer.memory.slice w.start w.len)).1 = .ok buffer := by
    refine ⟨_, OpsBuffer.Holds.copyOut ?_⟩
    rw [interpret, Device.length_interpret, hl]
    exact hb
  have hadv := runWindow_advanced j w b
  rw [hrun, writeBack, hproc.buffer, h.carried.copyOut hp, hout] at hadv
  rw [hrun, writeBack, hproc.buffer, h.carried.copyOut hp, hout]
  refine ⟨_, rfl, ?_, ?_, ?_, ?_, rfl, h.rest.trans hadv⟩
  · rw [hstop]
  · rw [hstop]
    exact hproc.registers
  · rw [hstop, List.all_append, ← h.allPassed]
    exact hproc.allPassed
  · intro _
    have hne : (b₀.buffer.memory.slice w.start w.len).isEmpty = false := by
      rw [List.isEmpty_eq_false_iff, ← List.length_pos_iff, hl]
      exact hw
    have hdir := hproc.directOps
    rw [hne] at hdir
    refine hdir.trans ?_
    split
    · rfl
    · -- Only the first window says where the batch goes.
      rename_i hz
      exact h.directOps (Nat.pos_of_ne_zero hz)

/-- All windows together take a batch to its end. -/
theorem Upto.run {c : Windows} (h : Upto j b₀ c.position b) (hm : j.mode = .continueOnError)
    (hq : b₀.executor.armed = []) (hu : c.capacity ≤ b₀.staging.user.length)
    (hd : c.capacity ≤ b₀.staging.device.length) (hb : b₀.buffer.Holds c.total)
    (hp : c.position ≤ c.total) (hc : 0 < c.capacity) :
    ∃ b', Batch.run j c b = (.ok (), b') ∧ Upto j b₀ c.total b' := by
  fun_induction Batch.run j c b with
  | case1 c b hn =>
    have hle := Windows.le_of_next?_eq_none hn hc
    rw [Nat.le_antisymm hle hp]
    exact ⟨b, rfl, h⟩
  | case2 c b w d hn _ e b' hw =>
    obtain ⟨hs, hpos, hcap, hstop, -⟩ := Windows.next?_eq_some hn
    rw [← hs] at h
    obtain ⟨b'', hr, -⟩ := h.runWindow hm hq (Nat.le_trans hcap hu) (Nat.le_trans hcap hd)
      (hb.mono hstop) hpos
    rw [hr] at hw
    cases hw
  | case3 c b w d hn _ b' hw ih =>
    obtain ⟨hs, hpos, hcap, hstop, rfl⟩ := Windows.next?_eq_some hn
    rw [← hs] at h
    obtain ⟨b'', hr, h'⟩ := h.runWindow hm hq (Nat.le_trans hcap hu) (Nat.le_trans hcap hd)
      (hb.mono hstop) hpos
    rw [hr] at hw
    cases hw
    exact ih h' hu hd hb hstop hc

end Batch

/-! ## Batches of a session -/

/-- What a batch has come to, but for how it was cut into windows. -/
structure BatchOutcome where
  /-- The caller's memory. -/
  buffer : OpsBuffer
  /-- What can be read from the device. -/
  registers : Registers
  /-- Whether every operation passed. -/
  allPassed : Bool
  /-- Whether the batch went straight to the hardware. -/
  directOps : Bool
  /-- How many operations were processed. -/
  ops : Nat

namespace Engine

/-- The outcome of an attempt that succeeded. -/
def outcome? : Execution × Engine → Option BatchOutcome
  | (⟨.ok report, buffer, _⟩, e) =>
    some ⟨buffer, e.device.registers, report.allPassed, report.directOps, report.ops⟩
  | (⟨.error _, _, _⟩, _) => none

/-- The outcome of interpreting the first `count` operations of a caller's memory for a session. -/
def interpretBatch (e : Engine) (s : Session) (buffer : OpsBuffer) (count : Nat) :
    BatchOutcome :=
  let (done, registers) := e.device.interpret s.accessClass s.binding.context?
    (buffer.memory.slice 0 count) e.device.registers
  ⟨{ buffer with memory := buffer.memory.splice 0 done }, registers, done.all (·.succeeded),
    s.accessClass == .global, count⟩

/-- The engine with another staging memory for one of its sessions. -/
def withStaging (e : Engine) (h : Handle) (s : Session) (staging : Staging) : Engine :=
  { e with sessions := e.sessions.insert h { s with staging } }

/-- What is the same for every window of a session's batch that is let through. -/
def job (e : Engine) (s : Session) (mode : ExecMode) : BatchJob :=
  ⟨s.binding.context?, s.accessClass, mode, e.power.busy.2.refs⟩

/-- A session's batch that is let through, in front of its first window. -/
def batch (e : Engine) (s : Session) (buffer : OpsBuffer) (mode : ExecMode) : Batch :=
  ⟨e.executor, s.staging, buffer, e.metrics, emptyReport mode, []⟩

/-- How the windows of a session's batch come out that is let through. -/
def runWindows (e : Engine) (s : Session) (buffer : OpsBuffer) (count : Nat) (mode : ExecMode) :
    Except Error Unit × Batch :=
  (e.batch s buffer mode).run (e.job s mode) (.ofBatch count s.staging.capacity)

/-- An attempt that is let through comes to what its windows come to. -/
theorem execute_eq_runWindows {e : Engine} {h : Handle} {s : Session} {count : Nat}
    (buffer : OpsBuffer) (mode : ExecMode) (hs : e.sessions.find? h = some s)
    (hg : e.checkExec s count = .ok ()) (hp : e.power.busy.1 = .ok ()) :
    ∃ e', e.execute h buffer count mode
        = (⟨(e.runWindows s buffer count mode).1.map fun () =>
              (e.runWindows s buffer count mode).2.report,
            (e.runWindows s buffer count mode).2.buffer,
            (e.runWindows s buffer count mode).2.submitted.reverse⟩, e') ∧
      e'.executor = (e.runWindows s buffer count mode).2.executor := by
  rcases e.execute_cases h buffer count mode with
    ⟨err, hn, -⟩ | ⟨r, hr, -, ⟨err, hb, -⟩ | ⟨-, hx⟩⟩
  · exact absurd hg (hn s hs)
  · rw [hp] at hb
    cases hb
  · obtain rfl : s = r := Option.some.inj (hs.symm.trans hr)
    exact ⟨_, hx, rfl⟩

theorem execute_interpret {e : Engine} {h : Handle} {s : Session} {count : Nat}
    {buffer : OpsBuffer} (hs : e.sessions.find? h = some s) (hg : e.checkExec s count = .ok ())
    (hp : e.power.failNext = false) (hb : buffer.Holds count) (hq : e.executor.armed = [])
    (hsize : s.staging.user.length = s.staging.device.length) (hc : 0 < s.staging.capacity) :
    outcome? (e.execute h buffer count .continueOnError)
      = some (e.interpretBatch s buffer count) := by
  have hcount : 0 < count := (checkExec_eq_ok_iff.mp hg).1
  have hzero : Batch.Upto (e.job s .continueOnError) (e.batch s buffer .continueOnError) 0
      (e.batch s buffer .continueOnError) := Batch.Upto.zero rfl rfl
  obtain ⟨b, hrun, hend⟩ := Batch.Upto.run (c := .ofBatch count s.staging.capacity) hzero rfl hq
    (Nat.le_refl _) (Nat.le_of_eq hsize) hb (Nat.zero_le _) hc
  change e.runWindows s buffer count .continueOnError = _ at hrun
  obtain ⟨e', hx, hexec⟩ := execute_eq_runWindows buffer .continueOnError hs hg
    (Power.busy_of_not_failNext hp)
  rw [hrun] at hx hexec
  rw [hx]
  show some (BatchOutcome.mk b.buffer e'.executor.device.registers b.report.allPassed
    b.report.directOps b.report.ops) = _
  rw [hexec, hend.buffer, hend.registers, hend.allPassed, hend.directOps hcount, hend.ops]
  rfl

/-- In every state that a run leads to, a session has the staging memory that the configuration asks
for. -/
theorem ReachedFreely.ready {config : Config} {e : Engine} (he : e.ReachedFreely config) :
    0 < config.windowCapacity ∧
      ∀ h s, e.sessions.find? h = some s → s.staging.Sized config.windowCapacity := by
  obtain ⟨hv, hcfg, hr⟩ := he.configured
  have hpos : 0 < config.windowCapacity := by
    unfold Config.validate at hv
    split at hv
    · cases hv
    · omega
  refine ⟨hpos, fun h s hs => ?_⟩
  rw [← hcfg]
  exact hr h s hs

/-- **How a batch is cut into windows cannot be seen.** In continue-on-error mode a batch that is
let through comes to what interpreting its operations one at a time comes to; and so it does with
any other staging memory in the place of the session's, whatever its size and whatever is in it. -/
theorem windowing_transparent {config : Config} {e : Engine} (he : e.ReachedQuietly config)
    {h : Handle} {s : Session} (hs : e.sessions.find? h = some s) {count : Nat}
    (hg : e.checkExec s count = .ok ()) (hp : e.power.failNext = false) {buffer : OpsBuffer}
    (hb : buffer.Holds count) :
    outcome? (e.execute h buffer count .continueOnError)
        = some (e.interpretBatch s buffer count) ∧
      ∀ staging : Staging, staging.device.length = staging.capacity → 0 < staging.capacity →
        outcome? ((e.withStaging h s staging).execute h buffer count .continueOnError)
          = some (e.interpretBatch s buffer count) := by
  have hq := he.quiet
  obtain ⟨hpos, hready⟩ := he.freely.ready
  obtain ⟨hu, hd⟩ := hready h s hs
  constructor
  · exact execute_interpret hs hg hp hb hq (hu.trans hd.symm) (Nat.lt_of_lt_of_eq hpos hu.symm)
  · intro staging hsize hc
    have hf : (e.withStaging h s staging).sessions.find? h = some { s with staging } :=
      Assoc.find?_insert_self e.sessions h _
    exact execute_interpret (s := { s with staging }) hf hg hp hb hq hsize.symm hc

/-- A run behind which a session may write to live registers. -/
def readyRun : List Call :=
  [.openSession .device, .bindContext ⟨1⟩ none, .reserve ⟨1⟩ .hwpmLegacy false, .bindPm ⟨1⟩,
    .poke 0x240008 9]

/-- Five operations: the last one reads what the first one wrote, two windows earlier. -/
def fiveOps : OpsBuffer :=
  ⟨.list [.write64 0x240000 0x100000007, .read64 0x240008, .read32 0x419000,
    .write32 0x240000 5, .read64 0x240000], none, none⟩

theorem windowing_transparent_over_three_windows :
    (small readyRun).ReachedQuietly .small ∧
      ∃ s, (small readyRun).sessions.find? ⟨1⟩ = some s ∧ s.staging.capacity = 2 ∧
        outcome? ((small readyRun).execute ⟨1⟩ fiveOps 5 .continueOnError)
          = some ((small readyRun).interpretBatch s fiveOps 5) ∧
        ((small readyRun).interpretBatch s fiveOps 5).buffer.memory.toList.map (·.value)
          = [0x100000007, 9, 0, 5, 0x100000005] := by
  have he : (small readyRun).ReachedQuietly .small := ⟨reachedFreely_small _, rfl⟩
  have hb : fiveOps.Holds 5 := ⟨by decide, nofun, nofun⟩
  exact ⟨he, _, rfl, rfl, (windowing_transparent he rfl rfl rfl hb).1, rfl⟩

end Engine

end Perfmon
