import Perfmon.Device.Registers
import Perfmon.Reservation.Table
/-!
# The device

A simulated device: its reservation table, the sessions that have resources bound, its live
registers, one register image per context, and offsets that fault. Operations reach a register only
when it lies in the window of a resource that some session has bound.

`execute` validates every operation first and carries out the valid ones afterwards, in order, on
copies of the registers, which are put back when all is done. In all-or-none mode an invalid or
faulting operation makes the whole call fail and leaves the registers as they were; in
continue-on-error mode it is reported in its own status only.
-/

namespace Perfmon

/-- What a device can do. -/
structure Capabilities where
  /-- Whether sessions may be opened for the device. -/
  profilerDevice : Bool := true
  /-- Whether sessions may be opened for one context. -/
  profilerContext : Bool := true
  /-- Whether the multiprocessor counters can be reserved without context switching. -/
  smpcGlobalMode : Bool := false
  deriving DecidableEq, Repr

namespace Capabilities

/-- Whether sessions of a scope may be opened. -/
def allows (c : Capabilities) : Scope → Bool
  | .device => c.profilerDevice
  | .context => c.profilerContext

end Capabilities

/-- The register window of a resource: its first offset and the one behind its last. -/
def Resource.window : Resource → Nat × Nat
  | .hwpmLegacy => (0x240000, 0x244000)
  | .smpc => (0x419000, 0x41a000)

/-- A simulated device. -/
structure Device where
  /-- What the device can do. -/
  capabilities : Capabilities
  /-- Who holds which resource. -/
  reservations : ReservationTable
  /-- The sessions that have each resource bound. -/
  bound : PerResource (List Handle)
  /-- The live registers. -/
  live : RegisterFile
  /-- The registers of the images, each under its context and its offset. -/
  images : Assoc (ContextId × UInt32) UInt64
  /-- The offsets that fault when they are accessed. -/
  faults : List UInt32
  /-- How many calls to execute operations have been served, as an exact integer. -/
  execCalls : Nat

/-- Why a call to execute operations failed as a whole. -/
inductive ExecFailure where
  /-- So many operations are not valid. -/
  | rejected (count : Nat)
  /-- The register at an offset cannot be accessed. -/
  | fault (offset : UInt32)
  deriving DecidableEq, Repr

namespace ExecFailure

/-- The text of a failure. -/
def message : ExecFailure → String
  | .rejected count => s!"{count} op(s) failed validation"
  | .fault offset => "hardware fault accessing offset 0x" ++ Text.hexPadded 8 offset.toNat

end ExecFailure

namespace Device

/-- A device with the given capabilities that nobody has used yet. -/
def new (caps : Capabilities) : Device where
  capabilities := caps
  reservations := .empty
  bound := .const []
  live := .zero
  images := .empty
  faults := []
  execCalls := 0

/-- The name of the kind of device. -/
def name : String :=
  "simulated"

/-! ## Looking in from outside -/

/-- The content of a live register. -/
def peek (d : Device) (offset : UInt32) : UInt64 :=
  d.live.read offset

/-- The content of a register in the image of a context. -/
def peekContext (d : Device) (ctx : ContextId) (offset : UInt32) : UInt64 :=
  (d.images.find? (ctx, offset)).getD 0

/-- Sets a live register. -/
def poke (d : Device) (offset : UInt32) (v : UInt64) : Device :=
  { d with live := d.live.write offset v }

/-- Makes an offset fault. -/
def injectFault (d : Device) (offset : UInt32) : Device :=
  { d with faults := offset :: d.faults }

/-- Makes no offset fault. -/
def clearFaults (d : Device) : Device :=
  { d with faults := [] }

/-- The sessions that have a resource bound. -/
def boundTo (d : Device) (r : Resource) : List Handle :=
  d.bound.get r

/-! ## Reservations -/

/-- Reserves a resource for a session. -/
def reserve (d : Device) (s : Handle) (r : Resource) (mode : ReservationMode) :
    Except Error Grant × Device :=
  match d.reservations.reserve r s mode with
  | (.ok g, t) => (.ok g, { d with reservations := t })
  | (.error c, t) => (.error c.toError, { d with reservations := t })

/-- Gives up a resource of a session. -/
def release (d : Device) (s : Handle) (r : Resource) : Release × Device :=
  let (outcome, t) := d.reservations.release r s
  (outcome, { d with reservations := t })

/-- Gives up every resource of a session. -/
def releaseAll (d : Device) (s : Handle) : List Resource × Device :=
  let (freed, t) := d.reservations.releaseAll s
  (freed, { d with reservations := t })

/-- The sessions that have resources bound, with one more for each of a list of resources. -/
def enterBound (s : Handle) (rs : List Resource) (b : PerResource (List Handle)) :
    PerResource (List Handle) :=
  rs.foldl (fun b r => b.set r (if s ∈ b.get r then b.get r else b.get r ++ [s])) b

/-- The sessions that have resources bound, with one less for each of a list of resources. -/
def leaveBound (s : Handle) (rs : List Resource) (b : PerResource (List Handle)) :
    PerResource (List Handle) :=
  rs.foldl (fun b r => b.set r ((b.get r).filter (· ≠ s))) b

/-- Opens the register windows of resources for a session, which must hold all of them. -/
def bind (d : Device) (s : Handle) (rs : List Resource) : Except Error Unit × Device :=
  match rs.find? (fun r => !d.reservations.holds r s) with
  | some r => (.error (.invalidState s!"{r} is not reserved by session {s}"), d)
  | none => (.ok (), { d with bound := enterBound s rs d.bound })

/-- Closes the register windows of resources for a session. -/
def unbind (d : Device) (s : Handle) (rs : List Resource) : Device :=
  { d with bound := leaveBound s rs d.bound }

/-! ## Executing operations -/

/-- Whether the bytes from `offset` on, `width` of them, lie in the window of one resource that a
session has bound. -/
def windowBound (d : Device) (offset width : Nat) : Bool :=
  Resource.all.any fun r =>
    !(d.boundTo r).isEmpty && decide (r.window.1 ≤ offset) && decide (offset + width ≤ r.window.2)

/-- What is wrong with an operation before anything is executed. -/
def validate (d : Device) (ctx : Option ContextId) (op : DeviceOp) : DeviceStatus :=
  match op.code.width? with
  | none => .invalidOp
  | some width =>
    if width = 1 then .unsupportedOp
    else if op.cls = .grContext ∧ ctx = none then .invalidType
    else if op.offset.toNat % width ≠ 0 ∨ !d.windowBound op.offset.toNat width then .invalidOffset
    else .success

/-- The registers that one call works on: the live ones and the image of the call's context. -/
structure Files where
  /-- The live registers. -/
  live : RegisterFile
  /-- The image of the context. -/
  image : RegisterFile

/-- Carries out one operation on the registers that its class means. -/
def Files.apply (f : Files) (op : DeviceOp) : DeviceOp × Files :=
  match op.cls with
  | .global =>
    let (op, live) := f.live.apply op
    (op, { f with live })
  | .grContext =>
    let (op, image) := f.image.apply op
    (op, { f with image })

/-- Carries out the valid operations of a list, in order, and counts those that have failed. A
faulting operation ends an all-or-none call, with the offset; in continue-on-error mode it gets a
status of its own. Operations that have been looked at come back with what they read, also from a
call that ends early. -/
def run (faults : List UInt32) (mode : ExecMode) :
    Files → Nat → List DeviceOp → Except UInt32 (Files × Nat) × List DeviceOp
  | f, failed, [] => (.ok (f, failed), [])
  | f, failed, op :: ops =>
    if op.status ≠ .success then
      let (r, ops) := run faults mode f failed ops
      (r, op :: ops)
    else if op.offset ∈ faults then
      match mode with
      | .allOrNone => (.error op.offset, op :: ops)
      | .continueOnError =>
        let (r, ops) := run faults mode f (failed + 1) ops
        (r, { op with status := .invalidOffset } :: ops)
    else
      let (op, f) := f.apply op
      let (r, ops) := run faults mode f failed ops
      (r, op :: ops)

/-- What a call to execute operations comes to. -/
structure Executed where
  /-- Whether the call failed as a whole. -/
  outcome : Except ExecFailure Unit
  /-- The operations with their statuses and the values they read. -/
  ops : List DeviceOp
  /-- Whether every operation succeeded; a call that failed does not say so. -/
  allPassed : Bool
  /-- Whether there are operations and all of them are meant for the live registers. -/
  directOps : Bool

/-- A copy of the register image of a context, as a file of its own. -/
def image (d : Device) (ctx : ContextId) : RegisterFile :=
  ⟨d.images.under ctx⟩

/-- Copies of the registers that a call in a context works on. -/
def files (d : Device) (ctx : Option ContextId) : Files where
  live := d.live
  image := (ctx.map d.image).getD .zero

/-- The device with the copies that a call has worked on put back: the live registers as a whole,
the image register by register. -/
def withFiles (d : Device) (ctx : Option ContextId) (f : Files) : Device :=
  match ctx with
  | none => { d with live := f.live }
  | some c => { d with live := f.live, images := d.images.insertUnder c f.image.written }

/-- Executes operations in order on the live registers and the image of a context. -/
def execute (d : Device) (ctx : Option ContextId) (mode : ExecMode) (ops : List DeviceOp) :
    Executed × Device :=
  let checked := ops.map fun op => { op with status := d.validate ctx op }
  let invalid := checked.countP (!·.succeeded)
  let direct := !ops.isEmpty && ops.all (·.cls == .global)
  let served := { d with execCalls := d.execCalls + 1 }
  if mode = .allOrNone ∧ 0 < invalid then
    (⟨.error (.rejected invalid), checked, false, direct⟩, served)
  else
    match run d.faults mode (d.files ctx) invalid checked with
    | (.error offset, done) => (⟨.error (.fault offset), done, false, direct⟩, served)
    | (.ok (f, failed), done) => (⟨.ok (), done, failed == 0, direct⟩, served.withFiles ctx f)

end Device

end Perfmon
