import Perfmon.Engine.Execute
import Perfmon.Request
import Perfmon.Request.Args
/-!
# The control channel

The operations of an engine as requests: a word names the request, and a block of bytes in the
caller's memory holds its arguments. Whatever is wrong with the word or the block is found out
before any operation is called. What can go wrong behind the operation, when the block is written and
given back, cannot happen to a block that was taken from the caller's memory. Every request is
counted under its name and outcome.
-/

namespace Perfmon

/-- What a control request has come to. -/
structure Controlled where
  /-- Whether the request succeeded. -/
  result : Except Error Unit
  /-- The caller's argument memory afterwards. -/
  arg : List UInt8
  /-- The caller's operations afterwards. -/
  buffer : Option OpsBuffer

namespace Engine

/-- The resource that a number in an argument block means. -/
def resourceOfRaw (n : UInt32) : Except Error Resource :=
  match Resource.ofRaw? n with
  | some r => .ok r
  | none => .error (.invalidArgument s!"unknown PM resource {n.toNat}")

/-- The argument block as a value. -/
def decodeBlock (α : Type) [Layout α] (block : List UInt8) : Except Error α :=
  (decodeArgs α block block.length).mapError fun e =>
    .invalidArgument s!"bad request arguments: {e.message}"

/-- The argument block that a request word announces, taken from the caller's memory; zeros if the
request has a block that is not handed over. -/
def takeBlock (config : Config) (word : UInt32) (arg : List UInt8) : Except Error (List UInt8) :=
  let code := RequestCode.decode word
  let size := code.size.toNat
  if code.magic ≠ Request.magic ∨ code.number = 0 ∨ Request.lastNumber < code.number then
    .error (.invalidArgument ("bad request code 0x" ++ Text.hexPadded 8 word.toNat))
  else if config.maxArgSize < size then
    .error (.invalidArgument s!"argument size {size} exceeds {config.maxArgSize}")
  else if code.writesArgs then
    if arg.length < size then
      .error (.transferFault 0 s!"argument buffer holds {arg.length} of {size} bytes")
    else .ok (arg.take size)
  else .ok (List.replicate size 0)

/-- The descriptor of a context in an argument block: a negative one stands for no context. -/
def descriptorOfArg (fd : Descriptor) : Option Descriptor :=
  if fd < 0 then none else some fd

/-- An argument block with a value written at its front. -/
def writeBlock {α : Type} [Layout α] (block : List UInt8) (a : α) : Except Error (List UInt8) :=
  let bytes := Layout.toBytes a
  if block.length < bytes.length then .error (.invalidArgument "argument buffer too small")
  else .ok (bytes ++ block.drop bytes.length)

/-- The caller's memory with the argument block of a request back in its place, if the word of the
request says that the block travels back. -/
def giveBack (r : Request) (block arg : List UInt8) : Except Error (List UInt8) :=
  let size := r.code.size.toNat
  if r.code.readsArgs then
    if arg.length < size then
      .error (.transferFault 0 s!"argument buffer holds {arg.length} of {size} bytes")
    else .ok (block ++ arg.drop size)
  else .ok arg

/-- What a request comes to whose operation has left an argument block, or has failed. -/
def finish (r : Request) (block : Except Error (List UInt8)) (arg : List UInt8)
    (buffer : Option OpsBuffer) : Controlled :=
  match block.bind (giveBack r · arg) with
  | .error err => ⟨.error err, arg, buffer⟩
  | .ok arg => ⟨.ok (), arg, buffer⟩

/-- Executes the batch that an argument block describes. On success the block comes back with its
flags filled in. -/
def controlExec (e : Engine) (h : Handle) (block arg : List UInt8) (buffer : Option OpsBuffer) :
    Controlled × Engine :=
  match decodeBlock ExecArgs block with
  | .error err => (⟨.error err, arg, buffer⟩, e)
  | .ok args =>
    match buffer with
    | none => (⟨.error (.transferFault 0 "no register op buffer supplied"), arg, none⟩, e)
    | some ops =>
      let (execution, e) := e.execute h ops args.count.toNat (.ofRaw args.mode)
      match execution.result with
      | .error err => (⟨.error err, arg, some execution.buffer⟩, e)
      | .ok report =>
        let back := writeBlock block (args.withOutcome report.directOps report.allPassed)
        (finish .execRegOps back arg (some execution.buffer), e)

/-- Calls the operation behind a request. -/
def dispatch (e : Engine) (h : Handle) (r : Request) (block arg : List UInt8)
    (buffer : Option OpsBuffer) : Controlled × Engine :=
  let plain (outcome : Except Error Unit × Engine) : Controlled × Engine :=
    (finish r (outcome.1.map fun _ => block) arg buffer, outcome.2)
  match r with
  | .bindContext =>
    match decodeBlock BindContextArgs block with
    | .error err => plain (.error err, e)
    | .ok args => plain (e.bindContext h (descriptorOfArg args.descriptor))
  | .unbindContext => plain (e.unbindContext h)
  | .reserveResource =>
    match (do
      let args ← decodeBlock ReserveArgs block
      let r ← resourceOfRaw args.resource
      pure (r, args.contextSwitched)) with
    | .error err => plain (.error err, e)
    | .ok (r, contextSwitched) =>
      let (result, e) := e.reserve h r contextSwitched
      plain (result.map fun _ => (), e)
  | .releaseResource =>
    match (do
      let args ← decodeBlock ReleaseArgs block
      resourceOfRaw args.resource) with
    | .error err => plain (.error err, e)
    | .ok r => plain (e.release h r)
  | .bindResources => plain (e.bindPm h)
  | .unbindResources => plain (e.unbindPm h)
  | .execRegOps => e.controlExec h block arg buffer

/-- The outcome of a request, as it is counted. -/
def statusLabel : Except Error Unit → String
  | .ok () => "ok"
  | .error err => err.kind

/-- Serves a request without counting it. -/
def serve (e : Engine) (h : Handle) (word : UInt32) (arg : List UInt8)
    (buffer : Option OpsBuffer) : Controlled × Engine :=
  match takeBlock e.config word arg with
  | .error err => (⟨.error err, arg, buffer⟩, e)
  | .ok block =>
    match Request.ofWord? word with
    | none => (⟨.error (.unknownRequest word), arg, buffer⟩, e)
    | some r => e.dispatch h r block arg buffer

/-- Serves a control request for a session. -/
def control (e : Engine) (h : Handle) (word : UInt32) (arg : List UInt8)
    (buffer : Option OpsBuffer) : Controlled × Engine :=
  let (reply, e) := e.serve h word arg buffer
  (reply, { e with
    metrics := e.metrics.countRequest (Request.nameOfWord word) (statusLabel reply.result) })

end Engine

end Perfmon
