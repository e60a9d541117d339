import Perfmon.LittleEndian
/-!
# Argument blocks

The fixed-length blocks that travel with requests, as values and as little-endian bytes. `Layout`
is what the four kinds of block have in common: a length, a writer and a reader that looks at the
front of a byte string.
-/

namespace Perfmon

open LittleEndian

/-- A value with a fixed-length byte form. -/
class Layout (α : Type) where
  /-- The length of the byte form. -/
  size : Nat
  /-- The byte form. -/
  toBytes : α → List UInt8
  /-- The value whose byte form is at the front of a byte string, if the string is long enough. -/
  ofBytes? : List UInt8 → Option α

/-- Why an argument block cannot be read. -/
inductive ArgsError where
  /-- The buffer is shorter than the block that was announced. -/
  | truncated (expected actual : Nat)
  /-- The announced block is shorter than the value that it should hold. -/
  | shortBlock
  deriving DecidableEq, Repr

namespace ArgsError

/-- The text of an error. -/
def message : ArgsError → String
  | .truncated expected actual =>
    s!"argument buffer holds {actual} bytes, request needs {expected}"
  | .shortBlock => "argument encoding failed: io error: unexpected end of file"

end ArgsError

/-- The byte form has its length, and what is written is read back whatever lies behind it. -/
class LawfulLayout (α : Type) [Layout α] : Prop where
  length_toBytes (a : α) : (Layout.toBytes a).length = Layout.size α
  ofBytes?_toBytes_append (a : α) (r : List UInt8) :
    Layout.ofBytes? (Layout.toBytes a ++ r) = some a

/-- Reads a value from the first `n` bytes of a buffer. -/
def decodeArgs (α : Type) [Layout α] (buffer : List UInt8) (n : Nat) : Except ArgsError α :=
  if buffer.length < n then .error (.truncated n buffer.length)
  else
    match Layout.ofBytes? (buffer.take n) with
    | some a => .ok a
    | none => .error .shortBlock

/-- A block that was written is read back by whoever announces at least the block, and no more than
there is. -/
theorem decodeArgs_toBytes_append_of_le {α : Type} [Layout α] [LawfulLayout α] (a : α)
    {r : List UInt8} {n : Nat} (hn : Layout.size α ≤ n) (hr : n ≤ Layout.size α + r.length) :
    decodeArgs α (Layout.toBytes a ++ r) n = .ok a := by
  have hl := LawfulLayout.length_toBytes a
  have htake : (Layout.toBytes a ++ r).take n
      = Layout.toBytes a ++ r.take (n - Layout.size α) := by
    rw [List.take_append, List.take_of_length_le (by rw [hl]; exact hn), hl]
  rw [decodeArgs, if_neg (by rw [List.length_append]; omega), htake,
    LawfulLayout.ofBytes?_toBytes_append]

/-- A block that was written is read back from the front of a buffer. -/
theorem decodeArgs_toBytes_append {α : Type} [Layout α] [LawfulLayout α] (a : α) (r : List UInt8) :
    decodeArgs α (Layout.toBytes a ++ r) (Layout.size α) = .ok a :=
  decodeArgs_toBytes_append_of_le a (Nat.le_refl _) (Nat.le_add_right _ _)

/-- Every byte string of the right length is the byte form of a value. -/
class FullLayout (α : Type) [Layout α] : Prop where
  exists_toBytes (bs : List UInt8) (h : bs.length = Layout.size α) : ∃ a : α, Layout.toBytes a = bs

/-- Memory that is long enough for a block has one at its front. -/
theorem exists_toBytes_append {α : Type} [Layout α] [FullLayout α] {bs : List UInt8}
    (h : Layout.size α ≤ bs.length) : ∃ (a : α) (r : List UInt8), bs = Layout.toBytes a ++ r := by
  obtain ⟨a, ha⟩ := FullLayout.exists_toBytes (α := α) (bs.take (Layout.size α))
    (List.length_take_of_le h)
  exact ⟨a, bs.drop (Layout.size α), by rw [ha, List.take_append_drop]⟩

/-- Whatever is read as a value begins with its byte form. -/
class SoundLayout (α : Type) [Layout α] : Prop where
  append_of_ofBytes? {bs : List UInt8} {a : α} (h : Layout.ofBytes? bs = some a) :
    ∃ r, bs = Layout.toBytes a ++ r

/-! ## The four kinds of block -/

/-- The argument of binding a context: the descriptor of the context, negative for none. -/
structure BindContextArgs where
  /-- The descriptor of the context. -/
  descriptor : Int32
  /-- Room for later use. -/
  reserved : UInt32
  deriving DecidableEq, Repr

/-- The argument of reserving a resource. -/
structure ReserveArgs where
  /-- The number of the resource. -/
  resource : UInt32
  /-- Bit 0 asks for a context-switched reservation. -/
  flags : UInt32
  /-- Room for later use. -/
  reserved : UInt64
  deriving DecidableEq, Repr

/-- The argument of releasing a resource. -/
structure ReleaseArgs where
  /-- The number of the resource. -/
  resource : UInt32
  /-- Room for later use. -/
  reserved : UInt32
  deriving DecidableEq, Repr

/-- The argument of executing register operations; the operations travel apart from it. -/
structure ExecArgs where
  /-- The number of the execution mode. -/
  mode : UInt32
  /-- How many operations to execute. -/
  count : UInt32
  /-- Filled in on success: bit 0 for direct operations, bit 1 when every operation passed. -/
  flags : UInt32
  /-- Room for later use. -/
  reserved : UInt32
  deriving DecidableEq, Repr

namespace BindContextArgs

/-- The argument that binds no context. -/
def none : BindContextArgs := ⟨-1, 0⟩

/-- The argument that binds the context behind a descriptor. -/
def ofDescriptor (fd : Int32) : BindContextArgs := ⟨fd, 0⟩

instance : Layout BindContextArgs where
  size := 8
  toBytes a := bytes 4 a.descriptor.toUInt32.toNat ++ bytes 4 a.reserved.toNat
  ofBytes? bs := do
    let (descriptor, bs) ← field? 4 bs
    let (reserved, _) ← field? 4 bs
    return ⟨(UInt32.ofNat descriptor).toInt32, .ofNat reserved⟩

instance : LawfulLayout BindContextArgs where
  length_toBytes a := by simp [Layout.toBytes, Layout.size]
  ofBytes?_toBytes_append a r := by
    simp only [Layout.toBytes, Layout.ofBytes?, List.append_assoc, field?_append,
      Option.bind_eq_bind, Option.bind_some, Option.pure_def, toNat_mod_range_four,
      UInt32.ofNat_toNat, Int32.toInt32_toUInt32]

instance : FullLayout BindContextArgs where
  exists_toBytes bs h := by
    obtain ⟨descriptor, hd⟩ := exists_bytes_four (l := bs.take 4) (by simp [h, Layout.size])
    obtain ⟨reserved, hr⟩ := exists_bytes_four (l := bs.drop 4) (by simp [h, Layout.size])
    refine ⟨⟨descriptor.toInt32, reserved⟩, ?_⟩
    show bytes 4 descriptor.toInt32.toUInt32.toNat ++ bytes 4 reserved.toNat = bs
    rw [UInt32.toUInt32_toInt32, hd, hr, List.take_append_drop]

instance : SoundLayout BindContextArgs where
  append_of_ofBytes? h := by
    obtain ⟨descriptor, bs, rfl, hd, h⟩ := append_of_field?_bind h
    obtain ⟨reserved, r, rfl, hr, h⟩ := append_of_field?_bind h
    cases h
    refine ⟨r, ?_⟩
    simp only [Layout.toBytes, List.append_assoc]
    rw [UInt32.toUInt32_toInt32, UInt32.toNat_ofNat_of_lt' hd, UInt32.toNat_ofNat_of_lt' hr]

end BindContextArgs

namespace ReserveArgs

/-- The argument that reserves a resource, context-switched or not. -/
def new (resource : UInt32) (contextSwitched : Bool) : ReserveArgs :=
  ⟨resource, if contextSwitched then 1 else 0, 0⟩

/-- Whether a context-switched reservation is asked for. -/
def contextSwitched (a : ReserveArgs) : Bool :=
  a.flags &&& 1 != 0

/-- The other flags have no say. -/
theorem contextSwitched_eq (a : ReserveArgs) : a.contextSwitched = a.flags.toNat.testBit 0 := by
  have hbit : (a.flags &&& 1).toNat = a.flags.toNat % 2 := by
    rw [UInt32.toNat_and]
    exact Nat.and_one_is_mod _
  have hne : a.flags &&& 1 ≠ 0 ↔ a.flags.toNat % 2 = 1 := by
    rw [Ne, ← UInt32.toNat_inj, hbit]
    exact Nat.mod_two_ne_zero
  rw [contextSwitched, Nat.testBit_zero, Bool.eq_iff_iff, bne_iff_ne, hne, decide_eq_true_iff]

instance : Layout ReserveArgs where
  size := 16
  toBytes a := bytes 4 a.resource.toNat ++ (bytes 4 a.flags.toNat ++ bytes 8 a.reserved.toNat)
  ofBytes? bs := do
    let (resource, bs) ← field? 4 bs
    let (flags, bs) ← field? 4 bs
    let (reserved, _) ← field? 8 bs
    return ⟨.ofNat resource, .ofNat flags, .ofNat reserved⟩

instance : LawfulLayout ReserveArgs where
  length_toBytes a := by simp [Layout.toBytes, Layout.size]
  ofBytes?_toBytes_append a r := by
    simp [Layout.toBytes, Layout.ofBytes?, field?_append, List.append_assoc]

instance : FullLayout ReserveArgs where
  exists_toBytes bs h := by
    obtain ⟨resource, hr⟩ := exists_bytes_four (l := bs.take 4) (by simp [h, Layout.size])
    obtain ⟨flags, hf⟩ := exists_bytes_four (l := (bs.drop 4).take 4) (by simp [h, Layout.size])
    obtain ⟨reserved, hv⟩ := exists_bytes_eight (l := (bs.drop 4).drop 4) (by simp [h, Layout.size])
    refine ⟨⟨resource, flags, reserved⟩, ?_⟩
    show bytes 4 resource.toNat ++ (bytes 4 flags.toNat ++ bytes 8 reserved.toNat) = bs
    rw [hr, hf, hv, List.take_append_drop, List.take_append_drop]

instance : SoundLayout ReserveArgs where
  append_of_ofBytes? h := by
    obtain ⟨resource, bs, rfl, hs, h⟩ := append_of_field?_bind h
    obtain ⟨flags, bs, rfl, hf, h⟩ := append_of_field?_bind h
    obtain ⟨reserved, r, rfl, hr, h⟩ := append_of_field?_bind h
    cases h
    refine ⟨r, ?_⟩
    simp only [Layout.toBytes, List.append_assoc]
    rw [UInt32.toNat_ofNat_of_lt' hs, UInt32.toNat_ofNat_of_lt' hf, UInt64.toNat_ofNat_of_lt' hr]

end ReserveArgs

namespace ReleaseArgs

/-- The argument that releases a resource. -/
def new (resource : UInt32) : ReleaseArgs := ⟨resource, 0⟩

instance : Layout ReleaseArgs where
  size := 8
  toBytes a := bytes 4 a.resource.toNat ++ bytes 4 a.reserved.toNat
  ofBytes? bs := do
    let (resource, bs) ← field? 4 bs
    let (reserved, _) ← field? 4 bs
    return ⟨.ofNat resource, .ofNat reserved⟩

instance : LawfulLayout ReleaseArgs where
  length_toBytes a := by simp [Layout.toBytes, Layout.size]
  ofBytes?_toBytes_append a r := by
    simp [Layout.toBytes, Layout.ofBytes?, field?_append, List.append_assoc]

instance : FullLayout ReleaseArgs where
  exists_toBytes bs h := by
    obtain ⟨resource, hr⟩ := exists_bytes_four (l := bs.take 4) (by simp [h, Layout.size])
    obtain ⟨reserved, hv⟩ := exists_bytes_four (l := bs.drop 4) (by simp [h, Layout.size])
    refine ⟨⟨resource, reserved⟩, ?_⟩
    show bytes 4 resource.toNat ++ bytes 4 reserved.toNat = bs
    rw [hr, hv, List.take_append_drop]

instance : SoundLayout ReleaseArgs where
  append_of_ofBytes? h := by
    obtain ⟨resource, bs, rfl, hs, h⟩ := append_of_field?_bind h
    obtain ⟨reserved, r, rfl, hr, h⟩ := append_of_field?_bind h
    cases h
    refine ⟨r, ?_⟩
    simp only [Layout.toBytes, List.append_assoc]
    rw [UInt32.toNat_ofNat_of_lt' hs, UInt32.toNat_ofNat_of_lt' hr]

end ReleaseArgs

namespace ExecArgs

/-- The argument that executes `count` operations. -/
def new (mode count : UInt32) : ExecArgs := ⟨mode, count, 0, 0⟩

/-- Whether the operations went straight to the hardware. -/
def directOps (a : ExecArgs) : Bool :=
  a.flags &&& 1 != 0

/-- Whether every operation passed. -/
def allPassed (a : ExecArgs) : Bool :=
  a.flags &&& 2 != 0

/-- The argument with its flags filled in. -/
def withOutcome (a : ExecArgs) (directOps allPassed : Bool) : ExecArgs :=
  { a with flags := (if directOps then 1 else 0) ||| (if allPassed then 2 else 0) }

/-- No flag is set but the two, whatever was set before. -/
theorem testBit_withOutcome (a : ExecArgs) (directOps allPassed : Bool) (i : Nat) :
    (a.withOutcome directOps allPassed).flags.toNat.testBit i
      = (decide (i = 0) && directOps || decide (i = 1) && allPassed) := by
  have hflags : (a.withOutcome directOps allPassed).flags.toNat
      = (if directOps then 1 else 0) + (if allPassed then 2 else 0) := by
    show UInt32.toNat ((if directOps then 1 else 0) ||| (if allPassed then 2 else 0)) = _
    cases directOps <;> cases allPassed <;> decide
  rw [hflags]
  match i with
  | 0 => cases directOps <;> cases allPassed <;> decide
  | 1 => cases directOps <;> cases allPassed <;> decide
  | i + 2 =>
    have hpow : 2 ^ 2 ≤ 2 ^ (i + 2) := Nat.pow_le_pow_right (by decide) (Nat.le_add_left 2 i)
    rw [Nat.testBit_lt_two_pow (Nat.lt_of_lt_of_le (by split <;> split <;> decide) hpow)]
    rfl

instance : Layout ExecArgs where
  size := 16
  toBytes a := bytes 4 a.mode.toNat ++ (bytes 4 a.count.toNat ++ (bytes 4 a.flags.toNat ++
    bytes 4 a.reserved.toNat))
  ofBytes? bs := do
    let (mode, bs) ← field? 4 bs
    let (count, bs) ← field? 4 bs
    let (flags, bs) ← field? 4 bs
    let (reserved, _) ← field? 4 bs
    return ⟨.ofNat mode, .ofNat count, .ofNat flags, .ofNat reserved⟩

instance : LawfulLayout ExecArgs where
  length_toBytes a := by simp [Layout.toBytes, Layout.size]
  ofBytes?_toBytes_append a r := by
    simp [Layout.toBytes, Layout.ofBytes?, field?_append, List.append_assoc]

instance : FullLayout ExecArgs where
  exists_toBytes bs h := by
    obtain ⟨mode, hm⟩ := exists_bytes_four (l := bs.take 4) (by simp [h, Layout.size])
    obtain ⟨count, hc⟩ := exists_bytes_four (l := (bs.drop 4).take 4) (by simp [h, Layout.size])
    obtain ⟨flags, hf⟩ :=
      exists_bytes_four (l := ((bs.drop 4).drop 4).take 4) (by simp [h, Layout.size])
    obtain ⟨reserved, hv⟩ :=
      exists_bytes_four (l := ((bs.drop 4).drop 4).drop 4) (by simp [h, Layout.size])
    refine ⟨⟨mode, count, flags, reserved⟩, ?_⟩
    show bytes 4 mode.toNat ++ (bytes 4 count.toNat ++ (bytes 4 flags.toNat ++
      bytes 4 reserved.toNat)) = bs
    rw [hm, hc, hf, hv, List.take_append_drop, List.take_append_drop, List.take_append_drop]

instance : SoundLayout ExecArgs where
  append_of_ofBytes? h := by
    obtain ⟨mode, bs, rfl, hm, h⟩ := append_of_field?_bind h
    obtain ⟨count, bs, rfl, hc, h⟩ := append_of_field?_bind h
    obtain ⟨flags, bs, rfl, hf, h⟩ := append_of_field?_bind h
    obtain ⟨reserved, r, rfl, hr, h⟩ := append_of_field?_bind h
    cases h
    refine ⟨r, ?_⟩
    simp only [Layout.toBytes, List.append_assoc]
    rw [UInt32.toNat_ofNat_of_lt' hm, UInt32.toNat_ofNat_of_lt' hc, UInt32.toNat_ofNat_of_lt' hf,
      UInt32.toNat_ofNat_of_lt' hr]

end ExecArgs

end Perfmon
