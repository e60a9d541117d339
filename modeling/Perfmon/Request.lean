/-!
# Request codes

A control request is named by one 32-bit word, which packs a direction, the length of the argument
block, a magic byte and a number:

| bits     | field  |
|----------|--------|
| 30 to 31 | dir    |
| 16 to 29 | size   |
| 8 to 15  | magic  |
| 0 to 7   | number |

A field that is too large for its place loses its high bits and leaves the other fields alone.
`Request` is the closed list of the requests that there are.
-/

namespace Perfmon

/-- The fields of a request word. -/
structure RequestCode where
  /-- Which way the argument block travels: bit 0 to the library, bit 1 back to the caller. -/
  dir : UInt8
  /-- The byte that all requests of one family share. -/
  magic : UInt8
  /-- The number of the request. -/
  number : UInt8
  /-- The length of the argument block in bytes. -/
  size : UInt16
  deriving DecidableEq, Repr

namespace RequestCode

/-- The word that packs the fields. -/
def encode (c : RequestCode) : UInt32 :=
  (c.dir.toUInt32 <<< 30) ||| ((c.size.toUInt32 &&& 0x3fff) <<< 16) |||
    (c.magic.toUInt32 <<< 8) ||| c.number.toUInt32

/-- The fields of a word. -/
def decode (word : UInt32) : RequestCode where
  dir := (word >>> 30).toUInt8 &&& 3
  magic := (word >>> 8).toUInt8
  number := word.toUInt8
  size := ((word >>> 16) &&& 0x3fff).toUInt16

/-- Whether the caller hands an argument block over. -/
def writesArgs (c : RequestCode) : Bool :=
  c.dir &&& 1 != 0

/-- Whether the caller gets the argument block back. -/
def readsArgs (c : RequestCode) : Bool :=
  c.dir &&& 2 != 0

/-! ### The fields as numbers -/

theorem and_twoBits (n : Nat) : n &&& 3 = n % 4 :=
  Nat.and_two_pow_sub_one_eq_mod n 2

theorem and_fourteenBits (n : Nat) : n &&& 0x3fff = n % 0x4000 :=
  Nat.and_two_pow_sub_one_eq_mod n 14

theorem toNat_magic_decode (w : UInt32) : (decode w).magic.toNat = w.toNat / 0x100 % 0x100 := by
  simp [decode, Nat.shiftRight_eq_div_pow]

theorem toNat_number_decode (w : UInt32) : (decode w).number.toNat = w.toNat % 0x100 := by
  simp [decode]

theorem toNat_size_decode (w : UInt32) : (decode w).size.toNat = w.toNat / 0x10000 % 0x4000 := by
  simp [decode, Nat.shiftRight_eq_div_pow, and_fourteenBits]

theorem toNat_dir_decode (w : UInt32) : (decode w).dir.toNat = w.toNat / 0x40000000 := by
  have hw : w.toNat < 0x100000000 := w.toNat_lt
  have hdir : (decode w).dir.toNat = w.toNat / 0x40000000 % 0x100 % 4 := by
    simp [decode, Nat.shiftRight_eq_div_pow, and_twoBits]
  omega

/-- The fields lie side by side in a word, each with as many bits as there are for it. -/
theorem toNat_encode (c : RequestCode) :
    c.encode.toNat = c.dir.toNat % 4 * 0x40000000 + c.size.toNat % 0x4000 * 0x10000
      + c.magic.toNat * 0x100 + c.number.toNat := by
  have hmagic : c.magic.toNat < 2 ^ 8 := c.magic.toNat_lt
  have hnumber : c.number.toNat < 2 ^ 8 := c.number.toNat_lt
  have hdir : (c.dir.toUInt32 <<< 30).toNat = c.dir.toNat % 4 * 2 ^ 30 := by
    simp only [UInt32.toNat_shiftLeft, UInt8.toNat_toUInt32, UInt32.reduceToNat, Nat.reduceMod,
      Nat.shiftLeft_eq]
    omega
  have hsize : ((c.size.toUInt32 &&& 0x3fff) <<< 16).toNat = c.size.toNat % 0x4000 * 2 ^ 16 := by
    simp only [UInt32.toNat_shiftLeft, UInt32.toNat_and, UInt16.toNat_toUInt32,
      UInt32.reduceToNat, and_fourteenBits, Nat.reduceMod, Nat.shiftLeft_eq]
    omega
  have hmagic' : (c.magic.toUInt32 <<< 8).toNat = c.magic.toNat * 2 ^ 8 := by
    simp only [UInt32.toNat_shiftLeft, UInt8.toNat_toUInt32, UInt32.reduceToNat, Nat.reduceMod,
      Nat.shiftLeft_eq]
    omega
  -- No field reaches into the place of the next one, so joining them is adding them up.
  have hjoin : ∀ {a b : Nat} (i : Nat), b < 2 ^ i → a * 2 ^ i ||| b = a * 2 ^ i + b := by
    intro a b i hb
    rw [← Nat.shiftLeft_eq, Nat.shiftLeft_add_eq_or_of_lt hb]
  rw [encode, UInt32.toNat_or, UInt32.toNat_or, UInt32.toNat_or, hdir, hsize, hmagic',
    UInt8.toNat_toUInt32, Nat.or_assoc, Nat.or_assoc, hjoin 8 hnumber, hjoin 16 (by omega),
    hjoin 30 (by omega)]
  omega

/-- The lower of the two bits of the direction is bit 30 of the word. -/
theorem writesArgs_decode (w : UInt32) : (decode w).writesArgs = w.toNat.testBit 30 := by
  have hbit : ((decode w).dir &&& 1).toNat = w.toNat / 2 ^ 30 % 2 := by
    rw [UInt8.toNat_and, toNat_dir_decode]
    exact Nat.and_one_is_mod _
  have hne : (decode w).dir &&& 1 ≠ 0 ↔ w.toNat / 2 ^ 30 % 2 = 1 := by
    rw [Ne, ← UInt8.toNat_inj, hbit]
    exact Nat.mod_two_ne_zero
  rw [writesArgs, Nat.testBit_eq_decide_div_mod_eq, Bool.eq_iff_iff, bne_iff_ne, hne,
    decide_eq_true_iff]

end RequestCode

/-- The requests of the control channel. -/
inductive Request where
  | bindContext
  | unbindContext
  | reserveResource
  | releaseResource
  | bindResources
  | unbindResources
  | execRegOps
  deriving DecidableEq, Repr

namespace Request

/-- Every request, in the order of the request numbers. -/
def all : List Request :=
  [.bindContext, .unbindContext, .reserveResource, .releaseResource, .bindResources,
    .unbindResources, .execRegOps]

/-- The byte that the requests share, the letter `P`. -/
def magic : UInt8 := 0x50

/-- The highest request number. -/
def lastNumber : UInt8 := 7

/-- The number of a request. -/
def number : Request → UInt8
  | .bindContext => 1
  | .unbindContext => 2
  | .reserveResource => 3
  | .releaseResource => 4
  | .bindResources => 5
  | .unbindResources => 6
  | .execRegOps => 7

/-- The length of a request's argument block in bytes. -/
def argSize : Request → UInt16
  | .bindContext | .releaseResource => 8
  | .reserveResource | .execRegOps => 16
  | .unbindContext | .bindResources | .unbindResources => 0

/-- The direction of a request: only the execution of operations gives its argument block back. -/
def dir : Request → UInt8
  | .bindContext | .reserveResource | .releaseResource => 1
  | .execRegOps => 3
  | .unbindContext | .bindResources | .unbindResources => 0

/-- The fields of a request's word. -/
def code (r : Request) : RequestCode :=
  ⟨r.dir, magic, r.number, r.argSize⟩

/-- The word of a request. -/
def word (r : Request) : UInt32 :=
  r.code.encode

/-- The request that a word names; every field has to be right. -/
def ofWord? (w : UInt32) : Option Request :=
  all.find? (·.word == w)

@[simp] theorem ofWord?_word (r : Request) : ofWord? r.word = some r := by
  cases r <;> decide

/-- The fields of a request's word are the ones that were packed. -/
@[simp] theorem decode_word (r : Request) : RequestCode.decode r.word = r.code := by
  cases r <;> decide

/-- Only the word of a request names it. -/
theorem word_of_ofWord? {w : UInt32} {r : Request} (h : ofWord? w = some r) : r.word = w := by
  simpa using List.find?_some h

theorem ofWord?_eq_none_iff {w : UInt32} : ofWord? w = none ↔ ∀ r : Request, w ≠ r.word := by
  constructor
  · rintro h r rfl
    rw [ofWord?_word] at h
    cases h
  · intro h
    cases hw : ofWord? w with
    | none => rfl
    | some r => exact absurd (word_of_ofWord? hw).symm (h r)

/-- The name of a request. -/
def label : Request → String
  | .bindContext => "bind_context"
  | .unbindContext => "unbind_context"
  | .reserveResource => "reserve_pm_resource"
  | .releaseResource => "release_pm_resource"
  | .bindResources => "bind_pm_resources"
  | .unbindResources => "unbind_pm_resources"
  | .execRegOps => "exec_reg_ops"

/-- The name of the request that a word names, or `unknown`. -/
def nameOfWord (w : UInt32) : String :=
  ((ofWord? w).map label).getD "unknown"

end Request

end Perfmon
