import Mathlib.Logic.ExistsUnique
import Perfmon.Request
/-!
# Codes packed into words

A word has a place for each field of a code, and two of the places are narrower than their fields.
What a code loses when it is packed is what there is no room for (`RequestCode.decode_encode`), and
a word loses nothing when it is unpacked (`RequestCode.encode_decode`), so words are the codes that
fit (`RequestCode.codes_are_words`). As numbers the fields of a word are added up
(`RequestCode.toNat_encode`), which is what both directions rest on.
-/

namespace Perfmon

namespace RequestCode

/-- Whether there is room in a word for all bits of a code. -/
structure Fits (c : RequestCode) : Prop where
  dir : c.dir < 4
  size : c.size < 0x4000

/-- The code without the bits for which there is no room in a word: two of its direction and
fourteen of its length are left. -/
def cut (c : RequestCode) : RequestCode :=
  { c with dir := c.dir % 4, size := c.size % 0x4000 }

theorem cut_of_fits {c : RequestCode} (h : c.Fits) : c.cut = c := by
  have hdir : c.dir % 4 = c.dir := UInt8.mod_eq_of_lt h.dir
  have hsize : c.size % 0x4000 = c.size := UInt16.mod_eq_of_lt h.size
  rw [cut, hdir, hsize]

theorem fits_decode (w : UInt32) : (decode w).Fits := by
  have hw : w.toNat < 0x100000000 := w.toNat_lt
  constructor
  · rw [UInt8.lt_iff_toNat_lt, toNat_dir_decode]
    show w.toNat / 0x40000000 < 4
    omega
  · rw [UInt16.lt_iff_toNat_lt, toNat_size_decode]
    exact Nat.mod_lt _ (by decide)

/-- **A word is packed again from its fields.** -/
theorem encode_decode (w : UInt32) : (decode w).encode = w := by
  have hw : w.toNat < 0x100000000 := w.toNat_lt
  rw [← UInt32.toNat_inj, toNat_encode, toNat_dir_decode, toNat_size_decode, toNat_magic_decode,
    toNat_number_decode]
  omega

/-- **A code is unpacked again,** without the bits for which there was no room. -/
theorem decode_encode (c : RequestCode) : decode c.encode = c.cut := by
  have hmagic : c.magic.toNat < 0x100 := c.magic.toNat_lt
  have hnumber : c.number.toNat < 0x100 := c.number.toNat_lt
  have hdir : (decode c.encode).dir = c.dir % 4 := by
    rw [← UInt8.toNat_inj, toNat_dir_decode, toNat_encode, UInt8.toNat_mod]
    show _ = c.dir.toNat % 4
    omega
  have hsize : (decode c.encode).size = c.size % 0x4000 := by
    rw [← UInt16.toNat_inj, toNat_size_decode, toNat_encode, UInt16.toNat_mod]
    show _ = c.size.toNat % 0x4000
    omega
  have hmagic' : (decode c.encode).magic = c.magic := by
    rw [← UInt8.toNat_inj, toNat_magic_decode, toNat_encode]
    omega
  have hnumber' : (decode c.encode).number = c.number := by
    rw [← UInt8.toNat_inj, toNat_number_decode, toNat_encode]
    omega
  rw [cut, ← hdir, ← hsize, ← hmagic', ← hnumber']

/-- **Words are the codes that fit.** Every word is packed again from its fields. A code that is
packed and unpacked has kept its magic byte and its number, the two low bits of its direction and
the fourteen low bits of its length: what is too large for its place changes no other field. So each
word is the word of exactly one code that fits. -/
theorem codes_are_words :
    (∀ w : UInt32, (decode w).encode = w) ∧
    (∀ c : RequestCode,
      decode c.encode = ⟨c.dir % 4, c.magic, c.number, c.size % 0x4000⟩) ∧
    ∀ w : UInt32, ∃! c : RequestCode, c.Fits ∧ c.encode = w := by
  refine ⟨encode_decode, decode_encode, fun w => ⟨decode w, ⟨fits_decode w, encode_decode w⟩, ?_⟩⟩
  rintro c ⟨hc, rfl⟩
  exact (cut_of_fits hc).symm.trans (decode_encode c).symm

/-- A direction and a length that are too large lose their high bits, and nothing else changes. -/
example : decode (encode ⟨0xfe, 0x50, 7, 0xc010⟩) = ⟨2, 0x50, 7, 0x10⟩ := by decide

end RequestCode

end Perfmon
