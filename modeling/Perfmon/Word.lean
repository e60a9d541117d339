/-!
# Words

A 64-bit word and its two 32-bit halves. The device takes register values and masks as halves,
callers hand them over whole.
-/

namespace Perfmon.Word

/-- The low 32 bits of a word. -/
def low (v : UInt64) : UInt32 :=
  v.toUInt32

/-- The high 32 bits of a word. -/
def high (v : UInt64) : UInt32 :=
  (v >>> 32).toUInt32

/-- The word with the given halves. -/
def join (hi lo : UInt32) : UInt64 :=
  (hi.toUInt64 <<< 32) ||| lo.toUInt64

/-- As numbers, the low half is a remainder. -/
theorem toNat_low (v : UInt64) : (low v).toNat = v.toNat % 0x100000000 := by
  simp [low]

/-- As numbers, the high half is a quotient. -/
theorem toNat_high (v : UInt64) : (high v).toNat = v.toNat / 0x100000000 := by
  have h := v.toNat_lt
  simp [high, Nat.shiftRight_eq_div_pow]
  omega

/-- As numbers, the halves of a joined word count 2³² and 1. -/
theorem toNat_join (hi lo : UInt32) : (join hi lo).toNat = hi.toNat * 0x100000000 + lo.toNat := by
  have hh := hi.toNat_lt
  have hl := lo.toNat_lt
  have hb : hi.toNat * 2 ^ 32 < 2 ^ 64 := by omega
  simp only [join, UInt64.toNat_or, UInt64.toNat_shiftLeft, UInt32.toNat_toUInt64]
  rw [show (32 : UInt64).toNat % 64 = 32 from rfl, Nat.shiftLeft_eq, Nat.mod_eq_of_lt hb,
    ← Nat.shiftLeft_eq, Nat.shiftLeft_add_eq_or_of_lt hl]

/-- Joining the halves of a word gives the word. -/
@[simp] theorem join_high_low (v : UInt64) : join (high v) (low v) = v := by
  apply UInt64.toNat_inj.1
  rw [toNat_join, toNat_high, toNat_low]
  omega

/-- The low half of a joined word. -/
@[simp] theorem low_join (hi lo : UInt32) : low (join hi lo) = lo := by
  apply UInt32.toNat_inj.1
  have hl := lo.toNat_lt
  rw [toNat_low, toNat_join]
  omega

/-- The high half of a joined word. -/
@[simp] theorem high_join (hi lo : UInt32) : high (join hi lo) = hi := by
  apply UInt32.toNat_inj.1
  have hl := lo.toNat_lt
  rw [toNat_high, toNat_join]
  omega

/-! ## Bit operations -/

/-- Words are equal when their halves are. -/
theorem ext {v w : UInt64} (hh : high v = high w) (hl : low v = low w) : v = w := by
  rw [← join_high_low v, hh, hl, join_high_low]

theorem low_and (v w : UInt64) : low (v &&& w) = low v &&& low w := by
  simp [low]

theorem low_or (v w : UInt64) : low (v ||| w) = low v ||| low w := by
  simp [low]

theorem low_not (v : UInt64) : low (~~~v) = ~~~low v := by
  simp [low]

theorem high_and (v w : UInt64) : high (v &&& w) = high v &&& high w := by
  simp [high, UInt64.shiftRight_and]

theorem high_or (v w : UInt64) : high (v ||| w) = high v ||| high w := by
  simp [high, UInt64.shiftRight_or]

theorem high_not (v : UInt64) : high (~~~v) = ~~~high v := by
  apply UInt32.toNat_inj.1
  have hv := v.toNat_lt
  rw [toNat_high, UInt64.toNat_not, UInt32.toNat_not, toNat_high]
  simp only [UInt64.size, UInt32.size]
  omega

/-- Masking the high half away keeps the low one. -/
theorem low_and_low (v : UInt64) : low (v &&& 0xffffffff) = low v := by
  rw [low_and, show low 0xffffffff = ~~~0 from by decide]
  simp

theorem high_and_low (v : UInt64) : high (v &&& 0xffffffff) = 0 := by
  rw [high_and, show high 0xffffffff = 0 from by decide]
  simp

end Perfmon.Word
