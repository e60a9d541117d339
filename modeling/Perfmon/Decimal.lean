/-!
# Decimal numbers and doubles

Whether digits times a power of ten are a finite double, by two rules. By the first the number is
rounded once (`isFinite`). By the second the digits and the power of ten are rounded first, and so
is their product (`productIsFinite`); near the largest double the two differ. The power may be far
too large to be computed with; then the number of digits before the point, or the power itself,
decides.
-/

namespace Perfmon.Decimal

/-- The least magnitude that rounds to infinity: half a unit above the largest double. -/
def infinityFrom : Nat := Nat.pow 2 1024 - Nat.pow 2 970

/-! ## Rounding -/

/-- The multiple of a unit that is nearest to a number; of two equally near ones, the even one. -/
def roundTo (unit n : Nat) : Nat :=
  let below := n / unit
  let rest := n % unit
  if 2 * rest < unit ∨ (2 * rest = unit ∧ below % 2 = 0) then unit * below
  else unit * (below + 1)

theorem dvd_roundTo (unit n : Nat) : unit ∣ roundTo unit n := by
  unfold roundTo
  dsimp only
  split
  · exact ⟨_, rfl⟩
  · exact ⟨_, rfl⟩

theorem roundTo_le (unit n : Nat) : 2 * roundTo unit n ≤ 2 * n + unit := by
  have h := Nat.div_add_mod n unit
  unfold roundTo
  dsimp only
  split
  · omega
  · rw [Nat.mul_succ]
    omega

theorem le_roundTo {unit : Nat} (h : 0 < unit) (n : Nat) : 2 * n ≤ 2 * roundTo unit n + unit := by
  have hn := Nat.div_add_mod n unit
  have hr := Nat.mod_lt n h
  unfold roundTo
  dsimp only
  split
  · omega
  · rw [Nat.mul_succ]
    omega

/-- The double nearest to a natural number below `infinityFrom`. A double has 53 binary digits, so
the unit is the place of the last of the leading 53. -/
def nearest (n : Nat) : Nat :=
  roundTo (Nat.pow 2 (n.log2 - 52)) n

/-! ## Finite doubles -/

/-- Whether digits times a power of ten round to a finite double. -/
def isFinite (digits : Nat) (exponent : Int) : Bool :=
  let before := ((Nat.toDigits 10 digits).length : Int) + exponent
  if digits = 0 ∨ before < 300 then true
  else if 320 < before then false
  else if 0 ≤ exponent then decide (digits * Nat.pow 10 exponent.toNat < infinityFrom)
  else decide (digits < infinityFrom * Nat.pow 10 (-exponent).toNat)

/-- Whether the double nearest to digits of 64 bits, times the double nearest to a power of ten,
rounds to a finite double. A power below one makes nothing larger, and the powers above the 308th
are no doubles themselves. -/
def productIsFinite (digits : Nat) (exponent : Int) : Bool :=
  if digits = 0 ∨ exponent < 0 then true
  else if 308 < exponent then false
  else decide (nearest digits * nearest (Nat.pow 10 exponent.toNat) < infinityFrom)

end Perfmon.Decimal
