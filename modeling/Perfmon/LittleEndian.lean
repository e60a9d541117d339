/-!
# Little-endian fields

Numbers as byte strings of a fixed length, lowest byte first. `bytes` writes a field, `value` reads
one, `field?` cuts one off the front of a longer string. Both directions are pinned down:
`field?_append` says that what is written is read back, `append_of_field?` that what is read is
what would be written.
-/

namespace Perfmon.LittleEndian

/-- The `k` lowest bytes of a number, the lowest first. -/
def bytes : (k n : Nat) → List UInt8
  | 0, _ => []
  | k + 1, n => UInt8.ofNat n :: bytes k (n / 256)

/-- The number that a byte string stands for. -/
def value : List UInt8 → Nat
  | [] => 0
  | b :: r => b.toNat + 256 * value r

/-- How many numbers `k` bytes can stand for. -/
def range : (k : Nat) → Nat
  | 0 => 1
  | k + 1 => 256 * range k

@[simp] theorem length_bytes (k n : Nat) : (bytes k n).length = k := by
  induction k generalizing n with
  | zero => rfl
  | succ k ih => simp [bytes, ih]

/-- Reading the `k` lowest bytes of a number gives the number as far as `k` bytes reach. -/
theorem value_bytes (k n : Nat) : value (bytes k n) = n % range k := by
  induction k generalizing n with
  | zero => simp [bytes, value, range, Nat.mod_one]
  | succ k ih =>
    have hb : (UInt8.ofNat n).toNat = n % 256 := UInt8.toNat_ofNat'
    rw [bytes, value, ih, hb, range, Nat.mod_mul]

@[simp] theorem toNat_mod_range_four (n : UInt32) : n.toNat % range 4 = n.toNat :=
  Nat.mod_eq_of_lt n.toNat_lt

@[simp] theorem toNat_mod_range_eight (n : UInt64) : n.toNat % range 8 = n.toNat :=
  Nat.mod_eq_of_lt n.toNat_lt

theorem value_lt (l : List UInt8) : value l < range l.length := by
  induction l with
  | nil => simp [value, range]
  | cons b r ih =>
    have hb := b.toNat_lt
    simp only [value, List.length_cons, range]
    omega

/-- Writing back what was read gives the same bytes. -/
theorem bytes_value (l : List UInt8) : bytes l.length (value l) = l := by
  induction l with
  | nil => rfl
  | cons b r ih =>
    have hb := b.toNat_lt
    have hd : (b.toNat + 256 * value r) / 256 = value r := by omega
    have hm : UInt8.ofNat (b.toNat + 256 * value r) = b := by
      apply UInt8.toNat_inj.1
      rw [UInt8.toNat_ofNat']
      omega
    simp only [List.length_cons, bytes, value, hd, hm, ih]

/-- Four bytes are the byte form of a 32-bit number. -/
theorem exists_bytes_four {l : List UInt8} (h : l.length = 4) :
    ∃ n : UInt32, bytes 4 n.toNat = l := by
  have hlt := value_lt l
  have hb := bytes_value l
  rw [h] at hlt hb
  exact ⟨.ofNat (value l), by rw [UInt32.toNat_ofNat_of_lt' hlt, hb]⟩

/-- Eight bytes are the byte form of a 64-bit number. -/
theorem exists_bytes_eight {l : List UInt8} (h : l.length = 8) :
    ∃ n : UInt64, bytes 8 n.toNat = l := by
  have hlt := value_lt l
  have hb := bytes_value l
  rw [h] at hlt hb
  exact ⟨.ofNat (value l), by rw [UInt64.toNat_ofNat_of_lt' hlt, hb]⟩

/-- Cuts a field of `k` bytes off the front: its number and the bytes behind it. -/
def field? (k : Nat) (bs : List UInt8) : Option (Nat × List UInt8) :=
  if bs.length < k then none else some (value (bs.take k), bs.drop k)

/-- A written field is read back, and the bytes behind it are left. -/
theorem field?_append (k n : Nat) (r : List UInt8) :
    field? k (bytes k n ++ r) = some (n % range k, r) := by
  have h : ¬ (bytes k n ++ r).length < k := by simp
  have ht : (bytes k n ++ r).take k = bytes k n := List.take_left' (length_bytes k n)
  have hd : (bytes k n ++ r).drop k = r := List.drop_left' (length_bytes k n)
  simp only [field?, if_neg h, ht, hd, value_bytes]

/-- A field is cut off the front, whatever lies behind it. -/
theorem field?_append_of_le {k : Nat} {bs : List UInt8} (h : k ≤ bs.length) (r : List UInt8) :
    field? k (bs ++ r) = some (value (bs.take k), bs.drop k ++ r) := by
  have hk : ¬ (bs ++ r).length < k := by
    rw [List.length_append]
    omega
  rw [field?, if_neg hk, List.take_append_of_le_length h, List.drop_append_of_le_length h]

/-- A field that is read is the written form of its number. -/
theorem append_of_field? {k n : Nat} {bs r : List UInt8} (h : field? k bs = some (n, r)) :
    bs = bytes k n ++ r ∧ n < range k := by
  unfold field? at h
  split at h
  · simp at h
  · rename_i hk
    have hlen : (bs.take k).length = k := by simp; omega
    simp only [Option.some.injEq, Prod.mk.injEq] at h
    obtain ⟨rfl, rfl⟩ := h
    have hb := bytes_value (bs.take k)
    have hv := value_lt (bs.take k)
    rw [hlen] at hb hv
    exact ⟨by rw [hb, List.take_append_drop], hv⟩

/-- Whatever is read from its front on begins with the written form of a number. -/
theorem append_of_field?_bind {α : Type} {k : Nat} {bs : List UInt8}
    {f : Nat × List UInt8 → Option α} {a : α} (h : (field? k bs).bind f = some a) :
    ∃ n r, bs = bytes k n ++ r ∧ n < range k ∧ f (n, r) = some a := by
  obtain ⟨⟨n, r⟩, hf, ha⟩ := Option.bind_eq_some_iff.mp h
  obtain ⟨hbs, hn⟩ := append_of_field? hf
  exact ⟨n, r, hbs, hn, ha⟩

end Perfmon.LittleEndian
