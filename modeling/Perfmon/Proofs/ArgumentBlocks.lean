import Perfmon.Request.Args
/-!
# Argument blocks as bytes

A block is read from the first so many bytes of a buffer, and how many these are is announced by the
caller, so buffer, announcement and block can have three different lengths. `ReadsBack` says what
becomes of every combination of the three, and it holds of all four kinds of block
(`blocks_read_back`). Each kind of block has to know three things for this, all of them about its
byte form: its length, that it is read back whatever lies behind it, and that nothing else is read
(`LawfulLayout`, `FullLayout`, `SoundLayout`).
-/

namespace Perfmon

variable {α : Type} [Layout α] [LawfulLayout α] [FullLayout α] [SoundLayout α]

/-- Only a byte string that is too short holds no block. -/
theorem Layout.ofBytes?_eq_none_iff {bs : List UInt8} :
    (Layout.ofBytes? bs : Option α) = none ↔ bs.length < Layout.size α := by
  constructor
  · intro h
    refine Nat.lt_of_not_le fun hl => ?_
    obtain ⟨a, r, rfl⟩ := exists_toBytes_append (α := α) hl
    rw [LawfulLayout.ofBytes?_toBytes_append] at h
    cases h
  · intro hl
    cases ha : (Layout.ofBytes? bs : Option α) with
    | none => rfl
    | some a =>
      obtain ⟨r, rfl⟩ := SoundLayout.append_of_ofBytes? ha
      rw [List.length_append, LawfulLayout.length_toBytes] at hl
      omega

/-- Why there is no block at the front of a buffer, or what the block is. -/
theorem decodeArgs_cases (bs : List UInt8) (n : Nat) :
    (bs.length < n ∧ decodeArgs α bs n = .error (.truncated n bs.length)) ∨
    (n ≤ bs.length ∧ n < Layout.size α ∧ decodeArgs α bs n = .error .shortBlock) ∨
    (n ≤ bs.length ∧ Layout.size α ≤ n ∧ ∃ a, decodeArgs α bs n = .ok a ∧
      Layout.toBytes a = bs.take (Layout.size α)) := by
  unfold decodeArgs
  by_cases hn : bs.length < n
  · exact Or.inl ⟨hn, if_pos hn⟩
  · have hle : n ≤ bs.length := Nat.not_lt.mp hn
    have hlen : (bs.take n).length = n := List.length_take_of_le hle
    rw [if_neg hn]
    cases ha : (Layout.ofBytes? (bs.take n) : Option α) with
    | none =>
      rw [Layout.ofBytes?_eq_none_iff, hlen] at ha
      exact Or.inr (Or.inl ⟨hle, ha, rfl⟩)
    | some a =>
      have hs : Layout.size α ≤ n := by
        rw [← Nat.not_lt, ← hlen, ← Layout.ofBytes?_eq_none_iff (α := α), ha]
        nofun
      obtain ⟨r, hr⟩ := SoundLayout.append_of_ofBytes? ha
      refine Or.inr (Or.inr ⟨hle, hs, a, rfl, ?_⟩)
      -- The block ends inside the bytes that were announced.
      rw [← Nat.min_eq_left hs, ← List.take_take, hr,
        List.take_left' (LawfulLayout.length_toBytes a)]

/-- Blocks of a kind are so many bytes long and are read as what they were written as, and what
becomes of reading any buffer under any announcement. -/
structure ReadsBack (α : Type) [Layout α] (size : Nat) : Prop where
  length : ∀ a : α, (Layout.toBytes a).length = size
  read : ∀ (a : α) (r : List UInt8) (n : Nat), size ≤ n → n ≤ size + r.length →
    decodeArgs α (Layout.toBytes a ++ r) n = .ok a
  truncated : ∀ (bs : List UInt8) (n expected actual : Nat),
    decodeArgs α bs n = .error (.truncated expected actual) ↔
      bs.length < n ∧ expected = n ∧ actual = bs.length
  short : ∀ (bs : List UInt8) (n : Nat),
    decodeArgs α bs n = .error .shortBlock ↔ ¬bs.length < n ∧ n < size
  written : ∀ (bs : List UInt8) (n : Nat), ¬bs.length < n → ¬n < size →
    ∃ a, decodeArgs α bs n = .ok a ∧ Layout.toBytes a = bs.take size

theorem Layout.readsBack : ReadsBack α (Layout.size α) where
  length := LawfulLayout.length_toBytes
  read a _ _ hn hr := decodeArgs_toBytes_append_of_le a hn hr
  truncated bs n expected actual := by
    rcases decodeArgs_cases (α := α) bs n with ⟨hn, hd⟩ | ⟨hn, hs, hd⟩ | ⟨hn, hs, a, hd, -⟩
    · simp [hd, hn, eq_comm]
    · simp [hd, Nat.not_lt.mpr hn]
    · simp [hd, Nat.not_lt.mpr hn]
  short bs n := by
    rcases decodeArgs_cases (α := α) bs n with ⟨hn, hd⟩ | ⟨hn, hs, hd⟩ | ⟨hn, hs, a, hd, -⟩
    · simp [hd, hn]
    · simp [hd, hn, hs]
    · simp [hd, hs]
  written bs n hn hs := by
    rcases decodeArgs_cases (α := α) bs n with ⟨hn', -⟩ | ⟨-, hs', -⟩ | ⟨-, -, hread⟩
    · exact absurd hn' hn
    · exact absurd hs' hs
    · exact hread

/-- **Blocks are read as what they were written as.** The block of each of the four kinds of value
has its fixed length, and is read back as the value, whatever lies behind it and however much of it
is announced. Reading fails because the buffer is shorter than what is announced exactly if it is;
otherwise because the announced bytes are too few for a block exactly if they are; and otherwise it
gives the value whose block the buffer begins with. -/
theorem blocks_read_back :
    ReadsBack BindContextArgs 8 ∧ ReadsBack ReserveArgs 16 ∧ ReadsBack ReleaseArgs 8 ∧
      ReadsBack ExecArgs 16 :=
  ⟨Layout.readsBack, Layout.readsBack, Layout.readsBack, Layout.readsBack⟩

/-- A descriptor below zero, announced with three of the bytes behind it. -/
example : decodeArgs BindContextArgs [0xfe, 0xff, 0xff, 0xff, 0xff, 0xff, 0xff, 0xff, 1, 2, 3, 4] 11
    = .ok ⟨-2, 0xffffffff⟩ :=
  rfl

end Perfmon
