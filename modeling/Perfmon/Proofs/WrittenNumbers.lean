import Mathlib.Data.List.Induction
import Perfmon.Script.Number
/-!
# Numbers are read as they are written

A number can be written in many ways: decimal or hexadecimal, with zeros in front, with underscores
in between, with a plus sign, with white space around it. `ScriptNumber.Rendering` says what counts
as a way of writing a number, and reading a text gives a number exactly if the text is such a way of
writing it and there is room for it in 64 bits (`ScriptNumber.numbers_are_read_as_written`).

The reader takes a text apart from the outside to the inside: white space, the mark of the base,
underscores, the sign, digits. Each layer is undone by itself, and it can be, because what it puts
around or in between is nothing that the layers inside of it know: no digit is an underscore, a sign
or blank, and no decimal digit is the mark of a base.
-/

namespace Perfmon

namespace Text

variable {base bound acc d v n : Nat} {c : Char} {cs ds : List Char}

/-! ## Digits -/

theorem toNat_toLower (c : Char) :
    c.toLower.toNat = if 65 ≤ c.toNat ∧ c.toNat ≤ 90 then c.toNat + 32 else c.toNat := by
  have hupper : c.val ≥ 'A'.val ∧ c.val ≤ 'Z'.val ↔ 65 ≤ c.toNat ∧ c.toNat ≤ 90 := Iff.rfl
  unfold Char.toLower
  split
  · rename_i h
    rw [if_pos (hupper.mp h)]
    have hsum : (c.val + 32).toNat = (c.toNat + 32) % 4294967296 := UInt32.toNat_add _ _
    have hle := (hupper.mp h).2
    exact hsum.trans (Nat.mod_eq_of_lt (by omega))
  · rename_i h
    rw [if_neg fun hc => h (hupper.mpr hc)]

theorem toLower_toLower (c : Char) : c.toLower.toLower = c.toLower := by
  have hlower := toNat_toLower c
  rw [← Char.toNat_inj, toNat_toLower]
  split <;> grind

/-- Which characters are digits, and of which value. -/
theorem digit?_eq_some_iff (hb : base ≤ 16) :
    digit? base c = some d ↔ d < base ∧ c.toLower = Nat.digitChar d := by
  have hdigit : ∀ d < 16, (Nat.digitChar d).toNat = if d < 10 then 48 + d else 87 + d := by decide
  have hle : ∀ a b : Char, a ≤ b ↔ a.toNat ≤ b.toNat := fun _ _ => Iff.rfl
  have hlower := toNat_toLower c
  simp only [digit?, hle, Char.reduceToNat, Option.ite_none_right_eq_some, Option.some_inj,
    ← Char.toNat_inj]
  grind

theorem digit?_toLower (hb : base ≤ 16) (c : Char) : digit? base c.toLower = digit? base c := by
  refine Option.ext fun d => ?_
  rw [digit?_eq_some_iff hb, digit?_eq_some_iff hb, toLower_toLower]

theorem digit?_digitChar (hb : base ≤ 16) (hd : d < base) :
    digit? base (Nat.digitChar d) = some d := by
  have hlower : ∀ d < 16, (Nat.digitChar d).toLower = Nat.digitChar d := by decide
  exact (digit?_eq_some_iff hb).mpr ⟨hd, hlower d (Nat.lt_of_lt_of_le hd hb)⟩

theorem digit?_underscore (base : Nat) : digit? base '_' = none :=
  if_neg (Nat.lt_irrefl base)

theorem digit?_plus (base : Nat) : digit? base '+' = none :=
  if_neg (Nat.lt_irrefl base)

theorem digit?_of_isBlank (h : isBlank c = true) (base : Nat) : digit? base c = none := by
  have hle : ∀ a b : Char, a ≤ b ↔ a.toNat ≤ b.toNat := fun _ _ => Iff.rfl
  simp only [isBlank, blankRanges, List.any_cons, List.any_nil, Bool.or_false, Bool.or_eq_true,
    Bool.and_eq_true, decide_eq_true_eq] at h
  simp only [digit?, hle, Char.reduceToNat]
  grind

/-! ## Numbers in digits -/

theorem readDigits?_cons (hc : digit? base c = some d) (acc : Nat) (cs : List Char) :
    readDigits? base acc (c :: cs) = readDigits? base (acc * base + d) cs := by
  rw [readDigits?, hc]

theorem readDigits?_append (base acc : Nat) (cs ds : List Char) :
    readDigits? base acc (cs ++ ds) = (readDigits? base acc cs).bind (readDigits? base · ds) := by
  induction cs generalizing acc with
  | nil => rfl
  | cons c cs ih =>
    rw [List.cons_append, readDigits?, readDigits?]
    split
    · exact ih _
    · rfl

theorem readDigits?_toLower (hb : base ≤ 16) (acc : Nat) (cs : List Char) :
    readDigits? base acc (cs.map Char.toLower) = readDigits? base acc cs := by
  induction cs generalizing acc with
  | nil => rfl
  | cons c cs ih =>
    rw [List.map_cons, readDigits?, readDigits?, digit?_toLower hb]
    split
    · exact ih _
    · rfl

theorem readDigits?_zeros (hb : 0 < base) (zeros : Nat) (cs : List Char) :
    readDigits? base 0 (List.replicate zeros '0' ++ cs) = readDigits? base 0 cs := by
  have hzero : digit? base '0' = some 0 := if_pos hb
  induction zeros with
  | zero => rfl
  | succ zeros ih =>
    rw [List.replicate_succ, List.cons_append, readDigits?_cons hzero, Nat.zero_mul, ih]

theorem readDigits?_toDigits (hb : 1 < base) (hb' : base ≤ 16) (v : Nat) :
    readDigits? base 0 (Nat.toDigits base v) = some v := by
  -- The last digit is the remainder, and those in front of it are the digits of the quotient.
  induction v using Nat.strongRecOn with
  | ind v ih =>
    by_cases h : v < base
    · rw [Nat.toDigits_of_lt_base h, readDigits?_cons (digit?_digitChar hb' h), Nat.zero_mul,
        Nat.zero_add]
      rfl
    · have hlt : v / base < v := Nat.div_lt_self (by omega) hb
      have hmod : v % base < base := Nat.mod_lt _ (by omega)
      rw [Nat.toDigits_of_base_le hb (Nat.not_lt.mp h), readDigits?_append, ih _ hlt,
        Option.bind_some, readDigits?_cons (digit?_digitChar hb' hmod), Nat.div_add_mod']
      rfl

/-- Only digits are read. -/
theorem digit?_ne_none_of_mem (h : readDigits? base acc cs = some v) (hc : c ∈ cs) :
    digit? base c ≠ none := by
  induction cs generalizing acc with
  | nil => cases hc
  | cons x cs ih =>
    rw [readDigits?] at h
    split at h
    · rename_i d hd
      rcases List.mem_cons.mp hc with rfl | hc
      · rw [hd]
        nofun
      · exact ih h hc
    · cases h

/-- The digits of a number in a base, in either case, with any number of zeros in front. -/
def Numeral (base v : Nat) (cs : List Char) : Prop :=
  ∃ zeros, cs.map Char.toLower = List.replicate zeros '0' ++ Nat.toDigits base v

theorem Numeral.ne_nil (h : Numeral base v cs) : cs ≠ [] := by
  rintro rfl
  obtain ⟨zeros, h⟩ := h
  exact Nat.toDigits_ne_nil (List.append_eq_nil_iff.mp h.symm).2

theorem Numeral.read (hb : 1 < base) (hb' : base ≤ 16) (h : Numeral base v cs) :
    readDigits? base 0 cs = some v := by
  obtain ⟨zeros, h⟩ := h
  rw [← readDigits?_toLower hb', h, readDigits?_zeros (by omega), readDigits?_toDigits hb hb']

/-- One more digit behind a number. -/
theorem Numeral.concat (hb : 1 < base) (hb' : base ≤ 16) (h : Numeral base v cs)
    (hc : digit? base c = some d) : Numeral base (v * base + d) (cs ++ [c]) := by
  obtain ⟨hd, hlower⟩ := (digit?_eq_some_iff hb').mp hc
  obtain ⟨zeros, h⟩ := h
  have hdigit : Nat.toDigits base d = [c.toLower] := by
    rw [Nat.toDigits_of_lt_base hd, hlower]
  rw [Numeral, List.map_append, h, List.map_singleton, ← hdigit]
  rcases Nat.eq_zero_or_pos v with rfl | hv
  · -- The number so far is one more zero in front.
    refine ⟨zeros + 1, ?_⟩
    rw [Nat.toDigits_of_lt_base (by omega : 0 < base), Nat.zero_mul, Nat.zero_add,
      List.replicate_succ']
    rfl
  · refine ⟨zeros, ?_⟩
    rw [List.append_assoc, Nat.toDigits_append_toDigits hb hv hd, Nat.mul_comm]

theorem numeral_of_readDigits? (hb : 1 < base) (hb' : base ≤ 16) (hne : cs ≠ [])
    (h : readDigits? base 0 cs = some v) : Numeral base v cs := by
  induction cs using List.reverseRecOn generalizing v with
  | nil => exact absurd rfl hne
  | append_singleton cs c ih =>
    rw [readDigits?_append, Option.bind_eq_some_iff] at h
    obtain ⟨n, hn, h⟩ := h
    rw [readDigits?] at h
    split at h
    · rename_i d hd
      cases h
      by_cases hcs : cs = []
      · subst hcs
        cases hn
        obtain ⟨hlt, hlower⟩ := (digit?_eq_some_iff hb').mp hd
        refine ⟨0, ?_⟩
        rw [Nat.zero_mul, Nat.zero_add, Nat.toDigits_of_lt_base hlt, ← hlower]
        rfl
      · exact (ih hcs hn).concat hb hb' hd
    · cases h

/-! ## Signs -/

/-- Digits, with a plus sign in front or without one. -/
def Signed (digits cs : List Char) : Prop :=
  cs = digits ∨ cs = '+' :: digits

theorem readUnsigned?_of_signed (bound : Nat) (hs : Signed ds cs) (hplus : ∀ r, ds ≠ '+' :: r) :
    readUnsigned? base bound cs
      = if ds.isEmpty then none else (readDigits? base 0 ds).filter (· < bound) := by
  rcases hs with rfl | rfl
  · unfold readUnsigned?
    split
    · rename_i r
      exact absurd rfl (hplus r)
    · rfl
  · rfl

theorem exists_signed (base bound : Nat) (cs : List Char) :
    ∃ ds, Signed ds cs ∧ readUnsigned? base bound cs
      = if ds.isEmpty then none else (readDigits? base 0 ds).filter (· < bound) := by
  by_cases h : ∃ r, cs = '+' :: r
  · obtain ⟨r, rfl⟩ := h
    exact ⟨r, Or.inr rfl, rfl⟩
  · exact ⟨cs, Or.inl rfl, readUnsigned?_of_signed bound (Or.inl rfl) fun r hr => h ⟨r, hr⟩⟩

theorem readUnsigned?_of_numeral (hb : 1 < base) (hb' : base ≤ 16) (h : Numeral base v ds)
    (hs : Signed ds cs) : readUnsigned? base bound cs = if v < bound then some v else none := by
  have hread := h.read hb hb'
  have hplus : ∀ r, ds ≠ '+' :: r := by
    rintro r rfl
    exact digit?_ne_none_of_mem hread List.mem_cons_self (digit?_plus base)
  rw [readUnsigned?_of_signed bound hs hplus, if_neg (by simpa using h.ne_nil), hread,
    Option.filter_some]
  simp only [decide_eq_true_eq]

theorem numeral_of_readUnsigned? (hb : 1 < base) (hb' : base ≤ 16)
    (h : readUnsigned? base bound cs = some v) :
    v < bound ∧ ∃ ds, Numeral base v ds ∧ Signed ds cs := by
  obtain ⟨ds, hs, hread⟩ := exists_signed base bound cs
  rw [h] at hread
  split at hread
  · cases hread
  · rename_i hne
    rw [eq_comm, Option.filter_eq_some_iff] at hread
    obtain ⟨hread, hlt⟩ := hread
    have hne' : ds ≠ [] := by simpa using hne
    exact ⟨of_decide_eq_true hlt, ds, numeral_of_readDigits? hb hb' hne' hread, hs⟩

/-! ## White space -/

theorem dropWhile_isBlank {before body : List Char} (hbefore : ∀ c ∈ before, isBlank c = true)
    (hne : body ≠ []) (hbody : ∀ c ∈ body, isBlank c = false) (behind : List Char) :
    (before ++ (body ++ behind)).dropWhile isBlank = body ++ behind := by
  rw [List.dropWhile_append_of_pos hbefore]
  cases body with
  | nil => exact absurd rfl hne
  | cons c body => exact List.dropWhile_cons_of_neg (by simp [hbody c List.mem_cons_self])

/-- White space around a text is cut off, if there is none in it. -/
theorem trim_of_surrounded {before body behind : List Char}
    (hbefore : ∀ c ∈ before, isBlank c = true) (hbehind : ∀ c ∈ behind, isBlank c = true)
    (hne : body ≠ []) (hbody : ∀ c ∈ body, isBlank c = false) :
    trim (before ++ body ++ behind) = body := by
  have hback : (behind.reverse ++ (body.reverse ++ [])).dropWhile isBlank = body.reverse ++ [] :=
    dropWhile_isBlank (fun c hc => hbehind c (List.mem_reverse.mp hc))
      (fun h => hne (List.reverse_eq_nil_iff.mp h))
      (fun c hc => hbody c (List.mem_reverse.mp hc)) []
  rw [List.append_nil] at hback
  rw [trim, List.append_assoc, dropWhile_isBlank hbefore hne hbody, List.reverse_append, hback,
    List.reverse_reverse]

/-- A text is its core with white space around it. -/
theorem exists_surrounded (cs : List Char) :
    ∃ before behind, cs = before ++ trim cs ++ behind ∧ (∀ c ∈ before, isBlank c = true) ∧
      ∀ c ∈ behind, isBlank c = true := by
  refine ⟨cs.takeWhile isBlank, ((cs.dropWhile isBlank).reverse.takeWhile isBlank).reverse,
    ?_, ?_, ?_⟩
  · rw [trim, List.append_assoc, ← List.reverse_append, List.takeWhile_append_dropWhile,
      List.reverse_reverse, List.takeWhile_append_dropWhile]
  · exact List.all_eq_true.mp List.all_takeWhile
  · intro c hc
    exact List.all_eq_true.mp List.all_takeWhile c (List.mem_reverse.mp hc)

end Text

namespace ScriptNumber

open Text

variable {base v : Nat} {c : Char} {cs ds : List Char}

/-! ## Ways of writing a number -/

/-- A text with any number of underscores put in anywhere. -/
inductive Underscored : List Char → List Char → Prop
  | nil : Underscored [] []
  | keep {c : Char} {cs ds : List Char} (rest : Underscored cs ds) :
      Underscored (c :: cs) (c :: ds)
  | underscore {cs ds : List Char} (rest : Underscored cs ds) : Underscored cs ('_' :: ds)

/-- The figures of a number in a base: its digits, perhaps with a plus sign, and underscores
anywhere in that. -/
def Figures (base v : Nat) (cs : List Char) : Prop :=
  ∃ digits signed, Numeral base v digits ∧ Signed digits signed ∧ Underscored signed cs

/-- A number by itself: in decimal, or in hexadecimal behind the mark of it. -/
inductive Written (v : Nat) : List Char → Prop
  | decimal {cs : List Char} (figures : Figures 10 v cs) : Written v cs
  | hexadecimal {x : Char} {cs : List Char} (mark : x = 'x' ∨ x = 'X') (figures : Figures 16 v cs) :
      Written v ('0' :: x :: cs)

/-- A way of writing a number: the number with any white space around it. -/
def Rendering (v : Nat) (cs : List Char) : Prop :=
  ∃ before body behind, cs = before ++ body ++ behind ∧ (∀ c ∈ before, isBlank c = true) ∧
    (∀ c ∈ behind, isBlank c = true) ∧ Written v body

/-! ## Underscores -/

theorem underscored_filter (ds : List Char) : Underscored (ds.filter (· ≠ '_')) ds := by
  induction ds with
  | nil => exact .nil
  | cons c ds ih =>
    by_cases h : c = '_'
    · subst h
      exact .underscore ih
    · rw [List.filter_cons_of_pos (by simpa using h)]
      exact .keep ih

theorem Underscored.filter_eq (h : Underscored cs ds) (hn : '_' ∉ cs) :
    ds.filter (· ≠ '_') = cs := by
  induction h with
  | nil => rfl
  | keep rest ih =>
    rw [List.mem_cons, not_or] at hn
    rw [List.filter_cons_of_pos (by simpa using Ne.symm hn.1), ih hn.2]
  | underscore rest ih => exact ih hn

theorem Underscored.mem (h : Underscored cs ds) (hc : c ∈ ds) : c = '_' ∨ c ∈ cs := by
  induction h with
  | nil => exact Or.inr hc
  | keep rest ih =>
    rcases List.mem_cons.mp hc with rfl | hc
    · exact Or.inr List.mem_cons_self
    · exact (ih hc).imp_right (List.mem_cons_of_mem _)
  | underscore rest ih =>
    rcases List.mem_cons.mp hc with rfl | hc
    · exact Or.inl rfl
    · exact ih hc

theorem Underscored.eq_nil (h : Underscored cs []) : cs = [] := by
  cases h
  rfl

/-! ## Figures -/

section

variable (hb : 1 < base) (hb' : base ≤ 16)
include hb hb'

theorem mem_signed (h : Numeral base v ds) (hs : Signed ds cs) (hc : c ∈ cs) :
    c = '+' ∨ digit? base c ≠ none := by
  have hdigits : ∀ c ∈ ds, digit? base c ≠ none := fun c => digit?_ne_none_of_mem (h.read hb hb')
  rcases hs with rfl | rfl
  · exact Or.inr (hdigits c hc)
  · exact (List.mem_cons.mp hc).imp_right (hdigits c)

/-- Everything in the figures of a number is an underscore, a sign or a digit. -/
theorem Figures.mem (h : Figures base v cs) (hc : c ∈ cs) :
    c = '_' ∨ c = '+' ∨ digit? base c ≠ none := by
  obtain ⟨digits, signed, hdigits, hsigned, hcs⟩ := h
  exact (hcs.mem hc).imp_right (mem_signed hb hb' hdigits hsigned)

theorem Figures.isBlank_eq_false (h : Figures base v cs) (hc : c ∈ cs) : isBlank c = false := by
  rcases h.mem hb hb' hc with rfl | rfl | hdigit
  · decide
  · decide
  · rw [Bool.eq_false_iff]
    exact fun hblank => hdigit (digit?_of_isBlank hblank base)

theorem Figures.read (h : Figures base v cs) (limit : Nat) :
    readUnsigned? base limit (cs.filter (· ≠ '_')) = if v < limit then some v else none := by
  obtain ⟨digits, signed, hdigits, hsigned, hcs⟩ := h
  have hfree : '_' ∉ signed := by
    intro hmem
    rcases mem_signed hb hb' hdigits hsigned hmem with heq | hdigit
    · cases heq
    · exact hdigit (digit?_underscore base)
  rw [hcs.filter_eq hfree, readUnsigned?_of_numeral hb hb' hdigits hsigned]

theorem figures_of_readUnsigned? {limit : Nat}
    (h : readUnsigned? base limit (cs.filter (· ≠ '_')) = some v) :
    v < limit ∧ Figures base v cs := by
  obtain ⟨hlt, digits, hdigits, hsigned⟩ := numeral_of_readUnsigned? hb hb' h
  exact ⟨hlt, digits, _, hdigits, hsigned, underscored_filter cs⟩

end

/-! ## Bases -/

/-- A text is split behind the mark of the hexadecimal base, if it begins with one. -/
theorem splitBase_cases (cs : List Char) :
    (∃ x r, (x = 'x' ∨ x = 'X') ∧ cs = '0' :: x :: r ∧ splitBase cs = (16, r)) ∨
    ((∀ x r, x = 'x' ∨ x = 'X' → cs ≠ '0' :: x :: r) ∧ splitBase cs = (10, cs)) := by
  unfold splitBase
  split
  · rename_i r
    exact Or.inl ⟨'x', r, Or.inl rfl, rfl, rfl⟩
  · rename_i r
    exact Or.inl ⟨'X', r, Or.inr rfl, rfl, rfl⟩
  · rename_i hx hX
    refine Or.inr ⟨?_, rfl⟩
    rintro x r (rfl | rfl) rfl
    · exact hx r rfl
    · exact hX r rfl

theorem splitBase_hexadecimal {x : Char} (h : x = 'x' ∨ x = 'X') (cs : List Char) :
    splitBase ('0' :: x :: cs) = (16, cs) := by
  rcases h with rfl | rfl <;> rfl

/-- The figures of a decimal number do not begin with the mark of a base. -/
theorem splitBase_decimal (h : Figures 10 v cs) : splitBase cs = (10, cs) := by
  rcases splitBase_cases cs with ⟨x, r, hx, rfl, -⟩ | ⟨-, hsplit⟩
  · have hmem : x ∈ '0' :: x :: r := List.mem_cons_of_mem _ List.mem_cons_self
    have hdigit := h.mem (by decide) (by decide) hmem
    rcases hx with rfl | rfl
    · exact absurd hdigit (by decide)
    · exact absurd hdigit (by decide)
  · exact hsplit

theorem Written.ne_nil (h : Written v cs) : cs ≠ [] := by
  cases h with
  | decimal figures =>
    rintro rfl
    obtain ⟨digits, signed, hdigits, hsigned, hcs⟩ := figures
    rw [hcs.eq_nil] at hsigned
    rcases hsigned with rfl | hsigned
    · exact hdigits.ne_nil rfl
    · cases hsigned
  | hexadecimal => nofun

theorem Written.isBlank_eq_false (h : Written v cs) : ∀ c ∈ cs, isBlank c = false := by
  intro c hc
  cases h with
  | decimal figures => exact figures.isBlank_eq_false (by decide) (by decide) hc
  | hexadecimal mark figures =>
    rcases List.mem_cons.mp hc with rfl | hc
    · decide
    · rcases List.mem_cons.mp hc with rfl | hc
      · rcases mark with rfl | rfl <;> decide
      · exact figures.isBlank_eq_false (by decide) (by decide) hc

theorem Written.read (h : Written v cs) (limit : Nat) :
    readUnsigned? (splitBase cs).1 limit ((splitBase cs).2.filter (· ≠ '_'))
      = if v < limit then some v else none := by
  cases h with
  | decimal figures =>
    rw [splitBase_decimal figures]
    exact figures.read (by decide) (by decide) limit
  | hexadecimal mark figures =>
    rw [splitBase_hexadecimal mark]
    exact figures.read (by decide) (by decide) limit

theorem written_of_readUnsigned? {limit : Nat}
    (h : readUnsigned? (splitBase cs).1 limit ((splitBase cs).2.filter (· ≠ '_')) = some v) :
    v < limit ∧ Written v cs := by
  rcases splitBase_cases cs with ⟨x, r, hx, rfl, hsplit⟩ | ⟨-, hsplit⟩
  · rw [hsplit] at h
    dsimp only at h
    exact (figures_of_readUnsigned? (by decide) (by decide) h).imp_right (.hexadecimal hx)
  · rw [hsplit] at h
    dsimp only at h
    exact (figures_of_readUnsigned? (by decide) (by decide) h).imp_right .decimal

/-! ## Reading -/

theorem Rendering.read (h : Rendering v cs) :
    read? cs = if v < UInt64.size then some v else none := by
  obtain ⟨before, body, behind, rfl, hbefore, hbehind, hbody⟩ := h
  unfold read?
  rw [trim_of_surrounded hbefore hbehind hbody.ne_nil hbody.isBlank_eq_false]
  exact hbody.read bound

theorem rendering_of_read? (h : read? cs = some v) : v < UInt64.size ∧ Rendering v cs := by
  obtain ⟨before, behind, hcs, hbefore, hbehind⟩ := exists_surrounded cs
  exact (written_of_readUnsigned? h).imp_right fun hbody =>
    ⟨before, _, behind, hcs, hbefore, hbehind, hbody⟩

/-- **Numbers are read as they are written.** A text is read as a number exactly if it is a way of
writing that number and the number has no more than 64 bits; a number with more of them is refused,
however it is written. -/
theorem numbers_are_read_as_written (s : String) (v : Nat) :
    ((ofString? s).map UInt64.toNat = some v ↔ v < UInt64.size ∧ Rendering v s.toList) ∧
    (Rendering v s.toList → UInt64.size ≤ v → ofString? s = none) := by
  have hofNat : ∀ n < UInt64.size, (UInt64.ofNat n).toNat = n :=
    fun n hn => UInt64.toNat_ofNat_of_lt' hn
  refine ⟨⟨?_, ?_⟩, ?_⟩
  · intro h
    rw [ofString?, Option.map_map, Option.map_eq_some_iff] at h
    obtain ⟨n, hn, hv⟩ := h
    obtain ⟨hlt, hr⟩ := rendering_of_read? hn
    obtain rfl : n = v := (hofNat n hlt).symm.trans hv
    exact ⟨hlt, hr⟩
  · rintro ⟨hlt, hr⟩
    rw [ofString?, hr.read, if_pos hlt]
    exact congrArg some (hofNat v hlt)
  · intro hr hle
    rw [ofString?, hr.read, if_neg (Nat.not_lt.mpr hle)]
    rfl

/-- A number with everything that may be in it, and the first one that there is no room for. -/
theorem numbers_are_read_as_written_at_the_bound :
    ((ofString? "\t 0X_+00f_Fa_\u2003").map UInt64.toNat = some 0xffa) ∧
      ofString? "0x1_0000_0000_0000_0000" = none := by
  have hbody : Written 0xffa "0X_+00f_Fa_".toList := by
    refine .hexadecimal (Or.inr rfl) ⟨"00fFa".toList, "+00fFa".toList, ⟨2, ?_⟩, Or.inr rfl, ?_⟩
    · decide
    · exact underscored_filter "_+00f_Fa_".toList
  have hlarge : Written UInt64.size "0x1_0000_0000_0000_0000".toList := by
    refine .hexadecimal (Or.inl rfl) ⟨"10000000000000000".toList, _, ⟨0, ?_⟩, Or.inl rfl, ?_⟩
    · decide
    · exact underscored_filter "1_0000_0000_0000_0000".toList
  constructor
  · refine (numbers_are_read_as_written _ _).1.mpr ⟨by decide, ?_⟩
    exact ⟨['\t', ' '], _, ['\u2003'], rfl, List.all_eq_true.mp rfl, List.all_eq_true.mp rfl, hbody⟩
  · exact (numbers_are_read_as_written _ _).2 ⟨[], _, [], rfl, nofun, nofun, hlarge⟩ (Nat.le_refl _)

end ScriptNumber

end Perfmon
