import Perfmon.Json
import Perfmon.Text.Number
/-!
# JSON tokens

Cutting a JSON text into brackets, separators, words, strings and numbers. White space is a space, a
tab, a line feed or a carriage return. Every token takes at least one character (`length_scan`), so
the cutting ends.
-/

namespace Perfmon.Json

/-- A piece of a JSON text. -/
inductive Token where
  | openBracket
  | closeBracket
  | openBrace
  | closeBrace
  | comma
  | colon
  | null
  | bool (b : Bool)
  | number (n : Number)
  | string (text : Option String)
  deriving DecidableEq, Repr

namespace Token

/-! ## Strings -/

/-- A piece of a string: a character, or a 16-bit unit that an escape gives. -/
inductive Piece where
  | char (c : Char)
  | unit (n : Nat)

/-- Whether a unit is the first half of a surrogate pair. -/
def isHighSurrogate (n : Nat) : Bool :=
  0xd800 ≤ n && n ≤ 0xdbff

/-- Whether a unit is the second half of a surrogate pair. -/
def isLowSurrogate (n : Nat) : Bool :=
  0xdc00 ≤ n && n ≤ 0xdfff

/-- The characters that pieces stand for, put in front of others whose order is reversed. Two halves
of a surrogate pair stand for one character; a half alone stands for none. -/
def assemble (acc : List Char) : List Piece → Option (List Char)
  | [] => some acc
  | .char c :: ps => assemble (c :: acc) ps
  | .unit high :: .unit low :: ps =>
    if isHighSurrogate high then
      if isLowSurrogate low then
        assemble (Char.ofNat (0x10000 + (high - 0xd800) * 0x400 + (low - 0xdc00)) :: acc) ps
      else none
    else if isLowSurrogate high then none
    else assemble (Char.ofNat high :: acc) (.unit low :: ps)
  | .unit n :: ps =>
    if isHighSurrogate n || isLowSurrogate n then none else assemble (Char.ofNat n :: acc) ps

/-- The text that pieces stand for, if they stand for one. -/
def textOfPieces (ps : List Piece) : Option String :=
  (assemble [] ps).map fun cs => String.ofList cs.reverse

/-- The number of four hexadecimal digits. -/
def hex4? (a b c d : Char) : Option Nat := do
  let a ← Text.digit? 16 a
  let b ← Text.digit? 16 b
  let c ← Text.digit? 16 c
  let d ← Text.digit? 16 d
  return ((a * 16 + b) * 16 + c) * 16 + d

/-- The character behind a backslash that stands for another one. -/
def unescape? : Char → Option Char
  | '"' => some '"'
  | '\\' => some '\\'
  | '/' => some '/'
  | 'b' => some '\x08'
  | 'f' => some '\x0c'
  | 'n' => some '\n'
  | 'r' => some '\r'
  | 't' => some '\t'
  | _ => none

/-- Reads a string from behind its opening quote: its pieces, and the rest. -/
def scanString (acc : List Piece) : List Char → Option (List Piece × List Char)
  | [] => none
  | '"' :: r => some (acc.reverse, r)
  | '\\' :: 'u' :: a :: b :: c :: d :: r =>
    match hex4? a b c d with
    | some n => scanString (.unit n :: acc) r
    | none => none
  | '\\' :: c :: r =>
    match unescape? c with
    | some c => scanString (.char c :: acc) r
    | none => none
  | c :: r => if c.toNat < 0x20 then none else scanString (.char c :: acc) r

/-! ## Numbers -/

/-- The decimal digits at the front of a text, and the rest. -/
def scanDigits (cs : List Char) : List Char × List Char :=
  (cs.takeWhile Char.isDigit, cs.dropWhile Char.isDigit)

/-- The number that decimal digits stand for. -/
def ofDigits (ds : List Char) : Nat :=
  (Text.readDigits? 10 0 ds).getD 0

/-- A sign at the front of an exponent: whether it is a minus, and the rest. -/
def scanSign : List Char → Bool × List Char
  | '-' :: r => (true, r)
  | '+' :: r => (false, r)
  | r => (false, r)

/-- Reads an exponent, if there is one: its value and the rest. -/
def scanExponent : List Char → Option (Option Int × List Char)
  | [] => some (none, [])
  | c :: r =>
    if c = 'e' ∨ c = 'E' then
      let (negative, r) := scanSign r
      let (ds, r) := scanDigits r
      if ds = [] then none
      else some (some (if negative then -(ofDigits ds : Int) else ofDigits ds), r)
    else some (none, c :: r)

/-- Reads a fraction, if there is one: its digits and the rest. -/
def scanFraction : List Char → Option (Option (List Char) × List Char)
  | '.' :: r =>
    let (ds, r) := scanDigits r
    if ds = [] then none else some (some ds, r)
  | r => some (none, r)

/-- Takes digits in behind a number while 64 bits hold it: the number, and the digits left out. -/
def takeDigits (n : Nat) : List Char → Nat × List Char
  | [] => (n, [])
  | c :: r =>
    let m := n * 10 + ofDigits [c]
    if m < UInt64.size then takeDigits m r else (n, c :: r)

/-- A number from its parts. The digits of the integer part are taken in, and then those of the
fraction, even if the integer part has lost some; every digit left out is a power of ten more, and
every digit of the fraction one less. Without fraction and exponent it is an integer, unless digits
are left out or it is a zero with a minus sign. -/
def numberOfParts (negative : Bool) (ds : List Char) (fraction : Option (List Char))
    (exponent : Option Int) : Number :=
  let (n, lost) := takeDigits 0 ds
  let tail := fraction.getD []
  let (digits, tailLost) := takeDigits n tail
  if fraction = none ∧ exponent = none ∧ lost = [] ∧ ¬(negative = true ∧ n = 0) then
    .integer (if negative then -(n : Int) else n)
  else
    .decimal negative digits
      (exponent.getD 0 + (lost.length + tailLost.length : Nat) - tail.length)

/-- Reads a number without its sign. Its integer part has no leading zero. -/
def scanUnsigned (negative : Bool) (cs : List Char) : Option (Number × List Char) :=
  let (ds, cs) := scanDigits cs
  if ds = [] ∨ (ds.head? = some '0' ∧ ds.length ≠ 1) then none
  else do
    let (fraction, cs) ← scanFraction cs
    let (exponent, cs) ← scanExponent cs
    return (numberOfParts negative ds fraction exponent, cs)

/-- Reads a number. -/
def scanNumber : List Char → Option (Number × List Char)
  | '-' :: r => scanUnsigned true r
  | r => scanUnsigned false r

/-! ## The whole text -/

/-- The token that a single character is. -/
def ofChar? : Char → Option Token
  | '[' => some .openBracket
  | ']' => some .closeBracket
  | '\x7b' => some .openBrace
  | '\x7d' => some .closeBrace
  | ',' => some .comma
  | ':' => some .colon
  | _ => none

/-- Whether a character is white space. -/
def isSpace (c : Char) : Bool :=
  c == ' ' || c == '\t' || c == '\n' || c == '\r'

/-- The first token of a text that begins with one, and the rest. -/
def scan : List Char → Option (Token × List Char)
  | '"' :: r => (scanString [] r).map fun (ps, r) => (.string (textOfPieces ps), r)
  | 'n' :: 'u' :: 'l' :: 'l' :: r => some (.null, r)
  | 't' :: 'r' :: 'u' :: 'e' :: r => some (.bool true, r)
  | 'f' :: 'a' :: 'l' :: 's' :: 'e' :: r => some (.bool false, r)
  | [] => none
  | c :: r =>
    match ofChar? c with
    | some t => some (t, r)
    | none => (scanNumber (c :: r)).map fun (n, r) => (.number n, r)

/-! ### Every token takes a character -/

theorem length_scanString {acc ps : List Piece} {cs r : List Char}
    (h : scanString acc cs = some (ps, r)) : r.length < cs.length := by
  fun_induction scanString acc cs <;> simp_all <;> grind

theorem length_scanDigits (cs : List Char) : (scanDigits cs).2.length ≤ cs.length :=
  (List.dropWhile_sublist _).length_le

theorem length_scanDigits_lt {cs : List Char} (h : (scanDigits cs).1 ≠ []) :
    (scanDigits cs).2.length < cs.length := by
  have hl : (scanDigits cs).1 ++ (scanDigits cs).2 = cs := List.takeWhile_append_dropWhile
  have hp : 0 < (scanDigits cs).1.length := List.length_pos_iff.2 h
  have := congrArg List.length hl
  simp only [List.length_append] at this
  omega

theorem length_scanSign (cs : List Char) : (scanSign cs).2.length ≤ cs.length := by
  unfold scanSign
  split <;> simp

theorem length_scanExponent {cs r : List Char} {e : Option Int}
    (h : scanExponent cs = some (e, r)) : r.length ≤ cs.length := by
  unfold scanExponent at h
  split at h
  · simp_all
  · rename_i c t
    have h₁ := length_scanSign t
    have h₂ := length_scanDigits (scanSign t).2
    split at h
    · simp only at h
      split at h
      · simp at h
      · simp only [Option.some.injEq, Prod.mk.injEq] at h
        obtain ⟨-, rfl⟩ := h
        simp only [List.length_cons]
        omega
    · simp_all

theorem length_scanFraction {cs r : List Char} {f : Option (List Char)}
    (h : scanFraction cs = some (f, r)) : r.length ≤ cs.length := by
  unfold scanFraction at h
  split at h
  · rename_i t
    have h₁ := length_scanDigits t
    simp only at h
    split at h
    · simp at h
    · simp only [Option.some.injEq, Prod.mk.injEq] at h
      obtain ⟨-, rfl⟩ := h
      simp only [List.length_cons]
      omega
  · simp_all

theorem length_scanUnsigned {negative : Bool} {cs r : List Char} {n : Number}
    (h : scanUnsigned negative cs = some (n, r)) : r.length < cs.length := by
  unfold scanUnsigned at h
  simp only at h
  split at h
  · simp at h
  · rename_i hd
    have h₁ : (scanDigits cs).2.length < cs.length := length_scanDigits_lt fun e => hd (.inl e)
    simp only [Option.bind_eq_bind, Option.bind_eq_some_iff, Option.pure_def] at h
    obtain ⟨⟨f, s⟩, hf, ⟨e, t⟩, he, hr⟩ := h
    have h₂ := length_scanFraction hf
    have h₃ : t.length ≤ s.length := length_scanExponent he
    simp only [Option.some.injEq, Prod.mk.injEq] at hr
    obtain ⟨-, rfl⟩ := hr
    omega

theorem length_scanNumber {cs r : List Char} {n : Number} (h : scanNumber cs = some (n, r)) :
    r.length < cs.length := by
  unfold scanNumber at h
  split at h
  · have := length_scanUnsigned h
    simp only [List.length_cons]
    omega
  · exact length_scanUnsigned h

/-- A token takes at least one character. -/
theorem length_scan {cs r : List Char} {t : Token} (h : scan cs = some (t, r)) :
    r.length < cs.length := by
  unfold scan at h
  split at h
  · simp only [Option.map_eq_some_iff, Prod.mk.injEq] at h
    obtain ⟨⟨ps, s⟩, hs, -, rfl⟩ := h
    have := length_scanString hs
    simp only [List.length_cons]
    omega
  · simp_all
    omega
  · simp_all
    omega
  · simp_all
    omega
  · simp at h
  · split at h
    · simp_all
    · simp only [Option.map_eq_some_iff, Prod.mk.injEq] at h
      obtain ⟨⟨n, s⟩, hs, -, rfl⟩ := h
      exact length_scanNumber hs

/-- The tokens of a text, behind others whose order is reversed. -/
def scanAll (acc : List Token) (cs : List Char) : Option (List Token) :=
  match cs with
  | [] => some acc.reverse
  | c :: r =>
    if isSpace c then scanAll acc r
    else
      match h : scan (c :: r) with
      | none => none
      | some (t, rest) =>
        have := length_scan h
        scanAll (t :: acc) rest
termination_by cs.length
decreasing_by
  · exact Nat.lt_succ_self r.length
  · assumption

/-- The tokens of a text. -/
def ofText (text : String) : Option (List Token) :=
  scanAll [] text.toList

end Token

end Perfmon.Json
