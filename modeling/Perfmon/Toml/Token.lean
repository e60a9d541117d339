import Perfmon.Text.Number
/-!
# TOML tokens

Cutting a document into lines' ends, spaces, comments, marks, words and strings. A word is a run of
the characters that occur in plain keys and in plain values but for the point, which is a mark. A
comment reaches up to the end of its line. Control characters other than the tab occur nowhere, and
a carriage return only in front of a line feed.

Every token takes at least one character (`length_scan`), so the cutting ends.
-/

namespace Perfmon.Toml

/-- A piece of a document. -/
inductive Token where
  /-- The end of a line. -/
  | newline
  /-- Spaces and tabs. -/
  | space (cs : List Char)
  /-- A comment. -/
  | comment
  /-- A bracket, a brace, a point, a comma or an equals sign. -/
  | mark (c : Char)
  /-- A run of word characters. -/
  | word (cs : List Char)
  /-- A string in quotes, of one line or of several. -/
  | string (multiline : Bool) (s : String)
  deriving DecidableEq, Repr

namespace Token

/-! ## Characters -/

/-- Whether a character is a space or a tab. -/
def isSpace (c : Char) : Bool :=
  c == ' ' || c == '\t'

/-- Whether a character may occur in comments and strings. -/
def isPrintable (c : Char) : Bool :=
  c == '\t' || (0x20 ≤ c.toNat && c.toNat ≠ 0x7f)

/-- Whether a character is a mark. -/
def isMark (c : Char) : Bool :=
  c == '[' || c == ']' || c == '\x7b' || c == '\x7d' || c == '.' || c == ',' || c == '='

/-- Whether a character may occur in a plain key. -/
def isKeyChar (c : Char) : Bool :=
  c.isAlphanum || c == '_' || c == '-'

/-- Whether a character may occur in a word. -/
def isWordChar (c : Char) : Bool :=
  isKeyChar c || c == '+' || c == ':'

/-- The single quote. -/
def tick : Char := Char.ofNat 39

/-! ## Strings -/

/-- The character with the number that hexadecimal digits stand for. -/
def ofHex? (ds : List Char) : Option Char :=
  match Text.readDigits? 16 0 ds with
  | some n => if h : n.isValidChar then some (Char.ofNatAux n h) else none
  | none => none

/-- The character behind a backslash that stands for another one. -/
def unescape? : Char → Option Char
  | 'b' => some '\x08'
  | 't' => some '\t'
  | 'n' => some '\n'
  | 'f' => some '\x0c'
  | 'r' => some '\r'
  | '"' => some '"'
  | '\\' => some '\\'
  | _ => none

/-- Reads an escape from behind its backslash: its character, and the rest. -/
def scanEscape : List Char → Option (Char × List Char)
  | 'u' :: a :: b :: c :: d :: r => (ofHex? [a, b, c, d]).map (·, r)
  | 'U' :: a :: b :: c :: d :: e :: f :: g :: h :: r =>
    (ofHex? [a, b, c, d, e, f, g, h]).map (·, r)
  | c :: r => (unescape? c).map (·, r)
  | [] => none

/-- The rest of a text behind spaces, tabs and ends of lines. -/
def skipBlank : List Char → List Char
  | '\n' :: r => skipBlank r
  | '\r' :: '\n' :: r => skipBlank r
  | ' ' :: r => skipBlank r
  | '\t' :: r => skipBlank r
  | r => r

/-- The rest of a text behind an end of line. -/
def skipNewline? : List Char → Option (List Char)
  | '\n' :: r => some r
  | '\r' :: '\n' :: r => some r
  | _ => none

/-- The rest of a text behind spaces, an end of line and all blank characters that follow it. This
is what a backslash at the end of a line leaves out. -/
def skipLineEnd? (cs : List Char) : Option (List Char) :=
  (skipNewline? (cs.dropWhile isSpace)).map skipBlank

theorem length_skipBlank (cs : List Char) : (skipBlank cs).length ≤ cs.length := by
  fun_induction skipBlank cs <;> simp_all <;> omega

theorem length_skipNewline {cs r : List Char} (h : skipNewline? cs = some r) :
    r.length < cs.length := by
  unfold skipNewline? at h
  split at h
  · cases h
    simp
  · cases h
    simp only [List.length_cons]
    omega
  · cases h

theorem length_skipLineEnd {cs r : List Char} (h : skipLineEnd? cs = some r) :
    r.length < cs.length := by
  simp only [skipLineEnd?, Option.map_eq_some_iff] at h
  obtain ⟨s, hs, rfl⟩ := h
  have h₁ := length_skipNewline hs
  have h₂ := length_skipBlank s
  have h₃ := (List.dropWhile_sublist isSpace (l := cs)).length_le
  omega

theorem length_scanEscape {cs r : List Char} {c : Char} (h : scanEscape cs = some (c, r)) :
    r.length < cs.length := by
  unfold scanEscape at h
  split at h <;> simp_all <;> grind

/-- Reads a string of one line with escapes, from behind its opening quote. What has been read is
kept in reverse. -/
def scanBasic (acc : List Char) (cs : List Char) : Option (List Char × List Char) :=
  match cs with
  | [] => none
  | '"' :: r => some (acc.reverse, r)
  | '\\' :: r =>
    match h : scanEscape r with
    | some (c, rest) =>
      have := length_scanEscape h
      scanBasic (c :: acc) rest
    | none => none
  | c :: r => if isPrintable c then scanBasic (c :: acc) r else none
termination_by cs.length

/-- Reads a string of one line without escapes. -/
def scanLiteral (acc : List Char) : List Char → Option (List Char × List Char)
  | [] => none
  | c :: r =>
    if c = tick then some (acc.reverse, r)
    else if isPrintable c then scanLiteral (c :: acc) r
    else none

/-- The end of a string of several lines, from behind three quotes: up to two more quotes in front
of the closing ones belong to the string. -/
def closeMultiline (quote : Char) (acc : List Char) (cs : List Char) : List Char × List Char :=
  match cs with
  | a :: b :: r =>
    if a = quote ∧ b = quote then ((quote :: quote :: acc).reverse, r)
    else if a = quote then ((quote :: acc).reverse, b :: r)
    else (acc.reverse, cs)
  | [a] => if a = quote then ((quote :: acc).reverse, []) else (acc.reverse, cs)
  | [] => (acc.reverse, [])

/-- Reads a string of several lines with escapes. -/
def scanMultilineBasic (acc : List Char) (cs : List Char) : Option (List Char × List Char) :=
  match cs with
  | [] => none
  | '"' :: '"' :: '"' :: r => some (closeMultiline '"' acc r)
  | '\\' :: r =>
    match h : skipLineEnd? r with
    | some rest =>
      have := length_skipLineEnd h
      scanMultilineBasic acc rest
    | none =>
      match h : scanEscape r with
      | some (c, rest) =>
        have := length_scanEscape h
        scanMultilineBasic (c :: acc) rest
      | none => none
  | '\r' :: '\n' :: r => scanMultilineBasic ('\n' :: acc) r
  | c :: r =>
    if c = '\n' ∨ isPrintable c then scanMultilineBasic (c :: acc) r else none
termination_by cs.length

/-- Reads a string of several lines without escapes. -/
def scanMultilineLiteral (acc : List Char) : List Char → Option (List Char × List Char)
  | [] => none
  | '\r' :: '\n' :: r => scanMultilineLiteral ('\n' :: acc) r
  | c :: r =>
    if c = tick ∧ (r.take 2) = [tick, tick] then some (closeMultiline tick acc (r.drop 2))
    else if c = '\n' ∨ isPrintable c then scanMultilineLiteral (c :: acc) r
    else none

/-- What a string of several lines says begins behind an end of line that follows its opening
quotes. -/
def openMultiline (cs : List Char) : List Char :=
  (skipNewline? cs).getD cs

/-- Reads a string from behind its first quote. -/
def scanString (quote : Char) (cs : List Char) : Option (Token × List Char) :=
  let multiline := cs.take 2 = [quote, quote]
  let scanned :=
    if multiline then
      let body := openMultiline (cs.drop 2)
      if quote = tick then scanMultilineLiteral [] body else scanMultilineBasic [] body
    else if quote = tick then scanLiteral [] cs
    else scanBasic [] cs
  scanned.map fun (s, r) => (.string multiline (String.ofList s), r)

/-! ## The whole document -/

/-- The first token of a text, and the rest. -/
def scan : List Char → Option (Token × List Char)
  | [] => none
  | '\n' :: r => some (.newline, r)
  | '\r' :: r =>
    match r with
    | '\n' :: r => some (.newline, r)
    | _ => none
  | '#' :: r => some (.comment, r.dropWhile isPrintable)
  | c :: r =>
    if isSpace c then some (.space (c :: r.takeWhile isSpace), r.dropWhile isSpace)
    else if isMark c then some (.mark c, r)
    else if isWordChar c then some (.word (c :: r.takeWhile isWordChar), r.dropWhile isWordChar)
    else if c = '"' ∨ c = tick then scanString c r
    else none

/-! ### Every token takes a character -/

theorem length_scanBasic {acc s cs r : List Char} (h : scanBasic acc cs = some (s, r)) :
    r.length ≤ cs.length := by
  fun_induction scanBasic acc cs <;> simp_all <;> omega

theorem length_scanLiteral {acc s cs r : List Char} (h : scanLiteral acc cs = some (s, r)) :
    r.length ≤ cs.length := by
  fun_induction scanLiteral acc cs <;> simp_all
  omega

theorem length_closeMultiline (quote : Char) (acc cs : List Char) :
    (closeMultiline quote acc cs).2.length ≤ cs.length := by
  unfold closeMultiline
  split
  · split
    · simp only [List.length_cons]
      omega
    · split <;> simp
  · split <;> simp
  · simp

theorem length_scanMultilineBasic {acc s cs r : List Char}
    (h : scanMultilineBasic acc cs = some (s, r)) : r.length ≤ cs.length := by
  fun_induction scanMultilineBasic acc cs with
  | case2 acc t =>
    have := length_closeMultiline '"' acc t
    simp_all
    omega
  | _ => simp_all <;> omega

theorem length_scanMultilineLiteral {acc s cs r : List Char}
    (h : scanMultilineLiteral acc cs = some (s, r)) : r.length ≤ cs.length := by
  fun_induction scanMultilineLiteral acc cs with
  | case3 acc c t hne hq =>
    have := length_closeMultiline tick acc (t.drop 2)
    simp_all
    omega
  | _ => simp_all <;> omega

theorem length_openMultiline (cs : List Char) : (openMultiline cs).length ≤ cs.length := by
  unfold openMultiline
  cases h : skipNewline? cs with
  | none => simp
  | some r =>
    have := length_skipNewline h
    simp only [Option.getD_some]
    omega

theorem length_scanString {quote : Char} {cs r : List Char} {t : Token}
    (h : scanString quote cs = some (t, r)) : r.length ≤ cs.length := by
  simp only [scanString, Option.map_eq_some_iff, Prod.mk.injEq] at h
  obtain ⟨⟨s, rest⟩, hs, -, rfl⟩ := h
  have ho := length_openMultiline (cs.drop 2)
  simp only [List.length_drop] at ho
  show rest.length ≤ cs.length
  split at hs
  · split at hs
    · have : rest.length ≤ _ := length_scanMultilineLiteral hs
      omega
    · have : rest.length ≤ _ := length_scanMultilineBasic hs
      omega
  · split at hs
    · exact length_scanLiteral hs
    · exact length_scanBasic hs

theorem length_dropWhile_lt (p : Char → Bool) (c : Char) (r : List Char) :
    (r.dropWhile p).length < (c :: r).length := by
  have := (List.dropWhile_sublist p (l := r)).length_le
  simp only [List.length_cons]
  omega

/-- A token takes at least one character. -/
theorem length_scan {cs r : List Char} {t : Token} (h : scan cs = some (t, r)) :
    r.length < cs.length := by
  unfold scan at h
  split at h
  · simp at h
  · simp_all
  · split at h
    · cases h
      simp only [List.length_cons]
      omega
    · simp at h
  · simp only [Option.some.injEq, Prod.mk.injEq] at h
    obtain ⟨-, rfl⟩ := h
    exact length_dropWhile_lt _ _ _
  · split at h
    · simp only [Option.some.injEq, Prod.mk.injEq] at h
      obtain ⟨-, rfl⟩ := h
      exact length_dropWhile_lt _ _ _
    · split at h
      · simp_all
      · split at h
        · simp only [Option.some.injEq, Prod.mk.injEq] at h
          obtain ⟨-, rfl⟩ := h
          exact length_dropWhile_lt _ _ _
        · split at h
          · have := length_scanString h
            simp only [List.length_cons]
            omega
          · simp at h

/-- The tokens of a text, behind others whose order is reversed. -/
def scanAll (acc : List Token) (cs : List Char) : Option (List Token) :=
  match cs with
  | [] => some acc.reverse
  | c :: r =>
    match h : scan (c :: r) with
    | none => none
    | some (t, rest) =>
      have := length_scan h
      scanAll (t :: acc) rest
termination_by cs.length
decreasing_by assumption

/-- The tokens of a document. A byte order mark in front of it does not count. -/
def ofText (text : String) : Option (List Token) :=
  match text.toList with
  | '\ufeff' :: r => scanAll [] r
  | cs => scanAll [] cs

end Token

end Perfmon.Toml
