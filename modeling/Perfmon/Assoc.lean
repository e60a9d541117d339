/-!
# Association lists

A small map: pairs of a key and a value, every key at most once, in the order in which the keys
first came in. That no key occurs twice is part of the type, so an entry is in the list exactly
when a look-up finds it (`mem_entries_iff`). `find?_insert`, `find?_erase` and `find?_insertAll` are
the laws of the updates.

A map whose keys have two parts holds a map for each first part (`under`), and entries that are put
under one first part go into that map and no other one (`under_insertAll`).
-/

namespace Perfmon

/-- A finite map with its entries in the order of their insertion. -/
structure Assoc (κ α : Type) where
  /-- The entries. -/
  entries : List (κ × α)
  /-- No key occurs twice. -/
  nodup : (entries.map Prod.fst).Nodup

namespace Assoc

variable {κ α : Type} [DecidableEq κ]

/-! ## Lists of entries -/

/-- The value of the first entry with a key. -/
def lookup (k : κ) : List (κ × α) → Option α
  | [] => none
  | (q, b) :: l => if q = k then some b else lookup k l

/-- Puts a value in the place of a key's old one, or at the end. -/
def put (k : κ) (a : α) : List (κ × α) → List (κ × α)
  | [] => [(k, a)]
  | (q, b) :: l => if q = k then (k, a) :: l else (q, b) :: put k a l

theorem keys_put (k : κ) (a : α) (l : List (κ × α)) :
    (put k a l).map Prod.fst
      = if k ∈ l.map Prod.fst then l.map Prod.fst else l.map Prod.fst ++ [k] := by
  induction l with
  | nil => simp [put]
  | cons p l ih =>
    by_cases h : p.1 = k
    · simp [put, h]
    · have h' : ¬ k = p.1 := fun e => h e.symm
      simp only [put, if_neg h, List.map_cons, ih, List.mem_cons, h', false_or]
      split <;> simp

theorem nodup_put (k : κ) (a : α) {l : List (κ × α)} (h : (l.map Prod.fst).Nodup) :
    ((put k a l).map Prod.fst).Nodup := by
  rw [keys_put]
  split
  · exact h
  · rename_i hk
    rw [List.nodup_append]
    refine ⟨h, by simp, ?_⟩
    intro x hx y hy e
    rw [List.mem_singleton] at hy
    exact hk (by rw [← hy, ← e]; exact hx)

theorem lookup_put (k q : κ) (a : α) (l : List (κ × α)) :
    lookup q (put k a l) = if q = k then some a else lookup q l := by
  induction l with
  | nil => simp [put, lookup, eq_comm]
  | cons p l ih =>
    by_cases h : p.1 = k
    · by_cases hq : q = k
      · simp [put, lookup, h, hq]
      · have hq' : ¬ k = q := fun e => hq e.symm
        simp [put, lookup, h, hq, hq']
    · by_cases hq : p.1 = q
      · have hk : ¬ q = k := fun e => h (hq.trans e)
        simp [put, lookup, hq, hk]
      · simp [put, lookup, h, hq, ih]

theorem put_of_lookup {k : κ} {a : α} {l : List (κ × α)} (h : lookup k l = some a) :
    put k a l = l := by
  induction l with
  | nil => cases h
  | cons p l ih =>
    rw [lookup] at h
    by_cases hp : p.1 = k
    · rw [if_pos hp] at h
      rw [put, if_pos hp, ← hp, ← Option.some.inj h]
    · rw [if_neg hp] at h
      rw [put, if_neg hp, ih h]

theorem put_put (k : κ) (a b : α) (l : List (κ × α)) : put k b (put k a l) = put k b l := by
  induction l with
  | nil => simp [put]
  | cons p l ih =>
    by_cases h : p.1 = k
    · simp [put, h]
    · simp [put, h, ih]

theorem lookup_filter (k q : κ) (l : List (κ × α)) :
    lookup q (l.filter (fun p => p.1 ≠ k)) = if q = k then none else lookup q l := by
  induction l with
  | nil => simp [lookup]
  | cons p l ih =>
    by_cases h : p.1 = k
    · rw [List.filter_cons_of_neg (by simp [h]), ih]
      by_cases hq : q = k
      · simp [hq]
      · have hq' : ¬ p.1 = q := fun e => hq (e.symm.trans h)
        simp [lookup, hq, hq']
    · rw [List.filter_cons_of_pos (by simp [h])]
      by_cases hq : p.1 = q
      · have hk : ¬ q = k := fun e => h (hq.trans e)
        simp [lookup, hq, hk]
      · simp only [lookup, if_neg hq, ih]

theorem lookup_eq_none_iff {k : κ} {l : List (κ × α)} :
    lookup k l = none ↔ k ∉ l.map Prod.fst := by
  induction l with
  | nil => simp [lookup]
  | cons p l ih =>
    by_cases h : p.1 = k
    · simp [lookup, h]
    · simp [lookup, h, ih, Ne.symm h]

omit [DecidableEq κ] in
theorem nodup_filter (p : κ × α → Bool) {l : List (κ × α)} (h : (l.map Prod.fst).Nodup) :
    ((l.filter p).map Prod.fst).Nodup :=
  h.sublist ((List.filter_sublist).map Prod.fst)

/-! ## Maps -/

/-- The map without entries. -/
def empty : Assoc κ α :=
  ⟨[], by simp⟩

instance : Inhabited (Assoc κ α) := ⟨empty⟩

/-- The value of a key. -/
def find? (t : Assoc κ α) (k : κ) : Option α :=
  lookup k t.entries

/-- Whether a key has a value. -/
def contains (t : Assoc κ α) (k : κ) : Bool :=
  (t.find? k).isSome

/-- Gives a key a value, in the place of the old one if it has one. -/
def insert (t : Assoc κ α) (k : κ) (a : α) : Assoc κ α :=
  ⟨put k a t.entries, nodup_put k a t.nodup⟩

/-- Gives keys their values, one after the other. -/
def insertAll (t : Assoc κ α) (l : List (κ × α)) : Assoc κ α :=
  l.foldl (fun t p => t.insert p.1 p.2) t

/-- Removes a key. -/
def erase (t : Assoc κ α) (k : κ) : Assoc κ α :=
  ⟨t.entries.filter (fun p => p.1 ≠ k), nodup_filter _ t.nodup⟩

/-- The keys, in the order of their insertion. -/
def keys (t : Assoc κ α) : List κ :=
  t.entries.map Prod.fst

/-- The values, in the order of their keys. -/
def values (t : Assoc κ α) : List α :=
  t.entries.map Prod.snd

/-- How many keys there are. -/
def size (t : Assoc κ α) : Nat :=
  t.entries.length

@[simp] theorem find?_empty (k : κ) : (empty : Assoc κ α).find? k = none := rfl

theorem find?_insert (t : Assoc κ α) (k q : κ) (a : α) :
    (t.insert k a).find? q = if q = k then some a else t.find? q :=
  lookup_put k q a t.entries

@[simp] theorem find?_insert_self (t : Assoc κ α) (k : κ) (a : α) :
    (t.insert k a).find? k = some a := by
  simp [find?_insert]

/-- Giving a key the value that it has changes nothing. -/
theorem insert_of_find? {t : Assoc κ α} {k : κ} {a : α} (h : t.find? k = some a) :
    t.insert k a = t := by
  cases t
  simp only [insert, put_of_lookup h]

/-- Of two values for one key the first one leaves nothing. -/
theorem insert_insert (t : Assoc κ α) (k : κ) (a b : α) :
    (t.insert k a).insert k b = t.insert k b := by
  simp only [insert, put_put]

/-- The values that keys are given stand before the ones they had. -/
theorem find?_insertAll (t : Assoc κ α) {l : List (κ × α)} (h : (l.map Prod.fst).Nodup) (k : κ) :
    (t.insertAll l).find? k = (lookup k l).or (t.find? k) := by
  unfold insertAll
  induction l generalizing t with
  | nil => rfl
  | cons p l ih =>
    rw [List.map_cons, List.nodup_cons] at h
    rw [List.foldl_cons, ih _ h.2, find?_insert, lookup]
    by_cases hk : p.1 = k
    · have hnot : lookup k l = none := by
        rw [lookup_eq_none_iff, ← hk]
        exact h.1
      rw [if_pos hk.symm, if_pos hk, hnot]
      rfl
    · rw [if_neg hk, if_neg (Ne.symm hk)]

/-- A key that comes in and goes again leaves the map as it was. -/
theorem erase_insert {t : Assoc κ α} {k : κ} (h : t.find? k = none) (a : α) :
    (t.insert k a).erase k = t := by
  have hput : ∀ l : List (κ × α), lookup k l = none →
      (put k a l).filter (fun p => p.1 ≠ k) = l := by
    intro l
    induction l with
    | nil => simp [put]
    | cons p l ih =>
      intro hl
      rw [lookup] at hl
      by_cases hp : p.1 = k
      · rw [if_pos hp] at hl
        cases hl
      · rw [if_neg hp] at hl
        rw [put, if_neg hp, List.filter_cons_of_pos (by simpa using hp), ih hl]
  cases t
  simp only [erase, insert, hput _ h]

theorem find?_erase (t : Assoc κ α) (k q : κ) :
    (t.erase k).find? q = if q = k then none else t.find? q :=
  lookup_filter k q t.entries

@[simp] theorem find?_erase_self (t : Assoc κ α) (k : κ) : (t.erase k).find? k = none := by
  simp [find?_erase]

theorem lookup_eq_some_iff_mem {l : List (κ × α)} (h : (l.map Prod.fst).Nodup) {k : κ} {a : α} :
    lookup k l = some a ↔ (k, a) ∈ l := by
  induction l with
  | nil => simp [lookup]
  | cons p l ih =>
    obtain ⟨q, b⟩ := p
    simp only [List.map_cons, List.nodup_cons] at h
    by_cases hk : q = k
    · subst hk
      have hn : (q, a) ∉ l := fun hm => h.1 (List.mem_map_of_mem (f := Prod.fst) hm)
      simp [lookup, hn, eq_comm]
    · have hk' : ¬ k = q := fun e => hk e.symm
      simp [lookup, hk, hk', ih h.2]

/-- An entry is in the map exactly when a look-up finds it. -/
theorem mem_entries_iff (t : Assoc κ α) {k : κ} {a : α} :
    (k, a) ∈ t.entries ↔ t.find? k = some a :=
  (lookup_eq_some_iff_mem t.nodup).symm

/-! ## Keys of two parts -/

variable {μ : Type}

/-- The entries that have a first part in their keys, under the second part. -/
def secondParts (k : κ) (l : List ((κ × μ) × α)) : List (μ × α) :=
  (l.filter (·.1.1 = k)).map fun p => (p.1.2, p.2)

theorem secondParts_cons (k : κ) (p : (κ × μ) × α) (l : List ((κ × μ) × α)) :
    secondParts k (p :: l)
      = if p.1.1 = k then (p.1.2, p.2) :: secondParts k l else secondParts k l := by
  unfold secondParts
  rw [List.filter_cons]
  by_cases h : p.1.1 = k <;> simp [h]

theorem mem_keys_secondParts {k : κ} {m : μ} {l : List ((κ × μ) × α)} :
    m ∈ (secondParts k l).map Prod.fst ↔ (k, m) ∈ l.map Prod.fst := by
  induction l with
  | nil => simp [secondParts]
  | cons p l ih =>
    rw [secondParts_cons, List.map_cons, List.mem_cons, ← ih]
    by_cases h : p.1.1 = k <;> simp [h, Prod.ext_iff, eq_comm]

theorem nodup_secondParts (k : κ) {l : List ((κ × μ) × α)} (h : (l.map Prod.fst).Nodup) :
    ((secondParts k l).map Prod.fst).Nodup := by
  induction l with
  | nil => exact List.nodup_nil
  | cons p l ih =>
    rw [List.map_cons, List.nodup_cons] at h
    rw [secondParts_cons]
    split
    · rename_i hp
      subst hp
      rw [List.map_cons, List.nodup_cons, mem_keys_secondParts]
      exact ⟨h.1, ih h.2⟩
    · exact ih h.2

variable [DecidableEq μ]

theorem lookup_secondParts (k : κ) (m : μ) (l : List ((κ × μ) × α)) :
    lookup m (secondParts k l) = lookup (k, m) l := by
  induction l with
  | nil => rfl
  | cons p l ih =>
    rw [secondParts_cons, lookup]
    by_cases hk : p.1.1 = k <;> by_cases hm : p.1.2 = m <;> simp [lookup, hk, hm, ih, Prod.ext_iff]

theorem secondParts_put (k q : κ) (m : μ) (a : α) (l : List ((κ × μ) × α)) :
    secondParts q (put (k, m) a l)
      = if q = k then put m a (secondParts k l) else secondParts q l := by
  induction l with
  | nil => by_cases hq : k = q <;> simp [put, secondParts, hq, eq_comm]
  | cons p l ih =>
    rw [put]
    by_cases hp : p.1 = (k, m)
    · rw [if_pos hp, secondParts_cons, secondParts_cons, secondParts_cons, hp]
      by_cases hq : q = k
      · simp [put, hq]
      · simp [hq, Ne.symm hq]
    · rw [if_neg hp, secondParts_cons, secondParts_cons, secondParts_cons, ih]
      by_cases hq : q = k
      · subst hq
        by_cases hk : p.1.1 = q
        · have hm : p.1.2 ≠ m := fun hm => hp (Prod.ext hk hm)
          simp [put, hk, hm]
        · simp [hk]
      · simp [hq]

/-- The map that a first part of the keys holds. -/
def under (t : Assoc (κ × μ) α) (k : κ) : Assoc μ α :=
  ⟨secondParts k t.entries, nodup_secondParts k t.nodup⟩

theorem find?_under (t : Assoc (κ × μ) α) (k : κ) (m : μ) : (t.under k).find? m = t.find? (k, m) :=
  lookup_secondParts k m t.entries

/-- Gives keys with one first part their values. -/
def insertUnder (t : Assoc (κ × μ) α) (k : κ) (u : Assoc μ α) : Assoc (κ × μ) α :=
  t.insertAll (u.entries.map fun p => ((k, p.1), p.2))

/-- What is put under a first part goes into its map and no other one. -/
theorem under_insertUnder (t : Assoc (κ × μ) α) (k q : κ) (u : Assoc μ α) :
    (t.insertUnder k u).under q = if q = k then (t.under k).insertAll u.entries else t.under q := by
  have hone : ∀ (t : Assoc (κ × μ) α) (p : μ × α),
      (t.insert (k, p.1) p.2).under q
        = if q = k then (t.under k).insert p.1 p.2 else t.under q := by
    intro t p
    unfold under insert
    simp only [secondParts_put]
    split <;> rfl
  unfold insertUnder insertAll
  rw [List.foldl_map]
  induction u.entries generalizing t with
  | nil =>
    split
    · rename_i hq
      rw [hq]
      rfl
    · rfl
  | cons p l ih =>
    rw [List.foldl_cons, List.foldl_cons, ih, hone]
    by_cases hq : q = k
    · subst hq
      rw [if_pos rfl, if_pos rfl, hone, if_pos rfl]
    · rw [if_neg hq, if_neg hq, if_neg hq]

end Assoc

end Perfmon
