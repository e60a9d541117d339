import Mathlib.Algebra.Order.Floor.Div
import Perfmon.Window
/-!
# Windows share a batch out

Every operation of a batch is in exactly one of its windows, and there are no more windows than it
takes (`windows_share_out_the_batch`). How many are still to come is worked out from the position
and not by going through them, and both give the same number wherever one stands
(`Windows.left_eq_length`), because a window that is taken makes either of them smaller by one
(`Windows.left_of_next?_eq_some`).

Windows are asked for one by one: `Windows.after` is the position after so many requests, also if
the windows have come to their end before that.
-/

namespace Perfmon

/-- The indices of the operations in a window. -/
def Window.indices (w : Window) : List Nat :=
  List.range' w.start w.len

/-- A window with an index is needed exactly if those before it leave some of the batch over. -/
theorem Window.lt_ceilDiv_iff {total capacity k : Nat} (hc : 0 < capacity) :
    k < total ⌈/⌉ capacity ↔ capacity * k < total := by
  rw [← Nat.not_le, ceilDiv_le_iff_le_mul hc, Nat.not_le]

namespace Windows

variable {c d : Windows} {w : Window} {total capacity : Nat}

/-! ## How many are still to come -/

theorem left_eq_ceilDiv (c : Windows) : c.left = (c.total - c.position) ⌈/⌉ c.capacity := by
  rw [left, Nat.ceilDiv_eq_add_pred_div]
  split
  · rename_i h
    rw [h, Nat.div_zero]
  · rw [Nat.add_sub_assoc (by omega)]

theorem left_of_next?_eq_none (h : c.next? = none) : c.left = 0 := by
  unfold next? at h
  split at h
  · rename_i hend
    rw [left]
    split
    · rfl
    · exact Nat.div_eq_of_lt (by omega)
  · cases h

theorem left_of_next?_eq_some (h : c.next? = some (w, d)) : c.left = d.left + 1 := by
  have hfull := len_of_stop_lt h
  obtain ⟨hs, hpos, hcap, hstop, rfl⟩ := next?_eq_some h
  have hc : ¬c.capacity = 0 := by omega
  have hstart : c.position + w.len = w.stop := by
    rw [← hs]
    rfl
  rw [left, left, if_neg hc, if_neg hc]
  dsimp only
  by_cases hlt : w.stop < c.total
  · have hlen := hfull hlt
    have hrest : c.total - c.position + (c.capacity - 1)
        = c.total - w.stop + (c.capacity - 1) + c.capacity := by omega
    rw [hrest, Nat.add_div_right _ (Nat.pos_of_ne_zero hc)]
  · -- The window is the last one, and what it takes is not more than one window takes.
    have hnone : (c.total - w.stop + (c.capacity - 1)) / c.capacity = 0 :=
      Nat.div_eq_of_lt (by omega)
    rw [hnone]
    exact Nat.div_eq_of_lt_le (by omega) (by omega)

/-- **What is said to be still to come is still to come.** -/
theorem left_eq_length (c : Windows) : c.left = c.toList.length := by
  fun_induction toList c with
  | case1 c hn => exact left_of_next?_eq_none hn
  | case2 c w d hn _ ih => rw [left_of_next?_eq_some hn, ih, List.length_cons]

theorem length_toList_ofBatch (total capacity : Nat) :
    (ofBatch total capacity).toList.length = total ⌈/⌉ capacity := by
  rw [← left_eq_length, left_eq_ceilDiv, ofBatch, Nat.sub_zero]

/-! ## What is in them -/

/-- A window has operations in it, and no more than there may be. -/
theorem len_of_mem_toList (h : w ∈ c.toList) : 0 < w.len ∧ w.len ≤ c.capacity := by
  fun_induction toList c with
  | case1 c hn => cases h
  | case2 c v d hn _ ih =>
    obtain ⟨-, hpos, hlen, -, rfl⟩ := next?_eq_some hn
    rcases List.mem_cons.mp h with rfl | h
    · exact ⟨hpos, hlen⟩
    · exact ih h

/-- The windows still to come have the rest of the batch in them, in its order. -/
theorem flatMap_indices (c : Windows) (hc : 0 < c.capacity) :
    c.toList.flatMap Window.indices = List.range' c.position (c.total - c.position) := by
  fun_induction toList c with
  | case1 c hn =>
    rw [Nat.sub_eq_zero_of_le (le_of_next?_eq_none hn hc)]
    rfl
  | case2 c w d hn _ ih =>
    obtain ⟨hs, -, -, hstop, rfl⟩ := next?_eq_some hn
    have hrest : c.total - c.position = w.len + (c.total - w.stop) := by
      rw [Window.stop] at hstop ⊢
      omega
    rw [List.flatMap_cons, ih hc, hrest, ← hs, ← List.range'_append_1]
    rfl

/-! ## One request after the other -/

/-- The position behind the next window; at the end there is none to go behind. -/
def advance (c : Windows) : Windows :=
  match c.next? with
  | none => c
  | some (_, d) => d

/-- The position after so many requests for the next window. -/
def after (c : Windows) : Nat → Windows
  | 0 => c
  | n + 1 => (c.after n).advance

theorem head?_toList (c : Windows) : c.toList.head? = c.next?.map Prod.fst := by
  cases h : c.next? with
  | none =>
    rw [toList_of_next?_eq_none h]
    rfl
  | some next =>
    rw [toList_of_next?_eq_some h]
    rfl

theorem toList_advance (c : Windows) : c.advance.toList = c.toList.tail := by
  unfold advance
  cases h : c.next? with
  | none =>
    rw [toList_of_next?_eq_none h]
    rfl
  | some next =>
    rw [toList_of_next?_eq_some h]
    rfl

theorem toList_after (c : Windows) (n : Nat) : (c.after n).toList = c.toList.drop n := by
  induction n with
  | zero => rfl
  | succ n ih => rw [after, toList_advance, ih, List.tail_drop]

/-- A request is answered with the window whose turn it is. -/
theorem next?_after (c : Windows) (n : Nat) : (c.after n).next?.map Prod.fst = c.toList[n]? := by
  rw [← head?_toList, toList_after, List.head?_drop]

/-- The window that comes behind so many windows, if they do not cover the batch. -/
theorem next?_min (hc : 0 < capacity) (k : Nat) :
    next? ⟨total, capacity, min (capacity * k) total⟩
      = if capacity * k < total then
          some (.nth total capacity k, ⟨total, capacity, (Window.nth total capacity k).stop⟩)
        else none := by
  split
  · rename_i h
    rw [Nat.min_eq_left (Nat.le_of_lt h), next?_nth h hc]
  · rename_i h
    rw [Nat.min_eq_right (Nat.not_lt.mp h)]
    exact if_pos (Or.inl (Nat.le_refl total))

theorem after_ofBatch (hc : 0 < capacity) (n : Nat) :
    (ofBatch total capacity).after n = ⟨total, capacity, min (capacity * n) total⟩ := by
  induction n with
  | zero =>
    rw [Nat.mul_zero, Nat.zero_min]
    rfl
  | succ n ih =>
    have hle : capacity * n ≤ capacity * (n + 1) := Nat.mul_le_mul_left _ (Nat.le_succ n)
    rw [after, ih, advance, next?_min hc]
    by_cases h : capacity * n < total
    · rw [if_pos h, ← Window.stop_nth h]
    · rw [if_neg h, Nat.min_eq_right (by omega), Nat.min_eq_right (by omega)]

/-- The windows of a batch by their indices. -/
theorem getElem?_toList_ofBatch (hc : 0 < capacity) (k : Nat) :
    (ofBatch total capacity).toList[k]?
      = if capacity * k < total then some (.nth total capacity k) else none := by
  rw [← next?_after, after_ofBatch hc, next?_min hc]
  split <;> rfl

/-! ## All of them -/

/-- Windows that share a batch out: as many as it takes, one behind the other from the beginning of
the batch, none of them empty, each as long as a window may be but for the last one, which may be
shorter, and every operation in exactly one of them. -/
structure ShareOut (total capacity : Nat) (ws : List Window) : Prop where
  count : ws.length = total ⌈/⌉ capacity
  first : ∀ w, ws[0]? = some w → w.start = 0
  next : ∀ k v w, ws[k]? = some v → ws[k + 1]? = some w → w.start = v.stop
  nonempty : ∀ w ∈ ws, 0 < w.len
  inside : ∀ w ∈ ws, w.len ≤ capacity
  full : ∀ k w, ws[k]? = some w → k + 1 < ws.length → w.len = capacity
  covers : ws.flatMap Window.indices = List.range total

theorem shareOut_ofBatch (hc : 0 < capacity) :
    ShareOut total capacity (ofBatch total capacity).toList where
  count := length_toList_ofBatch total capacity
  first w hw := by
    rw [getElem?_toList_ofBatch hc, Option.ite_none_right_eq_some, Option.some_inj] at hw
    obtain ⟨-, rfl⟩ := hw
    exact Nat.mul_zero capacity
  next k v w hv hw := by
    rw [getElem?_toList_ofBatch hc, Option.ite_none_right_eq_some, Option.some_inj] at hv hw
    obtain ⟨hk, rfl⟩ := hv
    obtain ⟨hk', rfl⟩ := hw
    rw [Window.stop_nth hk, Nat.min_eq_left (Nat.le_of_lt hk')]
    rfl
  nonempty w hw := (len_of_mem_toList hw).1
  inside w hw := (len_of_mem_toList hw).2
  full k w hw hk := by
    rw [length_toList_ofBatch, Window.lt_ceilDiv_iff hc, Nat.mul_succ] at hk
    rw [getElem?_toList_ofBatch hc, Option.ite_none_right_eq_some, Option.some_inj] at hw
    obtain ⟨-, rfl⟩ := hw
    exact Nat.min_eq_right (by omega)
  covers := by
    rw [flatMap_indices _ hc, List.range_eq_range']
    rfl

/-- **Windows share the batch out.** Where a window has room for an operation, asking for windows
comes to an end after as many of them as the batch takes, and they share it out among them; where it
has none, there is no window. After any number of requests the next one is answered with the window
whose turn it is, the windows still to come are those that have not been answered with, and as many
are said to be still to come. -/
theorem windows_share_out_the_batch (total capacity : Nat) :
    (0 < capacity → ShareOut total capacity (ofBatch total capacity).toList) ∧
    (ofBatch total 0).toList = [] ∧
    ∀ n, ((ofBatch total capacity).after n).next?.map Prod.fst
        = (ofBatch total capacity).toList[n]? ∧
      ((ofBatch total capacity).after n).toList = (ofBatch total capacity).toList.drop n ∧
      ((ofBatch total capacity).after n).left
        = ((ofBatch total capacity).after n).toList.length := by
  refine ⟨shareOut_ofBatch, toList_of_next?_eq_none (if_pos (Or.inr rfl)), fun n => ?_⟩
  exact ⟨next?_after _ n, toList_after _ n, left_eq_length _⟩

/-- Seven operations, three at a time, with the last of them alone in a window. -/
theorem windows_share_out_seven_operations :
    ShareOut 7 3 [⟨0, 3⟩, ⟨3, 3⟩, ⟨6, 1⟩] ∧ ((ofBatch 7 3).after 2).left = 1 := by
  have hlist : (ofBatch 7 3).toList = [⟨0, 3⟩, ⟨3, 3⟩, ⟨6, 1⟩] := by cbv
  obtain ⟨hshare, -, hafter⟩ := windows_share_out_the_batch 7 3
  refine ⟨hlist ▸ hshare (by decide), ?_⟩
  obtain ⟨-, hrest, hleft⟩ := hafter 2
  rw [hleft, hrest, hlist]
  rfl

end Windows

end Perfmon
