/-!
# Windows

A batch that does not fit into the staging memory is processed window by window. `Windows` is the
position in such a sequence: `next?` gives the next window, `left` says how many are still to come
without going through them.

`toList` runs through all of them. It ends because a window is never empty, so the position comes
closer to the total with every step.
-/

namespace Perfmon

/-- The operations from `start` up to `start + len`. -/
structure Window where
  /-- The index of the first operation. -/
  start : Nat
  /-- How many operations there are. -/
  len : Nat
  deriving DecidableEq, Repr

/-- The index behind the last operation of a window. -/
def Window.stop (w : Window) : Nat :=
  w.start + w.len

/-- The window of a batch with an index. It is there if the windows before it do not cover the batch.
-/
def Window.nth (total capacity k : Nat) : Window :=
  ⟨capacity * k, min (total - capacity * k) capacity⟩

theorem Window.stop_nth {total capacity k : Nat} (h : capacity * k < total) :
    (nth total capacity k).stop = min (capacity * (k + 1)) total := by
  simp only [nth, stop, Nat.mul_succ]
  omega

/-- Some number of windows covers a batch, and none of them is empty. -/
theorem Window.exists_cover (total : Nat) {capacity : Nat} (hc : 0 < capacity) :
    ∃ k, total ≤ capacity * k ∧ ∀ i < k, capacity * i < total := by
  refine ⟨(total + (capacity - 1)) / capacity, ?_, fun i hi => ?_⟩
  · have hlt := Nat.lt_mul_div_succ (total + (capacity - 1)) hc
    rw [Nat.mul_succ] at hlt
    omega
  · have hle := (Nat.le_div_iff_mul_le hc).mp hi
    rw [Nat.succ_mul, Nat.mul_comm] at hle
    omega

/-- A position in the windows of a batch. -/
structure Windows where
  /-- The length of the batch. -/
  total : Nat
  /-- The largest length of a window. -/
  capacity : Nat
  /-- The index of the first operation that no window has covered yet. -/
  position : Nat
  deriving DecidableEq, Repr

namespace Windows

/-- The windows of a batch from its beginning. -/
def ofBatch (total capacity : Nat) : Windows :=
  ⟨total, capacity, 0⟩

/-- The next window, and the position behind it. -/
def next? (c : Windows) : Option (Window × Windows) :=
  if c.total ≤ c.position ∨ c.capacity = 0 then none
  else
    let len := min (c.total - c.position) c.capacity
    some (⟨c.position, len⟩, { c with position := c.position + len })

/-- How many windows are still to come. -/
def left (c : Windows) : Nat :=
  if c.capacity = 0 then 0 else (c.total - c.position + (c.capacity - 1)) / c.capacity

/-- Behind a window less of the batch is left than before it. -/
theorem next?_decreases {c d : Windows} {w : Window} (h : c.next? = some (w, d)) :
    d.total - d.position < c.total - c.position := by
  unfold next? at h
  split at h
  · simp at h
  · simp only [Option.some.injEq, Prod.mk.injEq] at h
    obtain ⟨-, rfl⟩ := h
    simp only
    omega

/-- Behind the windows before it, the window with an index is the next one. -/
theorem next?_nth {total capacity k : Nat} (h : capacity * k < total) (hc : 0 < capacity) :
    next? ⟨total, capacity, capacity * k⟩
      = some (.nth total capacity k, ⟨total, capacity, (Window.nth total capacity k).stop⟩) :=
  if_neg (by dsimp only; omega)

/-- The next window starts at the position and is not empty. -/
theorem next?_eq_some {c d : Windows} {w : Window} (h : c.next? = some (w, d)) :
    w.start = c.position ∧ 0 < w.len ∧ w.len ≤ c.capacity ∧ w.stop ≤ c.total ∧
      d = { c with position := w.stop } := by
  unfold next? at h
  split at h
  · cases h
  · cases h
    refine ⟨rfl, ?_, ?_, ?_, rfl⟩ <;> simp only [Window.stop] <;> omega

/-- A window that does not reach the end is as long as a window can be. -/
theorem len_of_stop_lt {c d : Windows} {w : Window} (h : c.next? = some (w, d))
    (hw : w.stop < c.total) : w.len = c.capacity := by
  unfold next? at h
  split at h
  · cases h
  · cases h
    simp only [Window.stop] at hw ⊢
    omega

theorem le_of_next?_eq_none {c : Windows} (h : c.next? = none) (hc : 0 < c.capacity) :
    c.total ≤ c.position := by
  unfold next? at h
  split at h
  · omega
  · cases h

/-- The windows still to come. -/
def toList (c : Windows) : List Window :=
  match h : c.next? with
  | none => []
  | some (w, d) =>
    have := next?_decreases h
    w :: d.toList
termination_by c.total - c.position

theorem toList_of_next?_eq_none {c : Windows} (h : c.next? = none) : c.toList = [] := by
  rw [toList]
  split
  · rfl
  · rename_i hn
    rw [hn] at h
    cases h

theorem toList_of_next?_eq_some {c d : Windows} {w : Window} (h : c.next? = some (w, d)) :
    c.toList = w :: d.toList := by
  rw [toList]
  split
  · rename_i hn
    rw [hn] at h
    cases h
  · rename_i hn
    rw [hn] at h
    cases h
    rfl

end Windows

end Perfmon
