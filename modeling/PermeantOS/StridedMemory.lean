import PermeantOS.Loops

namespace PermeantOS

section Memory

variable {α : Type}

/-- Storage with one element at every address. -/
abbrev Memory (α : Type) := Nat → α

def Memory.read (memory : Memory α) (offset size : Nat) : List α :=
  (List.range size).map fun i => memory (offset + i)

def Memory.write (memory : Memory α) (offset : Nat) (block : List α) : Memory α := fun address =>
  if offset ≤ address then block.getD (address - offset) (memory address) else memory address

/-- The blocks one after the other, each a stride behind the one before it. -/
def Memory.writeBlocks (memory : Memory α) (stride : Nat) (block : Nat → List α) (count : Nat) : Memory α :=
  (List.range count).foldl (fun memory i => memory.write (i * stride) (block i)) memory

variable {memory : Memory α} {stride size count : Nat} {block : Nat → List α}

@[simp] theorem Memory.length_read (memory : Memory α) (offset size : Nat) :
    (memory.read offset size).length = size := by
  rw [read, List.length_map, List.length_range]

theorem Memory.write_inside {offset i : Nat} {bytes : List α} (hi : i < bytes.length) :
    memory.write offset bytes (offset + i) = bytes[i] := by
  rw [write, if_pos (Nat.le_add_right _ _), Nat.add_sub_cancel_left, List.getD_eq_getElem?_getD,
    List.getElem?_eq_getElem hi, Option.getD_some]

theorem Memory.write_outside {offset address : Nat} {bytes : List α}
    (h : address < offset ∨ offset + bytes.length ≤ address) : memory.write offset bytes address = memory address := by
  unfold write
  split
  next hle =>
    rw [List.getD_eq_getElem?_getD, List.getElem?_eq_none (by omega), Option.getD_none]
  next => rfl

theorem Memory.writeBlocks_succ (count : Nat) : memory.writeBlocks stride block (count + 1) =
    (memory.writeBlocks stride block count).write (count * stride) (block count) := by
  rw [writeBlocks, List.range_succ, List.foldl_append, List.foldl_cons, List.foldl_nil]
  rfl

/-- An address that no block covers keeps its element. -/
theorem Memory.writeBlocks_outside {address : Nat}
    (h : ∀ i < count, address < i * stride ∨ i * stride + (block i).length ≤ address) :
    memory.writeBlocks stride block count address = memory address := by
  induction count with
  | zero => rfl
  | succ count ih =>
    have hlast := h count (Nat.lt_succ_self count)
    rw [writeBlocks_succ, write_outside hlast]
    exact ih fun i hi => h i (Nat.lt_succ_of_lt hi)

/-- Blocks that are no longer than the stride do not overlap, so each of them is read back. -/
theorem Memory.read_writeBlocks (hblock : ∀ i < count, (block i).length = size) (hsize : size ≤ stride)
    {i : Nat} (hi : i < count) : (memory.writeBlocks stride block count).read (i * stride) size = block i := by
  induction count with
  | zero => omega
  | succ count ih =>
    apply List.ext_getElem
    · rw [length_read, hblock i hi]
    intro k hk hk'
    rw [length_read] at hk
    simp only [read, List.getElem_map, List.getElem_range, writeBlocks_succ]
    by_cases hlast : i = count
    · subst hlast
      exact write_inside hk'
    · have hbefore : i * stride + k < count * stride := mul_add_lt_mul (by omega) (by omega)
      rw [write_outside (Or.inl hbefore)]
      have hread := ih (fun j hj => hblock j (Nat.lt_succ_of_lt hj)) (by omega : i < count)
      have hget := congrArg (·[k]?) hread
      simpa [read, hk, List.getElem?_eq_getElem hk'] using hget

/-- What lies between the blocks, or behind the last of them, is unchanged. -/
theorem Memory.read_writeBlocks_outside {offset length : Nat} (hblock : ∀ i < count, (block i).length = size)
    (h : ∀ i < count, offset + length ≤ i * stride ∨ i * stride + size ≤ offset) :
    (memory.writeBlocks stride block count).read offset length = memory.read offset length := by
  apply List.map_congr_left
  intro k hk
  have hlt := List.mem_range.mp hk
  apply writeBlocks_outside
  intro i hi
  rw [hblock i hi]
  rcases h i hi with hbefore | hafter
  · exact Or.inl (by omega)
  · exact Or.inr (by omega)

end Memory

section Rows

variable {α : Type}

/-- A flat array read row by row is the array. -/
theorem flatMap_rows {xs : List α} (width count : Nat) :
    ((List.range count).flatMap fun row => (xs.drop (row * width)).take width) = xs.take (count * width) := by
  induction count with
  | zero => simp
  | succ count ih =>
    rw [List.range_succ, List.flatMap_append, ih, List.flatMap_singleton, Nat.succ_mul, List.take_add]

/-- A flat array read element by element is the array. -/
theorem flatMap_elements {xs : List α} {width count : Nat} (h : xs.length = count * width) (default : α) :
    ((List.range count).flatMap fun row => (List.range width).map fun i => xs.getD (row * width + i) default) = xs := by
  have hrow : ∀ row ∈ List.range count, ((List.range width).map fun i => xs.getD (row * width + i) default) =
      (xs.drop (row * width)).take width := by
    intro row hrow
    have hlt := List.mem_range.mp hrow
    apply List.ext_getElem?
    intro i
    rw [List.getElem?_map, List.getElem?_take]
    split
    next hi =>
      have hin : row * width + i < xs.length := by
        rw [h]
        exact mul_add_lt_mul hlt hi
      simp [hi, List.getElem?_eq_getElem hin]
    next hi => simp [hi]
  rw [List.flatMap_congr hrow, flatMap_rows, ← h, List.take_length]

variable {β : Type} {f : β → List α} {size : Nat}

theorem drop_flatMap (hf : ∀ x, (f x).length = size) (n : Nat) (xs : List β) :
    (xs.flatMap f).drop (n * size) = (xs.drop n).flatMap f := by
  induction xs generalizing n with
  | nil => simp
  | cons x xs ih =>
    cases n with
    | zero => simp
    | succ n =>
      rw [List.flatMap_cons, List.drop_succ_cons, List.drop_append, hf, List.drop_of_length_le, List.nil_append,
        Nat.succ_mul, Nat.add_sub_cancel, ih]
      rw [hf, Nat.succ_mul]
      omega

theorem take_flatMap (hf : ∀ x, (f x).length = size) (n : Nat) (xs : List β) :
    (xs.flatMap f).take (n * size) = (xs.take n).flatMap f := by
  induction xs generalizing n with
  | nil => simp
  | cons x xs ih =>
    cases n with
    | zero => simp
    | succ n =>
      rw [List.flatMap_cons, List.take_succ_cons, List.flatMap_cons, List.take_append, hf, List.take_of_length_le,
        Nat.succ_mul, Nat.add_sub_cancel, ih]
      rw [hf, Nat.succ_mul]
      omega

theorem length_flatMap_of_length (hf : ∀ x, (f x).length = size) (xs : List β) :
    (xs.flatMap f).length = xs.length * size := by
  induction xs with
  | nil => simp
  | cons x xs ih =>
    rw [List.flatMap_cons, List.length_append, hf, ih, List.length_cons, Nat.succ_mul, Nat.add_comm]

/-- The `i`th element of an array of encoded elements. -/
theorem element_flatMap (hf : ∀ x, (f x).length = size) {xs : List β} {i : Nat} (hi : i < xs.length) :
    ((xs.flatMap f).drop (i * size)).take size = f xs[i] := by
  have hone := take_flatMap hf 1 (xs.drop i)
  rw [drop_flatMap hf]
  rw [Nat.one_mul] at hone
  rw [hone, List.drop_eq_getElem_cons hi, List.take_succ_cons, List.take_zero, List.flatMap_singleton]

end Rows

end PermeantOS
