import Mathlib.Data.List.Basic

namespace PermeantOS

variable {α : Type}

theorem mem_intercalate {sep : List α} {pieces : List (List α)} {a : α} (h : a ∈ sep.intercalate pieces) :
    a ∈ sep ∨ ∃ piece ∈ pieces, a ∈ piece := by
  induction pieces with
  | nil => cases h
  | cons piece pieces ih =>
    cases pieces with
    | nil =>
      rw [List.intercalate_singleton] at h
      exact .inr ⟨piece, List.mem_cons_self, h⟩
    | cons next pieces =>
      rw [List.intercalate_cons_cons, List.mem_append, List.mem_append] at h
      rcases h with (h | h) | h
      · exact .inr ⟨piece, List.mem_cons_self, h⟩
      · exact .inl h
      · exact (ih h).imp id fun ⟨found, hmem, ha⟩ => ⟨found, List.mem_cons_of_mem _ hmem, ha⟩

/-- A text is cut at its first delimiter in one way. -/
theorem append_delim_inj {delim : α} {xs ys xs' ys' : List α} (h : xs ++ delim :: ys = xs' ++ delim :: ys')
    (hxs : delim ∉ xs) (hxs' : delim ∉ xs') : xs = xs' ∧ ys = ys' := by
  induction xs generalizing xs' with
  | nil =>
    cases xs' with
    | nil => exact ⟨rfl, (List.cons.inj h).2⟩
    | cons x xs' =>
      obtain rfl := (List.cons.inj h).1
      exact absurd List.mem_cons_self hxs'
  | cons x xs ih =>
    cases xs' with
    | nil =>
      obtain rfl := (List.cons.inj h).1
      exact absurd List.mem_cons_self hxs
    | cons x' xs' =>
      obtain ⟨rfl, hrest⟩ := List.cons.inj h
      obtain ⟨rfl, rfl⟩ := ih hrest (fun hmem => hxs (List.mem_cons_of_mem _ hmem))
        fun hmem => hxs' (List.mem_cons_of_mem _ hmem)
      exact ⟨rfl, rfl⟩

variable [DecidableEq α] {delim : α}

/-- What `std::getline` reads of a text until it fails: the pieces between delimiters. A delimiter at the very
end opens no further piece. -/
def getlines (delim : α) (text : List α) : List (List α) :=
  let pieces := text.splitOn delim
  if pieces.getLast? = some [] then pieces.dropLast else pieces

theorem getlines_intercalate {pieces : List (List α)} (h : ∀ piece ∈ pieces, delim ∉ piece) (hne : pieces ≠ []) :
    getlines delim ([delim].intercalate pieces) =
      if pieces.getLast? = some [] then pieces.dropLast else pieces := by
  rw [getlines, List.splitOn_intercalate delim h hne]

theorem getlines_of_last {pieces : List (List α)} (h : ∀ piece ∈ pieces, delim ∉ piece)
    (hlast : pieces.getLast? ≠ some []) : getlines delim ([delim].intercalate pieces) = pieces := by
  cases pieces with
  | nil => simp [getlines]
  | cons piece pieces => rw [getlines_intercalate h (by simp), if_neg hlast]

/-- Pieces that are all closed by a delimiter. -/
theorem getlines_closed {pieces : List (List α)} (h : ∀ piece ∈ pieces, delim ∉ piece) (hne : pieces ≠ []) :
    getlines delim ([delim].intercalate pieces ++ [delim]) = pieces := by
  have hjoin : [delim].intercalate pieces ++ [delim] = [delim].intercalate (pieces ++ [[]]) := by
    clear h
    induction pieces with
    | nil => exact absurd rfl hne
    | cons piece pieces ih =>
      cases pieces with
      | nil => simp
      | cons next pieces =>
        rw [List.intercalate_cons_cons, List.append_assoc, ih (by simp), List.cons_append, List.cons_append,
          List.cons_append, List.intercalate_cons_cons]
  have hclosed : ∀ piece ∈ pieces ++ [[]], delim ∉ piece := by
    intro piece hmem
    rcases List.mem_append.mp hmem with hmem | hmem
    · exact h piece hmem
    · rw [List.mem_singleton.mp hmem]
      exact List.not_mem_nil
  rw [hjoin, getlines_intercalate hclosed (by simp), if_pos (by simp), List.dropLast_concat]

end PermeantOS
