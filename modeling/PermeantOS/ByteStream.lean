import Mathlib.Data.List.Basic

namespace PermeantOS

section Segments

variable {α : Type}

/-- Fill a buffer of `n` elements from a stream that arrives in segments; each read takes what the
first segment still holds. `none` is the end of the stream before the buffer is full. -/
def readExact (n : Nat) : List (List α) → Option (List α × List (List α))
  | [] => if n = 0 then some ([], []) else none
  | seg :: segs =>
    if n ≤ seg.length then some (seg.take n, seg.drop n :: segs)
    else do
      let (xs, rest) ← readExact (n - seg.length) segs
      pure (seg ++ xs, rest)

/-- Segmentation is invisible: a read sees only the concatenation. -/
theorem readExact_some {n : Nat} {segs : List (List α)} (h : n ≤ segs.flatten.length) :
    ∃ rest, readExact n segs = some (segs.flatten.take n, rest) ∧
      rest.flatten = segs.flatten.drop n := by
  induction segs generalizing n with
  | nil =>
    have hz : n = 0 := by simpa using h
    exact ⟨[], by simp [readExact, hz], by simp⟩
  | cons seg segs ih =>
    by_cases hn : n ≤ seg.length
    · refine ⟨seg.drop n :: segs, ?_, ?_⟩
      · rw [readExact, if_pos hn, List.flatten_cons, List.take_append_of_le_length hn]
      · rw [List.flatten_cons, List.flatten_cons, List.drop_append_of_le_length hn]
    · have hrest : n - seg.length ≤ segs.flatten.length := by
        simp only [List.flatten_cons, List.length_append] at h
        omega
      obtain ⟨rest, hr, hf⟩ := ih hrest
      refine ⟨rest, ?_, ?_⟩
      · rw [readExact, if_neg hn, hr]
        simp [List.take_append, List.take_of_length_le (Nat.le_of_not_le hn)]
      · rw [hf, List.flatten_cons, List.drop_append, List.drop_of_length_le (Nat.le_of_not_le hn)]
        rfl

theorem readExact_none {n : Nat} {segs : List (List α)} (h : segs.flatten.length < n) :
    readExact n segs = none := by
  induction segs generalizing n with
  | nil => simp [readExact, show n ≠ 0 by simp at h; omega]
  | cons seg segs ih =>
    simp only [List.flatten_cons, List.length_append] at h
    rw [readExact, if_neg (by omega), ih (by omega)]
    rfl

theorem readExact_append {segs : List (List α)} {front after : List α}
    (h : segs.flatten = front ++ after) :
    ∃ rest, readExact front.length segs = some (front, rest) ∧ rest.flatten = after := by
  have hn : front.length ≤ segs.flatten.length := by simp [h]
  obtain ⟨rest, hr, hf⟩ := readExact_some hn
  exact ⟨rest, by simpa [h] using hr, by simpa [h] using hf⟩

end Segments

section Frames

variable {α : Type}

/-- How many leading frames lie wholly within the first `n` elements of their concatenation. -/
def wholeFrames (n : Nat) : List (List α) → Nat
  | [] => 0
  | frame :: frames =>
    if frame.length ≤ n then wholeFrames (n - frame.length) frames + 1 else 0

theorem wholeFrames_le_length (n : Nat) (frames : List (List α)) :
    wholeFrames n frames ≤ frames.length := by
  induction frames generalizing n with
  | nil => simp [wholeFrames]
  | cons frame frames ih =>
    rw [wholeFrames]
    split
    next => simpa using ih (n - frame.length)
    next => simp

/-- `wholeFrames` counts exactly the frames that fit: that many do, and one more does not. -/
theorem wholeFrames_spec (n : Nat) (frames : List (List α)) :
    ((frames.take (wholeFrames n frames)).flatten).length ≤ n ∧
      (wholeFrames n frames < frames.length →
        n < ((frames.take (wholeFrames n frames + 1)).flatten).length) := by
  induction frames generalizing n with
  | nil => simp [wholeFrames]
  | cons frame frames ih =>
    rw [wholeFrames]
    split
    next hfit =>
      obtain ⟨hle, hlt⟩ := ih (n - frame.length)
      constructor
      · simp only [List.take_succ_cons, List.flatten_cons, List.length_append]
        omega
      · intro hmore
        have := hlt (by simpa using hmore)
        simp only [List.take_succ_cons, List.flatten_cons, List.length_append]
        omega
    next hbig =>
      simp only [List.take_zero, List.flatten_nil, List.length_nil, Nat.zero_le, true_and]
      intro _
      simp only [Nat.zero_add, List.take_succ_cons, List.flatten_cons, List.length_append]
      omega

end Frames

end PermeantOS
