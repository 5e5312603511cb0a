import Mathlib.Data.List.Infix
import PermeantOS.ByteStream
import PermeantOS.Panics

namespace PermeantOS

section Frames

variable {α M : Type} (recv : List (List α) → Fallible (M × List (List α)))

/-- What up to `n` calls on one stream return; a caller stops at an error. -/
def receiveMany : Nat → List (List α) → List (Fallible M)
  | 0, _ => []
  | n + 1, stream =>
    match recv stream with
    | .ok (msg, rest) => .ok msg :: receiveMany n rest
    | .error fault => [.error fault]

/-- A frame is received as its message, whatever follows, and is an error where it is cut short. -/
structure ReceivedAs (frame : List α) (msg : M) : Prop where
  whole : ∀ stream after, stream.flatten = frame ++ after →
    ∃ rest, recv stream = .ok (msg, rest) ∧ rest.flatten = after
  cut : ∀ stream, stream.flatten <+: frame → stream.flatten.length < frame.length →
    ∃ text, recv stream = .error (.error text)

variable {recv}

theorem receiveMany_ok {n : Nat} {stream rest : List (List α)} {msg : M} (h : recv stream = .ok (msg, rest)) :
    receiveMany recv (n + 1) stream = .ok msg :: receiveMany recv n rest := by
  rw [receiveMany, h]

theorem receiveMany_error {n : Nat} {stream : List (List α)} {fault : Fault} (h : recv stream = .error fault) :
    receiveMany recv (n + 1) stream = [.error fault] := by
  rw [receiveMany, h]

/-- Whole frames, however segmented, are received as exactly their messages. -/
theorem receiveMany_whole {frames stream : List (List α)} {msgs : List M}
    (hframes : List.Forall₂ (ReceivedAs recv) frames msgs) (hstream : stream.flatten = frames.flatten) :
    receiveMany recv msgs.length stream = msgs.map .ok := by
  induction hframes generalizing stream with
  | nil => rfl
  | cons hframe _ ih =>
    rw [List.flatten_cons] at hstream
    obtain ⟨rest, hrecv, hrest⟩ := hframe.whole _ _ hstream
    rw [List.length_cons, receiveMany_ok hrecv, ih hrest, List.map_cons]

/-- A read that fills its buffer takes that much off the stream. -/
theorem readExact_flatten {n : Nat} {segs rest : List (List α)} {found : List α}
    (h : readExact n segs = some (found, rest)) : found.length = n ∧ segs.flatten = found ++ rest.flatten := by
  by_cases hfits : n ≤ segs.flatten.length
  · obtain ⟨after, hafter, hflatten⟩ := readExact_some hfits
    cases h.symm.trans hafter
    exact ⟨List.length_take_of_le hfits, by rw [hflatten, List.take_append_drop]⟩
  · rw [readExact_none (Nat.lt_of_not_le hfits)] at h
    cases h

/-- The end of the stream is an error, behind all messages. -/
theorem receiveMany_end {frames stream : List (List α)} {msgs : List M} {n : Nat}
    (hframes : List.Forall₂ (ReceivedAs recv) frames msgs) (hstream : stream.flatten = frames.flatten)
    (hend : ∀ stream, stream.flatten = [] → ∃ text, recv stream = .error (.error text)) (hn : msgs.length < n) :
    ∃ text, receiveMany recv n stream = msgs.map .ok ++ [.error (.error text)] := by
  induction hframes generalizing stream n with
  | nil =>
    obtain ⟨n, rfl⟩ : ∃ k, n = k + 1 := ⟨n - 1, by simp at hn; omega⟩
    obtain ⟨text, htext⟩ := hend stream hstream
    exact ⟨text, receiveMany_error htext⟩
  | cons hframe _ ih =>
    obtain ⟨n, rfl⟩ : ∃ k, n = k + 1 := ⟨n - 1, by simp at hn; omega⟩
    rw [List.flatten_cons] at hstream
    obtain ⟨rest, hrecv, hrest⟩ := hframe.whole _ _ hstream
    obtain ⟨text, htext⟩ := ih hrest (by simpa using hn)
    refine ⟨text, ?_⟩
    rw [receiveMany_ok hrecv, htext, List.map_cons, List.cons_append]

/-- A stream cut anywhere gives the messages that lie wholly before the cut, then an error. -/
theorem receiveMany_cut {frames stream : List (List α)} {msgs : List M} {n : Nat}
    (hframes : List.Forall₂ (ReceivedAs recv) frames msgs) (hbegins : stream.flatten <+: frames.flatten)
    (hne : stream.flatten ≠ frames.flatten) (hn : msgs.length ≤ n) :
    ∃ text, receiveMany recv n stream =
      (msgs.take (wholeFrames stream.flatten.length frames)).map .ok ++ [.error (.error text)] := by
  induction hframes generalizing stream n with
  | nil => exact absurd (List.prefix_nil.mp hbegins) hne
  | @cons frame msg frames msgs hframe _ ih =>
    obtain ⟨n, rfl⟩ : ∃ k, n = k + 1 := ⟨n - 1, by simp at hn; omega⟩
    rw [List.flatten_cons] at hbegins hne
    by_cases hfit : frame.length ≤ stream.flatten.length
    · obtain ⟨after, hafter⟩ : frame <+: stream.flatten :=
        List.prefix_of_prefix_length_le (List.prefix_append _ _) hbegins hfit
      obtain ⟨rest, hrecv, hrest⟩ := hframe.whole stream after hafter.symm
      have hrestBegins : rest.flatten <+: frames.flatten := by
        rw [hrest]
        rw [← hafter] at hbegins
        exact (List.prefix_append_right_inj _).mp hbegins
      have hrestNe : rest.flatten ≠ frames.flatten := by
        intro heq
        rw [hrest] at heq
        exact hne (by rw [← hafter, heq])
      obtain ⟨text, htext⟩ := ih hrestBegins hrestNe (by simpa using hn)
      have hcount : stream.flatten.length - frame.length = rest.flatten.length := by
        rw [hrest, ← hafter, List.length_append]
        omega
      refine ⟨text, ?_⟩
      rw [receiveMany_ok hrecv, htext, wholeFrames, if_pos hfit, hcount]
      rfl
    · obtain ⟨text, htext⟩ := hframe.cut stream
        (List.prefix_of_prefix_length_le hbegins (List.prefix_append _ _) (by omega)) (by omega)
      refine ⟨text, ?_⟩
      rw [receiveMany_error htext, wholeFrames, if_neg hfit]
      rfl

/-- A proper beginning of a concatenation of frames holds some of them whole and the next one in part. -/
theorem wholeFrames_of_prefix {frames : List (List α)} {cut : List α} (hbegins : cut <+: frames.flatten)
    (hne : cut ≠ frames.flatten) :
    wholeFrames cut.length frames < frames.length ∧
      (frames.take (wholeFrames cut.length frames)).flatten <+: cut ∧
        ¬(frames.take (wholeFrames cut.length frames + 1)).flatten <+: cut := by
  obtain ⟨hle, hlt⟩ := wholeFrames_spec cut.length frames
  have hcount : wholeFrames cut.length frames < frames.length := by
    by_contra hall
    have hk : wholeFrames cut.length frames = frames.length :=
      Nat.le_antisymm (wholeFrames_le_length _ _) (Nat.le_of_not_lt hall)
    rw [hk, List.take_length] at hle
    exact hne (hbegins.eq_of_length_le hle)
  have htake : (frames.take (wholeFrames cut.length frames)).flatten <+: frames.flatten :=
    (List.take_prefix _ _).flatten
  refine ⟨hcount, ?_, ?_⟩
  · exact List.prefix_of_prefix_length_le htake hbegins hle
  · intro hmore
    have hlength := hmore.length_le
    have hnext := hlt hcount
    omega

end Frames

end PermeantOS
