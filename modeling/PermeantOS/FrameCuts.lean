import PermeantOS.FrameStream

namespace PermeantOS

section Codes

variable {α : Type} {Whole : List α → Prop}

/-- No frame begins another one, and none is empty. -/
structure PrefixFree (Whole : List α → Prop) : Prop where
  ne_nil : ∀ frame, Whole frame → frame ≠ []
  cancel : ∀ frame other rest rest', Whole frame → Whole other → frame ++ rest = other ++ rest' →
    frame = other ∧ rest = rest'

theorem PrefixFree.not_whole_nil (h : PrefixFree Whole) {frame : List α} (hwhole : Whole frame) :
    ¬frame <+: [] := by
  intro hbegins
  exact h.ne_nil frame hwhole (List.prefix_nil.mp hbegins)

/-- Frames that begin a stream of frames are its first ones. -/
theorem PrefixFree.flatten_prefix (h : PrefixFree Whole) {frames others : List (List α)}
    (hframes : ∀ frame ∈ frames, Whole frame) (hothers : ∀ frame ∈ others, Whole frame)
    (hbegins : frames.flatten <+: others.flatten) : frames <+: others := by
  induction frames generalizing others with
  | nil => exact List.nil_prefix
  | cons frame frames ih =>
    obtain ⟨hframe, hframes⟩ := List.forall_mem_cons.mp hframes
    cases others with
    | nil =>
      rw [List.flatten_cons, List.flatten_nil] at hbegins
      exact absurd ((List.prefix_append _ _).trans hbegins) (h.not_whole_nil hframe)
    | cons other others =>
      obtain ⟨hother, hrest⟩ := List.forall_mem_cons.mp hothers
      obtain ⟨after, hafter⟩ := hbegins
      rw [List.flatten_cons, List.flatten_cons, List.append_assoc] at hafter
      obtain ⟨rfl, hsame⟩ := h.cancel _ _ _ _ hframe hother hafter
      exact (List.prefix_cons_inj _).mpr (ih hframes hrest ⟨after, hsame⟩)

theorem PrefixFree.length_le_flatten (h : PrefixFree Whole) {frames : List (List α)}
    (hframes : ∀ frame ∈ frames, Whole frame) : frames.length ≤ frames.flatten.length := by
  induction frames with
  | nil => exact Nat.le_refl _
  | cons frame frames ih =>
    obtain ⟨hframe, hframes⟩ := List.forall_mem_cons.mp hframes
    have hpos := List.length_pos_iff.mpr (h.ne_nil frame hframe)
    have hle := ih hframes
    rw [List.length_cons, List.flatten_cons, List.length_append]
    omega

end Codes

section Readers

variable {α M : Type} {Whole : List α → Prop} {recv : List (List α) → Fallible (M × List (List α))}

/-- A reader takes one whole frame off the stream, and what it makes of it does not depend on the rest. -/
def ReadsFrames (Whole : List α → Prop) (recv : List (List α) → Fallible (M × List (List α))) : Prop :=
  ∀ stream msg rest, recv stream = .ok (msg, rest) → ∃ frame, Whole frame ∧
    stream.flatten = frame ++ rest.flatten ∧
      ∀ stream' after, stream'.flatten = frame ++ after →
        ∃ rest', recv stream' = .ok (msg, rest') ∧ rest'.flatten = after

/-- What is received from a stream is received first from any longer one. -/
theorem ReadsFrames.receiveMany_extends (hreads : ReadsFrames Whole recv) (hfree : PrefixFree Whole) {n n' : Nat}
    {stream stream' : List (List α)} {more : List α} (hmore : stream'.flatten = stream.flatten ++ more)
    (hn : stream.flatten.length < n) (hn' : stream'.flatten.length < n') :
    ∃ (msgs : List M) (fault : Fault) (tail : List (Fallible M)), receiveMany recv n stream = msgs.map .ok ++ [.error fault] ∧
      receiveMany recv n' stream' = msgs.map .ok ++ tail := by
  induction n generalizing n' stream stream' with
  | zero => omega
  | succ n ih =>
    obtain ⟨n', rfl⟩ : ∃ k, n' = k + 1 := ⟨n' - 1, by omega⟩
    cases hrecv : recv stream with
    | error fault => exact ⟨[], fault, _, receiveMany_error hrecv, rfl⟩
    | ok received =>
      obtain ⟨msg, rest⟩ := received
      obtain ⟨frame, hwhole, hstream, hlocal⟩ := hreads stream msg rest hrecv
      rw [hstream, List.append_assoc] at hmore
      obtain ⟨rest', hrecv', hrest'⟩ := hlocal stream' (rest.flatten ++ more) hmore
      have hpos := List.length_pos_iff.mpr (hfree.ne_nil frame hwhole)
      rw [hstream, List.length_append] at hn
      rw [hmore, List.length_append, ← hrest'] at hn'
      obtain ⟨msgs, fault, tail, hshort, hlong⟩ := ih hrest' (by omega) (show rest'.flatten.length < n' by omega)
      refine ⟨msg :: msgs, fault, tail, ?_, ?_⟩
      · rw [receiveMany_ok hrecv, hshort]
        rfl
      · rw [receiveMany_ok hrecv', hlong]
        rfl

/-- Behind whole frames, what begins with no frame is never received. -/
theorem ReadsFrames.receiveMany_leftover (hreads : ReadsFrames Whole recv) (hfree : PrefixFree Whole) {n n' : Nat}
    {frames stream stream' : List (List α)} {leftover : List α} (hframes : ∀ frame ∈ frames, Whole frame)
    (hleftover : ∀ frame, Whole frame → ¬frame <+: leftover) (hstream : stream.flatten = frames.flatten)
    (hstream' : stream'.flatten = frames.flatten ++ leftover) (hn : frames.length < n) (hn' : frames.length < n') :
    ∃ (msgs : List M) (fault fault' : Fault), msgs.length ≤ frames.length ∧
      receiveMany recv n stream = msgs.map .ok ++ [.error fault] ∧
      receiveMany recv n' stream' = msgs.map .ok ++ [.error fault'] := by
  induction frames generalizing n n' stream stream' with
  | nil =>
    obtain ⟨n, rfl⟩ : ∃ k, n = k + 1 := ⟨n - 1, by simp at hn; omega⟩
    obtain ⟨n', rfl⟩ : ∃ k, n' = k + 1 := ⟨n' - 1, by simp at hn'; omega⟩
    have hfails : ∀ s : List (List α), (∀ frame, Whole frame → ¬frame <+: s.flatten) →
        ∃ fault, recv s = .error fault := by
      intro s hs
      cases hrecv : recv s with
      | error fault => exact ⟨fault, rfl⟩
      | ok received =>
        obtain ⟨frame, hwhole, hflatten, _⟩ := hreads s received.1 received.2 hrecv
        exact absurd (hflatten ▸ List.prefix_append _ _) (hs frame hwhole)
    obtain ⟨fault, hfault⟩ := hfails stream fun frame hwhole => hstream ▸ hfree.not_whole_nil hwhole
    obtain ⟨fault', hfault'⟩ := hfails stream' fun frame hwhole => hstream' ▸ hleftover frame hwhole
    exact ⟨[], fault, fault', Nat.le_refl _, receiveMany_error hfault, receiveMany_error hfault'⟩
  | cons frame frames ih =>
    obtain ⟨hframe, hframes⟩ := List.forall_mem_cons.mp hframes
    obtain ⟨n, rfl⟩ : ∃ k, n = k + 1 := ⟨n - 1, by simp at hn; omega⟩
    obtain ⟨n', rfl⟩ : ∃ k, n' = k + 1 := ⟨n' - 1, by simp at hn'; omega⟩
    rw [List.flatten_cons] at hstream hstream'
    rw [List.append_assoc] at hstream'
    cases hrecv : recv stream with
    | error fault =>
      cases hrecv' : recv stream' with
      | error fault' =>
        exact ⟨[], fault, fault', Nat.zero_le _, receiveMany_error hrecv, receiveMany_error hrecv'⟩
      | ok received =>
        obtain ⟨other, hwhole, hflatten, hlocal⟩ := hreads stream' received.1 received.2 hrecv'
        rw [hstream'] at hflatten
        obtain ⟨rfl, _⟩ := hfree.cancel _ _ _ _ hframe hwhole hflatten
        obtain ⟨rest, hok, _⟩ := hlocal stream frames.flatten hstream
        rw [hok] at hrecv
        cases hrecv
    | ok received =>
      obtain ⟨msg, rest⟩ := received
      obtain ⟨other, hwhole, hflatten, hlocal⟩ := hreads stream msg rest hrecv
      rw [hstream] at hflatten
      obtain ⟨rfl, hrest⟩ := hfree.cancel _ _ _ _ hframe hwhole hflatten
      obtain ⟨rest', hrecv', hrest'⟩ := hlocal stream' (frames.flatten ++ leftover) hstream'
      obtain ⟨msgs, fault, fault', hle, hshort, hlong⟩ := ih hframes hrest.symm hrest'
        (by simpa using hn) (by simpa using hn')
      refine ⟨msg :: msgs, fault, fault', by simpa using hle, ?_, ?_⟩
      · rw [receiveMany_ok hrecv, hshort]
        rfl
      · rw [receiveMany_ok hrecv', hlong]
        rfl

end Readers

end PermeantOS
