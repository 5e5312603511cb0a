import PermeantOS.JsonLine
import PermeantOS.SdkClient

namespace PermeantOS

section Cuts

variable {α : Type}

/-- The segments of a stream meet at position `p`. -/
def CutAt (segs : List (List α)) (p : Nat) : Prop := ∃ j, (segs.take j).flatten.length = p

variable {seg : List α} {segs : List (List α)} {p : Nat}

theorem cutAt_cons (hp : 0 < p) : CutAt (seg :: segs) p ↔ seg.length ≤ p ∧ CutAt segs (p - seg.length) := by
  constructor
  · rintro ⟨j, hj⟩
    cases j with
    | zero =>
      rw [List.take_zero] at hj
      exact absurd hj (Nat.ne_of_lt hp)
    | succ j =>
      rw [List.take_succ_cons, List.flatten_cons, List.length_append] at hj
      exact ⟨by omega, j, by omega⟩
  · rintro ⟨hle, j, hj⟩
    refine ⟨j + 1, ?_⟩
    rw [List.take_succ_cons, List.flatten_cons, List.length_append]
    omega

theorem cutAt_nil_cons (hp : 0 < p) : CutAt ([] :: segs) p ↔ CutAt segs p := by
  rw [cutAt_cons hp]
  simp

/-- Taking `n` elements off the first segment moves the later cuts forward. -/
theorem cutAt_drop {n : Nat} (hn : n ≤ seg.length) (hp : 0 < p) :
    CutAt (seg.drop n :: segs) p ↔ CutAt (seg :: segs) (n + p) := by
  rw [cutAt_cons hp, cutAt_cons (by omega), List.length_drop]
  have hpos : n + p - seg.length = p - (seg.length - n) := by omega
  rw [hpos]
  exact and_congr_left fun _ => by omega

theorem cutAt_readExact {n : Nat} {found : List α} {rest : List (List α)}
    (h : readExact n segs = some (found, rest)) (hp : 0 < p) : CutAt rest p ↔ CutAt segs (n + p) := by
  induction segs generalizing n found with
  | nil =>
    rw [readExact] at h
    split at h
    next hzero =>
      cases h
      rw [hzero, Nat.zero_add]
    next => cases h
  | cons seg segs ih =>
    rw [readExact] at h
    split at h
    next hn =>
      cases h
      exact cutAt_drop hn hp
    next hn =>
      obtain ⟨⟨more, left⟩, hmore, heq⟩ := Option.bind_eq_some_iff.mp h
      cases heq
      rw [ih hmore, cutAt_cons (by omega)]
      have hpos : n + p - seg.length = n - seg.length + p := by omega
      rw [hpos]
      exact (and_iff_right (by omega)).symm

end Cuts

section Reads

variable {stream : List (List UInt8)} {p : Nat}

theorem sockRecv_cons {byte : UInt8} {seg : List UInt8} {segs : List (List UInt8)} (n : Nat) :
    sockRecv n ((byte :: seg) :: segs) = ((byte :: seg).take n, (byte :: seg).drop n :: segs) := by
  rw [sockRecv]
  intro h
  cases h

theorem cutAt_sockRecv (n : Nat) (hp : 0 < p) :
    CutAt (sockRecv n stream).2 p ↔ CutAt stream ((sockRecv n stream).1.length + p) := by
  induction stream with
  | nil =>
    rw [sockRecv, List.length_nil, Nat.zero_add]
  | cons seg segs ih =>
    cases seg with
    | nil =>
      rw [sockRecv, cutAt_nil_cons (by omega)]
      exact ih
    | cons byte seg =>
      rw [sockRecv_cons, List.length_take, ← cutAt_drop (Nat.min_le_right _ _) hp]
      dsimp only
      rcases Nat.le_total n (byte :: seg).length with hle | hle
      · rw [Nat.min_eq_left hle]
      · rw [Nat.min_eq_right hle, List.drop_of_length_le hle, List.drop_length]

/-- A read is as long as it was asked for where no cut is in the way. -/
theorem sockRecv_full_iff {n : Nat} (hn : n ≤ stream.flatten.length) :
    (sockRecv n stream).1.length = n ↔ ∀ p, 0 < p → p < n → ¬CutAt stream p := by
  induction stream with
  | nil =>
    rw [sockRecv]
    simp only [List.flatten_nil, List.length_nil, Nat.le_zero_eq] at hn
    constructor
    · intro _ p hp hlt
      omega
    · intro _
      exact hn.symm
  | cons seg segs ih =>
    cases seg with
    | nil =>
      rw [sockRecv, ih (by simpa using hn)]
      exact forall_congr' fun p => imp_congr_right fun hp => imp_congr_right fun _ =>
        not_congr (cutAt_nil_cons hp).symm
    | cons byte seg =>
      rw [sockRecv_cons, List.length_take]
      constructor
      · intro hfull p hp hlt hcut
        have hle := ((cutAt_cons hp).mp hcut).1
        omega
      · intro hwhole
        by_contra hshort
        have hlt : (byte :: seg).length < n := by omega
        apply hwhole (byte :: seg).length (by simp) hlt
        exact (cutAt_cons (by simp)).mpr ⟨le_rfl, 0, by simp⟩

end Reads

section Frames

variable {F : Type} {floatRepr : F → String} {parseFloat : List Char → F} {msg : Json F}
  {frame after : List UInt8} {stream : List (List UInt8)}

theorem sendFrame_ok (h : sendFrame floatRepr msg = .ok frame) :
    (asBytes (jsonDumps floatRepr msg)).length < 2 ^ 32 ∧
      frame = bigEndian 4 (asBytes (jsonDumps floatRepr msg)).length ++ asBytes (jsonDumps floatRepr msg) := by
  obtain ⟨lengthBytes, hpack, h⟩ := except_bind_ok_iff.mp h
  cases h
  unfold structPackU32 at hpack
  split at hpack
  next hfit =>
    cases hpack
    exact ⟨hfit, rfl⟩
  next => cases hpack

/-- A frame whose length prefix arrives in one read is received as what was sent, and nothing behind it is
taken. -/
theorem recvFrame_of_whole (hmsg : Printable floatRepr parseFloat msg) (hsend : sendFrame floatRepr msg = .ok frame)
    (hs : stream.flatten = frame ++ after) (hwhole : ∀ p, 0 < p → p < 4 → ¬CutAt stream p) :
    ∃ rest, recvFrame parseFloat stream = .ok (msg, rest) ∧ rest.flatten = after ∧
      ∀ p, 0 < p → (CutAt rest p ↔ CutAt stream (frame.length + p)) := by
  obtain ⟨hfit, rfl⟩ := sendFrame_ok hsend
  have hfour : (sockRecv 4 stream).1.length = 4 := by
    refine (sockRecv_full_iff ?_).mpr hwhole
    rw [hs, List.length_append, List.length_append, bigEndian_length]
    omega
  have hflat := sockRecv_flatten 4 stream
  rw [hs, List.append_assoc] at hflat
  obtain ⟨hhead, hbody⟩ := List.append_inj hflat (by rw [hfour, bigEndian_length])
  obtain ⟨rest, hread, hrest⟩ := readExact_append hbody
  refine ⟨rest, ?_, hrest, ?_⟩
  · rw [recvFrame]
    dsimp only
    rw [if_neg (by omega), hhead, ofBigEndian_bigEndian (by simpa using hfit), hread]
    dsimp only
    rw [fromUtf8_asBytes]
    dsimp only
    rw [jsonLoads_jsonDumps hmsg]
    rfl
  · intro p hp
    rw [cutAt_readExact hread hp, cutAt_sockRecv 4 (by omega), hfour, List.length_append, bigEndian_length,
      Nat.add_assoc]

/-- A frame whose length prefix arrives in several reads is taken for a closed socket. -/
theorem recvFrame_of_split {p : Nat} (hlength : 4 ≤ stream.flatten.length) (hp : 0 < p) (hlt : p < 4)
    (hcut : CutAt stream p) : recvFrame parseFloat stream =
      .error (.connectionError "Socket closed while reading length prefix") := by
  have hle := sockRecv_length 4 stream
  have hshort : (sockRecv 4 stream).1.length < 4 := by
    by_contra hlong
    exact (sockRecv_full_iff hlength).mp (by omega) p hp hlt hcut
  rw [recvFrame]
  dsimp only
  rw [if_pos hshort]

/-- `count` calls of `recv_frame`, with the stream they leave. -/
def recvFrames (parseFloat : List Char → F) :
    Nat → List (List UInt8) → Except PyException (List (Json F) × List (List UInt8))
  | 0, stream => .ok ([], stream)
  | count + 1, stream => do
    let (msg, stream) ← recvFrame parseFloat stream
    let (msgs, stream) ← recvFrames parseFloat count stream
    pure (msg :: msgs, stream)

/-- No two segments meet inside the length prefix of a frame. -/
def PrefixesWhole (frames stream : List (List UInt8)) : Prop :=
  ∀ k < frames.length, ∀ p, 0 < p → p < 4 → ¬CutAt stream ((frames.take k).flatten.length + p)

theorem prefixesWhole_cons_iff {frames rest : List (List UInt8)}
    (hrest : ∀ p, 0 < p → (CutAt rest p ↔ CutAt stream (frame.length + p)))
    (hwhole : ∀ p, 0 < p → p < 4 → ¬CutAt stream p) :
    PrefixesWhole (frame :: frames) stream ↔ PrefixesWhole frames rest := by
  have hshift (k p : Nat) (hp : 0 < p) : CutAt rest ((frames.take k).flatten.length + p) ↔
      CutAt stream (((frame :: frames).take (k + 1)).flatten.length + p) := by
    rw [hrest _ (by omega), List.take_succ_cons, List.flatten_cons, List.length_append, Nat.add_assoc]
  constructor
  · intro h k hk p hp hlt
    rw [hshift k p hp]
    exact h (k + 1) (by simpa using hk) p hp hlt
  · intro h k hk p hp hlt
    cases k with
    | zero => simpa using hwhole p hp hlt
    | succ k =>
      rw [← hshift k p hp]
      exact h k (by simpa using hk) p hp hlt

/-- Frames are received in order, whatever the segments, exactly where no length prefix is split. -/
theorem recvFrames_sent_iff {msgs : List (Json F)} {frames : List (List UInt8)}
    (hmsgs : ∀ msg ∈ msgs, Printable floatRepr parseFloat msg)
    (hsend : List.Forall₂ (fun msg frame => sendFrame floatRepr msg = .ok frame) msgs frames)
    (hs : stream.flatten = frames.flatten ++ after) :
    (∃ rest, recvFrames parseFloat msgs.length stream = .ok (msgs, rest) ∧ rest.flatten = after) ↔
      PrefixesWhole frames stream := by
  induction hsend generalizing stream with
  | nil =>
    constructor
    · intro _ k hk
      cases hk
    · intro _
      exact ⟨stream, rfl, hs⟩
  | @cons msg frame msgs frames hfirst _ ih =>
    obtain ⟨hmsg, hmore⟩ := List.forall_mem_cons.mp hmsgs
    rw [List.flatten_cons, List.append_assoc] at hs
    by_cases hwhole : ∀ p, 0 < p → p < 4 → ¬CutAt stream p
    · obtain ⟨rest, hrecv, hflat, hcuts⟩ := recvFrame_of_whole hmsg hfirst hs hwhole
      rw [prefixesWhole_cons_iff hcuts hwhole, ← ih hmore hflat, List.length_cons, recvFrames,
        except_bind_of_ok hrecv]
      dsimp only
      constructor
      · rintro ⟨left, hleft, hafter⟩
        obtain ⟨⟨found, left'⟩, hfound, heq⟩ := except_bind_ok_iff.mp hleft
        cases heq
        exact ⟨_, hfound, hafter⟩
      · rintro ⟨left, hleft, hafter⟩
        rw [except_bind_of_ok hleft]
        exact ⟨left, rfl, hafter⟩
    · obtain ⟨hfit, hframe⟩ := sendFrame_ok hfirst
      have hlength : 4 ≤ stream.flatten.length := by
        rw [hs, hframe, List.length_append, List.length_append, bigEndian_length]
        omega
      constructor
      · rintro ⟨rest, hrecv, _⟩
        simp only [not_forall, not_not] at hwhole
        obtain ⟨p, hp, hlt, hcut⟩ := hwhole
        rw [List.length_cons, recvFrames, recvFrame_of_split hlength hp hlt hcut] at hrecv
        cases hrecv
      · intro h
        refine absurd (fun p hp hlt => ?_) hwhole
        simpa using h 0 (by simp) p hp hlt

/-- The frame of an empty dictionary, whose text takes two bytes. -/
def emptyFrame : List UInt8 := [0, 0, 0, 2, 0x7b, 0x7d]

theorem sendFrame_empty (floatRepr : F → String) : sendFrame floatRepr (.dict []) = .ok emptyFrame := by
  have htext : asBytes (jsonDumps floatRepr (.dict [])) = [0x7b, 0x7d] := by rfl
  rw [sendFrame, htext]
  rfl

theorem emptyFrames_whole :
    PrefixesWhole [emptyFrame, emptyFrame] [[0, 0, 0, 2], [0x7b], [0x7d, 0, 0, 0, 2, 0x7b, 0x7d]] := by
  intro k hk p hp hlt hcut
  have hstart : (([emptyFrame, emptyFrame].take k).flatten).length = 6 * k := by
    obtain rfl | rfl : k = 0 ∨ k = 1 := by
      simp only [List.length_cons, List.length_nil] at hk
      omega
    · rfl
    · rfl
  simp only [List.length_cons, List.length_nil] at hk
  rw [hstart, cutAt_cons (by omega)] at hcut
  obtain ⟨h4, hcut⟩ := hcut
  simp only [List.length_cons, List.length_nil] at h4 hcut
  rw [cutAt_cons (by omega), cutAt_cons (by simp; omega)] at hcut
  simp only [List.length_cons, List.length_nil] at hcut
  omega

theorem emptyFrames_received : ∃ rest, recvFrames (F := Unit) (fun _ => ()) 2
      [[0, 0, 0, 2], [0x7b], [0x7d, 0, 0, 0, 2, 0x7b, 0x7d]] = .ok ([.dict [], .dict []], rest) ∧
    rest.flatten = [] := by
  have hmsgs : ∀ msg ∈ [Json.dict [], .dict []], Printable (F := Unit) (fun _ => "") (fun _ => ()) msg := by
    intro msg hmsg
    obtain rfl : msg = .dict [] := by simpa using hmsg
    exact ⟨List.nodup_nil, trivial⟩
  have hsend : List.Forall₂ (fun msg frame => sendFrame (F := Unit) (fun _ => "") msg = .ok frame)
      [.dict [], .dict []] [emptyFrame, emptyFrame] :=
    .cons (sendFrame_empty _) (.cons (sendFrame_empty _) .nil)
  exact (recvFrames_sent_iff hmsgs hsend rfl).mpr emptyFrames_whole

/-- The first byte of the frame arrives alone. -/
theorem splitPrefix_raises : ([[0], [0, 0, 2, 0x7b, 0x7d]] : List (List UInt8)).flatten = emptyFrame ∧
    sendFrame (F := Unit) (fun _ => "") (.dict []) = .ok emptyFrame ∧
    recvFrame (F := Unit) (fun _ => ()) [[0], [0, 0, 2, 0x7b, 0x7d]] =
      .error (.connectionError "Socket closed while reading length prefix") :=
  ⟨rfl, sendFrame_empty _, rfl⟩

end Frames

end PermeantOS
