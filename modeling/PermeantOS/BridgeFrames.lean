import PermeantOS.ByteWords
import PermeantOS.PyJson

namespace PermeantOS

section Frames

variable {maxFrameBytes : Nat}

/-- A call of `read_exact` between two rounds of its loop. -/
structure ExactRead where
  size : Nat
  chunks : List UInt8
  remaining : Nat
  counted : chunks.length + remaining = size

def ExactRead.start (size : Nat) : ExactRead := ⟨size, [], size, Nat.zero_add size⟩

def ExactRead.took (read : ExactRead) (chunk : List UInt8) (h : chunk.length ≤ read.remaining) : ExactRead where
  size := read.size
  chunks := read.chunks ++ chunk
  remaining := read.remaining - chunk.length
  counted := by
    have := read.counted
    rw [List.length_append]
    omega

/-- A frame as `read_frame` returns it: four bytes that give the length of the rest. -/
def WholeFrame (maxFrameBytes : Nat) (frame : List UInt8) : Prop :=
  ∃ header payload, frame = header ++ payload ∧ header.length = 4 ∧
    ofBigEndian header = payload.length ∧ payload.length ≤ maxFrameBytes

/-- Where `read_frame` stands: in its call of `read_exact` for the header or in the one for the
payload, with bytes still to come. -/
inductive FrameRead (maxFrameBytes : Nat)
  | header (read : ExactRead) (hsize : read.size = 4) (hopen : 0 < read.remaining)
  | payload (header : List UInt8) (read : ExactRead) (hheader : header.length = 4)
      (hsize : read.size = ofBigEndian header) (hmax : read.size ≤ maxFrameBytes) (hopen : 0 < read.remaining)

def FrameRead.start : FrameRead maxFrameBytes := .header (.start 4) rfl (by decide)

/-- The argument of the next `stream.recv`. -/
def FrameRead.remaining : FrameRead maxFrameBytes → Nat
  | .header read _ _ => read.remaining
  | .payload _ read _ _ _ _ => read.remaining

/-- What the frame has so far. -/
def FrameRead.got : FrameRead maxFrameBytes → List UInt8
  | .header read _ _ => read.chunks
  | .payload head read _ _ _ _ => head ++ read.chunks

inductive FrameStatus (maxFrameBytes : Nat)
  | more (read : FrameRead maxFrameBytes)
  | frame (bytes : List UInt8)

/-- What `read_frame` does with a whole header. -/
def sizedFrame (maxFrameBytes : Nat) (header : List UInt8) (hheader : header.length = 4) :
    Except PyException (FrameStatus maxFrameBytes) :=
  if hmax : ofBigEndian header ≤ maxFrameBytes then
    if hopen : 0 < ofBigEndian header then
      .ok (.more (.payload header (.start (ofBigEndian header)) hheader rfl hmax hopen))
    else .ok (.frame header)
  else .error (.valueError s!"frame size too large: {ofBigEndian header}")

/-- One round with what `recv` returned, which is no more than was asked for. -/
def FrameRead.round (read : FrameRead maxFrameBytes) (chunk : List UInt8)
    (h : chunk.length ≤ read.remaining) : Except PyException (FrameStatus maxFrameBytes) :=
  if chunk = [] then .error (.eofError s!"expected {read.remaining} more bytes")
  else
    match read, h with
    | .header read hsize _, h =>
      if hopen : 0 < (read.took chunk h).remaining then .ok (.more (.header (read.took chunk h) hsize hopen))
      else sizedFrame maxFrameBytes (read.took chunk h).chunks (by
        have := (read.took chunk h).counted
        have hsize' : (read.took chunk h).size = 4 := hsize
        omega)
    | .payload head read hhead hsize hmax _, h =>
      if hopen : 0 < (read.took chunk h).remaining then
        .ok (.more (.payload head (read.took chunk h) hhead hsize hmax hopen))
      else .ok (.frame (head ++ (read.took chunk h).chunks))

theorem sizedFrame_more {head : List UInt8} {hhead : head.length = 4} {next : FrameRead maxFrameBytes}
    (h : sizedFrame maxFrameBytes head hhead = .ok (.more next)) : next.got = head := by
  unfold sizedFrame at h
  split at h
  next =>
    split at h
    next =>
      cases h
      exact List.append_nil head
    next => cases h
  next => cases h

theorem sizedFrame_frame {head frame : List UInt8} {hhead : head.length = 4}
    (h : sizedFrame maxFrameBytes head hhead = .ok (.frame frame)) :
    frame = head ∧ WholeFrame maxFrameBytes frame := by
  unfold sizedFrame at h
  split at h
  next hmax =>
    split at h
    next => cases h
    next hzero =>
      cases h
      refine ⟨rfl, head, [], (List.append_nil head).symm, hhead, ?_, Nat.zero_le _⟩
      rw [List.length_nil]
      omega
  next => cases h

theorem round_more {read next : FrameRead maxFrameBytes} {chunk : List UInt8} {hfit : chunk.length ≤ read.remaining}
    (h : read.round chunk hfit = .ok (.more next)) : next.got = read.got ++ chunk := by
  unfold FrameRead.round at h
  split at h
  next => cases h
  next =>
    cases read with
    | header read hsize =>
      dsimp only at h
      split at h
      next =>
        cases h
        rfl
      next => exact sizedFrame_more h
    | payload head read hhead hsize hmax =>
      dsimp only at h
      split at h
      next =>
        cases h
        exact (List.append_assoc head read.chunks chunk).symm
      next => cases h

/-- What `read_frame` returns is what it took off the stream, and is a whole frame. -/
theorem round_frame {read : FrameRead maxFrameBytes} {chunk frame : List UInt8}
    {hfit : chunk.length ≤ read.remaining} (h : read.round chunk hfit = .ok (.frame frame)) :
    frame = read.got ++ chunk ∧ WholeFrame maxFrameBytes frame := by
  unfold FrameRead.round at h
  split at h
  next => cases h
  next =>
    cases read with
    | header read hsize =>
      dsimp only at h
      split at h
      next => cases h
      next => exact sizedFrame_frame h
    | payload head read hhead hsize hmax =>
      dsimp only at h
      split at h
      next => cases h
      next hdone =>
        cases h
        have hcounted := (read.took chunk hfit).counted
        have hlength : (read.took chunk hfit).chunks.length = read.size := by
          have hsize' : (read.took chunk hfit).size = read.size := rfl
          omega
        refine ⟨(List.append_assoc head read.chunks chunk).symm, head, _, rfl, hhead, ?_, ?_⟩
        · rw [hlength, hsize]
        · rw [hlength]
          exact hmax

theorem round_eof {read : FrameRead maxFrameBytes} {chunk : List UInt8} {hfit : chunk.length ≤ read.remaining}
    {message : String} (h : read.round chunk hfit = .error (.eofError message)) : chunk = [] := by
  unfold FrameRead.round at h
  split at h
  next hnil => exact hnil
  next =>
    cases read with
    | header read hsize =>
      dsimp only at h
      split at h
      next => cases h
      next =>
        unfold sizedFrame at h
        split at h
        next => split at h <;> cases h
        next => cases h
    | payload head read hhead hsize hmax =>
      dsimp only at h
      split at h <;> cases h

/-- A frame in progress does not begin with a whole one. -/
theorem FrameRead.not_whole_prefix (read : FrameRead maxFrameBytes) {limit : Nat} {frame : List UInt8}
    (hwhole : WholeFrame limit frame) : ¬frame <+: read.got := by
  intro hprefix
  obtain ⟨head, payload, rfl, hhead, hlength, _⟩ := hwhole
  have hle := hprefix.length_le
  rw [List.length_append] at hle
  cases read with
  | header read hsize hopen =>
    have hcounted := read.counted
    have hgot : (@FrameRead.header maxFrameBytes read hsize hopen).got = read.chunks := rfl
    rw [hgot] at hle
    omega
  | payload first read hfirst hsize hmax hopen =>
    have hcounted := read.counted
    have hgot : (@FrameRead.payload maxFrameBytes first read hfirst hsize hmax hopen).got =
      first ++ read.chunks := rfl
    rw [hgot] at hle hprefix
    obtain rfl : head = first := by
      have hhead' := (List.prefix_append head payload).trans hprefix
      exact List.IsPrefix.eq_of_length
        (List.prefix_of_prefix_length_le hhead' (List.prefix_append first read.chunks) (by omega)) (by omega)
    rw [List.length_append] at hle
    omega

end Frames

end PermeantOS
