import PermeantOS.ByteStream
import PermeantOS.ByteWords
import PermeantOS.PyJson

namespace PermeantOS

/-- What a socket still has to deliver, in the segments it will be read in. -/
abbrev Segments := List (List UInt8)

def bufferSize : Nat := 64 * 1024

/-- `os.urandom(4)` -/
structure MaskingKey where
  bytes : List UInt8
  length_eq : bytes.length = 4

section Frames

def recvExact (size : Nat) (sock : Segments) : Except PyException (List UInt8 × Segments) :=
  match readExact size sock with
  | some read => .ok read
  | none => .error (.eofError "socket closed while reading")

/-- `bytes(byte ^ masking_key[index % 4] for index, byte in enumerate(payload))` -/
def applyMask (key payload : List UInt8) : List UInt8 :=
  payload.zipIdx.map fun entry => entry.1 ^^^ key.getD (entry.2 % 4) 0

/-- `struct.pack` of a length that fits. -/
def structPackLength (width length : Nat) : Except PyException (List UInt8) :=
  if length < 256 ^ width then .ok (bigEndian width length)
  else .error (.structError "int too large to convert")

def maskBit (mask : Bool) : UInt8 := if mask then 0x80 else 0

/-- The header up to the masking key. -/
def wsHeader (mask : Bool) (length : Nat) : Except PyException (List UInt8) :=
  if length < 126 then .ok [0x82, maskBit mask ||| UInt8.ofNat length]
  else if length ≤ 0xffff then do
    let packed ← structPackLength 2 length
    pure ([0x82, maskBit mask ||| 126] ++ packed)
  else do
    let packed ← structPackLength 8 length
    pure ([0x82, maskBit mask ||| 127] ++ packed)

/-- The bytes of one `_send_ws_frame`. The key is drawn for a masked frame only. -/
def sendWsFrame (mask : Bool) (key : MaskingKey) (payload : List UInt8) : Except PyException (List UInt8) := do
  let header ← wsHeader mask payload.length
  if mask then pure (header ++ (key.bytes ++ applyMask key.bytes payload))
  else pure (header ++ payload)

/-- The length after the second byte of a frame. -/
def recvLength (second : UInt8) (sock : Segments) : Except PyException (Nat × Segments) := do
  let length := (second &&& 0x7f).toNat
  if length = 126 then do
    let (packed, sock) ← recvExact 2 sock
    pure (ofBigEndian packed, sock)
  else if length = 127 then do
    let (packed, sock) ← recvExact 8 sock
    pure (ofBigEndian packed, sock)
  else pure (length, sock)

/-- One `_recv_ws_frame`, with what the socket has left. -/
def recvWsFrame (expectMasked : Bool) (sock : Segments) : Except PyException (List UInt8 × Segments) := do
  let (start, sock) ← recvExact 2 sock
  let first := start.getD 0 0
  let second := start.getD 1 0
  let opcode := first &&& 0x0f
  if opcode = 0x8 then .error (.eofError "WebSocket close frame received")
  else if opcode ≠ 0x2 then .error (.valueError s!"unsupported WebSocket opcode: {opcode}")
  else do
    let masked := decide (second &&& 0x80 ≠ 0)
    if masked ≠ expectMasked then .error (.valueError "unexpected WebSocket mask state")
    else do
      let (length, sock) ← recvLength second sock
      let (key, sock) ← if masked then recvExact 4 sock else pure ([], sock)
      let (payload, sock) ← recvExact length sock
      pure (if masked then applyMask key payload else payload, sock)

end Frames

section Pipes

/-- `_pipe_tcp_to_ws`: the bytes sent for what the successive `recv` calls return, until one returns
nothing. The frame with number `i` is masked with the key `keys i`. -/
def pipeTcpToWs (mask : Bool) (keys : Nat → MaskingKey) : Nat → List (List UInt8) → Except PyException (List UInt8)
  | _, [] => .ok []
  | i, chunk :: chunks =>
    if chunk = [] then .ok []
    else do
      let frame ← sendWsFrame mask (keys i) chunk
      let frames ← pipeTcpToWs mask keys (i + 1) chunks
      pure (frame ++ frames)

/-- `_pipe_ws_to_tcp`: what is sent on, frame by frame, and the exception that ends the loop; `none` is an
exhausted budget. -/
def pipeWsToTcp (expectMasked : Bool) : Nat → Segments → List (List UInt8) × Option PyException
  | 0, _ => ([], none)
  | fuel + 1, sock =>
    match recvWsFrame expectMasked sock with
    | .error e => ([], some e)
    | .ok (payload, sock) =>
      let (payloads, ending) := pipeWsToTcp expectMasked fuel sock
      (payload :: payloads, ending)

end Pipes

section RoundTrip

variable {sock : Segments} {front after : List UInt8}

/-- Segmentation is invisible to an exact read. -/
theorem recvExact_append (h : sock.flatten = front ++ after) :
    ∃ rest, recvExact front.length sock = .ok (front, rest) ∧ rest.flatten = after := by
  obtain ⟨rest, hread, hrest⟩ := readExact_append h
  refine ⟨rest, ?_, hrest⟩
  rw [recvExact, hread]

theorem recvExact_of_length {size : Nat} (hsize : front.length = size) (h : sock.flatten = front ++ after) :
    ∃ rest, recvExact size sock = .ok (front, rest) ∧ rest.flatten = after := by
  subst hsize
  exact recvExact_append h

theorem applyMask_applyMask (key payload : List UInt8) : applyMask key (applyMask key payload) = payload := by
  apply List.ext_getElem?
  intro i
  simp only [applyMask, List.getElem?_map, List.getElem?_zipIdx]
  cases payload[i]? with
  | none => rfl
  | some byte => simp only [Option.map_some, UInt8.xor_assoc, UInt8.xor_self, UInt8.xor_zero]

theorem length_applyMask (key payload : List UInt8) : (applyMask key payload).length = payload.length := by
  simp [applyMask]

/-- The second byte of a frame: the mask bit and seven bits of the length. -/
theorem second_byte : ∀ (mask : Bool) (n : Fin 128),
    decide ((maskBit mask ||| UInt8.ofNat n) &&& 0x80 ≠ 0) = mask ∧
      ((maskBit mask ||| UInt8.ofNat n) &&& 0x7f).toNat = n := by
  decide +kernel

/-- The three encodings of a length, and how each is read back. -/
theorem exists_wsHeader (mask : Bool) {length : Nat} (hlength : length < 2 ^ 64) :
    ∃ (code : Fin 128) (packed : List UInt8),
      wsHeader mask length = .ok ([0x82, maskBit mask ||| UInt8.ofNat code] ++ packed) ∧
      ∀ (sock : Segments) (after : List UInt8), sock.flatten = packed ++ after → ∃ rest,
        recvLength (maskBit mask ||| UInt8.ofNat code) sock = .ok (length, rest) ∧ rest.flatten = after := by
  unfold wsHeader
  by_cases hsmall : length < 126
  · refine ⟨⟨length, by omega⟩, [], by rw [if_pos hsmall]; rfl, ?_⟩
    intro sock after hflat
    refine ⟨sock, ?_, by simpa using hflat⟩
    rw [recvLength, (second_byte mask ⟨length, by omega⟩).2]
    dsimp only
    rw [if_neg (by omega), if_neg (by omega)]
    rfl
  rw [if_neg hsmall]
  by_cases hmedium : length ≤ 0xffff
  · have hfits : length < 256 ^ 2 := by omega
    refine ⟨126, bigEndian 2 length, ?_, ?_⟩
    · rw [if_pos hmedium, structPackLength, if_pos hfits]
      rfl
    · intro sock after hflat
      obtain ⟨rest, hread, hrest⟩ := recvExact_of_length (bigEndian_length 2 length) hflat
      refine ⟨rest, ?_, hrest⟩
      rw [recvLength, (second_byte mask 126).2]
      dsimp only
      rw [if_pos (by decide), except_bind_of_ok hread, ofBigEndian_bigEndian hfits]
      rfl
  · have hfits : length < 256 ^ 8 := by omega
    refine ⟨127, bigEndian 8 length, ?_, ?_⟩
    · rw [if_neg hmedium, structPackLength, if_pos hfits]
      rfl
    · intro sock after hflat
      obtain ⟨rest, hread, hrest⟩ := recvExact_of_length (bigEndian_length 8 length) hflat
      refine ⟨rest, ?_, hrest⟩
      rw [recvLength, (second_byte mask 127).2]
      dsimp only
      rw [if_neg (by decide), if_pos (by decide), except_bind_of_ok hread, ofBigEndian_bigEndian hfits]
      rfl

/-- One frame: what was sent is received, and the socket is left behind it. -/
theorem recvWsFrame_of_sent (mask : Bool) (key : MaskingKey) {payload : List UInt8}
    (hlength : payload.length < 2 ^ 64) : ∃ frame, sendWsFrame mask key payload = .ok frame ∧
      ∀ (sock : Segments) (after : List UInt8), sock.flatten = frame ++ after → ∃ rest,
        recvWsFrame mask sock = .ok (payload, rest) ∧ rest.flatten = after := by
  obtain ⟨code, packed, hheader, hrecv⟩ := exists_wsHeader mask hlength
  obtain ⟨hmask, _⟩ := second_byte mask code
  have hopcode : (0x82 : UInt8) &&& 0x0f = 0x2 := by decide
  -- up to the length a frame is read the same way with and without a mask
  have hstart : ∀ (sock : Segments) (body after : List UInt8),
      sock.flatten = [0x82, maskBit mask ||| UInt8.ofNat code] ++ packed ++ body ++ after → ∃ middle,
        middle.flatten = body ++ after ∧ recvWsFrame mask sock = (do
          let (key, sock) ← if mask then recvExact 4 middle else pure ([], middle)
          let (payload, sock) ← recvExact payload.length sock
          pure (if mask then applyMask key payload else payload, sock)) := by
    intro sock body after hflat
    rw [List.append_assoc, List.append_assoc] at hflat
    obtain ⟨second, hfirst, hsecond⟩ := recvExact_append hflat
    obtain ⟨middle, hmiddle, hrest⟩ := hrecv second (body ++ after) hsecond
    have htwo : recvExact 2 sock = .ok ([0x82, maskBit mask ||| UInt8.ofNat code], second) := hfirst
    have hzeroth : [0x82, maskBit mask ||| UInt8.ofNat code].getD 0 0 = 0x82 := rfl
    have hnext : [0x82, maskBit mask ||| UInt8.ofNat code].getD 1 0 = maskBit mask ||| UInt8.ofNat code := rfl
    refine ⟨middle, hrest, ?_⟩
    rw [recvWsFrame, except_bind_of_ok htwo]
    dsimp only
    rw [hzeroth, hnext, hopcode, if_neg (by decide), if_neg (by decide), hmask, if_neg (by simp),
      except_bind_of_ok hmiddle]
  cases mask with
  | true =>
    have hsent : sendWsFrame true key payload = .ok ([0x82, maskBit true ||| UInt8.ofNat code] ++ packed ++
        (key.bytes ++ applyMask key.bytes payload)) := by
      rw [sendWsFrame, except_bind_of_ok hheader]
      rfl
    refine ⟨_, hsent, ?_⟩
    intro sock after hflat
    obtain ⟨middle, hmiddle, hrun⟩ := hstart sock (key.bytes ++ applyMask key.bytes payload) after hflat
    rw [List.append_assoc] at hmiddle
    obtain ⟨third, hkey, hthird⟩ := recvExact_of_length key.length_eq hmiddle
    obtain ⟨rest, hread, hrest⟩ := recvExact_of_length (length_applyMask key.bytes payload) hthird
    refine ⟨rest, ?_, hrest⟩
    rw [hrun, if_pos rfl, except_bind_of_ok hkey]
    dsimp only
    rw [except_bind_of_ok hread]
    dsimp only
    rw [if_pos rfl, applyMask_applyMask]
    rfl
  | false =>
    have hsent : sendWsFrame false key payload =
        .ok ([0x82, maskBit false ||| UInt8.ofNat code] ++ packed ++ payload) := by
      rw [sendWsFrame, except_bind_of_ok hheader]
      rfl
    refine ⟨_, hsent, ?_⟩
    intro sock after hflat
    obtain ⟨middle, hmiddle, hrun⟩ := hstart sock payload after hflat
    obtain ⟨rest, hread, hrest⟩ := recvExact_append hmiddle
    refine ⟨rest, ?_, hrest⟩
    rw [hrun, if_neg (by decide), pure_bind]
    dsimp only
    rw [except_bind_of_ok hread]
    rfl

theorem recvWsFrame_of_empty (expectMasked : Bool) (h : sock.flatten = []) :
    recvWsFrame expectMasked sock = .error (.eofError "socket closed while reading") := by
  have hnone : readExact 2 sock = none := readExact_none (by simp [h])
  rw [recvWsFrame, recvExact, hnone]
  rfl

/-- What one side reads from its peer is sent on by the other side, chunk by chunk, however the frames
arrive; the loop there ends when the socket does. -/
theorem pipeWsToTcp_of_piped (mask : Bool) (keys : Nat → MaskingKey) (chunks : List (List UInt8))
    (hchunks : ∀ chunk ∈ chunks, chunk ≠ [] ∧ chunk.length ≤ bufferSize) (i : Nat) :
    ∃ bytes, pipeTcpToWs mask keys i chunks = .ok bytes ∧
      ∀ (sock : Segments), sock.flatten = bytes → ∀ fuel, chunks.length < fuel →
        pipeWsToTcp mask fuel sock = (chunks, some (.eofError "socket closed while reading")) := by
  induction chunks generalizing i with
  | nil =>
    refine ⟨[], rfl, ?_⟩
    intro sock hflat fuel hfuel
    obtain ⟨fuel, rfl⟩ := Nat.exists_eq_succ_of_ne_zero (by omega : fuel ≠ 0)
    rw [pipeWsToTcp, recvWsFrame_of_empty mask hflat]
  | cons chunk chunks ih =>
    obtain ⟨⟨hne, hsize⟩, hrest⟩ := List.forall_mem_cons.mp hchunks
    have hlength : chunk.length < 2 ^ 64 := lt_of_le_of_lt hsize (by decide)
    obtain ⟨frame, hframe, hrecv⟩ := recvWsFrame_of_sent mask (keys i) hlength
    obtain ⟨bytes, hbytes, hpipe⟩ := ih hrest (i + 1)
    refine ⟨frame ++ bytes, ?_, ?_⟩
    · rw [pipeTcpToWs, if_neg hne, except_bind_of_ok hframe, except_bind_of_ok hbytes]
      rfl
    · intro sock hflat fuel hfuel
      rw [List.length_cons] at hfuel
      obtain ⟨fuel, rfl⟩ := Nat.exists_eq_succ_of_ne_zero (by omega : fuel ≠ 0)
      obtain ⟨rest, hread, hafter⟩ := hrecv sock bytes hflat
      rw [pipeWsToTcp, hread]
      dsimp only
      rw [hpipe rest hafter fuel (by omega)]

/-- The proxy carries every stream unchanged, in both directions, however the stream is read, masked and
segmented. -/
theorem proxy_transparent (mask : Bool) (keys : Nat → MaskingKey) (stream : List UInt8)
    (chunks : List (List UInt8)) (hsplit : chunks.flatten = stream)
    (hchunks : ∀ chunk ∈ chunks, chunk ≠ [] ∧ chunk.length ≤ bufferSize) :
    ∃ bytes, pipeTcpToWs mask keys 0 chunks = .ok bytes ∧
      ∀ (sock : Segments), sock.flatten = bytes → ∀ fuel, chunks.length < fuel →
        (pipeWsToTcp mask fuel sock).1.flatten = stream ∧
          (pipeWsToTcp mask fuel sock).2 = some (.eofError "socket closed while reading") := by
  obtain ⟨bytes, hbytes, hpipe⟩ := pipeWsToTcp_of_piped mask keys chunks hchunks 0
  refine ⟨bytes, hbytes, ?_⟩
  intro sock hflat fuel hfuel
  rw [hpipe sock hflat fuel hfuel]
  exact ⟨hsplit, rfl⟩

def zeroKey : MaskingKey := ⟨[0, 0, 0, 0], rfl⟩

theorem proxy_transparent_two : ∃ bytes, pipeTcpToWs true (fun _ => zeroKey) 0 [[1, 2], [3]] = .ok bytes ∧
    (pipeWsToTcp true 3 [bytes]).1.flatten = [1, 2, 3] := by
  obtain ⟨bytes, hbytes, hpipe⟩ := proxy_transparent true (fun _ => zeroKey) [1, 2, 3] [[1, 2], [3]] rfl (by decide)
  exact ⟨bytes, hbytes, (hpipe [bytes] (by simp) 3 (by decide)).1⟩

end RoundTrip

end PermeantOS
