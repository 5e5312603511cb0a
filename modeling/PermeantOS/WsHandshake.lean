import Mathlib.Data.List.Infix
import PermeantOS.AgentGraph
import PermeantOS.SdkClient
import PermeantOS.WebSocket

namespace PermeantOS

section Headers

/-- `b"\r\n\r\n"` -/
def headersEnd : List UInt8 := [0x0d, 0x0a, 0x0d, 0x0a]

def headersLimit : Nat := 64 * 1024

/-- The loop of `_read_http_headers`: the bytes read, and what the socket has left. Each read adds a byte, so
it ends before the fuel of `readHttpHeaders` is spent. -/
def readHeadersLoop : Nat → List UInt8 → Segments → Except PyException (List UInt8 × Segments)
  | 0, _, _ => .error (.valueError "WebSocket handshake headers too large")
  | fuel + 1, data, sock =>
    if headersEnd <:+: data then .ok (data, sock)
    else
      let (chunk, sock) := sockRecv 4096 sock
      if chunk = [] then .error (.eofError "socket closed before HTTP headers completed")
      else if headersLimit < (data ++ chunk).length then
        .error (.valueError "WebSocket handshake headers too large")
      else readHeadersLoop fuel (data ++ chunk) sock

/-- The text is everything that was read, also what came behind the headers. -/
def readHttpHeaders (decodeReplace : List UInt8 → String) (sock : Segments) :
    Except PyException (String × Segments) := do
  let (data, sock) ← readHeadersLoop (headersLimit + 2) [] sock
  pure (decodeReplace data, sock)

/-- `headers.split("\r\n")` -/
def splitCrlf : List Char → List (List Char)
  | [] => [[]]
  | '\r' :: '\n' :: rest => [] :: splitCrlf rest
  | c :: rest => (splitCrlf rest).modifyHead (c :: ·)

/-- `c.isspace()`, of which `int` does not take the last four. -/
def pyIsSpace (c : Char) : Bool := isWhitespace c || (0x1c ≤ c.toNat && c.toNat ≤ 0x1f)

/-- `text.strip()` -/
def pyStrip (text : List Char) : List Char := ((text.dropWhile pyIsSpace).reverse.dropWhile pyIsSpace).reverse

def parseHeaderValue (headers name : String) : Option String :=
  let start := name.toList.map lowerChar ++ [':']
  ((splitCrlf headers.toList).find? fun line => start.isPrefixOf (line.map lowerChar)).map fun line =>
    String.ofList (pyStrip ((line.dropWhile (· ≠ ':')).drop 1))

def isAscii (text : String) : Bool := text.toList.all fun c => decide (c.toNat < 128)

/-- `text.encode("ascii")` -/
def encodeAscii (text : String) : Except PyException (List UInt8) :=
  if isAscii text = true then .ok (text.toList.map fun c => UInt8.ofNat c.toNat)
  else .error (.valueError "ordinal not in range(128)")

end Headers

section Handshakes

/-- Libraries of the handshake. -/
structure HandshakeHost where
  /-- `data.decode("utf-8", errors="replace")` -/
  decodeReplace : List UInt8 → String
  /-- `base64.b64encode(hashlib.sha1(data).digest()).decode("ascii")` -/
  sha1Base64 : List UInt8 → String

variable (host : HandshakeHost)

def websocketGuid : String := "258EAFA5-E914-47DA-95CA-C5AB0DC85B11"

def responseText (accept : String) : String :=
  "HTTP/1.1 101 Switching Protocols\r\n" ++ "Upgrade: websocket\r\n" ++ "Connection: Upgrade\r\n" ++
    ("Sec-WebSocket-Accept: " ++ accept ++ "\r\n") ++ "\r\n"

/-- `_server_handshake`: the response that is sent, and what the socket has left. -/
def serverHandshake (sock : Segments) : Except PyException (List UInt8 × Segments) := do
  let (headers, sock) ← readHttpHeaders host.decodeReplace sock
  let key := (parseHeaderValue headers "Sec-WebSocket-Key").getD ""
  if key = "" then .error (.valueError "missing Sec-WebSocket-Key")
  else do
    let digested ← encodeAscii (key ++ websocketGuid)
    let response ← encodeAscii (responseText (host.sha1Base64 digested))
    pure (response, sock)

theorem isAscii_append (front back : String) : isAscii (front ++ back) = (isAscii front && isAscii back) := by
  rw [isAscii, String.toList_append, List.all_append]
  rfl

theorem responseText_isAscii {accept : String} (h : isAscii accept = true) :
    isAscii (responseText accept) = true := by
  have hfirst : isAscii "HTTP/1.1 101 Switching Protocols\r\n" = true := by decide +kernel
  have hupgrade : isAscii "Upgrade: websocket\r\n" = true := by decide +kernel
  have hconnection : isAscii "Connection: Upgrade\r\n" = true := by decide +kernel
  have hname : isAscii "Sec-WebSocket-Accept: " = true := by decide +kernel
  have hline : isAscii "\r\n" = true := by decide +kernel
  unfold responseText
  rw [isAscii_append, isAscii_append, isAscii_append, isAscii_append, isAscii_append, isAscii_append, hfirst, hupgrade,
    hconnection, hname, h, hline]
  rfl

theorem encodeAscii_of_isAscii {text : String} (h : isAscii text = true) : ∃ bytes, encodeAscii text = .ok bytes := by
  rw [encodeAscii, if_pos h]
  exact ⟨_, rfl⟩

/-- The handshake succeeds where the headers have a key of ASCII characters. -/
theorem serverHandshake_of_key {sock rest : Segments} {headers key : String}
    (hread : readHttpHeaders host.decodeReplace sock = .ok (headers, rest))
    (hkey : parseHeaderValue headers "Sec-WebSocket-Key" = some key) (hne : key ≠ "")
    (hascii : isAscii key = true) (haccept : ∀ data, isAscii (host.sha1Base64 data) = true) :
    ∃ response, serverHandshake host sock = .ok (response, rest) := by
  have hguid : isAscii websocketGuid = true := by decide +kernel
  have hboth : isAscii (key ++ websocketGuid) = true := by
    rw [isAscii_append, hascii, hguid]
    rfl
  obtain ⟨digested, hdigested⟩ := encodeAscii_of_isAscii hboth
  obtain ⟨response, hresponse⟩ := encodeAscii_of_isAscii (responseText_isAscii (haccept digested))
  refine ⟨response, ?_⟩
  rw [serverHandshake, except_bind_of_ok hread]
  dsimp only
  rw [hkey, Option.getD_some, if_neg hne, except_bind_of_ok hdigested]
  exact except_bind_of_ok hresponse

/-- `text.splitlines()[0]`, of a text that is not empty. -/
def firstLine (text : List Char) : String :=
  String.ofList (text.takeWhile fun c => c ∉ ['\n', '\r', '\x0b', '\x0c', '\x1c', '\x1d', '\x1e', '\u0085',
    '\u2028', '\u2029'])

/-- `_client_handshake`: the request that is sent, with `key` for the encoded random bytes, and what the
socket has left. -/
def clientHandshake (key hostName : String) (sock : Segments) :
    Except PyException (List UInt8 × Segments) := do
  let request ← encodeAscii ("GET /permeant-transport HTTP/1.1\r\n" ++ s!"Host: {hostName}\r\n" ++
    "Upgrade: websocket\r\n" ++ "Connection: Upgrade\r\n" ++ s!"Sec-WebSocket-Key: {key}\r\n" ++
    "Sec-WebSocket-Version: 13\r\n" ++ "\r\n")
  let (response, sock) ← readHttpHeaders host.decodeReplace sock
  if " 101 ".toList <:+: (splitCrlf response.toList).headD [] then pure (request, sock)
  else .error (.valueError ("WebSocket upgrade failed: " ++
    (if response = "" then "empty response" else firstLine response.toList)))

end Handshakes

section Reads

/-- What `count` successive `recv(size)` return, and what the socket has left. -/
def recvs (size : Nat) : Nat → Segments → List (List UInt8) × Segments
  | 0, sock => ([], sock)
  | count + 1, sock =>
    let (chunk, sock) := sockRecv size sock
    let (chunks, sock) := recvs size count sock
    (chunk :: chunks, sock)

variable {sock : Segments} {size : Nat}

theorem recvs_succ (count : Nat) : recvs size (count + 1) sock =
    ((sockRecv size sock).1 :: (recvs size count (sockRecv size sock).2).1,
      (recvs size count (sockRecv size sock).2).2) := rfl

theorem recvs_flatten (count : Nat) :
    (recvs size count sock).1.flatten ++ (recvs size count sock).2.flatten = sock.flatten := by
  induction count generalizing sock with
  | zero => rfl
  | succ count ih =>
    rw [recvs_succ, List.flatten_cons, List.append_assoc, ih, sockRecv_flatten]

theorem recvs_mono {less count : Nat} (h : less ≤ count) :
    (recvs size less sock).1.flatten <+: (recvs size count sock).1.flatten := by
  induction less generalizing sock count with
  | zero => exact List.nil_prefix
  | succ less ih =>
    obtain ⟨count, rfl⟩ := Nat.exists_eq_succ_of_ne_zero (by omega : count ≠ 0)
    rw [recvs_succ, recvs_succ, List.flatten_cons, List.flatten_cons]
    exact (List.prefix_append_right_inj _).mpr (ih (by omega))

/-- The headers are complete after the first reads that hold their end. -/
theorem readHeadersLoop_ok {fuel : Nat} {data found : List UInt8} {rest : Segments}
    (h : readHeadersLoop fuel data sock = .ok (found, rest)) :
    ∃ count, found = data ++ (recvs 4096 count sock).1.flatten ∧ rest = (recvs 4096 count sock).2 ∧
      headersEnd <:+: found ∧ ∀ less < count, ¬headersEnd <:+: data ++ (recvs 4096 less sock).1.flatten := by
  induction fuel generalizing data sock with
  | zero => cases h
  | succ fuel ih =>
    rw [readHeadersLoop] at h
    split at h
    next hends =>
      cases h
      exact ⟨0, (List.append_nil _).symm, rfl, hends, fun less hless => by omega⟩
    next hopen =>
      dsimp only at h
      split at h
      next => cases h
      split at h
      next => cases h
      obtain ⟨count, hfound, hrest, hends, hbefore⟩ := ih h
      refine ⟨count + 1, ?_, hrest, hends, ?_⟩
      · rw [hfound, recvs_succ, List.flatten_cons, List.append_assoc]
      · intro less hless
        cases less with
        | zero => simpa [recvs] using hopen
        | succ less =>
          rw [recvs_succ, List.flatten_cons, ← List.append_assoc]
          exact hbefore less (by omega)

end Reads

section Upgrade

variable {sock : Segments} {text after : List UInt8}

/-- A handshake text: it ends with the first empty line. -/
structure EndsHeaders (text : List UInt8) : Prop where
  ends : headersEnd <:+ text
  first : ¬headersEnd <:+: text.dropLast

theorem EndsHeaders.infix_iff (htext : EndsHeaders text) {data : List UInt8} (h : data <+: text ++ after) :
    headersEnd <:+: data ↔ text <+: data := by
  constructor
  · intro hends
    by_contra hnot
    have hlength : data.length < text.length := by
      by_contra hlong
      exact hnot (List.prefix_of_prefix_length_le (List.prefix_append text after) h (by omega))
    have hshort : data <+: text.dropLast := by
      refine List.prefix_of_prefix_length_le h ((List.dropLast_prefix text).trans (List.prefix_append _ _)) ?_
      rw [List.length_dropLast]
      omega
    exact htext.first (hends.trans hshort.isInfix)
  · intro hbegins
    exact htext.ends.isInfix.trans hbegins.isInfix

/-- Some number of reads returns the handshake text and nothing else. -/
def ReadsEndAt (sock : Segments) (text : List UInt8) : Prop :=
  ∃ count, (recvs 4096 count sock).1.flatten = text

theorem readHttpHeaders_rest_iff {decodeReplace : List UInt8 → String} {headers : String} {rest : Segments}
    (htext : EndsHeaders text) (hs : sock.flatten = text ++ after)
    (h : readHttpHeaders decodeReplace sock = .ok (headers, rest)) :
    rest.flatten = after ↔ ReadsEndAt sock text := by
  obtain ⟨⟨found, left⟩, hloop, heq⟩ := except_bind_ok_iff.mp h
  cases heq
  obtain ⟨count, hfound, hrest, hends, hbefore⟩ := readHeadersLoop_ok hloop
  rw [List.nil_append] at hfound
  have hall : found ++ rest.flatten = text ++ after := by
    rw [hfound, hrest, recvs_flatten, hs]
  have hbegins : text <+: found := (htext.infix_iff ⟨rest.flatten, hall⟩).mp hends
  constructor
  · intro hafter
    rw [hafter] at hall
    exact ⟨count, by rw [← hfound, List.append_cancel_right hall]⟩
  · rintro ⟨count', hcount'⟩
    have hle : count ≤ count' := by
      by_contra hlt
      apply hbefore count' (by omega)
      rw [List.nil_append, hcount']
      exact htext.ends.isInfix
    have hshort : (recvs 4096 count sock).1.flatten <+: (recvs 4096 count' sock).1.flatten := recvs_mono hle
    rw [hcount', ← hfound] at hshort
    have heq := hshort.eq_of_length_le hbegins.length_le
    rw [heq] at hall
    exact List.append_cancel_left hall

end Upgrade

section Seen

variable {α β : Type} {sock sock' : Segments}

/-- What a read gives, and the bytes it leaves, in whatever segments. -/
def seen (read : Except PyException (α × Segments)) : Except PyException (α × List UInt8) :=
  read.map fun found => (found.1, found.2.flatten)

theorem seen_ok_iff {read : Except PyException (α × Segments)} {found : α} {bytes : List UInt8} :
    seen read = .ok (found, bytes) ↔ ∃ rest, read = .ok (found, rest) ∧ rest.flatten = bytes := by
  cases read with
  | error e => simp [seen, Except.map]
  | ok read =>
    obtain ⟨value, rest⟩ := read
    simp [seen, Except.map]

theorem seen_bind {read read' : Except PyException (α × Segments)}
    {next : α × Segments → Except PyException (β × Segments)} (h : seen read = seen read')
    (hnext : ∀ value sock sock', sock.flatten = sock'.flatten → seen (next (value, sock)) = seen (next (value, sock'))) :
    seen (read >>= next) = seen (read' >>= next) := by
  cases read with
  | error e =>
    cases read' with
    | error e' =>
      cases h
      rfl
    | ok found' => cases h
  | ok found =>
    obtain ⟨rest', hread', hflat⟩ := seen_ok_iff.mp h.symm
    rw [hread']
    exact hnext found.1 found.2 rest' hflat.symm

variable (hflat : sock.flatten = sock'.flatten)

include hflat

theorem recvExact_seen (size : Nat) : seen (recvExact size sock) = seen (recvExact size sock') := by
  by_cases hsize : size ≤ sock.flatten.length
  · obtain ⟨rest, hread, hrest⟩ := readExact_some hsize
    obtain ⟨rest', hread', hrest'⟩ := readExact_some (hflat ▸ hsize)
    simp only [recvExact, hread, hread', seen, Except.map, hrest, hrest', hflat]
  · have hnone := readExact_none (Nat.lt_of_not_le hsize)
    have hnone' := readExact_none (hflat ▸ Nat.lt_of_not_le hsize)
    rw [recvExact, recvExact, hnone, hnone']

theorem seen_pure (value : α) : seen (pure (value, sock)) = seen (pure (value, sock')) :=
  congrArg (fun bytes => Except.ok (value, bytes)) hflat

theorem recvLength_seen (second : UInt8) : seen (recvLength second sock) = seen (recvLength second sock') := by
  unfold recvLength
  dsimp only
  split
  · exact seen_bind (recvExact_seen hflat 2) fun packed _ _ hrest => seen_pure hrest _
  split
  · exact seen_bind (recvExact_seen hflat 8) fun packed _ _ hrest => seen_pure hrest _
  · exact seen_pure hflat _

/-- A frame is read off the bytes, not off the segments. -/
theorem recvWsFrame_seen (expectMasked : Bool) :
    seen (recvWsFrame expectMasked sock) = seen (recvWsFrame expectMasked sock') := by
  refine seen_bind (recvExact_seen hflat 2) fun start sock sock' hflat => ?_
  dsimp only
  split
  · rfl
  split
  · rfl
  split
  · rfl
  refine seen_bind (recvLength_seen hflat _) fun length sock sock' hflat => ?_
  dsimp only
  split
  · exact seen_bind (recvExact_seen hflat 4) fun key _ _ hflat =>
      seen_bind (recvExact_seen hflat length) fun payload _ _ hrest => seen_pure hrest _
  · exact seen_bind (seen_pure hflat []) fun key _ _ hflat =>
      seen_bind (recvExact_seen hflat length) fun payload _ _ hrest => seen_pure hrest _

theorem pipeWsToTcp_congr (expectMasked : Bool) (fuel : Nat) :
    pipeWsToTcp expectMasked fuel sock = pipeWsToTcp expectMasked fuel sock' := by
  induction fuel generalizing sock sock' with
  | zero => rfl
  | succ fuel ih =>
    have hseen := recvWsFrame_seen hflat expectMasked
    rw [pipeWsToTcp, pipeWsToTcp]
    cases hread' : recvWsFrame expectMasked sock' with
    | error e' =>
      cases hread : recvWsFrame expectMasked sock with
      | error e =>
        rw [hread, hread'] at hseen
        cases hseen
        rfl
      | ok found =>
        rw [hread, hread'] at hseen
        cases hseen
    | ok found' =>
      rw [hread'] at hseen
      obtain ⟨rest, hread, hrest⟩ := seen_ok_iff.mp hseen
      rw [hread]
      dsimp only
      rw [ih hrest]

end Seen

section Upgrade

variable {sock : Segments} {text after : List UInt8} (host : HandshakeHost)

/-- What is read from a socket are the frames of these bytes, and nothing else. -/
def Receives (sock : Segments) (bytes : List UInt8) : Prop :=
  sock.flatten = bytes ∧ ∀ expectMasked fuel, pipeWsToTcp expectMasked fuel sock = pipeWsToTcp expectMasked fuel [bytes]

theorem receives_iff {rest : Segments} : Receives rest after ↔ rest.flatten = after := by
  constructor
  · intro h
    exact h.1
  · intro h
    exact ⟨h, pipeWsToTcp_congr (by rw [h, List.flatten_singleton])⟩

/-- Either handshake leaves what came behind the headers to the frames exactly where the reads end with the
headers. -/
theorem upgrade_lossless_iff (htext : EndsHeaders text) (hs : sock.flatten = text ++ after) :
    (∀ response rest, serverHandshake host sock = .ok (response, rest) →
      (Receives rest after ↔ ReadsEndAt sock text)) ∧
    ∀ key hostName request rest, clientHandshake host key hostName sock = .ok (request, rest) →
      (Receives rest after ↔ ReadsEndAt sock text) := by
  constructor
  · intro response rest h
    obtain ⟨⟨headers, left⟩, hread, h⟩ := except_bind_ok_iff.mp h
    dsimp only at h
    split at h
    next => cases h
    obtain ⟨digested, _, h⟩ := except_bind_ok_iff.mp h
    obtain ⟨sent, _, heq⟩ := except_bind_ok_iff.mp h
    cases heq
    rw [receives_iff]
    exact readHttpHeaders_rest_iff htext hs hread
  · intro key hostName request rest h
    obtain ⟨sent, _, h⟩ := except_bind_ok_iff.mp h
    obtain ⟨⟨response, left⟩, hread, h⟩ := except_bind_ok_iff.mp h
    dsimp only at h
    split at h
    next =>
      cases h
      rw [receives_iff]
      exact readHttpHeaders_rest_iff htext hs hread
    next => cases h

/-- Libraries that answer for bytes without multi-byte characters and for the key of `upgradeRequest`. -/
def sampleHost : HandshakeHost where
  decodeReplace bytes := String.ofList (bytes.map fun byte => if byte < 0x80 then Char.ofNat byte.toNat else '\ufffd')
  sha1Base64 _ := "s3pPLMBiTxaQ9kYGzzhZRbK+xOo="

def upgradeHeaders : String := "GET / HTTP/1.1\r\nSec-WebSocket-Key: dGhlIHNhbXBsZSBub25jZQ==\r\n\r\n"

def upgradeRequest : List UInt8 := upgradeHeaders.toList.map fun c => UInt8.ofNat c.toNat

theorem upgradeRequest_endsHeaders : EndsHeaders upgradeRequest := ⟨by decide +kernel, by decide +kernel⟩

/-- A frame without a payload, masked with zeros. -/
def emptyWsFrame : List UInt8 := [0x82, 0x80, 0, 0, 0, 0]

theorem sampleHost_answers {sock rest : Segments} {headers : String}
    (hread : readHttpHeaders sampleHost.decodeReplace sock = .ok (headers, rest))
    (hkey : parseHeaderValue headers "Sec-WebSocket-Key" = some "dGhlIHNhbXBsZSBub25jZQ==") :
    ∃ response, serverHandshake sampleHost sock = .ok (response, rest) := by
  have haccept : ∀ data, isAscii (sampleHost.sha1Base64 data) = true := by
    intro data
    show isAscii "s3pPLMBiTxaQ9kYGzzhZRbK+xOo=" = true
    decide +kernel
  exact serverHandshake_of_key sampleHost hread hkey (by decide) (by decide +kernel) haccept

theorem upgrade_lossless_split : ∃ response,
    serverHandshake sampleHost [upgradeRequest, emptyWsFrame] = .ok (response, [[], emptyWsFrame]) ∧
      Receives [[], emptyWsFrame] emptyWsFrame := by
  have hread : readHttpHeaders sampleHost.decodeReplace [upgradeRequest, emptyWsFrame] =
      .ok (upgradeHeaders, [[], emptyWsFrame]) := by decide +kernel
  obtain ⟨response, hanswer⟩ := sampleHost_answers hread (by decide +kernel)
  have hreads : ReadsEndAt [upgradeRequest, emptyWsFrame] upgradeRequest := ⟨1, by decide +kernel⟩
  have hflat : [upgradeRequest, emptyWsFrame].flatten = upgradeRequest ++ emptyWsFrame := rfl
  have hiff := (upgrade_lossless_iff sampleHost upgradeRequest_endsHeaders hflat).1 _ _ hanswer
  exact ⟨response, hanswer, hiff.mpr hreads⟩

/-- A client that sends its first frame right behind the headers loses it. -/
theorem pipelinedFrame_lost : EndsHeaders upgradeRequest ∧
    (∃ response, serverHandshake sampleHost [upgradeRequest ++ emptyWsFrame] = .ok (response, [[]])) ∧
      recvWsFrame true [[]] = .error (.eofError "socket closed while reading") ∧
      recvWsFrame true [emptyWsFrame] = .ok ([], [[]]) := by
  have hread : readHttpHeaders sampleHost.decodeReplace [upgradeRequest ++ emptyWsFrame] =
      .ok (String.ofList (upgradeHeaders.toList ++ ['\ufffd', '\ufffd', '\x00', '\x00', '\x00', '\x00']), [[]]) := by
    decide +kernel
  exact ⟨upgradeRequest_endsHeaders, sampleHost_answers hread (by decide +kernel), by decide +kernel, by decide +kernel⟩

end Upgrade

end PermeantOS
