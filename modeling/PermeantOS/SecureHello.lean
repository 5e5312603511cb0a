import PermeantOS.BinaryFrame
import PermeantOS.Envelope
import PermeantOS.Negotiation
import PermeantOS.Recording

namespace PermeantOS

inductive EndpointRole
  | source
  | target
  deriving DecidableEq, Repr

structure SecureSessionHello where
  protocolVersion : UInt16
  sessionId : String
  role : EndpointRole
  nodeId : String
  peerNodeId : Option String
  profile : ProductionTransportProfile
  nonce : List UInt8
  supportedCodecs : List String
  publicKey : List UInt8
  signature : List UInt8
  deriving DecidableEq, Repr

structure SecureSessionHelloSigningPayload where
  protocolVersion : UInt16
  sessionId : String
  role : EndpointRole
  nodeId : String
  peerNodeId : Option String
  profile : ProductionTransportProfile
  nonce : List UInt8
  supportedCodecs : List String
  deriving DecidableEq, Repr

structure SecureSessionHelloRequest where
  sessionId : String
  role : EndpointRole
  nodeId : String
  peerNodeId : Option String
  profile : ProductionTransportProfile
  nonce : List UInt8
  supportedCodecs : List String
  deriving DecidableEq, Repr

section Hello

-- the Ed25519 operations, and `serde_json::to_vec` on the signing payload
variable (crypto : Crypto) (payloadToVec : SecureSessionHelloSigningPayload → Fallible (List UInt8))

def SecureSessionHello.signed (request : SecureSessionHelloRequest) (signingKey : List UInt8) :
    Fallible SecureSessionHello := do
  bailIf (request.nonce.length < 16) "secure session nonce must be at least 16 bytes"
  bailIf (trimIsEmpty request.sessionId = true) "secure session id must be non-empty"
  bailIf (trimIsEmpty request.nodeId = true) "secure session node id must be non-empty"
  let signedPayload ← payloadToVec
    { protocolVersion := productionTransportVersion, sessionId := request.sessionId, role := request.role,
      nodeId := request.nodeId, peerNodeId := request.peerNodeId, profile := request.profile,
      nonce := request.nonce, supportedCodecs := request.supportedCodecs }
  let signature := crypto.sign signingKey signedPayload
  pure
    { protocolVersion := productionTransportVersion, sessionId := request.sessionId, role := request.role,
      nodeId := request.nodeId, peerNodeId := request.peerNodeId, profile := request.profile,
      nonce := request.nonce, supportedCodecs := request.supportedCodecs,
      publicKey := crypto.verifyingKeyOf signingKey, signature := signature }

def SecureSessionHello.verify (hello : SecureSessionHello) : Fallible Unit := do
  bailIf (hello.protocolVersion ≠ productionTransportVersion)
    s!"unsupported production transport version: {hello.protocolVersion}"
  bailIf (hello.nonce.length < 16) "secure session nonce must be at least 16 bytes"
  bailIf (trimIsEmpty hello.sessionId = true ∨ trimIsEmpty hello.nodeId = true)
    "secure session id and node id must be non-empty"
  bailIf (hello.profile.maxFrameBytes = 0) "secure session max_frame_bytes must be greater than zero"
  bailIf (hello.profile.binaryFraming = false) "production transport requires binary framing"
  bailIf (hello.profile.requireMutualTls = false) "production transport baseline requires mutual TLS"
  bailIf (hello.publicKey.length ≠ 32) "invalid secure session public key length"
  bailIf (crypto.acceptsKey hello.publicKey = false) "failed to parse secure session public key"
  bailIf (hello.signature.length ≠ 64) "invalid secure session signature length"
  let signedPayload ← payloadToVec
    { protocolVersion := hello.protocolVersion, sessionId := hello.sessionId, role := hello.role,
      nodeId := hello.nodeId, peerNodeId := hello.peerNodeId, profile := hello.profile,
      nonce := hello.nonce, supportedCodecs := hello.supportedCodecs }
  bailIf (crypto.verify hello.publicKey signedPayload hello.signature = false)
    "secure session signature verification failed"

variable {crypto payloadToVec} {request : SecureSessionHelloRequest} {signingKey : List UInt8}
  {hello : SecureSessionHello}

/-- What `verify` asks of a profile, and `signed` does not. -/
def ProductionTransportProfile.Baseline (profile : ProductionTransportProfile) : Prop :=
  profile.maxFrameBytes ≠ 0 ∧ profile.binaryFraming = true ∧ profile.requireMutualTls = true

/-- A signed hello is verified up to the checks of its profile. -/
theorem verify_of_signed (lawful : crypto.Lawful)
    (h : SecureSessionHello.signed crypto payloadToVec request signingKey = .ok hello) :
    hello.verify crypto payloadToVec = .ok () ↔ request.profile.Baseline := by
  obtain ⟨hnonce, h⟩ := except_bind_unit_ok_iff.mp h
  obtain ⟨hsession, h⟩ := except_bind_unit_ok_iff.mp h
  obtain ⟨hnode, h⟩ := except_bind_unit_ok_iff.mp h
  obtain ⟨signedPayload, hpayload, h⟩ := except_bind_ok_iff.mp h
  cases h
  rw [bailIf_ok_iff] at hnonce hsession hnode
  simp only [SecureSessionHello.verify, except_bind_unit_ok_iff, bailIf_ok_iff]
  rw [except_bind_of_ok hpayload, bailIf_ok_iff]
  simp [hnonce, hsession, hnode, ProductionTransportProfile.Baseline, lawful.publicKey_length,
    lawful.publicKey_accepted, lawful.signature_length, lawful.verify_sign]

/-- `signed` refuses a short nonce and blank names, and nothing else. -/
theorem exists_signed_iff (hserialize : ∀ payload, ∃ bytes, payloadToVec payload = .ok bytes) :
    (∃ hello, SecureSessionHello.signed crypto payloadToVec request signingKey = .ok hello) ↔
      16 ≤ request.nonce.length ∧ trimIsEmpty request.sessionId = false ∧ trimIsEmpty request.nodeId = false := by
  simp only [SecureSessionHello.signed, except_bind_unit_ok_iff, bailIf_ok_iff, Nat.not_lt, Bool.not_eq_true]
  constructor
  · intro h
    obtain ⟨hello, hnonce, hsession, hnode, _⟩ := h
    exact ⟨hnonce, hsession, hnode⟩
  · intro h
    obtain ⟨hnonce, hsession, hnode⟩ := h
    obtain ⟨bytes, hbytes⟩ := hserialize _
    exact ⟨_, hnonce, hsession, hnode, except_bind_ok_iff.mpr ⟨bytes, hbytes, rfl⟩⟩

/-- Every hello that a request is signed as is verified if and only if the request is refused or its profile
passes the checks that `signed` leaves out. -/
theorem signed_verifies_iff (lawful : crypto.Lawful)
    (hserialize : ∀ payload, ∃ bytes, payloadToVec payload = .ok bytes) (request : SecureSessionHelloRequest)
    (signingKey : List UInt8) :
    (∀ hello, SecureSessionHello.signed crypto payloadToVec request signingKey = .ok hello →
      hello.verify crypto payloadToVec = .ok ()) ↔
    (request.nonce.length < 16 ∨ trimIsEmpty request.sessionId = true ∨ trimIsEmpty request.nodeId = true) ∨
      request.profile.maxFrameBytes ≠ 0 ∧ request.profile.binaryFraming = true ∧
        request.profile.requireMutualTls = true := by
  by_cases hsigned : ∃ hello, SecureSessionHello.signed crypto payloadToVec request signingKey = .ok hello
  · obtain ⟨hnonce, hsession, hnode⟩ := (exists_signed_iff hserialize).mp hsigned
    obtain ⟨hello, hhello⟩ := hsigned
    have haccepted : ¬(request.nonce.length < 16 ∨ trimIsEmpty request.sessionId = true ∨
        trimIsEmpty request.nodeId = true) := by
      rw [hsession, hnode]
      simpa using hnonce
    rw [or_iff_right haccepted]
    constructor
    · intro h
      exact (verify_of_signed lawful hhello).mp (h hello hhello)
    · intro hprofile found hfound
      exact (verify_of_signed lawful hfound).mpr hprofile
  · refine iff_of_true (fun hello hhello => absurd ⟨hello, hhello⟩ hsigned) (Or.inl ?_)
    by_contra hrefused
    rw [not_or, not_or, Nat.not_lt, Bool.not_eq_true, Bool.not_eq_true] at hrefused
    exact hsigned ((exists_signed_iff hserialize).mpr hrefused)

end Hello

section Recorded

/-- The names that `serde` derives for the modes. -/
def ProductionTransportMode.name : ProductionTransportMode → String
  | .webSocketMtls => "WebSocketMtls"
  | .quicMtls => "QuicMtls"
  | .rdmaUcx => "RdmaUcx"
  | .nixl => "Nixl"
  | .framedTcpMtls => "FramedTcpMtls"

def EndpointRole.name : EndpointRole → String
  | .source => "Source"
  | .target => "Target"

def quoted (s : String) : String := "\"" ++ s ++ "\""

def commaList (items : List String) : String := "[" ++ String.intercalate "," items ++ "]"

/-- The text of `serde_json::to_vec`, for names that need no escapes. -/
def helloText (payload : SecureSessionHelloSigningPayload) : String :=
  "\x7b\"protocol_version\":" ++ toString payload.protocolVersion ++
    ",\"session_id\":" ++ quoted payload.sessionId ++ ",\"role\":" ++ quoted payload.role.name ++
    ",\"node_id\":" ++ quoted payload.nodeId ++
    ",\"peer_node_id\":" ++ (payload.peerNodeId.map quoted).getD "null" ++
    ",\"profile\":\x7b\"mode\":" ++ quoted payload.profile.mode.name ++
    ",\"binary_framing\":" ++ toString payload.profile.binaryFraming ++
    ",\"require_mutual_tls\":" ++ toString payload.profile.requireMutualTls ++
    ",\"max_frame_bytes\":" ++ toString payload.profile.maxFrameBytes ++
    ",\"idle_timeout_ms\":" ++ toString payload.profile.idleTimeoutMs ++
    ",\"keepalive_interval_ms\":" ++ toString payload.profile.keepaliveIntervalMs ++
    ",\"replay_window_frames\":" ++ toString payload.profile.replayWindowFrames ++
    "\x7d,\"nonce\":" ++ commaList (payload.nonce.map toString) ++
    ",\"supported_codecs\":" ++ commaList (payload.supportedCodecs.map quoted) ++ "\x7d"

def helloToVec (payload : SecureSessionHelloSigningPayload) : Fallible (List UInt8) :=
  .ok (asBytes (helloText payload))

/-- A session of two nodes, with the limit that was negotiated. -/
def helloRequest (profile : ProductionTransportProfile) : SecureSessionHelloRequest where
  sessionId := "s"
  role := .source
  nodeId := "n"
  peerNodeId := none
  profile := profile
  nonce := List.replicate 16 7
  supportedCodecs := ["raw"]

def helloProfile (maxFrameBytes : UInt32) : ProductionTransportProfile :=
  ⟨.webSocketMtls, true, true, maxFrameBytes, 30000, 10000, 4096⟩

def recordedHello : String :=
  "\x7b\"protocol_version\":1,\"session_id\":\"s\",\"role\":\"Source\",\"node_id\":\"n\"," ++
    "\"peer_node_id\":null,\"profile\":\x7b\"mode\":\"WebSocketMtls\",\"binary_framing\":true," ++
    "\"require_mutual_tls\":true,\"max_frame_bytes\":1024,\"idle_timeout_ms\":30000," ++
    "\"keepalive_interval_ms\":10000,\"replay_window_frames\":4096\x7d," ++
    "\"nonce\":[7,7,7,7,7,7,7,7,7,7,7,7,7,7,7,7],\"supported_codecs\":[\"raw\"]\x7d"

/-- The signature that the recorded sender's key gives to that text; others are signed with zeros. -/
def helloSignature (message : List UInt8) : List UInt8 :=
  if message = asBytes recordedHello then
    bigEndian 32 0x4bbd526f51797b3077ca6cc9636c74fcd207f02a7a43d0735f5b59736f884771 ++
      bigEndian 32 0xcf99b71b5b05534a65a97b35d9f163ad1db30b385ecba53da1406d5122098b09
  else List.replicate 64 0

def helloCrypto : Crypto where
  encrypt _ _ _ := none
  decrypt _ _ _ := none
  verifyingKeyOf _ := senderPublicKey
  acceptsKey publicKey := decide (publicKey = senderPublicKey)
  sign _ message := helloSignature message
  verify publicKey message signature := decide (publicKey = senderPublicKey ∧ signature = helloSignature message)

theorem helloCrypto_lawful : helloCrypto.Lawful where
  decrypt_encrypt _ _ _ _ h := by cases h
  publicKey_length _ := senderPublicKey_length
  publicKey_accepted _ := by simp [helloCrypto]
  signature_length _ message := by
    show (helloSignature message).length = 64
    unfold helloSignature
    split
    next => rw [List.length_append, bigEndian_length, bigEndian_length]
    next => exact List.length_replicate
  verify_sign _ message := by simp [helloCrypto]

theorem helloToVec_ok (payload : SecureSessionHelloSigningPayload) : ∃ bytes, helloToVec payload = .ok bytes :=
  ⟨_, rfl⟩

example : helloText ⟨1, "s", .source, "n", none, helloProfile 1024, List.replicate 16 7, ["raw"]⟩ = recordedHello := by
  decide +kernel

theorem helloRequest_signed (profile : ProductionTransportProfile) (signingKey : List UInt8) :
    ∃ hello, SecureSessionHello.signed helloCrypto helloToVec (helloRequest profile) signingKey = .ok hello :=
  (exists_signed_iff helloToVec_ok).mpr
    ⟨by simp [helloRequest], show trimIsEmpty "s" = false by decide, show trimIsEmpty "n" = false by decide⟩

theorem recordedHello_verifies : helloCrypto.Lawful ∧ (∀ payload, ∃ bytes, helloToVec payload = .ok bytes) ∧
    ∃ hello, SecureSessionHello.signed helloCrypto helloToVec (helloRequest (helloProfile 1024))
        (List.replicate 32 1) = .ok hello ∧ hello.verify helloCrypto helloToVec = .ok () := by
  obtain ⟨hello, hsigned⟩ := helloRequest_signed (helloProfile 1024) (List.replicate 32 1)
  have hverifies := (signed_verifies_iff helloCrypto_lawful helloToVec_ok (helloRequest (helloProfile 1024))
    (List.replicate 32 1)).mpr (Or.inr ⟨by decide, rfl, rfl⟩)
  exact ⟨helloCrypto_lawful, helloToVec_ok, hello, hsigned, hverifies hello hsigned⟩

/-- A candidate that allows no payload at all is negotiated and signed, and then refused. -/
theorem zeroLimit_not_verified :
    negotiateTransport [⟨helloProfile 0, 100, "source"⟩] [⟨helloProfile 0, 100, "target"⟩] =
      .ok ⟨helloProfile 0, "source; target: target", [.webSocketMtls]⟩ ∧
    ∃ hello, SecureSessionHello.signed helloCrypto helloToVec (helloRequest (helloProfile 0))
        (List.replicate 32 1) = .ok hello ∧ hello.verify helloCrypto helloToVec ≠ .ok () := by
  obtain ⟨hello, hsigned⟩ := helloRequest_signed (helloProfile 0) (List.replicate 32 1)
  have hentries : compatibleEntries [⟨helloProfile 0, 100, "source"⟩] [⟨helloProfile 0, 100, "target"⟩] =
      [(100, helloProfile 0, "source; target: target")] := by decide
  refine ⟨?_, hello, hsigned, ?_⟩
  · rw [negotiateTransport, hentries, sortByReverse, List.mergeSort_singleton]
    rfl
  · intro hverify
    exact ((verify_of_signed helloCrypto_lawful hsigned).mp hverify).1 rfl

end Recorded

end PermeantOS
