import PermeantOS.SimMigrate

namespace PermeantOS

theorem exchange_ok {msg reply : MigrationMessage} {s t : Socket}
    (h : (exchange msg).run s = .ok reply t) : t.outbox = s.outbox ++ [msg] := by
  rw [exchange, run_get_bind] at h
  split at h
  next =>
    split at h
    next => cases h
    next => cases h
    next => cases h; rfl
  next => cases h

/-- An exchange that failed may have sent its message. -/
theorem exchange_left (msg : MigrationMessage) (s : Socket) :
    (leftState ((exchange msg).run s)).outbox = s.outbox ∨
      (leftState ((exchange msg).run s)).outbox = s.outbox ++ [msg] := by
  rw [exchange, run_get_bind]
  split
  next =>
    right
    split <;> rfl
  next => exact Or.inl rfl

/-- What is done with an answer: the run goes on as it was, or it ends. -/
def Judges (f : MigrationMessage → Source Unit) : Prop :=
  ∀ reply, f reply = pure () ∨ ∃ fault, f reply = throw fault

section Judged

variable {msg : MigrationMessage} {f : MigrationMessage → Source Unit} (hf : Judges f)

include hf

theorem Judges.leftState_eq (reply : MigrationMessage) (s : Socket) :
    leftState ((f reply).run s) = s := by
  rcases hf reply with h | ⟨fault, h⟩
  · rw [h]
    rfl
  · rw [h]
    rfl

theorem exchange_judged_ok {s t : Socket} (h : (exchange msg >>= f).run s = .ok () t) :
    t.outbox = s.outbox ++ [msg] := by
  obtain ⟨reply, u, hex, h⟩ := run_bind_ok_iff.mp h
  have hu : t = u := by
    have hleft := hf.leftState_eq reply u
    rwa [h] at hleft
  rw [hu, exchange_ok hex]

theorem exchange_judged_left (s : Socket) :
    (leftState ((exchange msg >>= f).run s)).outbox = s.outbox ∨
      (leftState ((exchange msg >>= f).run s)).outbox = s.outbox ++ [msg] := by
  have hleft := exchange_left msg s
  cases h : (exchange msg).run s with
  | ok reply t =>
    rw [h] at hleft
    rwa [run_bind_of_ok h, hf.leftState_eq]
  | error fault t =>
    rw [h] at hleft
    rwa [run_bind_of_error h]

end Judged

/-- The phases that send one message and judge the answer. -/
theorem requestCapability_eq (config : SourceConfig) (seqLen : Usize) :
    ∃ f, Judges f ∧ requestCapability config seqLen =
      exchange (.capabilityRequest config.modelArchitecture "gqa" seqLen) >>= f := by
  refine ⟨_, ?_, rfl⟩
  intro reply
  dsimp only
  split <;> simp

theorem sendGraphBinding_eq (header : UsxfHeader) (agentGraph : AgentGraphManifest) :
    ∃ f, Judges f ∧ sendGraphBinding header (some agentGraph) =
      exchange (.agentGraphBinding (agentGraph.toBinding header)) >>= f := by
  refine ⟨_, ?_, rfl⟩
  intro reply
  dsimp only
  split <;> simp

theorem requestCommit_eq : ∃ f, Judges f ∧ requestCommit = exchange .commitRequest >>= f := by
  refine ⟨_, ?_, rfl⟩
  intro reply
  dsimp only
  split <;> simp

theorem sendHeader_eq {F : Type} (host : SourceHost F) (config : SourceConfig) (header : UsxfHeader) :
    ∃ f, Judges f ∧ sendHeader host config header =
      liftExcept (host.headerToVec header) >>= fun serialized =>
        liftExcept (sealPacket host.crypto config.nonce serialized sourceKey config.signingKey) >>=
          fun envelope => exchange (.headerEnvelope envelope) >>= f := by
  refine ⟨_, ?_, rfl⟩
  intro reply
  dsimp only
  split <;> simp

/-- Only messages of a given kind were sent between the two states. -/
def Writes (P : MigrationMessage → Prop) (s t : Socket) : Prop :=
  ∃ sent, t.outbox = s.outbox ++ sent ∧ ∀ msg ∈ sent, P msg

section Writes

variable {P : MigrationMessage → Prop}

instance : Std.Refl (Writes P) where
  refl s := ⟨[], by simp, by simp⟩

instance : IsTrans Socket (Writes P) where
  trans s t u := by
    rintro ⟨sent, ho, hp⟩ ⟨sent', ho', hp'⟩
    refine ⟨sent ++ sent', by rw [ho', ho, List.append_assoc], ?_⟩
    intro msg hmem
    exact (List.mem_append.mp hmem).elim (hp msg) (hp' msg)

theorem exchange_writes {msg : MigrationMessage} (h : P msg) : Keeps (Writes P) (exchange msg) := by
  intro s
  rcases exchange_left msg s with hleft | hleft
  · exact ⟨[], by simpa using hleft, by simp⟩
  · exact ⟨[msg], hleft, by simpa using h⟩

theorem exchange_judged_writes {msg : MigrationMessage} {f : MigrationMessage → Source Unit}
    (hf : Judges f) (h : P msg) : Keeps (Writes P) (exchange msg >>= f) := by
  apply (exchange_writes h).bind
  intro reply s
  rw [hf.leftState_eq]
  exact refl_of (Writes P) s

theorem requestCapability_writes (config : SourceConfig) (seqLen : Usize)
    (h : ∀ architecture attention n, P (.capabilityRequest architecture attention n)) :
    Keeps (Writes P) (requestCapability config seqLen) := by
  obtain ⟨f, hf, heq⟩ := requestCapability_eq config seqLen
  rw [heq]
  exact exchange_judged_writes hf (h _ _ _)

theorem sendHeader_writes {F : Type} (host : SourceHost F) (config : SourceConfig)
    (header : UsxfHeader) (h : ∀ envelope, P (.headerEnvelope envelope)) :
    Keeps (Writes P) (sendHeader host config header) := by
  obtain ⟨f, hf, heq⟩ := sendHeader_eq host config header
  rw [heq]
  refine (Keeps.liftExcept _).bind fun serialized => (Keeps.liftExcept _).bind fun envelope => ?_
  exact exchange_judged_writes hf (h envelope)

theorem sendGraphBinding_writes (header : UsxfHeader) (manifest : Option AgentGraphManifest)
    (h : ∀ binding, P (.agentGraphBinding binding)) :
    Keeps (Writes P) (sendGraphBinding header manifest) := by
  cases manifest with
  | none => exact Keeps.pure _
  | some agentGraph =>
    obtain ⟨f, hf, heq⟩ := sendGraphBinding_eq header agentGraph
    rw [heq]
    exact exchange_judged_writes hf (h _)

end Writes

section Source

variable {F : Type} [F32Bits F] [F32Arith F] (host : SourceHost F) (config : SourceConfig)
  (seqLen : Usize) (transferCodec : TransferCodec)
  (agentGraphManifest : Option AgentGraphManifest) (extractedCache : TensorMap F)

theorem sendLayer_writes {P : MigrationMessage → Prop} (h : ∀ chunk, P (.payloadChunk chunk))
    (layerIdx : Nat) :
    Keeps (Writes P) (sendLayer host config seqLen transferCodec extractedCache layerIdx) := by
  refine (Keeps.liftExcept _).bind ?_
  intro blocked
  obtain ⟨vllmKey, vllmValue⟩ := blocked
  apply Keeps.forRange
  rintro blockIdx ⟨⟩
  refine (Keeps.liftExcept _).bind ?_
  intro chunks
  obtain ⟨keyChunk, valueChunk⟩ := chunks
  exact (exchange_writes (h _)).bind fun _ => (exchange_writes (h _)).bind fun _ => Keeps.pure _

/-- Nothing before the commit asks for it. -/
theorem stageMigration_writes : Keeps (Writes (· ≠ .commitRequest)) (stageMigration host config
    seqLen transferCodec agentGraphManifest extractedCache) := by
  refine (requestCapability_writes config seqLen (by simp)).bind fun _ => ?_
  refine (Keeps.liftExcept _).bind fun _ => ?_
  refine (sendHeader_writes host config _ (by simp)).bind fun _ => ?_
  refine Keeps.bind (Keeps.forRange ?_ _ _) fun _ => sendGraphBinding_writes _ _ (by simp)
  intro layerIdx _
  exact sendLayer_writes host config seqLen transferCodec extractedCache (by simp) layerIdx

def blockChunks (layerIdx blockIdx : Nat) : Fallible (PayloadChunk × PayloadChunk) := do
  let (vllmKey, vllmValue) ← transpileLayer config extractedCache layerIdx
  encodeBlock host config transferCodec layerIdx vllmKey vllmValue blockIdx

def chunkPair (layerIdx blockIdx : Nat) : PayloadChunk × PayloadChunk :=
  (blockChunks host config transferCodec extractedCache layerIdx blockIdx).toOption.getD default

def layerChunks (layerIdx : Nat) : List PayloadChunk :=
  (List.range (divCeil seqLen config.blockSize).toNat).flatMap fun blockIdx =>
    [(chunkPair host config transferCodec extractedCache layerIdx blockIdx).1,
      (chunkPair host config transferCodec extractedCache layerIdx blockIdx).2]

/-- The chunks of a whole migration, in the order they are sent. -/
def sentChunks : List PayloadChunk :=
  (List.range config.nLayers.toNat).flatMap
    (layerChunks host config seqLen transferCodec extractedCache)

/-- Every block of every layer could be sliced and encoded. -/
def EncodesAll : Prop :=
  ∀ layerIdx < config.nLayers.toNat, ∀ blockIdx < (divCeil seqLen config.blockSize).toNat,
    blockChunks host config transferCodec extractedCache layerIdx blockIdx =
      .ok (chunkPair host config transferCodec extractedCache layerIdx blockIdx)

end Source

section Phases

variable {config : SourceConfig} {s t : Socket}

theorem requestCapability_ok {seqLen : Usize} (h : (requestCapability config seqLen).run s = .ok () t) :
    t.outbox = s.outbox ++ [.capabilityRequest config.modelArchitecture "gqa" seqLen] := by
  obtain ⟨f, hf, heq⟩ := requestCapability_eq config seqLen
  rw [heq] at h
  exact exchange_judged_ok hf h

theorem sendHeader_ok {F : Type} {host : SourceHost F} {header : UsxfHeader}
    (h : (sendHeader host config header).run s = .ok () t) :
    ∃ serialized envelope, host.headerToVec header = .ok serialized ∧
      sealPacket host.crypto config.nonce serialized sourceKey config.signingKey = .ok envelope ∧
      t.outbox = s.outbox ++ [.headerEnvelope envelope] := by
  obtain ⟨f, hf, heq⟩ := sendHeader_eq host config header
  rw [heq] at h
  obtain ⟨serialized, hser, h⟩ := run_liftExcept_bind_ok_iff.mp h
  obtain ⟨envelope, hseal, h⟩ := run_liftExcept_bind_ok_iff.mp h
  exact ⟨serialized, envelope, hser, hseal, exchange_judged_ok hf h⟩

theorem sendGraphBinding_ok {header : UsxfHeader} {agentGraphManifest : Option AgentGraphManifest}
    (h : (sendGraphBinding header agentGraphManifest).run s = .ok () t) :
    t.outbox = s.outbox ++
      (agentGraphManifest.toList.map fun manifest => .agentGraphBinding (manifest.toBinding header)) := by
  cases agentGraphManifest with
  | none =>
    cases h
    simp
  | some manifest =>
    obtain ⟨f, hf, heq⟩ := sendGraphBinding_eq header manifest
    rw [heq] at h
    exact exchange_judged_ok hf h

theorem requestCommit_left (s : Socket) :
    (leftState (requestCommit.run s)).outbox = s.outbox ∨
      (leftState (requestCommit.run s)).outbox = s.outbox ++ [.commitRequest] := by
  obtain ⟨f, hf, heq⟩ := requestCommit_eq
  rw [heq]
  exact exchange_judged_left hf s

end Phases

section Sent

variable {F : Type} [F32Bits F] [F32Arith F] {host : SourceHost F} {config : SourceConfig}
  {seqLen : Usize} {transferCodec : TransferCodec}
  {agentGraphManifest : Option AgentGraphManifest} {extractedCache : TensorMap F} {s t : Socket}

theorem sendBlock_ok {layerIdx blockIdx : Nat} {vllmKey vllmValue : Tensor F}
    (h : (sendBlock host config transferCodec layerIdx vllmKey vllmValue blockIdx).run s = .ok () t) :
    ∃ pair, encodeBlock host config transferCodec layerIdx vllmKey vllmValue blockIdx = .ok pair ∧
      t.outbox = s.outbox ++ [.payloadChunk pair.1, .payloadChunk pair.2] := by
  obtain ⟨pair, hpair, h⟩ := run_liftExcept_bind_ok_iff.mp h
  obtain ⟨_, u, hkey, h⟩ := run_bind_ok_iff.mp h
  obtain ⟨_, v, hvalue, h⟩ := run_bind_ok_iff.mp h
  cases h
  refine ⟨pair, hpair, ?_⟩
  rw [exchange_ok hvalue, exchange_ok hkey, List.append_assoc]
  rfl

theorem sendLayer_ok {layerIdx : Nat}
    (h : (sendLayer host config seqLen transferCodec extractedCache layerIdx).run s = .ok () t) :
    (∀ blockIdx < (divCeil seqLen config.blockSize).toNat,
      blockChunks host config transferCodec extractedCache layerIdx blockIdx =
        .ok (chunkPair host config transferCodec extractedCache layerIdx blockIdx)) ∧
      t.outbox = s.outbox ++
        (layerChunks host config seqLen transferCodec extractedCache layerIdx).map .payloadChunk := by
  obtain ⟨⟨vllmKey, vllmValue⟩, htranspile, h⟩ := run_liftExcept_bind_ok_iff.mp h
  refine run_forRange_ok_induction (I := fun n _ t => (∀ blockIdx < n,
    blockChunks host config transferCodec extractedCache layerIdx blockIdx =
      .ok (chunkPair host config transferCodec extractedCache layerIdx blockIdx)) ∧
    t.outbox = s.outbox ++ ((List.range n).flatMap fun blockIdx =>
      [(chunkPair host config transferCodec extractedCache layerIdx blockIdx).1,
        (chunkPair host config transferCodec extractedCache layerIdx blockIdx).2]).map
          .payloadChunk) ⟨by simp, by simp⟩ ?_ h
  rintro n - ⟨⟩ v ⟨⟩ w ⟨hall, hout⟩ hsend
  obtain ⟨pair, hpair, hnext⟩ := sendBlock_ok hsend
  have hchunks : blockChunks host config transferCodec extractedCache layerIdx n = .ok pair :=
    except_bind_ok_iff.mpr ⟨_, htranspile, hpair⟩
  have hpair' : chunkPair host config transferCodec extractedCache layerIdx n = pair := by
    rw [chunkPair, hchunks]
    rfl
  refine ⟨?_, by rw [hnext, hout, List.range_succ, List.flatMap_append]; simp [hpair']⟩
  intro blockIdx hlt
  rcases Nat.lt_succ_iff_lt_or_eq.mp hlt with hlt | rfl
  · exact hall blockIdx hlt
  · rw [hchunks, hpair']

theorem sendLayers_ok (h : (forRange (fun layerIdx _ =>
      sendLayer host config seqLen transferCodec extractedCache layerIdx)
        config.nLayers.toNat ()).run s = .ok () t) :
    EncodesAll host config seqLen transferCodec extractedCache ∧
      t.outbox = s.outbox ++
        (sentChunks host config seqLen transferCodec extractedCache).map .payloadChunk := by
  refine run_forRange_ok_induction (I := fun n _ t => (∀ layerIdx < n,
    ∀ blockIdx < (divCeil seqLen config.blockSize).toNat,
      blockChunks host config transferCodec extractedCache layerIdx blockIdx =
        .ok (chunkPair host config transferCodec extractedCache layerIdx blockIdx)) ∧
    t.outbox = s.outbox ++ ((List.range n).flatMap
      (layerChunks host config seqLen transferCodec extractedCache)).map .payloadChunk)
    ⟨by simp, by simp⟩ ?_ h
  rintro n - ⟨⟩ v ⟨⟩ w ⟨hall, hout⟩ hsend
  obtain ⟨hlayer, hnext⟩ := sendLayer_ok hsend
  refine ⟨?_, by rw [hnext, hout, List.range_succ, List.flatMap_append]; simp⟩
  intro layerIdx hlt
  rcases Nat.lt_succ_iff_lt_or_eq.mp hlt with hlt | rfl
  · exact hall layerIdx hlt
  · exact hlayer

/-- What a source that came to its commit has sent. -/
structure SentMigration (host : SourceHost F) (config : SourceConfig) (seqLen : Usize)
    (transferCodec : TransferCodec) (agentGraphManifest : Option AgentGraphManifest)
    (extractedCache : TensorMap F) (sent : List MigrationMessage) where
  serialized : List UInt8
  envelope : EncryptedEnvelope
  serializes : host.headerToVec (simHeader host.sha256 config seqLen transferCodec) = .ok serialized
  seals : sealPacket host.crypto config.nonce serialized sourceKey config.signingKey = .ok envelope
  encodes : EncodesAll host config seqLen transferCodec extractedCache
  sent_eq : sent = [.capabilityRequest config.modelArchitecture "gqa" seqLen, .headerEnvelope envelope]
    ++ ((sentChunks host config seqLen transferCodec extractedCache).map .payloadChunk ++
      ((agentGraphManifest.toList.map fun manifest => .agentGraphBinding
        (manifest.toBinding (simHeader host.sha256 config seqLen transferCodec))) ++
          [.commitRequest]))

theorem stageMigration_ok (h : (stageMigration host config seqLen transferCodec agentGraphManifest
      extractedCache).run s = .ok () t) (hs : s.outbox = []) :
    Nonempty (SentMigration host config seqLen transferCodec agentGraphManifest extractedCache
      (t.outbox ++ [.commitRequest])) := by
  obtain ⟨⟨⟩, u, hcap, h⟩ := run_bind_ok_iff.mp h
  obtain ⟨⟨⟩, _, h⟩ := run_liftExcept_bind_ok_iff.mp h
  obtain ⟨⟨⟩, w, hheader, h⟩ := run_bind_ok_iff.mp h
  obtain ⟨serialized, envelope, hser, hseal, hw⟩ := sendHeader_ok hheader
  obtain ⟨⟨⟩, x, hlayers, h⟩ := run_bind_ok_iff.mp h
  obtain ⟨hall, hx⟩ := sendLayers_ok hlayers
  refine ⟨⟨serialized, envelope, hser, hseal, hall, ?_⟩⟩
  rw [sendGraphBinding_ok h, hx, hw, requestCapability_ok hcap, hs]
  simp

/-- A source that sent a request to commit had sent everything else before. -/
theorem runSimMigrate_sent (hs : s.outbox = []) {sent : List MigrationMessage}
    (hsent : (leftState ((runSimMigrate host config seqLen transferCodec agentGraphManifest
      extractedCache).run s)).outbox = sent) (hcommit : .commitRequest ∈ sent) :
    Nonempty (SentMigration host config seqLen transferCodec agentGraphManifest extractedCache
      sent) := by
  rcases (stageMigration_writes host config seqLen transferCodec agentGraphManifest
    extractedCache).past_or_left _ s with ⟨⟨⟩, t, hstage, hwrites, hrun⟩ | ⟨written, hout, hnone⟩
  · have hleft : leftState ((runSimMigrate host config seqLen transferCodec agentGraphManifest
        extractedCache).run s) = leftState (requestCommit.run t) := congrArg leftState hrun
    rw [hleft] at hsent
    rcases requestCommit_left t with hout | hout
    · obtain ⟨written, hwritten, hnone⟩ := hwrites
      rw [← hsent, hout, hwritten, hs] at hcommit
      exact absurd rfl (hnone _ hcommit)
    · rw [← hsent, hout]
      exact stageMigration_ok hstage hs
  · rw [← hsent, runSimMigrate, hout, hs] at hcommit
    exact absurd rfl (hnone _ hcommit)

end Sent

end PermeantOS
