import PermeantOS.QatqMigration
import PermeantOS.Sha256

namespace PermeantOS

/-- The bytes of a `&[u8]` or a `Vec<u8>`, which are at most `isize::MAX` many. -/
structure ByteSlice where
  bytes : List UInt8
  length_lt : bytes.length < 2 ^ 63
  deriving DecidableEq

def ByteSlice.len (slice : ByteSlice) : Usize := UInt64.ofNat slice.bytes.length

theorem ByteSlice.toNat_len (slice : ByteSlice) : slice.len.toNat = slice.bytes.length := by
  have hlength := slice.length_lt
  rw [ByteSlice.len, UInt64.toNat_ofNat', Nat.mod_eq_of_lt (by omega)]

theorem ByteSlice.len_eq_iff {slice : ByteSlice} {count : Usize} :
    slice.len = count ↔ slice.bytes.length = count.toNat := by
  rw [← UInt64.toNat_inj, slice.toNat_len]

section Crate

inductive TensorDType
  | f32
  | f16
  | bf16
  deriving DecidableEq, Repr

def MigrationDType.toQatq : MigrationDType → TensorDType
  | .f32 => .f32
  | .f16 => .f16
  | .bf16 => .bf16

def MigrationDType.fromQatq : TensorDType → MigrationDType
  | .f32 => .f32
  | .f16 => .f16
  | .bf16 => .bf16

theorem MigrationDType.fromQatq_toQatq (dtype : MigrationDType) : fromQatq dtype.toQatq = dtype := by
  cases dtype <;> rfl

structure QatqExactTensor where
  dtype : TensorDType
  bytesLe : ByteSlice
  deriving DecidableEq

/-- The exact tensors of the `qatq` crate. -/
structure QatqExact where
  tryEncodeQatqExactTensorLe : ByteSlice → TensorDType → Except String ByteSlice
  decodeQatqExactTensorLe : ByteSlice → Except String QatqExactTensor

/-- The crate decodes what it encoded to the same bytes of the same type. -/
def QatqExact.RoundTrips (qatq : QatqExact) : Prop := ∀ bytes dtype payload,
  qatq.tryEncodeQatqExactTensorLe bytes dtype = .ok payload →
    qatq.decodeQatqExactTensorLe payload = .ok ⟨dtype, bytes⟩

end Crate

structure TensorBundleInput where
  name : String
  tensorKind : String
  dtype : MigrationDType
  layout : String
  shape : ShapeMap
  uri : String
  bytesLe : ByteSlice

structure EncodedQatqArtifact where
  manifest : QatqArtifactManifest
  payload : ByteSlice

section Artifacts

/-- `if c { return Err(error); }` -/
def failIf (c : Prop) [Decidable c] (error : QatqMigrationError) : Except QatqMigrationError Unit :=
  if c then .error error else .ok ()

@[simp] theorem failIf_ok_iff {c : Prop} [Decidable c] {error : QatqMigrationError} :
    failIf c error = .ok () ↔ ¬c := by
  unfold failIf
  split
  next h => simp [h]
  next h => simp [h]

def codecResult {α : Type} : Except String α → Except QatqMigrationError α
  | .ok a => .ok a
  | .error text => .error (.codec text)

theorem codecResult_ok_iff {α : Type} {x : Except String α} {a : α} : codecResult x = .ok a ↔ x = .ok a := by
  cases x with
  | ok b => simp [codecResult]
  | error text => simp [codecResult]

variable (sha256 : List UInt8 → List UInt8) (qatq : QatqExact)

def sha256Hex (bytes : List UInt8) : String := "sha256:" ++ lowerHex (sha256 bytes)

/-- The manifest that goes with a payload. -/
def artifactManifest (input : TensorBundleInput) (payload : ByteSlice) : QatqArtifactManifest where
  name := input.name
  tensorKind := input.tensorKind
  dtype := input.dtype
  byteOrder := "little"
  layout := input.layout
  shape := input.shape
  rawBytes := input.bytesLe.len
  encodedBytes := payload.len
  rawSha256 := sha256Hex sha256 input.bytesLe.bytes
  encodedSha256 := sha256Hex sha256 payload.bytes
  uri := input.uri

def encodeQatqArtifact (input : TensorBundleInput) (limits : QatqMigrationLimits) :
    Except QatqMigrationError EncodedQatqArtifact := do
  validateNonEmpty "artifact.name" input.name
  validateNonEmpty "artifact.tensor_kind" input.tensorKind
  validateNonEmpty "artifact.layout" input.layout
  validateNonEmpty "artifact.uri" input.uri
  validateShape input.name input.dtype input.shape input.bytesLe.len limits
  failIf (limits.maxRawBytes < input.bytesLe.len)
    (.rawTooLarge input.name input.bytesLe.len limits.maxRawBytes)
  let payload ← codecResult (qatq.tryEncodeQatqExactTensorLe input.bytesLe input.dtype.toQatq)
  failIf (limits.maxEncodedBytes < payload.len)
    (.encodedTooLarge input.name payload.len limits.maxEncodedBytes)
  pure ⟨artifactManifest sha256 input payload, payload⟩

def decodeQatqArtifact (artifact : QatqArtifactManifest) (payload : ByteSlice) (limits : QatqMigrationLimits) :
    Except QatqMigrationError ByteSlice := do
  validateArtifactManifest artifact limits
  failIf (artifact.encodedBytes ≠ payload.len)
    (.encodedSizeMismatch artifact.name artifact.encodedBytes payload.len)
  failIf (limits.maxEncodedBytes < payload.len)
    (.encodedTooLarge artifact.name payload.len limits.maxEncodedBytes)
  failIf (sha256Hex sha256 payload.bytes ≠ artifact.encodedSha256) (.encodedChecksumMismatch artifact.name)
  let decoded ← codecResult (qatq.decodeQatqExactTensorLe payload)
  let actualDtype := MigrationDType.fromQatq decoded.dtype
  failIf (actualDtype ≠ artifact.dtype) (.dTypeMismatch artifact.name artifact.dtype actualDtype)
  failIf (limits.maxRawBytes < decoded.bytesLe.len)
    (.rawTooLarge artifact.name decoded.bytesLe.len limits.maxRawBytes)
  failIf (decoded.bytesLe.len ≠ artifact.rawBytes)
    (.shapeByteCountMismatch artifact.name decoded.bytesLe.bytes.length artifact.rawBytes)
  failIf (sha256Hex sha256 decoded.bytesLe.bytes ≠ artifact.rawSha256) (.rawChecksumMismatch artifact.name)
  pure decoded.bytesLe

variable {sha256 qatq} {input : TensorBundleInput} {limits : QatqMigrationLimits} {artifact : QatqArtifactManifest}

theorem validateNonEmpty_ok_iff {field value : String} :
    validateNonEmpty field value = .ok () ↔ trimIsEmpty value = false := by
  unfold validateNonEmpty
  cases trimIsEmpty value with
  | false => simp
  | true => simp

/-- A check that returns early goes on where its condition does not hold. -/
theorem ite_error_bind_ok_iff {c : Prop} [Decidable c] {error : QatqMigrationError}
    {x : Except QatqMigrationError Unit} :
    (if c then Except.error error >>= fun _ : Unit => x else x) = .ok () ↔ ¬c ∧ x = .ok () := by
  split
  next h => exact iff_of_false (fun heq => by cases heq) fun hboth => hboth.1 h
  next h => rw [and_iff_right h]

theorem validateArtifactManifest_ok_iff : validateArtifactManifest artifact limits = .ok () ↔
    trimIsEmpty artifact.name = false ∧ trimIsEmpty artifact.tensorKind = false ∧
    trimIsEmpty artifact.layout = false ∧ trimIsEmpty artifact.uri = false ∧
    artifact.byteOrder = "little" ∧ artifact.rawBytes ≤ limits.maxRawBytes ∧
    artifact.encodedBytes ≤ limits.maxEncodedBytes ∧
    validateShape artifact.name artifact.dtype artifact.shape artifact.rawBytes limits = .ok () := by
  simp only [validateArtifactManifest, except_bind_unit_ok_iff, validateNonEmpty_ok_iff, ite_error_bind_ok_iff,
    ne_eq, not_not, UInt64.not_lt]

/-- What the encoder has checked, and what it writes. -/
theorem encodeQatqArtifact_ok_iff {encoded : EncodedQatqArtifact} :
    encodeQatqArtifact sha256 qatq input limits = .ok encoded ↔
      trimIsEmpty input.name = false ∧ trimIsEmpty input.tensorKind = false ∧
      trimIsEmpty input.layout = false ∧ trimIsEmpty input.uri = false ∧
      validateShape input.name input.dtype input.shape input.bytesLe.len limits = .ok () ∧
      input.bytesLe.len ≤ limits.maxRawBytes ∧ ∃ payload,
        qatq.tryEncodeQatqExactTensorLe input.bytesLe input.dtype.toQatq = .ok payload ∧
        payload.len ≤ limits.maxEncodedBytes ∧
        ⟨artifactManifest sha256 input payload, payload⟩ = encoded := by
  rw [encodeQatqArtifact]
  simp only [↓except_bind_unit_ok_iff, except_bind_ok_iff, validateNonEmpty_ok_iff,
    failIf_ok_iff, codecResult_ok_iff, UInt64.not_lt, pure, Except.pure, Except.ok.injEq]

theorem decodeQatqArtifact_ok_iff {payload b : ByteSlice} :
    decodeQatqArtifact sha256 qatq artifact payload limits = .ok b ↔
      validateArtifactManifest artifact limits = .ok () ∧ artifact.encodedBytes = payload.len ∧
      payload.len ≤ limits.maxEncodedBytes ∧ sha256Hex sha256 payload.bytes = artifact.encodedSha256 ∧
      (∃ decoded, qatq.decodeQatqExactTensorLe payload = .ok decoded ∧
        MigrationDType.fromQatq decoded.dtype = artifact.dtype ∧ decoded.bytesLe = b) ∧
      b.len ≤ limits.maxRawBytes ∧ b.len = artifact.rawBytes ∧ sha256Hex sha256 b.bytes = artifact.rawSha256 := by
  rw [decodeQatqArtifact]
  simp only [↓except_bind_unit_ok_iff, except_bind_ok_iff, failIf_ok_iff, codecResult_ok_iff,
    UInt64.not_lt, ne_eq, not_not, pure, Except.pure, Except.ok.injEq]
  constructor
  · rintro ⟨hmanifest, hsize, hlimit, hchecksum, decoded, hdecoded, hdtype, hraw, hlength, hsha256, rfl⟩
    exact ⟨hmanifest, hsize, hlimit, hchecksum, ⟨decoded, hdecoded, hdtype, rfl⟩, hraw, hlength, hsha256⟩
  · rintro ⟨hmanifest, hsize, hlimit, hchecksum, ⟨decoded, hdecoded, hdtype, rfl⟩, hraw, hlength, hsha256⟩
    exact ⟨hmanifest, hsize, hlimit, hchecksum, decoded, hdecoded, hdtype, hraw, hlength, hsha256, rfl⟩

/-- What was encoded is decoded to the same bytes, and whatever is decoded is what its manifest says. -/
theorem qatqArtifact_roundTrip (sha256 : List UInt8 → List UInt8) (qatq : QatqExact) (hqatq : qatq.RoundTrips) :
    (∀ input limits encoded, encodeQatqArtifact sha256 qatq input limits = .ok encoded →
      decodeQatqArtifact sha256 qatq encoded.manifest encoded.payload limits = .ok input.bytesLe) ∧
    ∀ artifact payload limits b, decodeQatqArtifact sha256 qatq artifact payload limits = .ok b →
      b.bytes.length = artifact.rawBytes.toNat ∧ sha256Hex sha256 b.bytes = artifact.rawSha256 ∧
      b.bytes.length ≤ limits.maxRawBytes.toNat ∧
      sha256Hex sha256 payload.bytes = artifact.encodedSha256 ∧
      payload.bytes.length ≤ limits.maxEncodedBytes.toNat := by
  refine ⟨?_, ?_⟩
  · intro input limits encoded hencode
    obtain ⟨hname, hkind, hlayout, huri, hshape, hraw, payload, hpayload, hlimit, rfl⟩ :=
      encodeQatqArtifact_ok_iff.mp hencode
    have hdecoded := hqatq _ _ _ hpayload
    have hmanifest : validateArtifactManifest (artifactManifest sha256 input payload) limits = .ok () :=
      validateArtifactManifest_ok_iff.mpr ⟨hname, hkind, hlayout, huri, rfl, hraw, hlimit, hshape⟩
    have hdtype := input.dtype.fromQatq_toQatq
    exact decodeQatqArtifact_ok_iff.mpr
      ⟨hmanifest, rfl, hlimit, rfl, ⟨_, hdecoded, hdtype, rfl⟩, hraw, rfl, rfl⟩
  · intro artifact payload limits b hdecode
    obtain ⟨_, _, hlimit, hchecksum, _, hraw, hlength, hsha256⟩ := decodeQatqArtifact_ok_iff.mp hdecode
    rw [UInt64.le_iff_toNat_le, ByteSlice.toNat_len] at hlimit hraw
    exact ⟨ByteSlice.len_eq_iff.mp hlength, hsha256, hraw, hchecksum, hlimit⟩

/-- A crate that puts one byte for the type before the bytes of a tensor. -/
def taggedTensors : QatqExact where
  tryEncodeQatqExactTensorLe slice dtype :=
    if h : slice.bytes.length + 1 < 2 ^ 63 then
      .ok ⟨(match dtype with | .f32 => 0 | .f16 => 1 | .bf16 => 2) :: slice.bytes, h⟩
    else .error "tensor too large"
  decodeQatqExactTensorLe
    | ⟨0 :: bytes, h⟩ => .ok ⟨.f32, bytes, by simp at h; omega⟩
    | ⟨1 :: bytes, h⟩ => .ok ⟨.f16, bytes, by simp at h; omega⟩
    | ⟨2 :: bytes, h⟩ => .ok ⟨.bf16, bytes, by simp at h; omega⟩
    | _ => .error "unknown tensor type"

theorem taggedTensors_roundTrips : taggedTensors.RoundTrips := by
  intro slice dtype payload h
  simp only [taggedTensors] at h
  split at h
  next =>
    cases h
    cases dtype with
    | f32 => rfl
    | f16 => rfl
    | bf16 => rfl
  next => cases h

/-- The tensor of the repository's own tests: sixteen half floats. -/
def wholeCache : TensorBundleInput where
  name := "cache_all"
  tensorKind := "kv-cache-packed"
  dtype := .f16
  layout := "packed-layer-major-kv"
  shape := ⟨[("head_dim", 2), ("kv_heads", 2), ("layers", 1), ("tokens", 4)], by decide⟩
  uri := "s3://permeantos-migrations/test/kv/cache_all.qatc"
  bytesLe := ⟨(List.range 16).flatMap fun n => [UInt8.ofNat n, 0], by decide⟩

def wholeCachePayload : ByteSlice := ⟨1 :: wholeCache.bytesLe.bytes, by decide⟩

theorem wholeCache_roundTrip : ∃ encoded,
    encodeQatqArtifact Sha256.digest taggedTensors wholeCache .default = .ok encoded ∧
    decodeQatqArtifact Sha256.digest taggedTensors encoded.manifest encoded.payload .default = .ok wholeCache.bytesLe := by
  have hshape : validateShape wholeCache.name wholeCache.dtype wholeCache.shape wholeCache.bytesLe.len .default = .ok () := by
    decide +kernel
  have hencode : encodeQatqArtifact Sha256.digest taggedTensors wholeCache .default =
      .ok ⟨artifactManifest Sha256.digest wholeCache wholeCachePayload, wholeCachePayload⟩ :=
    encodeQatqArtifact_ok_iff.mpr
      ⟨by decide, by decide, by decide, by decide, hshape, by decide, _, rfl, by decide, rfl⟩
  exact ⟨_, hencode, (qatqArtifact_roundTrip Sha256.digest taggedTensors taggedTensors_roundTrips).1 _ _ _ hencode⟩

end Artifacts

end PermeantOS
