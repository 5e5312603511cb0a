import PermeantOS.ByteWords
import PermeantOS.Fallible
import Mathlib.Algebra.Order.Floor.Div

namespace PermeantOS

/-- `usize` on the 64-bit targets the daemon runs on. -/
abbrev Usize := UInt64

/-- `usize::div_ceil`, which the callers apply to a non-zero divisor only. -/
def divCeil (a b : Usize) : Usize :=
  if 0 < a % b then a / b + 1 else a / b

inductive AttentionType
  | mha | gqa | mqa | mla | hybrid | other
  deriving DecidableEq, Repr

inductive ExchangeDtype
  | float16 | bfloat16 | float32
  deriving DecidableEq, Repr

structure ModelIdentity where
  configHash : String
  weightsRevision : String
  deriving DecidableEq, Repr

/-- `ropeTheta` holds the bit pattern of the `f64`. -/
structure ModelCacheSpec where
  nLayers : Usize
  nQHeads : Usize
  nKvHeads : Usize
  headDim : Usize
  hiddenSize : Usize
  maxPositionEmbeddings : Option Usize
  ropeTheta : Option UInt64
  slidingWindow : Option Usize
  deriving DecidableEq, Repr

structure MlaSpec where
  latentDim : Usize
  ropeHeadDim : Usize
  nopeHeadDim : Usize
  kvLoraRank : Usize
  deriving DecidableEq, Repr

structure ChatState where
  templateName : String
  templateHash : String
  turnBoundaries : List Usize
  roles : List String
  deriving DecidableEq, Repr

structure QuantizationInfo where
  scheme : String
  groupSize : Option Usize
  deriving DecidableEq, Repr

structure UsxfHeader where
  usxfVersion : String
  modelArchitecture : String
  modelIdentity : ModelIdentity
  attentionType : AttentionType
  modelCacheSpec : ModelCacheSpec
  mlaSpec : Option MlaSpec
  chatState : Option ChatState
  tokenIds : List UInt32
  seqLen : Usize
  batchSize : UInt32
  dtype : ExchangeDtype
  sourceQuantization : Option QuantizationInfo
  transferQuantization : Option QuantizationInfo
  blockSize : Usize
  blockHashes : List String
  positionIds : Option (List Usize)
  createdAt : String
  extractorId : String
  checksum : String
  signature : String
  deriving DecidableEq, Repr

def usxfCurrentVersion : String := "1.1"

def startsWithSha256 (value : String) : Bool :=
  "sha256:".toList.isPrefixOf value.toList

def validateHeader (header : UsxfHeader) : Fallible Unit := do
  bailIf (header.usxfVersion ≠ usxfCurrentVersion)
    s!"Invalid USXF version: expected '{usxfCurrentVersion}', found '{header.usxfVersion}'"
  bailIf (header.batchSize ≠ 1)
    s!"USXF v1.1 supports only single-sequence migration (batch_size must be 1). Found batch_size: {header.batchSize}"
  bailIf (header.seqLen = 0) "seq_len must be greater than 0"
  bailIf (header.blockSize = 0) "block_size must be greater than 0"
  let expectedBlocks := divCeil header.seqLen header.blockSize
  bailIf (header.blockHashes.length ≠ expectedBlocks.toNat)
    s!"Mismatch in block_hashes size. seq_len: {header.seqLen}, block_size: {header.blockSize}, expected {expectedBlocks} hashes, found {header.blockHashes.length}"
  bailIf (header.attentionType = .mla ∧ header.mlaSpec = none)
    "mla_spec is required when attention_type is 'mla'"
  bailIf (startsWithSha256 header.modelIdentity.configHash = false)
    "model_identity.config_hash must start with 'sha256:'"
  bailIf (startsWithSha256 header.checksum = false) "checksum must start with 'sha256:'"

/-- A header that passed `validate_header`. -/
def UsxfHeader.Valid (header : UsxfHeader) : Prop := validateHeader header = .ok ()

instance (header : UsxfHeader) : Decidable header.Valid :=
  inferInstanceAs (Decidable (validateHeader header = .ok ()))

theorem validateHeader_ok_iff {header : UsxfHeader} :
    header.Valid ↔
      header.usxfVersion = usxfCurrentVersion ∧ header.batchSize = 1 ∧ header.seqLen ≠ 0 ∧
      header.blockSize ≠ 0 ∧
      header.blockHashes.length = (divCeil header.seqLen header.blockSize).toNat ∧
      ¬(header.attentionType = .mla ∧ header.mlaSpec = none) ∧
      startsWithSha256 header.modelIdentity.configHash = true ∧
      startsWithSha256 header.checksum = true := by
  simp only [UsxfHeader.Valid, validateHeader, except_bind_unit_ok_iff, bailIf_ok_iff, not_not,
    Bool.not_eq_false, ne_eq]

theorem usize_pos_of_ne_zero {x : Usize} (h : x ≠ 0) : 0 < x.toNat := by
  apply Nat.pos_of_ne_zero
  intro hz
  exact h (UInt64.toNat_inj.mp (by simpa using hz))

/-- The code's rounded-up division is the mathematical one; the increment never wraps. -/
theorem divCeil_toNat {a b : Usize} (hb : b ≠ 0) : (divCeil a b).toNat = a.toNat ⌈/⌉ b.toNat := by
  have hpos := usize_pos_of_ne_zero hb
  have ha : a.toNat < 2 ^ 64 := a.toNat_lt
  have hdm := Nat.div_add_mod a.toNat b.toNat
  have hmod := Nat.mod_lt a.toNat hpos
  rw [Nat.ceilDiv_eq_add_pred_div]
  unfold divCeil
  split
  next hr =>
    have hr' : 0 < a.toNat % b.toNat := by simpa [UInt64.lt_iff_toNat_lt] using hr
    have hq : a.toNat / b.toNat < 2 ^ 63 := by
      apply Nat.div_lt_of_lt_mul
      have : 2 ≤ b.toNat := by omega
      calc a.toNat < 2 * 2 ^ 63 := by omega
        _ ≤ b.toNat * 2 ^ 63 := Nat.mul_le_mul_right _ this
    have hsum : (a / b + 1).toNat = a.toNat / b.toNat + 1 := by
      rw [UInt64.toNat_add, UInt64.toNat_div]
      exact Nat.mod_eq_of_lt (by simp; omega)
    rw [hsum]
    symm
    rw [Nat.div_eq_iff hpos]
    constructor
    · calc (a.toNat / b.toNat + 1) * b.toNat = b.toNat * (a.toNat / b.toNat) + b.toNat := by ring
        _ ≤ a.toNat + b.toNat - 1 := by omega
    · calc a.toNat + b.toNat - 1 ≤ b.toNat * (a.toNat / b.toNat) + b.toNat + b.toNat - 1 := by omega
        _ = (a.toNat / b.toNat + 1) * b.toNat + b.toNat - 1 := by ring_nf
  next hr =>
    have hr' : a.toNat % b.toNat = 0 := by
      have : ¬0 < a.toNat % b.toNat := by simpa [UInt64.lt_iff_toNat_lt] using hr
      omega
    rw [UInt64.toNat_div]
    symm
    rw [Nat.div_eq_iff hpos]
    constructor
    · calc a.toNat / b.toNat * b.toNat = b.toNat * (a.toNat / b.toNat) := Nat.mul_comm _ _
        _ ≤ a.toNat + b.toNat - 1 := by omega
    · calc a.toNat + b.toNat - 1 = b.toNat * (a.toNat / b.toNat) + b.toNat - 1 := by omega
        _ ≤ a.toNat / b.toNat * b.toNat + b.toNat - 1 := by rw [Nat.mul_comm]

/-- A well-formed digest that repeats one hexadecimal digit. -/
def repeatedDigest (digit : Char) : String := "sha256:" ++ String.ofList (List.replicate 64 digit)

theorem repeatedDigest_toList (digit : Char) :
    (repeatedDigest digit).toList = "sha256:".toList ++ List.replicate 64 digit := by
  simp [repeatedDigest]

theorem startsWithSha256_repeatedDigest (digit : Char) :
    startsWithSha256 (repeatedDigest digit) = true := by
  rw [startsWithSha256, repeatedDigest_toList, List.isPrefixOf_iff_prefix]
  exact List.prefix_append _ _

theorem repeatedDigest_injective {a b : Char} (h : repeatedDigest a = repeatedDigest b) : a = b := by
  have hl := congrArg String.toList h
  rw [repeatedDigest_toList, repeatedDigest_toList, List.append_cancel_left_eq] at hl
  exact List.replicate_right_inj (by decide) |>.mp hl

/-- The header of the daemon's own tests: one layer, one head of four dimensions, one block. -/
def testHeader (blockHashes : List String) (seqLen : Usize) : UsxfHeader where
  usxfVersion := "1.1"
  modelArchitecture := "test-model"
  modelIdentity := ⟨repeatedDigest '1', "test"⟩
  attentionType := .gqa
  modelCacheSpec := ⟨1, 2, 1, 4, 8, some 128, some 0x40c3880000000000, none⟩
  mlaSpec := none
  chatState := none
  tokenIds := List.replicate seqLen.toNat 42
  seqLen := seqLen
  batchSize := 1
  dtype := .float32
  sourceQuantization := none
  transferQuantization := none
  blockSize := seqLen
  blockHashes := blockHashes
  positionIds := none
  createdAt := "2026-01-01T00:00:00Z"
  extractorId := "test-extractor"
  checksum := repeatedDigest '0'
  signature := ""

theorem testHeader_valid (blockHashes : List String) (seqLen blockSize : Usize) (hs : seqLen ≠ 0)
    (hb : blockSize ≠ 0) (hlen : blockHashes.length = (divCeil seqLen blockSize).toNat) :
    UsxfHeader.Valid { testHeader blockHashes seqLen with blockSize } :=
  validateHeader_ok_iff.mpr ⟨rfl, rfl, hs, hb, hlen, by simp [testHeader],
    startsWithSha256_repeatedDigest _, startsWithSha256_repeatedDigest _⟩

/-- `slice::chunks`, for a non-zero chunk length. -/
def chunks {α : Type} (xs : List α) (n : Nat) : List (List α) :=
  (List.range (xs.length ⌈/⌉ n)).map fun i => (xs.drop (i * n)).take n

def hexDigit (n : Nat) : Char :=
  if n < 10 then Char.ofNat (48 + n) else Char.ofNat (87 + n)

def lowerHex (bytes : List UInt8) : String :=
  String.ofList (bytes.flatMap fun b => [hexDigit (b.toNat / 16), hexDigit (b.toNat % 16)])

theorem hexDigit_injective : ∀ a < 16, ∀ b < 16, hexDigit a = hexDigit b → a = b := by decide

theorem lowerHex_injective {a b : List UInt8} (h : lowerHex a = lowerHex b) : a = b := by
  have hl : (a.flatMap fun x => [hexDigit (x.toNat / 16), hexDigit (x.toNat % 16)]) =
      b.flatMap fun x => [hexDigit (x.toNat / 16), hexDigit (x.toNat % 16)] := by
    simpa [lowerHex] using congrArg String.toList h
  clear h
  induction a generalizing b with
  | nil =>
    cases b with
    | nil => rfl
    | cons y b => simp at hl
  | cons x a ih =>
    cases b with
    | nil => simp at hl
    | cons y b =>
      simp only [List.flatMap_cons, List.cons_append, List.nil_append, List.cons.injEq] at hl
      obtain ⟨hhigh, hlow, hrest⟩ := hl
      have hx : x.toNat < 256 := x.toNat_lt
      have hy : y.toNat < 256 := y.toNat_lt
      have hdiv := hexDigit_injective _ (by omega) _ (by omega) hhigh
      have hmod := hexDigit_injective _ (by omega) _ (by omega) hlow
      have heq : x = y := UInt8.toNat_inj.mp (by omega)
      rw [heq, ih hrest]

def computeSha256 (sha256 : List UInt8 → List UInt8) (payload : List UInt8) : String :=
  "sha256:" ++ lowerHex (sha256 payload)

theorem computeSha256_injective {sha256 : List UInt8 → List UInt8} {a b : List UInt8}
    (h : computeSha256 sha256 a = computeSha256 sha256 b) : sha256 a = sha256 b :=
  lowerHex_injective ((String.append_right_inj _).mp h)

def computeTokenBlockHashes (sha256 : List UInt8 → List UInt8) (tokens : List UInt32)
    (blockSize : Nat) : List String :=
  (chunks tokens blockSize).map fun chunk => computeSha256 sha256 (chunk.flatMap u32ToBeBytes)

end PermeantOS
