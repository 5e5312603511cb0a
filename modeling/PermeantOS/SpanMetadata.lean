import PermeantOS.AgentValues
import Mathlib.Data.Finset.Sort
import Mathlib.Data.String.Basic

namespace PermeantOS

variable {P : Type}

section Digests

def isLowerHexdigit (c : Char) : Bool := isDigit c || ('a' ≤ c && c ≤ 'f')

/-- `SHA256_RE.match(text)`, whose `$` also stands before a line feed that ends the text. -/
def matchesSha256 (text : String) : Bool :=
  let digits := text.toList.drop 7
  "sha256:".toList.isPrefixOf text.toList && decide ((digits.take 64).length = 64) &&
    (digits.take 64).all isLowerHexdigit && (digits.drop 64 = [] || digits.drop 64 = ['\n'])

def ensureSha256 (name : String) : Json P → Except PyException String
  | .str text =>
    if matchesSha256 text = true then .ok text
    else .error (.spanMetadataError (name ++ " must be a sha256: hash"))
  | _ => .error (.spanMetadataError (name ++ " must be a sha256: hash"))

/-- `int(token_id).to_bytes(4, byteorder="big")` -/
def tokenIdBytes (tokenId : Int) : Except PyException (List UInt8) :=
  if tokenId < 0 then .error (.spanMetadataError "token ids must be non-negative")
  else if tokenId < 4294967296 then .ok (bigEndian 4 tokenId.toNat)
  else .error .overflowError

/-- `raise AgentGraphSpanMetadataError(message)` where `c` holds. -/
def refuseSpan (c : Prop) [Decidable c] (message : String) : Except PyException Unit :=
  if c then .error (.spanMetadataError message) else .ok ()

@[simp] theorem refuseSpan_ok_iff {c : Prop} [Decidable c] {message : String} :
    refuseSpan c message = .ok () ↔ ¬c := by
  unfold refuseSpan
  split
  next h => simp [h]
  next h => simp [h]

variable (host : AgentHost P)

/-- `token_hash` -/
def SpanMetadata.tokenHash (tokenIds : List Int) : Except PyException String := do
  let bytes ← tokenIds.mapM tokenIdBytes
  pure (sha256Bytes host bytes.flatten)

end Digests

section Build

variable (host : AgentHost P)

structure SpanArguments (P : Type) where
  prompt : Json P
  tokenIds : List Int
  tokenizerHash : Json P
  modelId : Json P
  runtime : Json P
  cacheRef : Json P
  nodeId : Json P
  blockHashes : Json P

def requireText (value : Json P) (message : String) : Except PyException String :=
  match nonEmptyString value with
  | some text => .ok text
  | none => .error (.spanMetadataError message)

/-- `for index, block_hash in enumerate(hashes): _ensure_sha256(...)` -/
def ensureBlockHashes (span : Nat) : Nat → List (Json P) → Except PyException Unit
  | _, [] => .ok ()
  | index, blockHash :: rest => do
    let _ ← ensureSha256 s!"kv_spans[{span}].block_hashes[{index}]" blockHash
    ensureBlockHashes span (index + 1) rest

/-- `block_hashes or [token_hash(token_ids)]` -/
def chosenHashes (arguments : SpanArguments P) : Except PyException (Json P) :=
  if arguments.blockHashes.truthy host.toAdapterHost = true then .ok arguments.blockHashes
  else do
    let tokenHash ← SpanMetadata.tokenHash host arguments.tokenIds
    pure (.list [.str tokenHash])

def spanFields (arguments : SpanArguments P) (tokenizerHash : String) (hashes : Json P) : Json P :=
  .dict [("node_id", arguments.nodeId), ("token_start", .int 0), ("token_end", .int arguments.tokenIds.length),
    ("cache_ref", arguments.cacheRef), ("tokenizer_hash", .str tokenizerHash), ("block_hashes", hashes)]

def metadataFields (arguments : SpanArguments P) (prompt modelId runtime tokenizerHash tokenHash : String)
    (hashes : Json P) : Json P :=
  .dict [("version", .str "0.1"), ("source_runtime", .str runtime), ("model_id", .str modelId),
    ("prompt", .dict [("byte_hash", .str (sha256Bytes host (asBytes prompt))), ("token_hash", .str tokenHash),
      ("token_count", .int arguments.tokenIds.length), ("tokenizer_hash", .str tokenizerHash)]),
    ("kv_spans", .list [spanFields arguments tokenizerHash hashes]),
    ("binding", .dict [("prompt_used_for_prefill", .bool true), ("same_prompt_required_on_target", .bool true)])]

def buildPromptSpanMetadata (arguments : SpanArguments P) : Except PyException (Json P) := do
  let prompt ← requireText arguments.prompt "prompt must be a non-empty string"
  refuseSpan (arguments.tokenIds = []) "token_ids must not be empty"
  let modelId ← requireText arguments.modelId "model_id must be a non-empty string"
  let runtime ← requireText arguments.runtime "runtime must be a non-empty string"
  let tokenizerHash ← ensureSha256 "tokenizer_hash" arguments.tokenizerHash
  let hashes ← chosenHashes host arguments
  let items ← hashes.iterate
  ensureBlockHashes 0 0 items
  let tokenHash ← SpanMetadata.tokenHash host arguments.tokenIds
  pure (metadataFields host arguments prompt modelId runtime tokenizerHash tokenHash hashes)

end Build

section Validate

variable (host : AgentHost P)

/-- What a target expects of the prompt, as far as it says. -/
structure PromptView (P : Type) where
  expectedPrompt : Option String
  expectedTokenCount : Option Int
  expectedTokenIds : Option (Json P)
  expectedTokenizerHash : Option String

/-- The prompt of the metadata, with its token count as it stands and as a number. -/
structure SpanPrompt (P : Type) where
  byteHash : String
  tokenHash : String
  tokenizerHash : String
  tokenCount : Json P
  count : Int

def checkedPrompt (prompt : Fields P) : Except PyException (SpanPrompt P) := do
  let byteHash ← ensureSha256 "prompt.byte_hash" ((prompt.lookup "byte_hash").getD .null)
  let tokenHash ← ensureSha256 "prompt.token_hash" ((prompt.lookup "token_hash").getD .null)
  let tokenizerHash ← ensureSha256 "prompt.tokenizer_hash" ((prompt.lookup "tokenizer_hash").getD .null)
  let tokenCount := (prompt.lookup "token_count").getD .null
  match tokenCount.asInt.filter (0 < ·) with
  | some count => pure ⟨byteHash, tokenHash, tokenizerHash, tokenCount, count⟩
  | none => .error (.spanMetadataError "prompt.token_count must be a positive integer")

def checkExpectedPrompt (prompt : SpanPrompt P) : Option String → Except PyException Unit
  | none => .ok ()
  | some expected => refuseSpan (sha256Bytes host (asBytes expected) ≠ prompt.byteHash)
      "target prompt does not match graph span prompt byte hash"

def checkExpectedTokenCount (prompt : SpanPrompt P) : Option Int → Except PyException Unit
  | none => .ok ()
  | some expected => refuseSpan (expected ≠ prompt.count)
      "target prompt token count does not match graph span metadata"

def checkExpectedTokenIds (prompt : SpanPrompt P) : Option (Json P) → Except PyException Unit
  | none => .ok ()
  | some (.list items) => do
    refuseSpan (items.any (fun item => item.asInt.isNone) = true)
      "target prompt token ids must be an integer list"
    refuseSpan (((dimValues items).length : Int) ≠ prompt.count)
      "target prompt token ids length does not match graph span metadata"
    let tokenHash ← SpanMetadata.tokenHash host (dimValues items)
    refuseSpan (tokenHash ≠ prompt.tokenHash) "target prompt token hash does not match graph span metadata"
  | some _ => .error (.spanMetadataError "target prompt token ids must be an integer list")

def checkExpectedTokenizerHash (prompt : SpanPrompt P) : Option String → Except PyException Unit
  | none => .ok ()
  | some expected => do
    let tokenizerHash ← ensureSha256 "target tokenizer_hash" (.str expected : Json P)
    refuseSpan (tokenizerHash ≠ prompt.tokenizerHash) "target tokenizer hash does not match graph span metadata"

/-- The non-empty list of a span's block hashes. -/
def spanBlockHashes (index : Nat) (span : Fields P) : Except PyException (List (Json P)) :=
  match (span.lookup "block_hashes").getD .null with
  | .list (blockHash :: rest) => .ok (blockHash :: rest)
  | _ => .error (.spanMetadataError s!"kv_spans[{index}].block_hashes must be a non-empty list")

/-- The checks of one span, which is named in the result by its cache reference. -/
def checkSpan (prompt : SpanPrompt P) (index : Nat) : Json P → Except PyException String
  | .dict span => do
    let _ ← requireText ((span.lookup "node_id").getD .null) s!"kv_spans[{index}].node_id must not be empty"
    let cacheRef ← requireText ((span.lookup "cache_ref").getD .null)
      s!"kv_spans[{index}].cache_ref must not be empty"
    refuseSpan (¬(pyEq host ((span.lookup "token_start").getD .null) (.int 0) = true ∧
        pyEq host ((span.lookup "token_end").getD .null) prompt.tokenCount = true))
      s!"kv_spans[{index}] must cover the full prompt token range"
    refuseSpan (¬pyEq host ((span.lookup "tokenizer_hash").getD .null) (.str prompt.tokenizerHash) = true)
      s!"kv_spans[{index}].tokenizer_hash must match prompt.tokenizer_hash"
    let blockHashes ← spanBlockHashes index span
    ensureBlockHashes index 0 blockHashes
    pure cacheRef
  | _ => .error (.spanMetadataError s!"kv_spans[{index}] must be an object")

def checkSpans (prompt : SpanPrompt P) : Nat → List (Json P) → Except PyException (List String)
  | _, [] => .ok []
  | index, span :: rest => do
    let cacheRef ← checkSpan host prompt index span
    let cacheRefs ← checkSpans prompt (index + 1) rest
    pure (cacheRef :: cacheRefs)

def metadataObject : Json P → Except PyException (Fields P)
  | .dict metadata => .ok metadata
  | _ => .error (.spanMetadataError "agent_graph_span_metadata must be an object")

def promptObject (metadata : Fields P) : Except PyException (Fields P) :=
  match (metadata.lookup "prompt").getD .null with
  | .dict prompt => .ok prompt
  | _ => .error (.spanMetadataError "agent_graph_span_metadata.prompt must be an object")

def spanList (metadata : Fields P) : Except PyException (List (Json P)) :=
  match (metadata.lookup "kv_spans").getD .null with
  | .list (span :: rest) => .ok (span :: rest)
  | _ => .error (.spanMetadataError "agent_graph_span_metadata.kv_spans must be a non-empty list")

def PromptView.isVerified (view : PromptView P) : Bool :=
  view.expectedPrompt.isSome || view.expectedTokenCount.isSome || view.expectedTokenIds.isSome ||
    view.expectedTokenizerHash.isSome

def validationResult (prompt : SpanPrompt P) (spans : List (Json P)) (cacheRefs : List String)
    (view : PromptView P) : Json P :=
  .dict [("success", .bool true), ("prompt_byte_hash", .str prompt.byteHash),
    ("prompt_token_hash", .str prompt.tokenHash), ("tokenizer_hash", .str prompt.tokenizerHash),
    ("token_count", prompt.tokenCount), ("kv_span_count", .int spans.length),
    ("cache_refs", .list ((cacheRefs.toFinset.sort (· ≤ ·)).map .str)),
    ("target_tokenizer_view_verified", .bool view.isVerified)]

def validatePromptSpanMetadata (metadata : Json P) (view : PromptView P) : Except PyException (Json P) := do
  let metadata ← metadataObject metadata
  refuseSpan (¬pyEq host ((metadata.lookup "version").getD .null) (.str "0.1") = true)
    "agent_graph_span_metadata.version must be 0.1"
  let _ ← requireText ((metadata.lookup "source_runtime").getD .null) "source_runtime must be a non-empty string"
  let _ ← requireText ((metadata.lookup "model_id").getD .null) "model_id must be a non-empty string"
  let promptFields ← promptObject metadata
  let prompt ← checkedPrompt promptFields
  checkExpectedPrompt host prompt view.expectedPrompt
  checkExpectedTokenCount prompt view.expectedTokenCount
  checkExpectedTokenIds host prompt view.expectedTokenIds
  checkExpectedTokenizerHash prompt view.expectedTokenizerHash
  let spans ← spanList metadata
  let cacheRefs ← checkSpans host prompt 0 spans
  pure (validationResult prompt spans cacheRefs view)

end Validate

end PermeantOS
