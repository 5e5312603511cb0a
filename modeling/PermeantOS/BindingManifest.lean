import Mathlib.Order.Interval.Finset.Nat
import PermeantOS.BindingCheck

namespace PermeantOS

structure AgentGraphKvSpan where
  nodeId : String
  tokenStart : Usize
  tokenEnd : Usize
  cacheRef : String
  tokenizerHash : Option String
  blockHashes : List String
  deriving DecidableEq, Repr

structure AgentGraphArtifactHash where
  path : String
  sha256 : String
  sizeBytes : Option UInt64
  deriving DecidableEq, Repr

structure AgentGraphManifest where
  manifestPath : String
  graphPath : String
  graphHash : String
  promptByteHash : Option String
  promptTokenHash : Option String
  tokenizerHash : Option String
  kvHash : Option String
  kvSpans : List AgentGraphKvSpan
  artifacts : List AgentGraphArtifactHash
  deriving DecidableEq, Repr

def AgentGraphManifest.toBinding (manifest : AgentGraphManifest) (header : UsxfHeader) :
    AgentGraphBinding where
  manifestPath := manifest.manifestPath
  graphPath := manifest.graphPath
  graphHash := manifest.graphHash
  promptByteHash := manifest.promptByteHash
  promptTokenHash := manifest.promptTokenHash
  tokenizerHash := manifest.tokenizerHash
  kvHash := manifest.kvHash
  kvSpans := manifest.kvSpans.map fun span =>
    ⟨span.nodeId, span.tokenStart, span.tokenEnd, span.cacheRef, span.tokenizerHash,
      blockHashesForSpan header span.tokenStart span.tokenEnd⟩
  artifacts := manifest.artifacts.map fun artifact =>
    ⟨artifact.path, artifact.sha256, artifact.sizeBytes⟩

structure AgentGraphPromptManifest where
  byteHash : Option String
  tokenHash : Option String
  tokenizerHash : Option String
  deriving DecidableEq, Repr

structure AgentGraphKvManifest where
  kvHash : Option String
  deriving DecidableEq, Repr

structure AgentGraphPackageKvSpan where
  nodeId : String
  tokenStart : Usize
  tokenEnd : Usize
  cacheRef : String
  tokenizerHash : Option String
  blockHashes : Option (List String)
  deriving DecidableEq, Repr

structure AgentGraphPackageArtifact where
  path : String
  sha256 : String
  sizeBytes : Option UInt64
  deriving DecidableEq, Repr

structure AgentGraphPackageManifest where
  graphPath : String
  graphHash : String
  prompt : Option AgentGraphPromptManifest
  kv : Option AgentGraphKvManifest
  kvSpans : Option (List AgentGraphPackageKvSpan)
  artifacts : Option (List AgentGraphPackageArtifact)
  deriving DecidableEq, Repr

def validateAgentGraphKvSpan (index : Nat) (span : AgentGraphPackageKvSpan) :
    Fallible AgentGraphKvSpan := do
  validateSpanIdentity index span.nodeId span.cacheRef span.tokenStart span.tokenEnd
  validateOptionalSha256 s!"agent_graph.kv_spans[{index}].tokenizer_hash" span.tokenizerHash
  let blockHashes := span.blockHashes.getD []
  checkEach (fun _ blockHash =>
    ensureSha256Field s!"agent_graph.kv_spans[{index}].block_hashes" blockHash) 0 blockHashes
  pure ⟨span.nodeId, span.tokenStart, span.tokenEnd, span.cacheRef, span.tokenizerHash, blockHashes⟩

def validatePackageArtifact (artifact : AgentGraphPackageArtifact) :
    Fallible AgentGraphArtifactHash := do
  ensureSha256Field "agent_graph.artifacts.sha256" artifact.sha256
  pure ⟨artifact.path, artifact.sha256, artifact.sizeBytes⟩

def validatePackagePrompt : Option AgentGraphPromptManifest → Fallible Unit
  | some prompt => do
    validateOptionalSha256 "agent_graph.prompt.byte_hash" prompt.byteHash
    validateOptionalSha256 "agent_graph.prompt.token_hash" prompt.tokenHash
    validateOptionalSha256 "agent_graph.prompt.tokenizer_hash" prompt.tokenizerHash
  | none => .ok ()

/-- The file system, and what `serde_json` makes of a file. -/
structure ManifestFiles where
  read : String → Option (List UInt8)
  fromSlice : List UInt8 → Option AgentGraphPackageManifest

def loadAgentGraphManifest (files : ManifestFiles) :
    Option String → Fallible (Option AgentGraphManifest)
  | none => .ok none
  | some path => do
    let manifestBytes ← contextOption s!"Failed to read Agent Memory Graph manifest at {path}"
      (files.read path)
    let package ← contextOption s!"Failed to parse Agent Memory Graph manifest at {path}"
      (files.fromSlice manifestBytes)
    ensureSha256Field "agent_graph.graph_hash" package.graphHash
    validatePackagePrompt package.prompt
    validateOptionalSha256 "agent_graph.kv.kv_hash" (package.kv.bind (·.kvHash))
    let kvSpans ← collectEach validateAgentGraphKvSpan 0 (package.kvSpans.getD [])
    let artifacts ← collectEach (fun _ => validatePackageArtifact) 0 (package.artifacts.getD [])
    pure (some ⟨path, package.graphPath, package.graphHash, package.prompt.bind (·.byteHash),
      package.prompt.bind (·.tokenHash), package.prompt.bind (·.tokenizerHash),
      package.kv.bind (·.kvHash), kvSpans, artifacts⟩)

structure AgentGraphKvSpan.Loaded (span : AgentGraphKvSpan) : Prop where
  nodeId : trimIsEmpty span.nodeId = false
  cacheRef : trimIsEmpty span.cacheRef = false
  ordered : span.tokenStart < span.tokenEnd
  tokenizerSha256 : ∀ v, span.tokenizerHash = some v → IsSha256 v
  blockHashes : ∀ blockHash ∈ span.blockHashes, IsSha256 blockHash

structure AgentGraphManifest.Loaded (manifest : AgentGraphManifest) : Prop where
  graphHash : IsSha256 manifest.graphHash
  promptByteSha256 : ∀ v, manifest.promptByteHash = some v → IsSha256 v
  promptTokenSha256 : ∀ v, manifest.promptTokenHash = some v → IsSha256 v
  tokenizerSha256 : ∀ v, manifest.tokenizerHash = some v → IsSha256 v
  kvSha256 : ∀ v, manifest.kvHash = some v → IsSha256 v
  kvSpans : ∀ span ∈ manifest.kvSpans, span.Loaded
  artifacts : ∀ artifact ∈ manifest.artifacts, IsSha256 artifact.sha256

theorem validateAgentGraphKvSpan_loaded {index : Nat} {span : AgentGraphPackageKvSpan}
    {loaded : AgentGraphKvSpan} (h : validateAgentGraphKvSpan index span = .ok loaded) :
    loaded.Loaded := by
  have hcheck : ∀ (_ : Nat) blockHash, ensureSha256Field
      s!"agent_graph.kv_spans[{index}].block_hashes" blockHash = .ok () ↔ IsSha256 blockHash :=
    fun _ _ => ensureSha256Field_ok_iff
  unfold validateAgentGraphKvSpan at h
  obtain ⟨hid, h⟩ := except_bind_unit_ok_iff.mp h
  obtain ⟨htok, h⟩ := except_bind_unit_ok_iff.mp h
  obtain ⟨hblocks, h⟩ := except_bind_unit_ok_iff.mp h
  cases h
  obtain ⟨hn, hc, ho⟩ := validateSpanIdentity_ok_iff.mp hid
  exact ⟨hn, hc, ho, validateOptionalSha256_ok_iff.mp htok,
    (checkEach_ok_iff_forall hcheck).mp hblocks⟩

theorem validatePackageArtifact_sha256 {artifact : AgentGraphPackageArtifact}
    {loaded : AgentGraphArtifactHash} (h : validatePackageArtifact artifact = .ok loaded) :
    IsSha256 loaded.sha256 := by
  obtain ⟨hs, h⟩ := except_bind_unit_ok_iff.mp h
  cases h
  exact ensureSha256Field_ok_iff.mp hs

theorem validatePackagePrompt_ok_iff {prompt : Option AgentGraphPromptManifest} :
    validatePackagePrompt prompt = .ok () ↔
      (∀ v, prompt.bind (·.byteHash) = some v → IsSha256 v) ∧
      (∀ v, prompt.bind (·.tokenHash) = some v → IsSha256 v) ∧
      ∀ v, prompt.bind (·.tokenizerHash) = some v → IsSha256 v := by
  cases prompt with
  | none => simp [validatePackagePrompt]
  | some prompt =>
    simp only [validatePackagePrompt, except_bind_unit_ok_iff, validateOptionalSha256_ok_iff,
      Option.bind_some]

theorem loadAgentGraphManifest_loaded {files : ManifestFiles} {path : Option String}
    {manifest : AgentGraphManifest}
    (h : loadAgentGraphManifest files path = .ok (some manifest)) : manifest.Loaded := by
  cases path with
  | none => cases h
  | some path =>
    obtain ⟨bytes, _, h⟩ := except_bind_ok_iff.mp h
    obtain ⟨package, _, h⟩ := except_bind_ok_iff.mp h
    obtain ⟨hgraph, h⟩ := except_bind_unit_ok_iff.mp h
    obtain ⟨hprompt, h⟩ := except_bind_unit_ok_iff.mp h
    obtain ⟨hkv, h⟩ := except_bind_unit_ok_iff.mp h
    obtain ⟨kvSpans, hspans, h⟩ := except_bind_ok_iff.mp h
    obtain ⟨artifacts, hartifacts, h⟩ := except_bind_ok_iff.mp h
    cases h
    obtain ⟨hb, ht, hk⟩ := validatePackagePrompt_ok_iff.mp hprompt
    exact ⟨ensureSha256Field_ok_iff.mp hgraph, hb, ht, hk, validateOptionalSha256_ok_iff.mp hkv,
      collectEach_forall (fun _ _ _ => validateAgentGraphKvSpan_loaded) hspans,
      collectEach_forall (fun _ _ _ => validatePackageArtifact_sha256) hartifacts⟩

/-- What is left for the target to check of a span that the sender loaded. -/
theorem spanAccepted_toBinding_iff {header : UsxfHeader} (hv : header.Valid)
    (hsha : ∀ blockHash ∈ header.blockHashes, IsSha256 blockHash) {tokenizerHash : Option String}
    {span : AgentGraphKvSpan} (hs : span.Loaded) :
    SpanAccepted header tokenizerHash ⟨span.nodeId, span.tokenStart, span.tokenEnd, span.cacheRef,
        span.tokenizerHash, blockHashesForSpan header span.tokenStart span.tokenEnd⟩ ↔
      span.tokenEnd ≤ header.seqLen ∧
        ∀ v, span.tokenizerHash = some v → ∀ w, tokenizerHash = some w → v = w := by
  constructor
  · intro h
    exact ⟨h.inContext, h.tokenizerMatches⟩
  · intro hparts
    obtain ⟨hi, ht⟩ := hparts
    refine ⟨hs.nodeId, hs.cacheRef, hs.ordered, hi, hs.tokenizerSha256, ht,
      blockHashesForSpan_ne_nil hv hs.ordered hi, ?_⟩
    intro blockHash hmem
    have hmem' := mem_of_mem_blockHashesForSpan hmem
    exact ⟨hsha blockHash hmem', hmem'⟩

/-- The target accepts the binding of a loaded manifest exactly when the manifest has what only the
target asks for. -/
theorem validateAgentGraphBinding_toBinding_iff {files : ManifestFiles} {path : Option String}
    {manifest : AgentGraphManifest} {header : UsxfHeader}
    (hload : loadAgentGraphManifest files path = .ok (some manifest)) (hv : header.Valid)
    (hsha : ∀ blockHash ∈ header.blockHashes, IsSha256 blockHash) :
    validateAgentGraphBinding (manifest.toBinding header) header = .ok () ↔
      trimIsEmpty manifest.manifestPath = false ∧ trimIsEmpty manifest.graphPath = false ∧
      manifest.promptTokenHash ≠ none ∧ manifest.tokenizerHash ≠ none ∧ manifest.kvHash ≠ none ∧
      manifest.kvSpans ≠ [] ∧ (∀ span ∈ manifest.kvSpans, span.tokenEnd ≤ header.seqLen) ∧
      (∀ span ∈ manifest.kvSpans, span.tokenizerHash ≠ none →
        span.tokenizerHash = manifest.tokenizerHash) ∧
      ∀ artifact ∈ manifest.artifacts, trimIsEmpty artifact.path = false := by
  have hl := loadAgentGraphManifest_loaded hload
  rw [validateAgentGraphBinding_ok_iff]
  constructor
  · intro h
    obtain ⟨tokenizer, htok, _⟩ := h.tokenizerHash
    have hspan : ∀ span ∈ manifest.kvSpans, span.tokenEnd ≤ header.seqLen ∧
        ∀ v, span.tokenizerHash = some v → ∀ w, manifest.tokenizerHash = some w → v = w := by
      intro span hmem
      exact (spanAccepted_toBinding_iff hv hsha (hl.kvSpans span hmem)).mp
        (h.kvSpans _ (List.mem_map_of_mem hmem))
    refine ⟨h.manifestPath, h.graphPath, (presentSha256_iff.mp h.promptTokenHash).2,
      (presentSha256_iff.mp h.tokenizerHash).2, (presentSha256_iff.mp h.kvHash).2, ?_,
      fun span hmem => (hspan span hmem).1, ?_, ?_⟩
    · intro hnil
      exact h.kvSpansNonempty (by simp [AgentGraphManifest.toBinding, hnil])
    · intro span hmem hne
      obtain ⟨v, hv'⟩ := Option.ne_none_iff_exists'.mp hne
      have htok' : manifest.tokenizerHash = some tokenizer := htok
      rw [hv', htok', (hspan span hmem).2 v hv' tokenizer htok']
    · intro artifact hmem
      exact (h.artifacts _ (List.mem_map_of_mem hmem)).1
  · intro hparts
    obtain ⟨hm, hg, hpt, htk, hkv, hne, hi, ht, ha⟩ := hparts
    refine ⟨hm, hg, hl.graphHash, hl.promptByteSha256,
      presentSha256_iff.mpr ⟨hl.promptTokenSha256, hpt⟩,
      presentSha256_iff.mpr ⟨hl.tokenizerSha256, htk⟩, presentSha256_iff.mpr ⟨hl.kvSha256, hkv⟩,
      by simpa [AgentGraphManifest.toBinding] using hne, ?_, ?_⟩
    · intro span hmem
      obtain ⟨source, hsource, rfl⟩ := List.mem_map.mp hmem
      refine (spanAccepted_toBinding_iff hv hsha (hl.kvSpans source hsource)).mpr
        ⟨hi source hsource, ?_⟩
      intro v hv' w hw
      have heq := ht source hsource (by simp [hv'])
      rw [hv'] at heq
      exact Option.some.inj (heq.trans hw)
    · intro artifact hmem
      obtain ⟨source, hsource, rfl⟩ := List.mem_map.mp hmem
      exact ⟨ha source hsource, hl.artifacts source hsource⟩

/-- A package with one span and without the optional fields that the target does not ask for. -/
def testPackageJson : String :=
  "\x7b\"graph_path\":\"graph.json\",\"graph_hash\":\"" ++ repeatedDigest 'a' ++
  "\",\"prompt\":\x7b\"token_hash\":\"" ++ repeatedDigest 'c' ++
  "\",\"tokenizer_hash\":\"" ++ repeatedDigest 'd' ++
  "\"\x7d,\"kv\":\x7b\"kv_hash\":\"" ++ repeatedDigest 'e' ++
  "\"\x7d,\"kv_spans\":[\x7b\"node_id\":\"checkpoint:prompt\",\"token_start\":0,\"token_end\":8," ++
  "\"cache_ref\":\"kv:prefix:0\"\x7d]\x7d"

def testPackage : AgentGraphPackageManifest where
  graphPath := "graph.json"
  graphHash := repeatedDigest 'a'
  prompt := some ⟨none, some (repeatedDigest 'c'), some (repeatedDigest 'd')⟩
  kv := some ⟨some (repeatedDigest 'e')⟩
  kvSpans := some [⟨"checkpoint:prompt", 0, 8, "kv:prefix:0", none, none⟩]
  artifacts := none

def testFiles : ManifestFiles where
  read path := if path = "manifest.json" then some (asBytes testPackageJson) else none
  fromSlice bytes := if bytes = asBytes testPackageJson then some testPackage else none

def testManifest : AgentGraphManifest where
  manifestPath := "manifest.json"
  graphPath := "graph.json"
  graphHash := repeatedDigest 'a'
  promptByteHash := none
  promptTokenHash := some (repeatedDigest 'c')
  tokenizerHash := some (repeatedDigest 'd')
  kvHash := some (repeatedDigest 'e')
  kvSpans := [⟨"checkpoint:prompt", 0, 8, "kv:prefix:0", none, []⟩]
  artifacts := []

theorem loadAgentGraphManifest_testFiles :
    loadAgentGraphManifest testFiles (some "manifest.json") = .ok (some testManifest) := by
  have hsha : ∀ digit field, isAsciiHexdigit digit = true → digit.utf8Size = 1 →
      ensureSha256Field field (repeatedDigest digit) = .ok () :=
    fun digit field h hsize => ensureSha256Field_ok_iff.mpr (isSha256_repeatedDigest h hsize)
  have hspan : validateAgentGraphKvSpan 0 ⟨"checkpoint:prompt", 0, 8, "kv:prefix:0", none, none⟩ =
      .ok ⟨"checkpoint:prompt", 0, 8, "kv:prefix:0", none, []⟩ := by decide
  have hread : testFiles.read "manifest.json" = some (asBytes testPackageJson) := by
    simp only [testFiles, if_true]
  have hparse : testFiles.fromSlice (asBytes testPackageJson) = some testPackage := by
    simp only [testFiles, if_true]
  unfold loadAgentGraphManifest
  refine except_bind_ok_iff.mpr ⟨asBytes testPackageJson, contextOption_ok_iff.mpr hread, ?_⟩
  refine except_bind_ok_iff.mpr ⟨testPackage, contextOption_ok_iff.mpr hparse, ?_⟩
  refine except_bind_unit_ok_iff.mpr ⟨hsha 'a' _ rfl rfl, ?_⟩
  refine except_bind_unit_ok_iff.mpr ⟨?_, ?_⟩
  · exact except_bind_unit_ok_iff.mpr ⟨rfl,
      except_bind_unit_ok_iff.mpr ⟨hsha 'c' _ rfl rfl, hsha 'd' _ rfl rfl⟩⟩
  refine except_bind_unit_ok_iff.mpr ⟨hsha 'e' _ rfl rfl, ?_⟩
  refine except_bind_ok_iff.mpr ⟨testManifest.kvSpans, ?_, rfl⟩
  exact except_bind_ok_iff.mpr ⟨_, hspan, rfl⟩

theorem validateAgentGraphBinding_toBinding_testManifest :
    validateAgentGraphBinding (testManifest.toBinding (testHeader [repeatedDigest '9'] 8))
      (testHeader [repeatedDigest '9'] 8) = .ok () := by
  refine (validateAgentGraphBinding_toBinding_iff loadAgentGraphManifest_testFiles
    (testHeader_valid [repeatedDigest '9'] 8 8 (by decide) (by decide) (by decide)) ?_).mpr ?_
  · intro blockHash hmem
    obtain rfl := List.mem_singleton.mp hmem
    exact isSha256_repeatedDigest rfl rfl
  · refine ⟨by decide, by decide, by simp [testManifest], by simp [testManifest],
      by simp [testManifest], by simp [testManifest], ?_, ?_, by simp [testManifest]⟩
    · intro span hmem
      obtain rfl := List.mem_singleton.mp hmem
      exact (by decide : (8 : UInt64) ≤ 8)
    · intro span hmem
      obtain rfl := List.mem_singleton.mp hmem
      simp

section SpanBlocks

/-- The tokens that the `i`th block of a header holds. -/
def blockTokens (header : UsxfHeader) (i : Nat) : Finset Nat :=
  Finset.Ico (i * header.blockSize.toNat) (min ((i + 1) * header.blockSize.toNat) header.seqLen.toNat)

theorem blockTokens_meets_iff {header : UsxfHeader} (hb : 0 < header.blockSize.toNat) {start stop i : Nat}
    (ho : start < stop) (hi : stop ≤ header.seqLen.toNat) :
    (blockTokens header i ∩ Finset.Ico start stop).Nonempty ↔
      start / header.blockSize.toNat ≤ i ∧ i ≤ (stop - 1) / header.blockSize.toNat := by
  rw [← Nat.lt_add_one_iff, Nat.div_lt_iff_lt_mul hb, Nat.le_div_iff_mul_le hb]
  constructor
  · rintro ⟨token, htoken⟩
    obtain ⟨hblock, hspan⟩ := Finset.mem_inter.mp htoken
    obtain ⟨hlow, hhigh⟩ := Finset.mem_Ico.mp hblock
    obtain ⟨hstart, hstop⟩ := Finset.mem_Ico.mp hspan
    exact ⟨by omega, by omega⟩
  · rintro ⟨hstart, hstop⟩
    -- The later of the two first tokens is in both ranges.
    refine ⟨max start (i * header.blockSize.toNat), ?_⟩
    have hnext : i * header.blockSize.toNat < (i + 1) * header.blockSize.toNat :=
      (Nat.mul_lt_mul_right hb).mpr (Nat.lt_succ_self i)
    rw [Finset.mem_inter, blockTokens, Finset.mem_Ico, Finset.mem_Ico, lt_min_iff, max_lt_iff, max_lt_iff, max_lt_iff]
    omega

theorem map_some_take_drop {α : Type} {xs : List α} {start count : Nat} (h : start + count ≤ xs.length) :
    ((xs.drop start).take count).map some = (List.range' start count).map fun i => xs[i]? := by
  apply List.ext_getElem
  · rw [List.length_map, List.length_take, List.length_drop, List.length_map, List.length_range']
    omega
  · intro i hi hi'
    have hlength : start + i < xs.length := by
      rw [List.length_map, List.length_range'] at hi'
      omega
    simp [List.getElem?_eq_getElem hlength]

/-- A span that ends behind the context is clamped to it. -/
theorem blockHashesForSpan_clamp {header : UsxfHeader} {tokenStart tokenEnd : Usize}
    (hstart : tokenStart < header.seqLen) (hend : header.seqLen < tokenEnd) :
    blockHashesForSpan header tokenStart tokenEnd = blockHashesForSpan header tokenStart header.seqLen := by
  have hmin : min tokenEnd header.seqLen = header.seqLen := if_neg (UInt64.not_le.mpr hend)
  have hself : min header.seqLen header.seqLen = header.seqLen := ite_self _
  have hopen : ¬tokenEnd ≤ tokenStart := UInt64.not_le.mpr (UInt64.lt_trans hstart hend)
  have hopen' : ¬header.seqLen ≤ tokenStart := UInt64.not_le.mpr hstart
  simp only [blockHashesForSpan, hmin, hself, hopen, hopen', false_or]

/-- The hashes of a span are those of the blocks that hold one of its tokens, in order, and a span that ends
behind the context is the span that ends with it. -/
theorem blockHashesForSpan_exact {header : UsxfHeader} (hv : header.Valid) {tokenStart tokenEnd : Usize}
    (ho : tokenStart < tokenEnd) :
    (tokenEnd ≤ header.seqLen →
      blockHashesForSpan header tokenStart tokenEnd ≠ [] ∧
      ∃ indices : List Nat, indices.Pairwise (· < ·) ∧
        (∀ i, i ∈ indices ↔
          (blockTokens header i ∩ Finset.Ico tokenStart.toNat tokenEnd.toNat).Nonempty) ∧
        (blockHashesForSpan header tokenStart tokenEnd).map some =
          indices.map fun i => header.blockHashes[i]?) ∧
    (tokenStart < header.seqLen → header.seqLen < tokenEnd →
      blockHashesForSpan header tokenStart tokenEnd =
        blockHashesForSpan header tokenStart header.seqLen) := by
  refine ⟨fun hi => ⟨blockHashesForSpan_ne_nil hv ho hi, ?_⟩, blockHashesForSpan_clamp⟩
  obtain ⟨_, _, _, hb, _⟩ := validateHeader_ok_iff.mp hv
  obtain ⟨hfirst, hlast, heq⟩ := blockHashesForSpan_eq hv ho hi
  have ho' : tokenStart.toNat < tokenEnd.toNat := UInt64.lt_iff_toNat_lt.mp ho
  have hi' : tokenEnd.toNat ≤ header.seqLen.toNat := UInt64.le_iff_toNat_le.mp hi
  refine ⟨List.range' (tokenStart.toNat / header.blockSize.toNat)
    ((tokenEnd.toNat - 1) / header.blockSize.toNat + 1 - tokenStart.toNat / header.blockSize.toNat),
    List.pairwise_lt_range', ?_, ?_⟩
  · intro i
    rw [blockTokens_meets_iff (usize_pos_of_ne_zero hb) ho' hi', List.mem_range'_1]
    omega
  · rw [heq]
    exact map_some_take_drop (by omega)

theorem blockHashesForSpan_exact_secondBlock :
    (1 : Usize) < 2 ∧ (blockHashesForSpan twoBlockHeader 1 2 ≠ [] ∧
      ∃ indices : List Nat, indices.Pairwise (· < ·) ∧
        (∀ i, i ∈ indices ↔ (blockTokens twoBlockHeader i ∩ Finset.Ico 1 2).Nonempty) ∧
        (blockHashesForSpan twoBlockHeader 1 2).map some =
          indices.map fun i => twoBlockHeader.blockHashes[i]?) :=
  ⟨by decide, (blockHashesForSpan_exact twoBlockHeader_valid (by decide : (1 : Usize) < 2)).1
    (by decide : (2 : Usize) ≤ 2)⟩

end SpanBlocks

end PermeantOS
