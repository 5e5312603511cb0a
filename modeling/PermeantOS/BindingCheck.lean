import PermeantOS.Message
import PermeantOS.RustText

namespace PermeantOS

def stripSha256 (value : String) : Option (List Char) :=
  if startsWithSha256 value then some (value.toList.drop 7) else none

def ensureSha256Field (fieldName value : String) : Fallible Unit := do
  let digest ← contextOption s!"{fieldName} must start with sha256:" (stripSha256 value)
  bailIf (utf8Len digest ≠ 64 ∨ digest.all isAsciiHexdigit = false)
    s!"{fieldName} must contain a 64-character sha256 digest"

def IsSha256 (value : String) : Prop :=
  ∃ digest, stripSha256 value = some digest ∧ utf8Len digest = 64 ∧
    digest.all isAsciiHexdigit = true

@[simp] theorem ensureSha256Field_ok_iff {fieldName value : String} :
    ensureSha256Field fieldName value = .ok () ↔ IsSha256 value := by
  simp only [ensureSha256Field, IsSha256, except_bind_ok_iff, contextOption_ok_iff, bailIf_ok_iff,
    not_or, ne_eq, not_not, Bool.not_eq_false]

instance (value : String) : Decidable (IsSha256 value) :=
  decidable_of_iff (ensureSha256Field "" value = .ok ()) ensureSha256Field_ok_iff

def validateOptionalSha256 (fieldName : String) : Option String → Fallible Unit
  | some value => ensureSha256Field fieldName value
  | none => .ok ()

@[simp] theorem validateOptionalSha256_ok_iff {fieldName : String} {value : Option String} :
    validateOptionalSha256 fieldName value = .ok () ↔ ∀ v, value = some v → IsSha256 v := by
  cases value <;> simp [validateOptionalSha256]

/-- `xs.get(first..=last).unwrap_or(&[])` -/
def getInclusive {α : Type} (xs : List α) (first last : Nat) : List α :=
  if first ≤ last + 1 ∧ last + 1 ≤ xs.length then (xs.drop first).take (last + 1 - first) else []

def blockHashesForSpan (header : UsxfHeader) (tokenStart tokenEnd : Usize) : List String :=
  if tokenEnd ≤ tokenStart ∨ header.seqLen ≤ tokenStart ∨ header.blockSize = 0 then []
  else
    let startBlock := tokenStart / header.blockSize
    let endToken := min tokenEnd header.seqLen - 1
    let endBlock := endToken / header.blockSize
    getInclusive header.blockHashes startBlock.toNat endBlock.toNat

theorem mem_of_mem_getInclusive {α : Type} {xs : List α} {first last : Nat} {x : α}
    (h : x ∈ getInclusive xs first last) : x ∈ xs := by
  unfold getInclusive at h
  split at h
  · exact List.mem_of_mem_drop (List.mem_of_mem_take h)
  · cases h

theorem mem_of_mem_blockHashesForSpan {header : UsxfHeader} {tokenStart tokenEnd : Usize}
    {blockHash : String} (h : blockHash ∈ blockHashesForSpan header tokenStart tokenEnd) :
    blockHash ∈ header.blockHashes := by
  unfold blockHashesForSpan at h
  split at h
  · cases h
  · exact mem_of_mem_getInclusive h

/-- The slice of a span inside the context is the run of blocks from the one that holds its first
token to the one that holds its last. -/
theorem blockHashesForSpan_eq {header : UsxfHeader} (hv : header.Valid) {tokenStart tokenEnd : Usize}
    (ho : tokenStart < tokenEnd) (hi : tokenEnd ≤ header.seqLen) :
    tokenStart.toNat / header.blockSize.toNat ≤ (tokenEnd.toNat - 1) / header.blockSize.toNat ∧
      (tokenEnd.toNat - 1) / header.blockSize.toNat < header.blockHashes.length ∧
      blockHashesForSpan header tokenStart tokenEnd =
        (header.blockHashes.drop (tokenStart.toNat / header.blockSize.toNat)).take
          ((tokenEnd.toNat - 1) / header.blockSize.toNat + 1 -
            tokenStart.toNat / header.blockSize.toNat) := by
  obtain ⟨_, _, _, hb, hlen, _⟩ := validateHeader_ok_iff.mp hv
  rw [divCeil_toNat hb, Nat.ceilDiv_eq_add_pred_div] at hlen
  have hpos := usize_pos_of_ne_zero hb
  have ho' : tokenStart.toNat < tokenEnd.toNat := UInt64.lt_iff_toNat_lt.mp ho
  have hi' : tokenEnd.toNat ≤ header.seqLen.toNat := UInt64.le_iff_toNat_le.mp hi
  have hlast : (min tokenEnd header.seqLen - 1).toNat = tokenEnd.toNat - 1 := by
    have hone : (1 : UInt64) ≤ tokenEnd := by
      rw [UInt64.le_iff_toNat_le]
      exact Nat.one_le_iff_ne_zero.mpr (by omega)
    have hmin : min tokenEnd header.seqLen = tokenEnd := if_pos hi
    rw [hmin, UInt64.toNat_sub_of_le _ _ hone]
    rfl
  have hfirst : tokenStart.toNat / header.blockSize.toNat ≤
      (tokenEnd.toNat - 1) / header.blockSize.toNat := Nat.div_le_div_right (by omega)
  have hend : (tokenEnd.toNat - 1) / header.blockSize.toNat < header.blockHashes.length := by
    rw [hlen]
    calc (tokenEnd.toNat - 1) / header.blockSize.toNat
        < (tokenEnd.toNat - 1) / header.blockSize.toNat + 1 := Nat.lt_succ_self _
      _ = (tokenEnd.toNat - 1 + header.blockSize.toNat) / header.blockSize.toNat :=
          (Nat.add_div_right _ hpos).symm
      _ ≤ (header.seqLen.toNat + header.blockSize.toNat - 1) / header.blockSize.toNat :=
          Nat.div_le_div_right (by omega)
  refine ⟨hfirst, hend, ?_⟩
  have hguard : ¬(tokenEnd ≤ tokenStart ∨ header.seqLen ≤ tokenStart ∨ header.blockSize = 0) := by
    rw [UInt64.le_iff_toNat_le, UInt64.le_iff_toNat_le]
    rintro (h | h | h)
    · omega
    · omega
    · exact hb h
  rw [blockHashesForSpan, if_neg hguard]
  simp only [UInt64.toNat_div, hlast]
  rw [getInclusive, if_pos (by omega)]

theorem blockHashesForSpan_ne_nil {header : UsxfHeader} (hv : header.Valid)
    {tokenStart tokenEnd : Usize} (ho : tokenStart < tokenEnd) (hi : tokenEnd ≤ header.seqLen) :
    blockHashesForSpan header tokenStart tokenEnd ≠ [] := by
  obtain ⟨hfirst, hend, heq⟩ := blockHashesForSpan_eq hv ho hi
  rw [heq]
  intro hnil
  have hlen := congrArg List.length hnil
  rw [List.length_take, List.length_drop, List.length_nil] at hlen
  omega

/-- The three checks that open the validation of a span, on either side of the wire. -/
def validateSpanIdentity (index : Nat) (nodeId cacheRef : String) (tokenStart tokenEnd : Usize) :
    Fallible Unit := do
  bailIf (trimIsEmpty nodeId = true) s!"agent_graph.kv_spans[{index}].node_id must not be empty"
  bailIf (trimIsEmpty cacheRef = true) s!"agent_graph.kv_spans[{index}].cache_ref must not be empty"
  bailIf (tokenEnd ≤ tokenStart)
    s!"agent_graph.kv_spans[{index}].token_end must be greater than token_start"

def validateSpanBlockHash (header : UsxfHeader) (index : Nat) (blockHash : String) :
    Fallible Unit := do
  ensureSha256Field s!"agent_graph.kv_spans[{index}].block_hashes" blockHash
  bailIf (blockHash ∉ header.blockHashes)
    s!"agent_graph.kv_spans[{index}].block_hashes contains a block not present in the migrated KV header"

def validateBindingSpan (header : UsxfHeader) (tokenizerHash : Option String) (index : Nat)
    (span : AgentGraphBindingKvSpan) : Fallible Unit := do
  validateSpanIdentity index span.nodeId span.cacheRef span.tokenStart span.tokenEnd
  bailIf (header.seqLen < span.tokenEnd)
    s!"agent_graph.kv_spans[{index}] exceeds target context window {header.seqLen}"
  validateOptionalSha256 s!"agent_graph.kv_spans[{index}].tokenizer_hash" span.tokenizerHash
  bailIf (span.tokenizerHash.isSome = true ∧ tokenizerHash.isSome = true ∧
      span.tokenizerHash ≠ tokenizerHash)
    s!"agent_graph.kv_spans[{index}].tokenizer_hash does not match binding tokenizer_hash"
  bailIf (span.blockHashes = []) s!"agent_graph.kv_spans[{index}].block_hashes must not be empty"
  checkEach (fun _ blockHash => validateSpanBlockHash header index blockHash) 0 span.blockHashes

def validateBindingArtifact (index : Nat) (artifact : AgentGraphBindingArtifact) :
    Fallible Unit := do
  bailIf (trimIsEmpty artifact.path = true)
    s!"agent_graph.artifacts[{index}].path must not be empty"
  ensureSha256Field s!"agent_graph.artifacts[{index}].sha256" artifact.sha256

def validateAgentGraphBinding (binding : AgentGraphBinding) (header : UsxfHeader) :
    Fallible Unit := do
  bailIf (trimIsEmpty binding.manifestPath = true)
    "agent graph binding manifest_path must not be empty"
  bailIf (trimIsEmpty binding.graphPath = true) "agent graph binding graph_path must not be empty"
  ensureSha256Field "agent_graph.graph_hash" binding.graphHash
  validateOptionalSha256 "agent_graph.prompt_byte_hash" binding.promptByteHash
  validateOptionalSha256 "agent_graph.prompt_token_hash" binding.promptTokenHash
  validateOptionalSha256 "agent_graph.tokenizer_hash" binding.tokenizerHash
  validateOptionalSha256 "agent_graph.kv_hash" binding.kvHash
  bailIf (binding.promptTokenHash = none) "agent graph binding must include prompt_token_hash"
  bailIf (binding.tokenizerHash = none) "agent graph binding must include tokenizer_hash"
  bailIf (binding.kvHash = none) "agent graph binding must include kv_hash"
  bailIf (binding.kvSpans = []) "agent graph binding must include at least one KV span"
  checkEach (validateBindingSpan header binding.tokenizerHash) 0 binding.kvSpans
  checkEach validateBindingArtifact 0 binding.artifacts

theorem validateSpanIdentity_ok_iff {index : Nat} {nodeId cacheRef : String}
    {tokenStart tokenEnd : Usize} :
    validateSpanIdentity index nodeId cacheRef tokenStart tokenEnd = .ok () ↔
      trimIsEmpty nodeId = false ∧ trimIsEmpty cacheRef = false ∧ tokenStart < tokenEnd := by
  simp only [validateSpanIdentity, except_bind_unit_ok_iff, bailIf_ok_iff, Bool.not_eq_true,
    UInt64.not_le]

def BlockHashesAccepted (header : UsxfHeader) (blockHashes : List String) : Prop :=
  blockHashes ≠ [] ∧ ∀ blockHash ∈ blockHashes, IsSha256 blockHash ∧ blockHash ∈ header.blockHashes

structure SpanAccepted (header : UsxfHeader) (tokenizerHash : Option String)
    (span : AgentGraphBindingKvSpan) : Prop where
  nodeId : trimIsEmpty span.nodeId = false
  cacheRef : trimIsEmpty span.cacheRef = false
  ordered : span.tokenStart < span.tokenEnd
  inContext : span.tokenEnd ≤ header.seqLen
  tokenizerSha256 : ∀ v, span.tokenizerHash = some v → IsSha256 v
  tokenizerMatches : ∀ v, span.tokenizerHash = some v → ∀ w, tokenizerHash = some w → v = w
  blockHashes : BlockHashesAccepted header span.blockHashes

theorem validateBindingSpan_ok_iff {header : UsxfHeader} {tokenizerHash : Option String}
    {index : Nat} {span : AgentGraphBindingKvSpan} :
    validateBindingSpan header tokenizerHash index span = .ok () ↔
      SpanAccepted header tokenizerHash span := by
  have hhash : ∀ (_ : Nat) blockHash, validateSpanBlockHash header index blockHash = .ok () ↔
      IsSha256 blockHash ∧ blockHash ∈ header.blockHashes := by
    intro _ blockHash
    simp only [validateSpanBlockHash, except_bind_unit_ok_iff, ensureSha256Field_ok_iff,
      bailIf_ok_iff, not_not]
  have htok : ¬(span.tokenizerHash.isSome = true ∧ tokenizerHash.isSome = true ∧
      span.tokenizerHash ≠ tokenizerHash) ↔
        ∀ v, span.tokenizerHash = some v → ∀ w, tokenizerHash = some w → v = w := by
    cases span.tokenizerHash <;> cases tokenizerHash <;> simp
  simp only [validateBindingSpan, except_bind_unit_ok_iff, validateSpanIdentity_ok_iff,
    bailIf_ok_iff, validateOptionalSha256_ok_iff, htok, UInt64.not_lt, checkEach_ok_iff_forall hhash]
  constructor
  · intro hparts
    obtain ⟨⟨hn, hc, ho⟩, hi, hs, hm, hne, hall⟩ := hparts
    exact ⟨hn, hc, ho, hi, hs, hm, hne, hall⟩
  · intro hparts
    obtain ⟨hn, hc, ho, hi, hs, hm, hne, hall⟩ := hparts
    exact ⟨⟨hn, hc, ho⟩, hi, hs, hm, hne, hall⟩

structure BindingAccepted (header : UsxfHeader) (binding : AgentGraphBinding) : Prop where
  manifestPath : trimIsEmpty binding.manifestPath = false
  graphPath : trimIsEmpty binding.graphPath = false
  graphHash : IsSha256 binding.graphHash
  promptByteSha256 : ∀ v, binding.promptByteHash = some v → IsSha256 v
  promptTokenHash : ∃ v, binding.promptTokenHash = some v ∧ IsSha256 v
  tokenizerHash : ∃ v, binding.tokenizerHash = some v ∧ IsSha256 v
  kvHash : ∃ v, binding.kvHash = some v ∧ IsSha256 v
  kvSpansNonempty : binding.kvSpans ≠ []
  kvSpans : ∀ span ∈ binding.kvSpans, SpanAccepted header binding.tokenizerHash span
  artifacts : ∀ artifact ∈ binding.artifacts,
    trimIsEmpty artifact.path = false ∧ IsSha256 artifact.sha256

theorem presentSha256_iff {value : Option String} :
    (∃ v, value = some v ∧ IsSha256 v) ↔ (∀ v, value = some v → IsSha256 v) ∧ value ≠ none := by
  cases value <;> simp

theorem validateAgentGraphBinding_ok_iff {binding : AgentGraphBinding} {header : UsxfHeader} :
    validateAgentGraphBinding binding header = .ok () ↔ BindingAccepted header binding := by
  have hartifact : ∀ index artifact, validateBindingArtifact index artifact = .ok () ↔
      trimIsEmpty artifact.path = false ∧ IsSha256 artifact.sha256 := by
    intro index artifact
    simp only [validateBindingArtifact, except_bind_unit_ok_iff, bailIf_ok_iff,
      ensureSha256Field_ok_iff, Bool.not_eq_true]
  have hspan : ∀ index span,
      validateBindingSpan header binding.tokenizerHash index span = .ok () ↔
        SpanAccepted header binding.tokenizerHash span := fun _ _ => validateBindingSpan_ok_iff
  simp only [validateAgentGraphBinding, except_bind_unit_ok_iff, bailIf_ok_iff, Bool.not_eq_true,
    ensureSha256Field_ok_iff, validateOptionalSha256_ok_iff, checkEach_ok_iff_forall hartifact,
    checkEach_ok_iff_forall hspan]
  constructor
  · intro hparts
    obtain ⟨hm, hg, hh, hpb, hpt, htk, hkv, hpt', htk', hkv', hne, hs, ha⟩ := hparts
    exact ⟨hm, hg, hh, hpb, presentSha256_iff.mpr ⟨hpt, hpt'⟩, presentSha256_iff.mpr ⟨htk, htk'⟩,
      presentSha256_iff.mpr ⟨hkv, hkv'⟩, hne, hs, ha⟩
  · intro hparts
    obtain ⟨hm, hg, hh, hpb, hpt, htk, hkv, hne, hs, ha⟩ := hparts
    obtain ⟨hpt, hpt'⟩ := presentSha256_iff.mp hpt
    obtain ⟨htk, htk'⟩ := presentSha256_iff.mp htk
    obtain ⟨hkv, hkv'⟩ := presentSha256_iff.mp hkv
    exact ⟨hm, hg, hh, hpb, hpt, htk, hkv, hpt', htk', hkv', hne, hs, ha⟩

/-- An accepted binding stays accepted under another list of block hashes for one of its spans
exactly when that list is non-empty and names migrated blocks only, in any order. -/
theorem validateAgentGraphBinding_span_hashes {header : UsxfHeader} (hv : header.Valid)
    {binding : AgentGraphBinding} (h : validateAgentGraphBinding binding header = .ok ())
    {index : Nat} {span : AgentGraphBindingKvSpan} (hs : binding.kvSpans[index]? = some span) :
    BlockHashesAccepted header span.blockHashes ∧ span.tokenStart < span.tokenEnd ∧
      span.tokenEnd ≤ header.seqLen ∧
      header.blockHashes.length = header.seqLen.toNat ⌈/⌉ header.blockSize.toNat ∧
      ∀ blockHashes, validateAgentGraphBinding
          { binding with kvSpans := binding.kvSpans.set index { span with blockHashes } } header = .ok () ↔
        BlockHashesAccepted header blockHashes := by
  obtain ⟨_, _, _, hb, hlen, _⟩ := validateHeader_ok_iff.mp hv
  rw [divCeil_toNat hb] at hlen
  have hacc := validateAgentGraphBinding_ok_iff.mp h
  have hspan := hacc.kvSpans span (List.mem_of_getElem? hs)
  refine ⟨hspan.blockHashes, hspan.ordered, hspan.inContext, hlen, ?_⟩
  intro blockHashes
  rw [validateAgentGraphBinding_ok_iff]
  obtain ⟨hlt, hget⟩ := List.getElem?_eq_some_iff.mp hs
  constructor
  · intro hset
    exact (hset.kvSpans { span with blockHashes } (List.mem_set hlt _)).blockHashes
  · intro hnew
    refine { hacc with kvSpansNonempty := ?_, kvSpans := ?_ }
    · simpa using hacc.kvSpansNonempty
    · intro other hmem
      rcases List.mem_or_eq_of_mem_set hmem with hold | rfl
      · exact hacc.kvSpans other hold
      · exact { hspan with blockHashes := hnew }

/-- The binding of the daemon's own tests: one span from token `0`, with one block hash. -/
def testGraphBinding (blockHash : String) (tokenEnd : Usize) : AgentGraphBinding where
  manifestPath := "manifest.json"
  graphPath := "graph.json"
  graphHash := repeatedDigest 'a'
  promptByteHash := some (repeatedDigest 'b')
  promptTokenHash := some (repeatedDigest 'c')
  tokenizerHash := some (repeatedDigest 'd')
  kvHash := some (repeatedDigest 'e')
  kvSpans := [⟨"checkpoint:prompt", 0, tokenEnd, "kv:prefix:0", some (repeatedDigest 'd'), [blockHash]⟩]
  artifacts := [⟨"reports/result.json", repeatedDigest 'f', some 42⟩]

theorem isSha256_repeatedDigest {digit : Char} (h : isAsciiHexdigit digit = true)
    (hsize : digit.utf8Size = 1) : IsSha256 (repeatedDigest digit) := by
  refine ⟨List.replicate 64 digit, ?_, ?_, ?_⟩
  · rw [stripSha256, startsWithSha256_repeatedDigest, if_pos rfl, repeatedDigest_toList]
    rfl
  · rw [utf8Len_replicate, hsize]
  · simp [h]

theorem testGraphBinding_accepted {header : UsxfHeader} {blockHash : String} {tokenEnd : Usize}
    (ho : 0 < tokenEnd) (hi : tokenEnd ≤ header.seqLen) (hs : IsSha256 blockHash)
    (hm : blockHash ∈ header.blockHashes) :
    validateAgentGraphBinding (testGraphBinding blockHash tokenEnd) header = .ok () := by
  have hd : IsSha256 (repeatedDigest 'd') := isSha256_repeatedDigest rfl rfl
  refine validateAgentGraphBinding_ok_iff.mpr ⟨?_, ?_, isSha256_repeatedDigest rfl rfl,
    ?_, ⟨_, rfl, isSha256_repeatedDigest rfl rfl⟩, ⟨_, rfl, hd⟩,
    ⟨_, rfl, isSha256_repeatedDigest rfl rfl⟩, by simp [testGraphBinding], ?_, ?_⟩
  · exact (by decide : trimIsEmpty "manifest.json" = false)
  · exact (by decide : trimIsEmpty "graph.json" = false)
  · rintro _ ⟨⟩
    exact isSha256_repeatedDigest rfl rfl
  · intro span hspan
    obtain rfl := List.mem_singleton.mp hspan
    refine ⟨?_, ?_, ho, hi, ?_, ?_, by simp, ?_⟩
    · exact (by decide : trimIsEmpty "checkpoint:prompt" = false)
    · exact (by decide : trimIsEmpty "kv:prefix:0" = false)
    · rintro _ ⟨⟩
      exact hd
    · rintro _ ⟨⟩ _ ⟨⟩
      rfl
    · intro other hother
      obtain rfl := List.mem_singleton.mp hother
      exact ⟨hs, hm⟩
  · intro artifact hartifact
    obtain rfl := List.mem_singleton.mp hartifact
    exact ⟨(by decide : trimIsEmpty "reports/result.json" = false), isSha256_repeatedDigest rfl rfl⟩

def twoBlockHeader : UsxfHeader :=
  { testHeader [repeatedDigest '9', repeatedDigest '8'] 2 with blockSize := 1 }

theorem twoBlockHeader_valid : twoBlockHeader.Valid :=
  testHeader_valid _ 2 1 (by decide) (by decide) (by decide)

theorem testGraphBinding_twoBlock :
    validateAgentGraphBinding (testGraphBinding (repeatedDigest '8') 1) twoBlockHeader = .ok () :=
  testGraphBinding_accepted (by decide) (by decide) (isSha256_repeatedDigest rfl rfl)
    (by simp [twoBlockHeader, testHeader])

theorem validateAgentGraphBinding_span_hashes_twoBlock :
    BlockHashesAccepted twoBlockHeader [repeatedDigest '8'] := by
  have hspan : (testGraphBinding (repeatedDigest '8') 1).kvSpans[0]? = some ⟨"checkpoint:prompt", 0, 1,
      "kv:prefix:0", some (repeatedDigest 'd'), [repeatedDigest '8']⟩ := rfl
  exact (validateAgentGraphBinding_span_hashes twoBlockHeader_valid testGraphBinding_twoBlock hspan).1

/-- A span over the first token only may list the second block instead of the first. -/
theorem validateAgentGraphBinding_accepts_other_block :
    twoBlockHeader.Valid ∧
      validateAgentGraphBinding (testGraphBinding (repeatedDigest '8') 1) twoBlockHeader = .ok () ∧
      ∃ span ∈ (testGraphBinding (repeatedDigest '8') 1).kvSpans,
        span.blockHashes ≠ blockHashesForSpan twoBlockHeader span.tokenStart span.tokenEnd := by
  refine ⟨twoBlockHeader_valid, testGraphBinding_twoBlock, _, List.mem_singleton_self _, ?_⟩
  intro h
  have hfirst : blockHashesForSpan twoBlockHeader 0 1 = [repeatedDigest '9'] := rfl
  have heq : [repeatedDigest '8'] = [repeatedDigest '9'] := h.trans hfirst
  exact absurd (repeatedDigest_injective (List.cons.inj heq).1) (by decide)

end PermeantOS
