import PermeantOS.SpanMetadata

namespace PermeantOS

variable {P : Type} {host : AgentHost P}

section Hashes

/-- `sha256:` and 64 lowercase hexadecimal digits. -/
def IsSha256Text (text : String) : Prop :=
  ∃ digits, text.toList = "sha256:".toList ++ digits ∧ digits.length = 64 ∧
    ∀ c ∈ digits, isLowerHexdigit c = true

theorem matchesSha256_iff {text : String} : matchesSha256 text = true ↔
    ∃ digits tail, text.toList = "sha256:".toList ++ (digits ++ tail) ∧ digits.length = 64 ∧
      (∀ c ∈ digits, isLowerHexdigit c = true) ∧ (tail = [] ∨ tail = ['\n']) := by
  simp only [matchesSha256, Bool.and_eq_true, Bool.or_eq_true, decide_eq_true_eq, List.all_eq_true]
  constructor
  · rintro ⟨⟨⟨hbegins, hlength⟩, hall⟩, htail⟩
    obtain ⟨rest, hrest⟩ := List.isPrefixOf_iff_prefix.mp hbegins
    have hdrop : text.toList.drop 7 = rest := by rw [← hrest]; rfl
    rw [hdrop] at hlength hall htail
    exact ⟨rest.take 64, rest.drop 64, by rw [List.take_append_drop, hrest], hlength, hall, htail⟩
  · rintro ⟨digits, tail, htext, hlength, hall, htail⟩
    have hdrop : text.toList.drop 7 = digits ++ tail := by rw [htext]; rfl
    rw [hdrop, List.take_left' hlength, List.drop_left' hlength]
    exact ⟨⟨⟨List.isPrefixOf_iff_prefix.mpr ⟨digits ++ tail, htext.symm⟩, hlength⟩, hall⟩, htail⟩

theorem not_isLowerHexdigit_lineFeed : isLowerHexdigit '\n' = false := by decide

/-- What the pattern lets through is a hash, unless a line feed follows it. -/
theorem isSha256Text_iff {text : String} (h : matchesSha256 text = true) :
    IsSha256Text text ↔ text.toList.getLast? ≠ some '\n' := by
  obtain ⟨digits, tail, htext, hlength, hall, htail⟩ := matchesSha256_iff.mp h
  constructor
  · rintro ⟨digits, htext, hlength, hall⟩ hlast
    have hne : digits ≠ [] := List.ne_nil_of_length_pos (by omega)
    rw [htext, List.getLast?_append_of_ne_nil _ hne] at hlast
    have hlf := hall '\n' (List.mem_of_getLast? hlast)
    rw [not_isLowerHexdigit_lineFeed] at hlf
    cases hlf
  · intro hlast
    rcases htail with rfl | rfl
    · exact ⟨digits, by rw [htext, List.append_nil], hlength, hall⟩
    · rw [htext, ← List.append_assoc, List.getLast?_concat] at hlast
      exact absurd rfl hlast

theorem ensureSha256_ok_iff {name text : String} {value : Json P} :
    ensureSha256 name value = .ok text ↔ value = .str text ∧ matchesSha256 text = true := by
  cases value with
  | str found =>
    rw [ensureSha256]
    split
    next h =>
      constructor
      · intro heq
        cases heq
        exact ⟨rfl, h⟩
      · rintro ⟨heq, _⟩
        cases heq
        rfl
    next h =>
      constructor
      · intro heq
        cases heq
      · rintro ⟨heq, hmatches⟩
        cases heq
        exact absurd hmatches h
  | null | bool _ | int _ | float _ | list _ | dict _ => simp [ensureSha256]

theorem requireText_ok_iff {message text : String} {value : Json P} :
    requireText value message = .ok text ↔ value = .str text ∧ text ≠ "" := by
  cases value with
  | str found =>
    rw [requireText, nonEmptyString]
    by_cases hempty : found = ""
    · simp only [if_pos hempty, reduceCtorEq, Json.str.injEq, false_iff]
      rintro ⟨rfl, hne⟩
      exact hne hempty
    · simp only [if_neg hempty, Except.ok.injEq, Json.str.injEq]
      constructor
      · rintro rfl
        exact ⟨rfl, hempty⟩
      · exact And.left
  | null | bool _ | int _ | float _ | list _ | dict _ => simp [requireText, nonEmptyString]

theorem ensureBlockHashes_ok_iff {span index : Nat} {items : List (Json P)} :
    ensureBlockHashes span index items = .ok () ↔
      ∃ hashes : List String, items = hashes.map .str ∧ ∀ hash ∈ hashes, matchesSha256 hash = true := by
  induction items generalizing index with
  | nil =>
    constructor
    · intro _
      exact ⟨[], rfl, by simp⟩
    · intro _
      rfl
  | cons item items ih =>
    rw [ensureBlockHashes, except_bind_ok_iff]
    constructor
    · rintro ⟨text, htext, hrest⟩
      obtain ⟨rfl, hmatches⟩ := ensureSha256_ok_iff.mp htext
      obtain ⟨hashes, rfl, hall⟩ := ih.mp hrest
      exact ⟨text :: hashes, rfl, List.forall_mem_cons.mpr ⟨hmatches, hall⟩⟩
    · rintro ⟨hashes, hitems, hall⟩
      cases hashes with
      | nil => cases hitems
      | cons hash hashes =>
        cases hitems
        obtain ⟨hfirst, hrest⟩ := List.forall_mem_cons.mp hall
        exact ⟨hash, ensureSha256_ok_iff.mpr ⟨rfl, hfirst⟩, ih.mpr ⟨hashes, rfl, hrest⟩⟩

end Hashes

section TokenIds

/-- The bytes that `token_hash` hashes. -/
def tokenIdsBytes (tokenIds : List Int) : List UInt8 := tokenIds.flatMap fun tokenId => bigEndian 4 tokenId.toNat

theorem tokenIdBytes_ok_iff {tokenId : Int} {bytes : List UInt8} : tokenIdBytes tokenId = .ok bytes ↔
    (0 ≤ tokenId ∧ tokenId < 4294967296) ∧ bytes = bigEndian 4 tokenId.toNat := by
  rw [tokenIdBytes]
  split
  next hneg =>
    constructor
    · intro h
      cases h
    · rintro ⟨⟨hpos, _⟩, _⟩
      omega
  next hpos =>
    split
    next hlt =>
      rw [Except.ok.injEq, eq_comm]
      exact ⟨fun h => ⟨⟨by omega, hlt⟩, h⟩, And.right⟩
    next hge =>
      constructor
      · intro h
        cases h
      · rintro ⟨⟨_, hlt⟩, _⟩
        exact absurd hlt hge

theorem mapM_tokenIdBytes_ok_iff {tokenIds : List Int} {bytes : List (List UInt8)} :
    tokenIds.mapM tokenIdBytes = .ok bytes ↔ (∀ tokenId ∈ tokenIds, 0 ≤ tokenId ∧ tokenId < 4294967296) ∧
      bytes = tokenIds.map fun tokenId => bigEndian 4 tokenId.toNat := by
  induction tokenIds generalizing bytes with
  | nil => simp [List.mapM_nil, pure, Except.pure, eq_comm]
  | cons tokenId tokenIds ih =>
    simp only [List.mapM_cons, except_bind_ok_iff, tokenIdBytes_ok_iff, ih, pure, Except.pure, Except.ok.injEq,
      List.forall_mem_cons, List.map_cons]
    constructor
    · rintro ⟨_, ⟨hfirst, rfl⟩, _, ⟨hrest, rfl⟩, rfl⟩
      exact ⟨⟨hfirst, hrest⟩, rfl⟩
    · rintro ⟨⟨hfirst, hrest⟩, rfl⟩
      exact ⟨_, ⟨hfirst, rfl⟩, _, ⟨hrest, rfl⟩, rfl⟩

theorem tokenHash_ok_iff {tokenIds : List Int} {hash : String} : SpanMetadata.tokenHash host tokenIds = .ok hash ↔
    (∀ tokenId ∈ tokenIds, 0 ≤ tokenId ∧ tokenId < 4294967296) ∧
      hash = sha256Bytes host (tokenIdsBytes tokenIds) := by
  rw [SpanMetadata.tokenHash, except_bind_ok_iff]
  constructor
  · rintro ⟨bytes, hbytes, h⟩
    obtain ⟨hrange, rfl⟩ := mapM_tokenIdBytes_ok_iff.mp hbytes
    cases h
    exact ⟨hrange, by rw [tokenIdsBytes, List.flatMap_def]⟩
  · rintro ⟨hrange, rfl⟩
    exact ⟨_, mapM_tokenIdBytes_ok_iff.mpr ⟨hrange, rfl⟩, by rw [tokenIdsBytes, List.flatMap_def]; rfl⟩

/-- Four bytes each: the bytes tell where one id ends and the next begins. -/
theorem tokenIdsBytes_injective {tokenIds others : List Int}
    (hrange : ∀ tokenId ∈ tokenIds, 0 ≤ tokenId ∧ tokenId < 4294967296)
    (hothers : ∀ tokenId ∈ others, 0 ≤ tokenId ∧ tokenId < 4294967296)
    (h : tokenIdsBytes tokenIds = tokenIdsBytes others) : tokenIds = others := by
  induction tokenIds generalizing others with
  | nil =>
    cases others with
    | nil => rfl
    | cons other others =>
      have hlen := congrArg List.length h
      simp [tokenIdsBytes] at hlen
      omega
  | cons tokenId tokenIds ih =>
    cases others with
    | nil =>
      have hlen := congrArg List.length h
      simp [tokenIdsBytes] at hlen
    | cons other others =>
      obtain ⟨hfirst, hrest⟩ := List.forall_mem_cons.mp hrange
      obtain ⟨hother, hothers⟩ := List.forall_mem_cons.mp hothers
      rw [tokenIdsBytes, tokenIdsBytes, List.flatMap_cons, List.flatMap_cons] at h
      obtain ⟨hhead, htail⟩ := List.append_inj h (by simp)
      have hnat := congrArg ofBigEndian hhead
      rw [ofBigEndian_bigEndian (by omega), ofBigEndian_bigEndian (by omega)] at hnat
      have heq : tokenId = other := by omega
      rw [heq, ih hrest hothers htail]

end TokenIds

section Accepted

theorem getD_null_eq_str_iff {entry : Option (Json P)} {text : String} :
    entry.getD .null = .str text ↔ entry = some (.str text) := getD_null_eq_iff _ (by simp)

theorem ensureSha256_entry_ok_iff {name text : String} {entry : Option (Json P)} :
    ensureSha256 name (entry.getD .null) = .ok text ↔ entry = some (.str text) ∧ matchesSha256 text = true := by
  rw [ensureSha256_ok_iff, getD_null_eq_str_iff]

theorem checkedPrompt_ok_iff {fields : Fields P} {prompt : SpanPrompt P} :
    checkedPrompt fields = .ok prompt ↔
      (fields.lookup "byte_hash" = some (.str prompt.byteHash) ∧ matchesSha256 prompt.byteHash = true) ∧
      (fields.lookup "token_hash" = some (.str prompt.tokenHash) ∧ matchesSha256 prompt.tokenHash = true) ∧
      (fields.lookup "tokenizer_hash" = some (.str prompt.tokenizerHash) ∧
        matchesSha256 prompt.tokenizerHash = true) ∧
      (fields.lookup "token_count").getD .null = prompt.tokenCount ∧
        prompt.tokenCount.asInt = some prompt.count ∧ 0 < prompt.count := by
  simp only [checkedPrompt, except_bind_ok_iff, ensureSha256_entry_ok_iff]
  constructor
  · rintro ⟨byteHash, hbyte, tokenHash, htoken, tokenizerHash, htokenizer, h⟩
    split at h
    next count hcount =>
      cases h
      obtain ⟨hint, hpos⟩ := Option.filter_eq_some_iff.mp hcount
      exact ⟨hbyte, htoken, htokenizer, rfl, hint, of_decide_eq_true hpos⟩
    next => cases h
  · rintro ⟨hbyte, htoken, htokenizer, hcount, hint, hpos⟩
    refine ⟨_, hbyte, _, htoken, _, htokenizer, ?_⟩
    have hfilter : (prompt.tokenCount.asInt).filter (0 < ·) = some prompt.count := by
      rw [hint, Option.filter_some, if_pos (decide_eq_true hpos)]
    rw [hcount, hfilter]
    rfl

/-- A span over the whole prompt, with its block hashes. -/
structure SpanCovers (host : AgentHost P) (prompt : SpanPrompt P) (span : Fields P) (hashes : List String) :
    Prop where
  tokenStart : pyEq host ((span.lookup "token_start").getD .null) (.int 0) = true
  tokenEnd : pyEq host ((span.lookup "token_end").getD .null) prompt.tokenCount = true
  tokenizerHash : span.lookup "tokenizer_hash" = some (.str prompt.tokenizerHash)
  blockHashes : span.lookup "block_hashes" = some (.list (hashes.map .str))
  nonempty : hashes ≠ []

theorem spanBlockHashes_ok_iff {index : Nat} {span : Fields P} {items : List (Json P)} :
    spanBlockHashes index span = .ok items ↔ span.lookup "block_hashes" = some (.list items) ∧ items ≠ [] := by
  rw [spanBlockHashes, ← getD_null_eq_iff (.list items) (by simp)]
  split
  next blockHash rest h =>
    rw [h, Except.ok.injEq, Json.list.injEq]
    constructor
    · rintro rfl
      exact ⟨rfl, by simp⟩
    · exact And.left
  next hno =>
    constructor
    · intro h
      cases h
    · rintro ⟨h, hne⟩
      cases items with
      | nil => exact absurd rfl hne
      | cons blockHash rest => exact absurd h (hno blockHash rest)

/-- The checks of one span, all together. -/
theorem checkSpan_ok_iff {prompt : SpanPrompt P} {index : Nat} {value : Json P} {cacheRef : String} :
    checkSpan host prompt index value = .ok cacheRef ↔ ∃ span hashes, value = .dict span ∧
      (∃ nodeId, span.lookup "node_id" = some (.str nodeId) ∧ nodeId ≠ "") ∧
      (span.lookup "cache_ref" = some (.str cacheRef) ∧ cacheRef ≠ "") ∧
      SpanCovers host prompt span hashes ∧ ∀ hash ∈ hashes, matchesSha256 hash = true := by
  cases value with
  | dict span =>
    simp only [checkSpan, ↓except_bind_unit_ok_iff, except_bind_ok_iff, requireText_ok_iff, refuseSpan_ok_iff,
      not_not, spanBlockHashes_ok_iff, ensureBlockHashes_ok_iff, pyEq_str_iff, getD_null_eq_str_iff,
      pure, Except.pure, Except.ok.injEq, Json.dict.injEq]
    constructor
    · rintro ⟨nodeId, hnode, _, hcache, ⟨hstart, hend⟩, htokenizer, _, ⟨hblocks, hne⟩, ⟨hashes, rfl, hall⟩, rfl⟩
      exact ⟨span, hashes, rfl, ⟨nodeId, hnode⟩, hcache,
        ⟨hstart, hend, htokenizer, hblocks, by simpa using hne⟩, hall⟩
    · rintro ⟨_, hashes, rfl, ⟨nodeId, hnode⟩, hcache, hcovers, hall⟩
      exact ⟨nodeId, hnode, cacheRef, hcache, ⟨hcovers.tokenStart, hcovers.tokenEnd⟩, hcovers.tokenizerHash, _,
        ⟨hcovers.blockHashes, by simpa using hcovers.nonempty⟩, ⟨hashes, rfl, hall⟩, rfl⟩
  | null | bool _ | int _ | float _ | str _ | list _ => simp [checkSpan]

theorem checkSpans_ok_forall {prompt : SpanPrompt P} {index : Nat} {spans : List (Json P)} {cacheRefs : List String}
    (h : checkSpans host prompt index spans = .ok cacheRefs) :
    ∀ value ∈ spans, ∃ span hashes, value = .dict span ∧ SpanCovers host prompt span hashes ∧
      ∀ hash ∈ hashes, matchesSha256 hash = true := by
  induction spans generalizing index cacheRefs with
  | nil => simp
  | cons value spans ih =>
    rw [checkSpans] at h
    obtain ⟨cacheRef, hspan, h⟩ := except_bind_ok_iff.mp h
    obtain ⟨rest, hrest, _⟩ := except_bind_ok_iff.mp h
    obtain ⟨span, hashes, hvalue, _, _, hcovers, hall⟩ := checkSpan_ok_iff.mp hspan
    exact List.forall_mem_cons.mpr ⟨⟨span, hashes, hvalue, hcovers, hall⟩, ih hrest⟩

theorem metadataObject_ok_iff {metadata : Json P} {fields : Fields P} :
    metadataObject metadata = .ok fields ↔ metadata = .dict fields := by
  cases metadata with
  | dict found => simp [metadataObject]
  | null | bool _ | int _ | float _ | str _ | list _ => simp [metadataObject]

theorem promptObject_ok_iff {fields promptFields : Fields P} :
    promptObject fields = .ok promptFields ↔ fields.lookup "prompt" = some (.dict promptFields) := by
  rw [promptObject, ← getD_null_eq_iff (.dict promptFields) (by simp)]
  split
  next found h => rw [h, Except.ok.injEq, Json.dict.injEq]
  next hno =>
    constructor
    · intro h
      cases h
    · intro h
      exact absurd h (hno promptFields)

theorem spanList_ok_iff {fields : Fields P} {spans : List (Json P)} :
    spanList fields = .ok spans ↔ fields.lookup "kv_spans" = some (.list spans) ∧ spans ≠ [] := by
  rw [spanList, ← getD_null_eq_iff (.list spans) (by simp)]
  split
  next span rest h =>
    rw [h, Except.ok.injEq, Json.list.injEq]
    constructor
    · rintro rfl
      exact ⟨rfl, by simp⟩
    · exact And.left
  next hno =>
    constructor
    · intro h
      cases h
    · rintro ⟨h, hne⟩
      cases spans with
      | nil => exact absurd rfl hne
      | cons span rest => exact absurd h (hno span rest)

/-- The view of a target that the prompt of the metadata meets. -/
structure MeetsView (host : AgentHost P) (prompt : SpanPrompt P) (view : PromptView P) : Prop where
  expectedPrompt : checkExpectedPrompt host prompt view.expectedPrompt = .ok ()
  tokenCount : checkExpectedTokenCount prompt view.expectedTokenCount = .ok ()
  tokenIds : checkExpectedTokenIds host prompt view.expectedTokenIds = .ok ()
  tokenizerHash : checkExpectedTokenizerHash (P := P) prompt view.expectedTokenizerHash = .ok ()

/-- The validation, read as one condition. -/
theorem validatePromptSpanMetadata_ok_iff {metadata result : Json P} {view : PromptView P} :
    validatePromptSpanMetadata host metadata view = .ok result ↔
      ∃ fields promptFields prompt spans cacheRefs, metadata = .dict fields ∧
        fields.lookup "version" = some (.str "0.1") ∧
        (∃ runtime, fields.lookup "source_runtime" = some (.str runtime) ∧ runtime ≠ "") ∧
        (∃ modelId, fields.lookup "model_id" = some (.str modelId) ∧ modelId ≠ "") ∧
        fields.lookup "prompt" = some (.dict promptFields) ∧ checkedPrompt promptFields = .ok prompt ∧
        MeetsView host prompt view ∧ (fields.lookup "kv_spans" = some (.list spans) ∧ spans ≠ []) ∧
        checkSpans host prompt 0 spans = .ok cacheRefs ∧ result = validationResult prompt spans cacheRefs view := by
  simp only [validatePromptSpanMetadata, ↓except_bind_unit_ok_iff, except_bind_ok_iff, metadataObject_ok_iff,
    requireText_ok_iff, refuseSpan_ok_iff, not_not, pyEq_str_iff, getD_null_eq_str_iff, promptObject_ok_iff,
    spanList_ok_iff, pure, Except.pure, Except.ok.injEq]
  constructor
  · rintro ⟨fields, rfl, hversion, runtime, hruntime, modelId, hmodel, promptFields, hfields, prompt, hprompt, htext,
      hcount, hids, htokenizer, spans, hspans, cacheRefs, hrefs, rfl⟩
    exact ⟨fields, promptFields, prompt, spans, cacheRefs, rfl, hversion, ⟨runtime, hruntime⟩, ⟨modelId, hmodel⟩,
      hfields, hprompt, ⟨htext, hcount, hids, htokenizer⟩, hspans, hrefs, rfl⟩
  · rintro ⟨fields, promptFields, prompt, spans, cacheRefs, rfl, hversion, ⟨runtime, hruntime⟩, ⟨modelId, hmodel⟩,
      hfields, hprompt, hview, hspans, hrefs, rfl⟩
    exact ⟨fields, rfl, hversion, runtime, hruntime, modelId, hmodel, promptFields, hfields, prompt, hprompt,
      hview.expectedPrompt, hview.tokenCount, hview.tokenIds, hview.tokenizerHash, spans, hspans, cacheRefs, hrefs,
      rfl⟩

end Accepted

section Built

/-- What the builder has checked, and what it makes of it. -/
structure Builds (host : AgentHost P) (arguments : SpanArguments P) (metadata : Json P)
    (prompt modelId runtime tokenizerHash : String) (hashes : Json P) : Prop where
  hasPrompt : arguments.prompt = .str prompt ∧ prompt ≠ ""
  hasTokens : arguments.tokenIds ≠ []
  hasModel : arguments.modelId = .str modelId ∧ modelId ≠ ""
  hasRuntime : arguments.runtime = .str runtime ∧ runtime ≠ ""
  hasTokenizer : arguments.tokenizerHash = .str tokenizerHash ∧ matchesSha256 tokenizerHash = true
  chosen : chosenHashes host arguments = .ok hashes
  ensured : ∃ texts : List String, hashes.iterate = .ok (texts.map .str) ∧
    ∀ text ∈ texts, matchesSha256 text = true
  inRange : ∀ tokenId ∈ arguments.tokenIds, 0 ≤ tokenId ∧ tokenId < 4294967296
  built : metadata = metadataFields host arguments prompt modelId runtime tokenizerHash
    (sha256Bytes host (tokenIdsBytes arguments.tokenIds)) hashes

theorem buildPromptSpanMetadata_ok {arguments : SpanArguments P} {metadata : Json P}
    (h : buildPromptSpanMetadata host arguments = .ok metadata) :
    ∃ prompt modelId runtime tokenizerHash hashes,
      Builds host arguments metadata prompt modelId runtime tokenizerHash hashes := by
  simp only [buildPromptSpanMetadata, ↓except_bind_unit_ok_iff, except_bind_ok_iff, requireText_ok_iff,
    refuseSpan_ok_iff, ensureSha256_ok_iff, ensureBlockHashes_ok_iff, tokenHash_ok_iff] at h
  obtain ⟨prompt, hprompt, hids, modelId, hmodel, runtime, hruntime, tokenizerHash, htokenizer, hashes, hchosen,
    items, hitems, ⟨texts, rfl, hall⟩, _, ⟨hrange, rfl⟩, h⟩ := h
  cases h
  exact ⟨prompt, modelId, runtime, tokenizerHash, hashes, hprompt, hids, hmodel, hruntime, htokenizer, hchosen,
    ⟨texts, hitems, hall⟩, hrange, rfl⟩

variable (host)

/-- The prompt of built metadata, as the validation reads it. -/
def builtPrompt (arguments : SpanArguments P) (prompt tokenizerHash : String) : SpanPrompt P where
  byteHash := sha256Bytes host (asBytes prompt)
  tokenHash := sha256Bytes host (tokenIdsBytes arguments.tokenIds)
  tokenizerHash := tokenizerHash
  tokenCount := .int arguments.tokenIds.length
  count := arguments.tokenIds.length

variable {host}

theorem checkedPrompt_built_iff {byteHash tokenHash tokenizerHash : String} {count : Int} {checked : SpanPrompt P} :
    checkedPrompt [("byte_hash", .str byteHash), ("token_hash", .str tokenHash), ("token_count", .int count),
        ("tokenizer_hash", .str tokenizerHash)] = .ok checked ↔
      matchesSha256 byteHash = true ∧ matchesSha256 tokenHash = true ∧ matchesSha256 tokenizerHash = true ∧
        0 < count ∧ checked = ⟨byteHash, tokenHash, tokenizerHash, .int count, count⟩ := by
  rw [checkedPrompt_ok_iff]
  simp only [List.lookup_cons, String.reduceBEq, Option.some.injEq, Json.str.injEq, Option.getD_some]
  constructor
  · rintro ⟨⟨rfl, hbyte⟩, ⟨rfl, htoken⟩, ⟨rfl, htokenizer⟩, hcount, hint, hpos⟩
    rw [← hcount, Json.asInt, Option.some.injEq] at hint
    obtain ⟨byteHash, tokenHash, tokenizerHash, tokenCount, found⟩ := checked
    dsimp only at hcount hint hpos
    subst hcount hint
    exact ⟨hbyte, htoken, htokenizer, hpos, rfl⟩
  · rintro ⟨hbyte, htoken, htokenizer, hpos, rfl⟩
    exact ⟨⟨rfl, hbyte⟩, ⟨rfl, htoken⟩, ⟨rfl, htokenizer⟩, rfl, rfl, hpos⟩

/-- The validation of built metadata comes down to the hashes, the view and the span. -/
theorem validate_built_iff {arguments : SpanArguments P} {metadata result hashes : Json P} {view : PromptView P}
    {prompt modelId runtime tokenizerHash : String}
    (h : Builds host arguments metadata prompt modelId runtime tokenizerHash hashes) :
    validatePromptSpanMetadata host metadata view = .ok result ↔
      matchesSha256 (sha256Bytes host (asBytes prompt)) = true ∧
      matchesSha256 (sha256Bytes host (tokenIdsBytes arguments.tokenIds)) = true ∧
      MeetsView host (builtPrompt host arguments prompt tokenizerHash) view ∧
      ∃ cacheRef, checkSpan host (builtPrompt host arguments prompt tokenizerHash) 0
          (spanFields arguments tokenizerHash hashes) = .ok cacheRef ∧
        result = validationResult (builtPrompt host arguments prompt tokenizerHash)
          [spanFields arguments tokenizerHash hashes] [cacheRef] view := by
  have hpos : (0 : Int) < arguments.tokenIds.length := Int.natCast_pos.mpr (List.length_pos_of_ne_nil h.hasTokens)
  rw [validatePromptSpanMetadata_ok_iff, h.built, metadataFields]
  constructor
  · rintro ⟨fields, promptFields, checked, spans, cacheRefs, hfields, _, _, _, hprompt, hchecked, hview,
      ⟨hspans, _⟩, hrefs, rfl⟩
    cases Json.dict.inj hfields
    simp only [List.lookup_cons, String.reduceBEq, Option.some.injEq, Json.dict.injEq, Json.list.injEq]
      at hprompt hspans
    subst hprompt hspans
    obtain ⟨hbyte, htoken, _, _, rfl⟩ := checkedPrompt_built_iff.mp hchecked
    obtain ⟨cacheRef, hspan, hrest⟩ := except_bind_ok_iff.mp hrefs
    cases hrest
    exact ⟨hbyte, htoken, hview, cacheRef, hspan, rfl⟩
  · rintro ⟨hbyte, htoken, hview, cacheRef, hspan, rfl⟩
    refine ⟨_, _, builtPrompt host arguments prompt tokenizerHash, [spanFields arguments tokenizerHash hashes],
      [cacheRef], rfl, ?_, ⟨runtime, ?_, h.hasRuntime.2⟩, ⟨modelId, ?_, h.hasModel.2⟩, ?_,
      checkedPrompt_built_iff.mpr ⟨hbyte, htoken, h.hasTokenizer.2, hpos, rfl⟩, hview, ⟨?_, by simp⟩, ?_, rfl⟩
    · simp
    · simp [List.lookup_cons]
    · simp [List.lookup_cons]
    · simp [List.lookup_cons]
    · simp [List.lookup_cons]
    · rw [checkSpans, except_bind_of_ok hspan]
      rfl

end Built

section Views

/-- `hexdigest()` writes 64 lowercase hexadecimal digits. -/
def WritesHexDigests (host : AgentHost P) : Prop :=
  ∀ data, (host.sha256Hex data).toList.length = 64 ∧ ∀ c ∈ (host.sha256Hex data).toList, isLowerHexdigit c = true

theorem matchesSha256_sha256Bytes (hhex : WritesHexDigests host) (data : List UInt8) :
    matchesSha256 (sha256Bytes host data) = true := by
  obtain ⟨hlength, hall⟩ := hhex data
  refine matchesSha256_iff.mpr ⟨(host.sha256Hex data).toList, [], ?_, hlength, hall, .inl rfl⟩
  rw [sha256Bytes, String.toList_append, List.append_nil]

/-- The view of a target with the prompt, the tokens and the tokenizer that the metadata was built from. -/
def sameView (arguments : SpanArguments P) (prompt tokenizerHash : String) : PromptView P where
  expectedPrompt := some prompt
  expectedTokenCount := some arguments.tokenIds.length
  expectedTokenIds := some (.list (arguments.tokenIds.map .int))
  expectedTokenizerHash := some tokenizerHash

theorem dimValues_map_int (ints : List Int) : dimValues (ints.map (Json.int (F := P))) = ints := by
  rw [dimValues, List.filterMap_map]
  exact List.filterMap_some

theorem meetsView_sameView {arguments : SpanArguments P} {prompt tokenizerHash : String}
    (hrange : ∀ tokenId ∈ arguments.tokenIds, 0 ≤ tokenId ∧ tokenId < 4294967296)
    (htokenizer : matchesSha256 tokenizerHash = true) :
    MeetsView host (builtPrompt host arguments prompt tokenizerHash) (sameView arguments prompt tokenizerHash) where
  expectedPrompt := refuseSpan_ok_iff.mpr (not_not.mpr rfl)
  tokenCount := refuseSpan_ok_iff.mpr (not_not.mpr rfl)
  tokenIds := by
    rw [sameView, checkExpectedTokenIds, dimValues_map_int]
    simp only [↓except_bind_unit_ok_iff, except_bind_ok_iff, refuseSpan_ok_iff, not_not, tokenHash_ok_iff]
    refine ⟨?_, rfl, _, ⟨hrange, rfl⟩, rfl⟩
    simp [Json.asInt]
  tokenizerHash := by
    rw [sameView, checkExpectedTokenizerHash]
    simp only [except_bind_ok_iff, ensureSha256_ok_iff, refuseSpan_ok_iff, not_not]
    exact ⟨tokenizerHash, ⟨rfl, htokenizer⟩, rfl⟩

theorem writesHexDigests_decimalHost : WritesHexDigests decimalHost := by
  have hdigit : ∀ n < 16, isLowerHexdigit (hexDigit n) = true := by decide
  intro data
  refine ⟨?_, forall_mem_hashlibSha256 hdigit data⟩
  change (lowerHex (Sha256.digest data)).toList.length = 64
  rw [lowerHex, String.toList_ofList]
  simp [Sha256.digest]

def zerosHash : String := "sha256:" ++ String.ofList (List.replicate 64 '0')

/-- A prompt of two tokens, with a cache reference and block hashes to choose. -/
def twoTokens (cacheRef : String) (blockHashes : Json Int) : SpanArguments Int where
  prompt := .str "p"
  tokenIds := [1, 2]
  tokenizerHash := .str zerosHash
  modelId := .str "m"
  runtime := .str "r"
  cacheRef := .str cacheRef
  nodeId := .str "checkpoint:prompt"
  blockHashes := blockHashes

/-- A list of one hash, with something behind its digits. -/
def oneHash (tail : String) : Json Int := .list [.str (zerosHash ++ tail)]

theorem twoTokens_built : ∃ metadata,
    buildPromptSpanMetadata decimalHost (twoTokens "kv" (oneHash "")) = .ok metadata :=
  exists_of_isOk (by decide +kernel)

/-- The prompt of two tokens is accepted on its own account where its span is. -/
theorem twoTokens_accepted {cacheRef : String} {hashes metadata : Json Int}
    (hbuild : buildPromptSpanMetadata decimalHost (twoTokens cacheRef hashes) = .ok metadata)
    (htruthy : hashes.truthy decimalHost.toAdapterHost = true) :
    (∃ result, validatePromptSpanMetadata decimalHost metadata
        (sameView (twoTokens cacheRef hashes) "p" zerosHash) = .ok result) ↔
      (checkSpan decimalHost (builtPrompt decimalHost (twoTokens cacheRef hashes) "p" zerosHash) 0
        (spanFields (twoTokens cacheRef hashes) zerosHash hashes)).isOk = true := by
  obtain ⟨prompt, modelId, runtime, tokenizerHash, chosen, hbuilt⟩ := buildPromptSpanMetadata_ok hbuild
  cases hbuilt.hasPrompt.1
  cases hbuilt.hasTokenizer.1
  have hchosen : chosen = hashes := by
    have h := hbuilt.chosen
    rw [chosenHashes, twoTokens, if_pos htruthy] at h
    exact (Except.ok.inj h).symm
  subst hchosen
  constructor
  · rintro ⟨result, h⟩
    obtain ⟨_, _, _, found, hspan, _⟩ := (validate_built_iff hbuilt).mp h
    rw [hspan]
    rfl
  · intro h
    obtain ⟨found, hspan⟩ := exists_of_isOk h
    exact ⟨_, (validate_built_iff hbuilt).mpr ⟨matchesSha256_sha256Bytes writesHexDigests_decimalHost _,
      matchesSha256_sha256Bytes writesHexDigests_decimalHost _,
      meetsView_sameView hbuilt.inRange hbuilt.hasTokenizer.2, found, hspan, rfl⟩⟩

end Views

section Binding

variable (host)

/-- The hash function does not collide on two inputs. -/
def NoCollision (a b : List UInt8) : Prop := host.sha256Hex a = host.sha256Hex b → a = b

/-- The block hashes of a list of spans. -/
def blockHashesOf (spans : List (Json P)) : Set String :=
  {hash | ∃ span items, .dict span ∈ spans ∧ span.lookup "block_hashes" = some (.list items) ∧ .str hash ∈ items}

variable {host}

theorem NoCollision.eq_of_sha256Bytes {a b : List UInt8} (hcollision : NoCollision host a b)
    (h : sha256Bytes host a = sha256Bytes host b) : a = b := by
  apply hcollision
  have htext := congrArg String.toList h
  rw [sha256Bytes, sha256Bytes, String.toList_append, String.toList_append] at htext
  exact String.toList_injective (List.append_cancel_left htext)

theorem checkExpectedTokenIds_ok {prompt : SpanPrompt P} {items : List (Json P)}
    (h : checkExpectedTokenIds host prompt (some (.list items)) = .ok ()) :
    (∀ tokenId ∈ dimValues items, 0 ≤ tokenId ∧ tokenId < 4294967296) ∧
      prompt.tokenHash = sha256Bytes host (tokenIdsBytes (dimValues items)) := by
  simp only [checkExpectedTokenIds, ↓except_bind_unit_ok_iff, except_bind_ok_iff, refuseSpan_ok_iff, not_not,
    tokenHash_ok_iff] at h
  obtain ⟨_, _, _, _, ⟨hrange, rfl⟩, heq⟩ := h
  exact ⟨hrange, heq.symm⟩

/-- Metadata of a prompt passes for a target's prompt, tokens and tokenizer only if they are the same. -/
theorem build_binds {arguments : SpanArguments P} {metadata result : Json P} {view : PromptView P}
    {prompt expectedPrompt expectedTokenizer : String} {expectedIds : List (Json P)}
    (hbuild : buildPromptSpanMetadata host arguments = .ok metadata) (hprompt : arguments.prompt = .str prompt)
    (h : validatePromptSpanMetadata host metadata view = .ok result)
    (hexpected : view.expectedPrompt = some expectedPrompt) (hids : view.expectedTokenIds = some (.list expectedIds))
    (htokenizer : view.expectedTokenizerHash = some expectedTokenizer)
    (hpromptHash : NoCollision host (asBytes expectedPrompt) (asBytes prompt))
    (htokenHash : NoCollision host (tokenIdsBytes arguments.tokenIds) (tokenIdsBytes (dimValues expectedIds))) :
    expectedPrompt = prompt ∧ dimValues expectedIds = arguments.tokenIds ∧
      arguments.tokenizerHash = .str expectedTokenizer := by
  obtain ⟨text, modelId, runtime, tokenizerHash, hashes, hbuilt⟩ := buildPromptSpanMetadata_ok hbuild
  cases hprompt.symm.trans hbuilt.hasPrompt.1
  obtain ⟨_, _, hview, _⟩ := (validate_built_iff hbuilt).mp h
  have hfirst := hview.expectedPrompt
  have hsecond := hview.tokenIds
  have hthird := hview.tokenizerHash
  rw [hexpected, checkExpectedPrompt, refuseSpan_ok_iff, not_not] at hfirst
  rw [hids] at hsecond
  rw [htokenizer, checkExpectedTokenizerHash] at hthird
  simp only [except_bind_ok_iff, ensureSha256_ok_iff, refuseSpan_ok_iff, not_not] at hthird
  obtain ⟨found, ⟨hfound, _⟩, hsame⟩ := hthird
  cases Json.str.inj hfound
  obtain ⟨hrange, hhash⟩ := checkExpectedTokenIds_ok hsecond
  refine ⟨asBytes_injective (hpromptHash.eq_of_sha256Bytes hfirst), ?_, ?_⟩
  · exact (tokenIdsBytes_injective hbuilt.inRange hrange (htokenHash.eq_of_sha256Bytes hhash)).symm
  · rw [hbuilt.hasTokenizer.1, hsame]
    rfl

/-- Metadata that is accepted binds its prompt and has spans over the whole of it; their block hashes are
hashes exactly when none of them ends in a line feed. -/
theorem spanMetadata_binds {metadata result : Json P} {view : PromptView P}
    (h : validatePromptSpanMetadata host metadata view = .ok result) :
    (∀ arguments prompt expectedPrompt expectedIds expectedTokenizer,
      buildPromptSpanMetadata host arguments = .ok metadata → arguments.prompt = .str prompt →
      view.expectedPrompt = some expectedPrompt → view.expectedTokenIds = some (.list expectedIds) →
      view.expectedTokenizerHash = some expectedTokenizer →
      NoCollision host (asBytes expectedPrompt) (asBytes prompt) →
      NoCollision host (tokenIdsBytes arguments.tokenIds) (tokenIdsBytes (dimValues expectedIds)) →
        expectedPrompt = prompt ∧ dimValues expectedIds = arguments.tokenIds ∧
          arguments.tokenizerHash = .str expectedTokenizer) ∧
    ∃ fields promptFields prompt spans, metadata = .dict fields ∧
      fields.lookup "prompt" = some (.dict promptFields) ∧ checkedPrompt promptFields = .ok prompt ∧
      fields.lookup "kv_spans" = some (.list spans) ∧ spans ≠ [] ∧
      (∀ value ∈ spans, ∃ span hashes, value = .dict span ∧ SpanCovers host prompt span hashes) ∧
      ((∀ hash ∈ blockHashesOf spans, IsSha256Text hash) ↔
        ∀ hash ∈ blockHashesOf spans, hash.toList.getLast? ≠ some '\n') := by
  refine ⟨?_, ?_⟩
  · intro arguments prompt expectedPrompt expectedIds expectedTokenizer hbuild hprompt hexpected hids htokenizer
    exact build_binds hbuild hprompt h hexpected hids htokenizer
  · obtain ⟨fields, promptFields, prompt, spans, cacheRefs, rfl, _, _, _, hfields, hprompt, _, ⟨hspans, hne⟩, hrefs, _⟩ :=
      validatePromptSpanMetadata_ok_iff.mp h
    have hall := checkSpans_ok_forall hrefs
    have hmatches : ∀ hash ∈ blockHashesOf spans, matchesSha256 hash = true := by
      rintro hash ⟨span, items, hspan, hitems, hmem⟩
      obtain ⟨found, hashes, heq, hcovers, hhashes⟩ := hall _ hspan
      cases heq
      cases hitems.symm.trans hcovers.blockHashes
      obtain ⟨other, hother, heq⟩ := List.mem_map.mp hmem
      cases heq
      exact hhashes _ hother
    refine ⟨fields, promptFields, prompt, spans, rfl, hfields, hprompt, hspans, hne, ?_, ?_⟩
    · intro value hvalue
      obtain ⟨span, hashes, heq, hcovers, _⟩ := hall value hvalue
      exact ⟨span, hashes, heq, hcovers⟩
    · constructor
      · intro hsha hash hmem
        exact (isSha256Text_iff (hmatches hash hmem)).mp (hsha hash hmem)
      · intro hlast hash hmem
        exact (isSha256Text_iff (hmatches hash hmem)).mpr (hlast hash hmem)

theorem twoTokens_binds : ∃ metadata result,
    buildPromptSpanMetadata decimalHost (twoTokens "kv" (oneHash "")) = .ok metadata ∧
    validatePromptSpanMetadata decimalHost metadata (sameView (twoTokens "kv" (oneHash "")) "p" zerosHash) =
      .ok result ∧
    dimValues [Json.int (F := Int) 1, .int 2] = [1, 2] ∧ ∃ fields spans, metadata = .dict fields ∧
      fields.lookup "kv_spans" = some (.list spans) ∧
      ((∀ hash ∈ blockHashesOf spans, IsSha256Text hash) ↔
        ∀ hash ∈ blockHashesOf spans, hash.toList.getLast? ≠ some '\n') := by
  obtain ⟨metadata, hbuild⟩ := twoTokens_built
  obtain ⟨result, hvalid⟩ := (twoTokens_accepted hbuild rfl).mpr (by decide +kernel)
  obtain ⟨hbinds, fields, promptFields, prompt, spans, hfields, _, _, hspans, _, _, hexact⟩ := spanMetadata_binds hvalid
  have hsame := hbinds (twoTokens "kv" (oneHash "")) "p" "p" [.int 1, .int 2] zerosHash hbuild rfl rfl rfl rfl
    (fun _ => rfl) (fun _ => rfl)
  exact ⟨metadata, result, hbuild, hvalid, hsame.2.1, fields, spans, hfields, hspans, hexact⟩

/-- Metadata with a line feed behind a hash passes. -/
theorem lineFeed_accepted :
    ¬∀ (metadata : Json Int) view result, validatePromptSpanMetadata decimalHost metadata view = .ok result →
      ∀ fields spans, metadata = .dict fields → fields.lookup "kv_spans" = some (.list spans) →
        ∀ hash ∈ blockHashesOf spans, IsSha256Text hash := by
  have hbuilds : Except.isOk (buildPromptSpanMetadata decimalHost (twoTokens "kv" (oneHash "\n"))) = true := by
    decide +kernel
  obtain ⟨metadata, hbuild⟩ := exists_of_isOk hbuilds
  obtain ⟨result, hvalid⟩ := (twoTokens_accepted hbuild rfl).mpr (by decide +kernel)
  obtain ⟨prompt, modelId, runtime, tokenizerHash, hashes, hbuilt⟩ := buildPromptSpanMetadata_ok hbuild
  have hchosen : hashes = oneHash "\n" := (Except.ok.inj hbuilt.chosen).symm
  have hspans : zerosHash ++ "\n" ∈
      blockHashesOf [spanFields (twoTokens "kv" (oneHash "\n")) tokenizerHash hashes] := by
    refine ⟨_, [.str (zerosHash ++ "\n")], List.mem_cons_self, ?_, List.mem_cons_self⟩
    rw [hchosen]
    simp [List.lookup_cons, oneHash]
  intro h
  have hsha := h metadata _ result hvalid _ [spanFields (twoTokens "kv" (oneHash "\n")) tokenizerHash hashes]
    hbuilt.built (by simp [List.lookup_cons]) _ hspans
  obtain ⟨digits, htext, hlength, _⟩ := hsha
  have hlong := congrArg List.length htext
  rw [List.length_append, hlength] at hlong
  exact absurd hlong (by decide)

end Binding

section Acceptance

/-- The span that the builder makes passes for its own prompt up to three of its fields. -/
theorem checkSpan_spanFields_iff {arguments : SpanArguments P} {prompt tokenizerHash : String} {hashes : Json P}
    {texts : List String} (hiterate : hashes.iterate = .ok (texts.map .str))
    (hall : ∀ text ∈ texts, matchesSha256 text = true) (hne : texts ≠ []) :
    (∃ cacheRef, checkSpan host (builtPrompt host arguments prompt tokenizerHash) 0
        (spanFields arguments tokenizerHash hashes) = .ok cacheRef) ↔
      (∃ cacheRef, arguments.cacheRef = .str cacheRef ∧ cacheRef ≠ "") ∧
      (∃ nodeId, arguments.nodeId = .str nodeId ∧ nodeId ≠ "") ∧ ∃ items, hashes = .list items := by
  constructor
  · rintro ⟨cacheRef, h⟩
    obtain ⟨span, found, hspan, ⟨nodeId, hnode⟩, hcache, hcovers, _⟩ := checkSpan_ok_iff.mp h
    cases Json.dict.inj hspan
    have hblocks := hcovers.blockHashes
    simp only [List.lookup_cons, String.reduceBEq, Option.some.injEq] at hnode hcache hblocks
    exact ⟨⟨cacheRef, hcache⟩, ⟨nodeId, hnode⟩, _, hblocks⟩
  · rintro ⟨⟨cacheRef, hcache⟩, ⟨nodeId, hnode⟩, items, rfl⟩
    cases hiterate
    refine ⟨cacheRef, checkSpan_ok_iff.mpr ⟨_, texts, rfl, ⟨nodeId, ?_, hnode.2⟩, ⟨?_, hcache.2⟩,
      ⟨?_, ?_, ?_, ?_, hne⟩, hall⟩⟩
    · simp [hnode.1]
    · simp [List.lookup_cons, hcache.1]
    · simp [List.lookup_cons, pyEq, numbersEq, Json.asInt]
    · simp [List.lookup_cons, builtPrompt, pyEq, numbersEq, Json.asInt]
    · simp [List.lookup_cons, builtPrompt]
    · simp [List.lookup_cons]

/-- Anything that is true has something to iterate over. -/
theorem iterate_ne_nil {host : AdapterHost P} {value : Json P} {texts : List String}
    (htruthy : value.truthy host = true) (h : value.iterate = .ok (texts.map .str)) : texts ≠ [] := by
  rintro rfl
  cases value with
  | list items =>
    cases h
    cases htruthy
  | dict fields =>
    rw [List.map_nil, Json.iterate, Except.ok.injEq, List.map_eq_nil_iff] at h
    subst h
    cases htruthy
  | str text =>
    rw [List.map_nil, Json.iterate, Except.ok.injEq, List.map_eq_nil_iff, String.toList_eq_nil_iff] at h
    subst h
    simp [Json.truthy] at htruthy
  | null | bool _ | int _ | float _ => cases h

theorem chosenHashes_ok {arguments : SpanArguments P} {hashes : Json P}
    (h : chosenHashes host arguments = .ok hashes) {texts : List String}
    (hiterate : hashes.iterate = .ok (texts.map .str)) :
    texts ≠ [] ∧ ((∃ items, hashes = .list items) ↔
      arguments.blockHashes.truthy host.toAdapterHost = false ∨ ∃ items, arguments.blockHashes = .list items) := by
  rw [chosenHashes] at h
  split at h
  next htruthy =>
    cases h
    refine ⟨iterate_ne_nil htruthy hiterate, ?_⟩
    rw [htruthy]
    simp
  next hfalsy =>
    obtain ⟨tokenHash, _, h⟩ := except_bind_ok_iff.mp h
    cases h
    refine ⟨?_, ?_⟩
    · rintro rfl
      cases hiterate
    · exact ⟨fun _ => .inl (Bool.eq_false_iff.mpr hfalsy), fun _ => ⟨_, rfl⟩⟩

/-- Built metadata passes for its own prompt exactly when the cache reference and the node id are non-empty
strings and the block hashes, where there are any, a list. -/
theorem build_validates_iff (hhex : WritesHexDigests host) {arguments : SpanArguments P} {metadata : Json P}
    {prompt tokenizerHash : String} (hbuild : buildPromptSpanMetadata host arguments = .ok metadata)
    (hprompt : arguments.prompt = .str prompt) (htokenizer : arguments.tokenizerHash = .str tokenizerHash) :
    (∃ result, validatePromptSpanMetadata host metadata (sameView arguments prompt tokenizerHash) = .ok result) ↔
      (∃ cacheRef, arguments.cacheRef = .str cacheRef ∧ cacheRef ≠ "") ∧
      (∃ nodeId, arguments.nodeId = .str nodeId ∧ nodeId ≠ "") ∧
      (arguments.blockHashes.truthy host.toAdapterHost = false ∨ ∃ items, arguments.blockHashes = .list items) := by
  obtain ⟨text, modelId, runtime, tokenizer, hashes, hbuilt⟩ := buildPromptSpanMetadata_ok hbuild
  cases hprompt.symm.trans hbuilt.hasPrompt.1
  cases htokenizer.symm.trans hbuilt.hasTokenizer.1
  obtain ⟨texts, hiterate, hall⟩ := hbuilt.ensured
  obtain ⟨hne, hlist⟩ := chosenHashes_ok hbuilt.chosen hiterate
  have hspan : (∃ cacheRef, checkSpan host (builtPrompt host arguments prompt tokenizerHash) 0
      (spanFields arguments tokenizerHash hashes) = .ok cacheRef) ↔ _ := checkSpan_spanFields_iff hiterate hall hne
  rw [← hlist, ← hspan]
  constructor
  · rintro ⟨result, h⟩
    obtain ⟨_, _, _, cacheRef, hspan, _⟩ := (validate_built_iff hbuilt).mp h
    exact ⟨cacheRef, hspan⟩
  · rintro ⟨cacheRef, hspan⟩
    exact ⟨_, (validate_built_iff hbuilt).mpr ⟨matchesSha256_sha256Bytes hhex _, matchesSha256_sha256Bytes hhex _,
      meetsView_sameView hbuilt.inRange hbuilt.hasTokenizer.2, cacheRef, hspan, rfl⟩⟩

theorem twoTokens_validates : ∃ metadata result,
    buildPromptSpanMetadata decimalHost (twoTokens "kv" (oneHash "")) = .ok metadata ∧
    validatePromptSpanMetadata decimalHost metadata (sameView (twoTokens "kv" (oneHash "")) "p" zerosHash) =
      .ok result := by
  obtain ⟨metadata, hbuild⟩ := twoTokens_built
  obtain ⟨result, hvalid⟩ := (build_validates_iff writesHexDigests_decimalHost hbuild rfl rfl).mpr
    ⟨⟨"kv", rfl, by decide⟩, ⟨"checkpoint:prompt", rfl, by decide⟩, .inr ⟨_, rfl⟩⟩
  exact ⟨metadata, result, hbuild, hvalid⟩

/-- Metadata with an empty cache reference is built, and does not pass for its own prompt. -/
theorem emptyCacheRef_refused :
    ¬∀ metadata, buildPromptSpanMetadata decimalHost (twoTokens "" (oneHash "")) = .ok metadata →
      ∃ result, validatePromptSpanMetadata decimalHost metadata (sameView (twoTokens "" (oneHash "")) "p" zerosHash) =
        .ok result := by
  have hbuilds : Except.isOk (buildPromptSpanMetadata decimalHost (twoTokens "" (oneHash ""))) = true := by
    decide +kernel
  have hrefused : (checkSpan decimalHost (builtPrompt decimalHost (twoTokens "" (oneHash "")) "p" zerosHash) 0
      (spanFields (twoTokens "" (oneHash "")) zerosHash (oneHash ""))).isOk = false := by
    decide +kernel
  intro h
  obtain ⟨metadata, hbuild⟩ := exists_of_isOk hbuilds
  have hspan := (twoTokens_accepted hbuild rfl).mp (h metadata hbuild)
  rw [hrefused] at hspan
  cases hspan

end Acceptance

end PermeantOS
