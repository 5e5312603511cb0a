import PermeantOS.MlxKvExported

namespace PermeantOS

variable {α : Type}

section Lines

variable {disk : Disk} {workingDirectory : Directory} {manifest : ExternalManifest}

theorem asBytes_tab : asBytes "\t" = [9] := by decide

/-- Fields without tabs, of which the last is not empty, are found again. -/
theorem splitTabs_intercalate {fields : List String} (htab : ∀ field ∈ fields, '\t' ∉ field.toList)
    (hlast : fields.getLast? ≠ some "") :
    splitTabs (asBytes (String.intercalate "\t" fields)) = fields.map asBytes := by
  rw [splitTabs, asBytes_intercalate, asBytes_tab]
  apply getlines_of_last
  · intro piece hpiece
    obtain ⟨field, hfield, rfl⟩ := List.mem_map.mp hpiece
    exact not_mem_asBytes (by decide) rfl (htab field hfield)
  · rw [List.getLast?_map]
    intro heq
    obtain ⟨field, hfield, hempty⟩ := Option.map_eq_some_iff.mp heq
    rw [asBytes_eq_nil_iff] at hempty
    exact hlast (hempty ▸ hfield)

theorem head?_asBytes {line : String} {c : Char} {cs : List Char} (h : line.toList = c :: cs)
    (hsmall : c.toNat < 0x80) : (asBytes line).head? = some (UInt8.ofNat c.toNat) := by
  have hvalue : c.val.toNat ≤ 127 := Nat.le_of_lt_succ hsmall
  have hencode : String.utf8EncodeChar c = [UInt8.ofNat c.toNat] := by
    unfold String.utf8EncodeChar
    dsimp only
    rw [if_pos hvalue]
    rfl
  rw [asBytes_eq_flatMap, h, List.flatMap_cons, hencode]
  rfl

/-- A line that begins with a letter is neither empty nor a comment. -/
theorem read_of_letter {line : String} {c : Char} {cs : List Char} (h : line.toList = c :: cs)
    (hc : c = 's' ∨ c = 'p' ∨ c = 'l') : ¬((asBytes line).head? = none ∨ (asBytes line).head? = some 35) := by
  have hsmall : c.toNat < 0x80 := by
    rcases hc with rfl | rfl | rfl <;> decide
  rw [head?_asBytes h hsmall]
  rcases hc with rfl | rfl | rfl <;> decide

def pairFields : List String :=
  ["schema_version", "source_runtime", "source_model", "prompt_path", "prompt_tokens", "source_token_ids"]

theorem pairFields_plain : ∀ field ∈ pairFields, '\t' ∉ field.toList ∧ field ≠ "" ∧
    (field.toList.head? = some 's' ∨ field.toList.head? = some 'p') := by decide

theorem pairLine_read {field rest : String} (hfield : field ∈ pairFields) :
    ¬((asBytes (field ++ rest)).head? = none ∨ (asBytes (field ++ rest)).head? = some 35) := by
  obtain ⟨_, hne, hhead⟩ := pairFields_plain field hfield
  cases hchars : field.toList with
  | nil => exact absurd (String.toList_injective (hchars.trans rfl)) hne
  | cons c cs =>
    rw [hchars, List.head?_cons, Option.some.injEq, Option.some.injEq] at hhead
    have hline : (field ++ rest).toList = c :: (cs ++ rest.toList) := by
      rw [String.toList_append, hchars, List.cons_append]
    exact read_of_letter hline (hhead.imp id .inl)

/-- A line of a field and its value. -/
theorem loadLine_pair {field value : String} (hfield : field ∈ pairFields) (hvalue : '\t' ∉ value.toList)
    (hne : value ≠ "") :
    loadLine disk workingDirectory manifest (asBytes (field ++ "\t" ++ value)) =
      if field = "schema_version" then .ok { manifest with schemaVersion := asBytes value }
      else if field = "source_runtime" then .ok { manifest with sourceRuntime := asBytes value }
      else if field = "source_model" then .ok { manifest with sourceModel := asBytes value }
      else if field = "prompt_path" then .ok { manifest with promptPath := asBytes value }
      else if field = "prompt_tokens" then
        (parseTokenCsv (asBytes value)).map fun tokens => { manifest with promptTokens := tokens }
      else (parseTokenCsv (asBytes value)).map fun tokens => { manifest with sourceContinuation := tokens } := by
  have hfields : splitTabs (asBytes (field ++ "\t" ++ value)) = [asBytes field, asBytes value] := by
    have hpair : field ++ "\t" ++ value = String.intercalate "\t" [field, value] := by
      rw [String.intercalate_cons_cons, String.intercalate_singleton]
    rw [hpair, splitTabs_intercalate]
    · rfl
    · intro text htext
      simp only [List.mem_cons, List.not_mem_nil, or_false] at htext
      rcases htext with rfl | rfl
      · exact (pairFields_plain _ hfield).1
      · exact hvalue
    · simpa using hne
  have hread : ¬((asBytes (field ++ "\t" ++ value)).head? = none ∨
      (asBytes (field ++ "\t" ++ value)).head? = some 35) := by
    rw [String.append_assoc]
    exact pairLine_read hfield
  rw [loadLine, if_neg hread, hfields]
  simp only [asBytes_inj]
  simp only [pairFields, List.mem_cons, List.not_mem_nil, or_false] at hfield
  rcases hfield with rfl | rfl | rfl | rfl | rfl | rfl <;> simp <;> rfl

/-- A field without a value is not a pair of fields. -/
theorem loadLine_emptyValue {field : String} (hfield : field ∈ pairFields) :
    loadLine disk workingDirectory manifest (asBytes (field ++ "\t")) =
      .error (.runtimeError (asBytes "invalid external KV manifest line: " ++ asBytes (field ++ "\t"))) := by
  have hfields : splitTabs (asBytes (field ++ "\t")) = [asBytes field] := by
    have htab : (9 : UInt8) ∉ asBytes field := not_mem_asBytes (by decide) rfl (pairFields_plain field hfield).1
    have hclosed : getlines 9 ([9].intercalate [asBytes field] ++ [9]) = [asBytes field] :=
      getlines_closed (by simpa using htab) (by simp)
    rw [List.intercalate_singleton] at hclosed
    rw [splitTabs, asBytes_append, asBytes_tab, hclosed]
  rw [loadLine, if_neg (pairLine_read hfield), hfields]

/-- Tokens that fit `int` are read back. -/
theorem parseTokenCsv_tokenText {tokens : List Int} (h : ∀ token ∈ tokens, -2 ^ 31 ≤ token ∧ token < 2 ^ 31) :
    parseTokenCsv (asBytes (tokenText tokens)) = .ok tokens := by
  have hcomma : asBytes "," = [44] := by decide
  have hne (token : Int) : asBytes (toString token) ≠ [] := by
    intro hnil
    obtain ⟨c, cs, hchars, _⟩ := toString_head token
    rw [asBytes_eq_nil_iff.mp hnil] at hchars
    cases hchars
  have hpieces : getlines 44 (asBytes (tokenText tokens)) = tokens.map fun token => asBytes (toString token) := by
    rw [tokenText, asBytes_intercalate, hcomma, List.map_map]
    apply getlines_of_last
    · intro piece hpiece
      obtain ⟨token, _, rfl⟩ := List.mem_map.mp hpiece
      refine not_mem_asBytes (c := ',') (by decide) rfl ?_
      intro hmem
      rcases toString_chars token _ hmem with heq | hdigit
      · exact absurd heq (by decide)
      · exact absurd hdigit (by decide)
    · rw [List.getLast?_map]
      intro heq
      obtain ⟨token, _, hempty⟩ := Option.map_eq_some_iff.mp heq
      exact hne token hempty
  have hkept : (tokens.map fun token => asBytes (toString token)).filter (· ≠ []) =
      tokens.map fun token => asBytes (toString token) := by
    rw [List.filter_eq_self]
    intro piece hpiece
    obtain ⟨token, _, rfl⟩ := List.mem_map.mp hpiece
    simpa using hne token
  rw [parseTokenCsv, hpieces, hkept, mapM_ok_iff]
  rw [List.forall₂_map_left_iff, List.forall₂_same]
  intro token htoken
  exact convert_toString (h token htoken).1 (h token htoken).2

end Lines

section Layers

variable {disk : Disk} {workingDirectory : Directory} {memory : Nat} {f4 : α → F32} {args : ExportArgs}

/-- What a line of the manifest, a vector and a file can hold of a layer. -/
structure CanonicalLayer.Fits (layer : CanonicalLayer) : Prop where
  kWidth : layer.kWidth < 2 ^ 63
  vWidth : layer.vWidth < 2 ^ 63
  key : layer.seqLen * layer.kWidth < 2 ^ 61
  value : layer.seqLen * layer.vWidth < 2 ^ 61

def ExternalLayer.ofCanonical (layer : CanonicalLayer) : ExternalLayer :=
  ⟨layer.il, layer.seqLen, layer.kWidth, layer.vWidth, layer.key, layer.value⟩

theorem readF32leFile_ok (workingDirectory : Directory) {location : Location} {values : List F32}
    (hclean : CleanLocation location)
    (hread : readBytes disk location = .ok (values.flatMap f32ToLeBytes)) {expected : Nat}
    (hlength : values.length = expected) (hsmall : expected < 2 ^ 61) :
    readF32leFile disk workingDirectory (asBytes (locationText location)) expected = .ok values := by
  have hopen : openFile disk workingDirectory (asBytes (locationText location)) =
      some (values.flatMap f32ToLeBytes) := by
    rw [openFile_locationText disk workingDirectory hclean, hread]
    rfl
  have hbytes : (values.flatMap f32ToLeBytes).length = expected * 4 % 2 ^ 64 := by
    rw [length_flatMap_of_length length_f32ToLeBytes, hlength, Nat.mod_eq_of_lt (by omega)]
  rw [readF32leFile, hopen]
  dsimp only
  rw [if_neg (not_not.mpr hbytes), if_neg (by omega), chunksExactFour_le]

theorem tensorPath_clean (hclean : CleanLocation args.runDir.names) (layerIndex : Nat) {kind : String}
    (hkind : ∀ c ∈ kind.toList, isFileChar c = true) : CleanLocation (tensorPath args layerIndex kind) := by
  have htensors : CleanName "tensors" := (cleanName_of_fileChars (by decide) (List.all_eq_true.mp (by decide))).1
  intro name hname
  rw [tensorPath_eq, List.mem_append, List.mem_cons, List.mem_singleton] at hname
  rcases hname with hname | rfl | rfl
  · exact hclean name hname
  · exact htensors
  · exact (tensorFileName_clean args layerIndex hkind).1

theorem locationText_plain {location : Location} (hclean : CleanLocation location) :
    '\t' ∉ (locationText location).toList ∧ '\n' ∉ (locationText location).toList := by
  have hmem {c : Char} (hslash : c ≠ '/') (hnot : ∀ name ∈ location, c ∉ name.toList) :
      c ∉ (locationText location).toList := by
    rw [toList_locationText, List.mem_cons, not_or]
    refine ⟨hslash, ?_⟩
    intro hmem
    rcases mem_intercalate hmem with hsep | ⟨part, hpart, hc⟩
    · exact hslash (List.mem_singleton.mp hsep)
    · obtain ⟨name, hname, rfl⟩ := List.mem_map.mp hpart
      exact hnot name hname hc
  constructor
  · exact hmem (by decide) fun name hname hc => ((hclean name hname).chars _ hc).2.1 rfl
  · exact hmem (by decide) fun name hname hc => ((hclean name hname).chars _ hc).2.2.1 rfl

theorem sizeOfProduct_natCast {a b : Nat} (h : a * b < 2 ^ 64) : sizeOfProduct a b = a * b := by
  rw [sizeOfProduct, ← Nat.cast_mul, Int.emod_eq_of_lt (by omega) (by exact_mod_cast h), Int.toNat_natCast]

theorem number_plain (n : Int) : '\t' ∉ (toString n).toList ∧ '\n' ∉ (toString n).toList := by
  have hnot {c : Char} (hminus : c ≠ '-') (hdigit : isDigit c = false) : c ∉ (toString n).toList := by
    intro hc
    rcases toString_chars n c hc with heq | htrue
    · exact hminus heq
    · rw [hdigit] at htrue
      cases htrue
  exact ⟨hnot (by decide) (by decide), hnot (by decide) (by decide)⟩

theorem tokenText_plain (tokens : List Int) :
    '\t' ∉ (tokenText tokens).toList ∧ '\n' ∉ (tokenText tokens).toList := by
  have hmem {c : Char} (hcomma : c ≠ ',') (hnot : ∀ n : Int, c ∉ (toString n).toList) :
      c ∉ (tokenText tokens).toList := by
    rw [tokenText, String.toList_intercalate]
    intro hmem
    rcases mem_intercalate hmem with hsep | ⟨part, hpart, hc⟩
    · exact hcomma (List.mem_singleton.mp hsep)
    · rw [List.map_map] at hpart
      obtain ⟨n, _, rfl⟩ := List.mem_map.mp hpart
      exact hnot n hc
  exact ⟨hmem (by decide) fun n => (number_plain n).1, hmem (by decide) fun n => (number_plain n).2⟩

/-- The fields of a layer's line. -/
def layerFields (args : ExportArgs) (layerIndex : Nat) (layer : CanonicalLayer) (digests : String) : List String :=
  ["layer", toString (layerIndex : Int), toString args.seqLen, toString (layer.kWidth : Int),
    toString (layer.vWidth : Int), locationText (tensorPath args layerIndex "key"),
    locationText (tensorPath args layerIndex "value"), digests]

theorem digests_plain (key value : List UInt8) :
    '\t' ∉ (hashlibSha256 key ++ "," ++ hashlibSha256 value).toList ∧
      '\n' ∉ (hashlibSha256 key ++ "," ++ hashlibSha256 value).toList := by
  have hhex : ∀ data, ∀ c ∈ (hashlibSha256 data).toList, c ≠ '\t' ∧ c ≠ '\n' :=
    fun data => forall_mem_hashlibSha256 (by decide) data
  have hcomma : ∀ c ∈ ",".toList, c ≠ '\t' ∧ c ≠ '\n' := by
    intro c hc
    obtain rfl := List.mem_singleton.mp hc
    exact ⟨by decide, by decide⟩
  have hall : ∀ c ∈ (hashlibSha256 key ++ "," ++ hashlibSha256 value).toList, c ≠ '\t' ∧ c ≠ '\n' := by
    intro c hc
    simp only [String.toList_append, List.mem_append] at hc
    rcases hc with (hc | hc) | hc
    · exact hhex key c hc
    · exact hcomma c hc
    · exact hhex value c hc
  exact ⟨fun hc => (hall _ hc).1 rfl, fun hc => (hall _ hc).2 rfl⟩

theorem layerFields_plain (hclean : CleanLocation args.runDir.names) (layerIndex : Nat) (layer : CanonicalLayer)
    (key value : List UInt8) :
    ∀ field ∈ layerFields args layerIndex layer (hashlibSha256 key ++ "," ++ hashlibSha256 value),
      '\t' ∉ field.toList ∧ '\n' ∉ field.toList := by
  intro field hfield
  simp only [layerFields, List.mem_cons, List.not_mem_nil, or_false] at hfield
  rcases hfield with rfl | rfl | rfl | rfl | rfl | rfl | rfl | rfl
  · decide
  · exact number_plain _
  · exact number_plain _
  · exact number_plain _
  · exact number_plain _
  · exact locationText_plain (tensorPath_clean hclean layerIndex key_fileChars)
  · exact locationText_plain (tensorPath_clean hclean layerIndex value_fileChars)
  · exact digests_plain key value

theorem LayerStored.line_eq {layerIndex : Nat} {line : String} {layer : CanonicalLayer}
    (h : LayerStored args disk layerIndex line layer) : ∃ key value, line = String.intercalate "\t"
      (layerFields args layerIndex layer (hashlibSha256 key ++ "," ++ hashlibSha256 value)) := h.line

theorem newline_not_mem_intercalate {fields : List String} (h : ∀ field ∈ fields, '\n' ∉ field.toList) :
    '\n' ∉ (String.intercalate "\t" fields).toList := by
  rw [String.toList_intercalate]
  intro hmem
  rcases mem_intercalate hmem with hsep | ⟨part, hpart, hc⟩
  · exact absurd (List.mem_singleton.mp hsep) (by decide)
  · obtain ⟨field, hfield, rfl⟩ := List.mem_map.mp hpart
    exact h field hfield hc

theorem stoul_toString {n : Nat} (h : n < 2 ^ 64) : stoul (asBytes (toString (n : Int))) = .ok n := by
  rw [stoul, except_bind_of_ok (convert_toString (by omega) (by exact_mod_cast h)),
    Int.emod_eq_of_lt (by omega) (by exact_mod_cast h), Int.toNat_natCast]
  rfl

/-- The line of a layer brings the layer back from its files. -/
theorem loadLine_layer (hclean : CleanLocation args.runDir.names) (hseq : args.seqLen < 2 ^ 63) {layerIndex : Nat}
    (hindex : layerIndex < 2 ^ 64) {tensors : CacheTensor α × CacheTensor α} {line : String} {layer : CanonicalLayer}
    (hsource : ExportSource memory f4 args layerIndex tensors layer)
    (hstored : LayerStored args disk layerIndex line layer) (hfits : layer.Fits) (manifest : ExternalManifest) :
    loadLine disk workingDirectory manifest (asBytes line) =
      .ok { manifest with layers := manifest.layers ++ [.ofCanonical layer] } := by
  obtain ⟨key, value, hline⟩ := hstored.line_eq
  have hplain := layerFields_plain hclean layerIndex layer key value
  have hfields := splitTabs_intercalate (fun field hfield => (hplain field hfield).1) (by
    rw [layerFields]
    simp only [List.getLast?_cons_cons, List.getLast?_singleton, ne_eq, Option.some.injEq]
    intro hempty
    have hchars := congrArg String.toList hempty
    rw [String.toList_append, String.toList_append] at hchars
    simp at hchars)
  have hread : ¬((asBytes line).head? = none ∨ (asBytes line).head? = some 35) := by
    rw [hline, layerFields, String.intercalate_cons_cons, String.append_assoc]
    exact read_of_letter (by rw [String.toList_append]; rfl) (.inr (.inr rfl))
  obtain ⟨hkeyLength, hvalueLength⟩ := hsource.lengths
  have hseqLen := hsource.seqLen
  have hkeySize : sizeOfProduct args.seqLen layer.kWidth = layer.seqLen * layer.kWidth := by
    rw [← hseqLen, sizeOfProduct_natCast (by have := hfits.key; omega)]
  have hvalueSize : sizeOfProduct args.seqLen layer.vWidth = layer.seqLen * layer.vWidth := by
    rw [← hseqLen, sizeOfProduct_natCast (by have := hfits.value; omega)]
  have hkeyFile := readF32leFile_ok workingDirectory
    (tensorPath_clean hclean layerIndex key_fileChars) hstored.key (hkeyLength.trans hkeySize.symm)
    (hkeySize ▸ hfits.key)
  have hvalueFile := readF32leFile_ok workingDirectory
    (tensorPath_clean hclean layerIndex value_fileChars) hstored.value (hvalueLength.trans hvalueSize.symm)
    (hvalueSize ▸ hfits.value)
  have hkWidth := hfits.kWidth
  have hvWidth := hfits.vWidth
  rw [loadLine, if_neg hread, hline, hfields, layerFields]
  simp only [List.map_cons, List.map_nil, if_true]
  rw [loadLayer, except_bind_of_ok (stoul_toString hindex), stoll,
    except_bind_of_ok (convert_toString (by omega) hseq),
    except_bind_of_ok (convert_toString (by omega) (by omega)),
    except_bind_of_ok (convert_toString (by omega) (by omega)), except_bind_of_ok hkeyFile,
    except_bind_of_ok hvalueFile, ExternalLayer.ofCanonical, hsource.il, hseqLen]
  rfl

end Layers

section Manifest

variable {disk disk' : Disk} {memory : Nat} {f4 : α → F32} {args : ExportArgs} {runtime : LiveRuntime α}
  {continuation : Continuation}

/-- The layers of a runtime, each in canonical order. -/
structure ExportedLayers (memory : Nat) (f4 : α → F32) (args : ExportArgs)
    (sources : List (CacheTensor α × CacheTensor α)) (layers : List CanonicalLayer) : Prop where
  length_eq : layers.length = sources.length
  source : ∀ i tensors layer, sources[i]? = some tensors → layers[i]? = some layer →
    ExportSource memory f4 args i tensors layer

theorem ExportedFrom.sources {start : Nat} {sources : List (CacheTensor α × CacheTensor α)} {lines : List String}
    {layers : List CanonicalLayer} (h : ExportedFrom memory f4 args disk start sources lines layers) :
    layers.length = sources.length ∧ ∀ i tensors layer, sources[i]? = some tensors → layers[i]? = some layer →
      ExportSource memory f4 args (start + i) tensors layer := by
  induction h with
  | nil _ => exact ⟨rfl, fun i tensors layer hi => by simp at hi⟩
  | cons source _ _ ih =>
    refine ⟨by rw [List.length_cons, List.length_cons, ih.1], ?_⟩
    intro i tensors layer hi hlayer
    cases i with
    | zero =>
      cases hi
      cases hlayer
      exact source
    | succ i =>
      rw [List.getElem?_cons_succ] at hi hlayer
      have hsource := ih.2 i tensors layer hi hlayer
      rwa [Nat.add_right_comm] at hsource

theorem ExportedFrom.lines_plain {start : Nat} {sources : List (CacheTensor α × CacheTensor α)} {lines : List String}
    {layers : List CanonicalLayer} (h : ExportedFrom memory f4 args disk start sources lines layers)
    (hclean : CleanLocation args.runDir.names) : ∀ line ∈ lines, '\n' ∉ line.toList := by
  induction h with
  | nil _ => simp
  | @cons layerIndex _ _ _ _ layer _ _ stored _ ih =>
    intro line hline
    obtain rfl | hline := List.mem_cons.mp hline
    · obtain ⟨key, value, rfl⟩ := stored.line_eq
      exact newline_not_mem_intercalate fun field hfield =>
        (layerFields_plain hclean layerIndex layer key value field hfield).2
    · exact ih line hline

/-- All lines of layers, one after the other. -/
theorem foldlM_layers (workingDirectory : Directory) (hclean : CleanLocation args.runDir.names)
    (hseq : args.seqLen < 2 ^ 63) {start : Nat} {sources : List (CacheTensor α × CacheTensor α)} {lines : List String}
    {layers : List CanonicalLayer} (h : ExportedFrom memory f4 args disk start sources lines layers)
    (hcount : start + sources.length ≤ 2 ^ 64) (hfits : ∀ layer ∈ layers, layer.Fits) (manifest : ExternalManifest) :
    (lines.map asBytes).foldlM (loadLine disk workingDirectory) manifest =
      .ok { manifest with layers := manifest.layers ++ layers.map .ofCanonical } := by
  induction h generalizing manifest with
  | nil _ =>
    rw [List.map_nil, List.map_nil, List.append_nil]
    rfl
  | cons source stored _ ih =>
    obtain ⟨hfirst, hrest⟩ := List.forall_mem_cons.mp hfits
    rw [List.length_cons] at hcount
    rw [List.map_cons, List.foldlM_cons,
      except_bind_of_ok (loadLine_layer hclean hseq (by omega) source stored hfirst manifest),
      ih (by omega) hrest, List.map_cons, List.append_assoc, List.singleton_append]

def feedManifest (args : ExportArgs) (runtime : LiveRuntime α) (continuation : Continuation)
    (layers : List CanonicalLayer) : ExternalManifest where
  schemaVersion := asBytes "permeantos-cross-runtime-canonical-kv-v0"
  sourceRuntime := asBytes "mlx-live-runtime"
  sourceModel := asBytes args.model
  promptPath := asBytes (locationText (promptPath args))
  promptTokens := runtime.promptTokens.take args.seqLen.toNat
  sourceContinuation := continuation.tokens
  layers := layers.map .ofCanonical

/-- What the manifest can say: the model has no tab and no new line in its name, the run directory has a clean
path, and the tokens fit `int`. -/
structure ManifestWritable (args : ExportArgs) (runtime : LiveRuntime α) (continuation : Continuation) : Prop where
  model : '\t' ∉ args.model.toList ∧ '\n' ∉ args.model.toList
  runDir : CleanLocation args.runDir.names
  seqLen : args.seqLen < 2 ^ 63
  promptTokens : runtime.promptTokens ≠ []
  tokens : ∀ token ∈ runtime.promptTokens ++ continuation.tokens, -2 ^ 31 ≤ token ∧ token < 2 ^ 31

theorem promptPath_clean (hclean : CleanLocation args.runDir.names) : CleanLocation (promptPath args) := by
  have hprompt : CleanName "prompt.txt" := (cleanName_of_fileChars (by decide) (List.all_eq_true.mp (by decide))).1
  intro name hname
  rw [promptPath, List.mem_append, List.mem_singleton] at hname
  rcases hname with hname | rfl
  · exact hclean name hname
  · exact hprompt

theorem feedManifestPath_clean (hclean : CleanLocation args.runDir.names) :
    CleanLocation (feedManifestPath args) := by
  have hmanifest : CleanName "mlx-to-llamacpp-canonical-kv.tsv" :=
    (cleanName_of_fileChars (by decide) (List.all_eq_true.mp (by decide))).1
  intro name hname
  rw [feedManifestPath, List.mem_append, List.mem_singleton] at hname
  rcases hname with hname | rfl
  · exact hclean name hname
  · exact hmanifest

theorem locationText_ne_empty (location : Location) : locationText location ≠ "" := by
  intro hempty
  have hchars := toList_locationText location
  rw [hempty] at hchars
  cases hchars

theorem tokenText_eq_empty_iff {tokens : List Int} (h : ∀ token ∈ tokens, -2 ^ 31 ≤ token ∧ token < 2 ^ 31) :
    tokenText tokens = "" ↔ tokens = [] := by
  constructor
  · intro hempty
    have hparse := parseTokenCsv_tokenText h
    rw [hempty, asBytes_empty] at hparse
    exact (Except.ok.inj hparse).symm
  · rintro rfl
    rfl

/-- The lines of the manifest before that of the source's own tokens. -/
def frontLines (args : ExportArgs) (runtime : LiveRuntime α) : List String :=
  ["schema_version" ++ "\t" ++ "permeantos-cross-runtime-canonical-kv-v0",
    "source_runtime" ++ "\t" ++ "mlx-live-runtime", "source_model" ++ "\t" ++ args.model,
    "prompt_path" ++ "\t" ++ locationText (promptPath args),
    "prompt_tokens" ++ "\t" ++ tokenText (runtime.promptTokens.take args.seqLen.toNat)]

theorem manifestHead_eq (args : ExportArgs) (runtime : LiveRuntime α) (continuation : Continuation) :
    manifestHead args runtime continuation =
      frontLines args runtime ++ ["source_token_ids" ++ "\t" ++ tokenText continuation.tokens] := by
  have hschema : "schema_version\tpermeantos-cross-runtime-canonical-kv-v0" =
      "schema_version" ++ "\t" ++ "permeantos-cross-runtime-canonical-kv-v0" := by decide
  have hruntime : "source_runtime\tmlx-live-runtime" = "source_runtime" ++ "\t" ++ "mlx-live-runtime" := by decide
  have hmodel : "source_model\t" = "source_model" ++ "\t" := by decide
  have hpath : "prompt_path\t" = "prompt_path" ++ "\t" := by decide
  have htokens : "prompt_tokens\t" = "prompt_tokens" ++ "\t" := by decide
  have hsource : "source_token_ids\t" = "source_token_ids" ++ "\t" := by decide
  rw [manifestHead, hschema, hruntime, hmodel, hpath, htokens, hsource]
  rfl

theorem prompt_bounds (h : ManifestWritable args runtime continuation) :
    ∀ token ∈ runtime.promptTokens.take args.seqLen.toNat, -2 ^ 31 ≤ token ∧ token < 2 ^ 31 :=
  fun token hmem => h.tokens token (List.mem_append_left _ (List.mem_of_mem_take hmem))

theorem continuation_bounds (h : ManifestWritable args runtime continuation) :
    ∀ token ∈ continuation.tokens, -2 ^ 31 ≤ token ∧ token < 2 ^ 31 :=
  fun token hmem => h.tokens token (List.mem_append_right _ hmem)

theorem foldlM_front (workingDirectory : Directory) (h : ManifestWritable args runtime continuation)
    (hpositive : 0 < args.seqLen) (hmodel : args.model ≠ "") :
    ((frontLines args runtime).map asBytes).foldlM (loadLine disk workingDirectory) .empty =
      .ok { feedManifest args runtime continuation [] with sourceContinuation := [] } := by
  have hprompt : tokenText (runtime.promptTokens.take args.seqLen.toNat) ≠ "" := by
    rw [Ne, tokenText_eq_empty_iff (prompt_bounds h), List.take_eq_nil_iff, not_or]
    exact ⟨by omega, h.promptTokens⟩
  simp only [frontLines, List.map_cons, List.map_nil, List.foldlM_cons, List.foldlM_nil]
  rw [loadLine_pair (by decide) (by decide) (by decide), if_pos rfl, except_bind_of_ok rfl,
    loadLine_pair (by decide) (by decide) (by decide), if_neg (by decide), if_pos rfl, except_bind_of_ok rfl,
    loadLine_pair (by decide) h.model.1 hmodel, if_neg (by decide), if_neg (by decide), if_pos rfl,
    except_bind_of_ok rfl, loadLine_pair (by decide) (locationText_plain (promptPath_clean h.runDir)).1
      (locationText_ne_empty _), if_neg (by decide), if_neg (by decide), if_neg (by decide), if_pos rfl,
    except_bind_of_ok rfl, loadLine_pair (by decide) (tokenText_plain _).1 hprompt, if_neg (by decide),
    if_neg (by decide), if_neg (by decide), if_neg (by decide), if_pos rfl,
    parseTokenCsv_tokenText (prompt_bounds h), Except.map, except_bind_of_ok rfl]
  rfl

/-- The lines before the layers, where each has a value. -/
theorem foldlM_head (workingDirectory : Directory) (h : ManifestWritable args runtime continuation)
    (hpositive : 0 < args.seqLen) (hmodel : args.model ≠ "") (hcontinuation : continuation.tokens ≠ []) :
    ((manifestHead args runtime continuation).map asBytes).foldlM (loadLine disk workingDirectory) .empty =
      .ok (feedManifest args runtime continuation []) := by
  have htext : tokenText continuation.tokens ≠ "" := by
    rwa [Ne, tokenText_eq_empty_iff (continuation_bounds h)]
  rw [manifestHead_eq, List.map_append, List.foldlM_append,
    except_bind_of_ok (foldlM_front workingDirectory h hpositive hmodel), List.map_singleton, List.foldlM_cons,
    loadLine_pair (by decide) (tokenText_plain _).1 htext, if_neg (by decide), if_neg (by decide),
    if_neg (by decide), if_neg (by decide), if_neg (by decide), parseTokenCsv_tokenText (continuation_bounds h),
    Except.map, except_bind_of_ok rfl]
  rfl

/-- A model without a name, or a source that did not go on, ends the reading at its line. -/
theorem foldlM_head_error (disk : Disk) (workingDirectory : Directory) (h : ManifestWritable args runtime continuation)
    (hpositive : 0 < args.seqLen) (hempty : args.model = "" ∨ continuation.tokens = []) :
    ∃ line, ((manifestHead args runtime continuation).map asBytes).foldlM (loadLine disk workingDirectory) .empty =
      .error (.runtimeError (asBytes "invalid external KV manifest line: " ++ line)) := by
  rw [manifestHead_eq, List.map_append, List.foldlM_append]
  by_cases hmodel : args.model = ""
  · simp only [frontLines, List.map_cons, List.foldlM_cons]
    rw [loadLine_pair (by decide) (by decide) (by decide), if_pos rfl, except_bind_of_ok rfl,
      loadLine_pair (by decide) (by decide) (by decide), if_neg (by decide), if_pos rfl, except_bind_of_ok rfl,
      hmodel, String.append_empty, loadLine_emptyValue (by decide)]
    exact ⟨_, rfl⟩
  · have htext : tokenText continuation.tokens = "" :=
      (tokenText_eq_empty_iff (continuation_bounds h)).mpr (hempty.resolve_left hmodel)
    rw [except_bind_of_ok (foldlM_front workingDirectory h hpositive hmodel), List.map_singleton, List.foldlM_cons,
      htext, String.append_empty, loadLine_emptyValue (by decide)]
    exact ⟨_, rfl⟩

theorem manifestHead_plain (h : ManifestWritable args runtime continuation) :
    ∀ line ∈ manifestHead args runtime continuation, '\n' ∉ line.toList := by
  have hfields : ∀ field ∈ pairFields, '\n' ∉ field.toList := by decide
  have hline {field value : String} (hfield : field ∈ pairFields) (hvalue : '\n' ∉ value.toList) :
      '\n' ∉ (field ++ "\t" ++ value).toList := by
    rw [String.toList_append, String.toList_append, List.mem_append, List.mem_append, not_or, not_or]
    exact ⟨⟨hfields field hfield, by decide⟩, hvalue⟩
  intro line hmem
  rw [manifestHead_eq, frontLines] at hmem
  simp only [List.cons_append, List.nil_append, List.mem_cons, List.not_mem_nil, or_false] at hmem
  rcases hmem with rfl | rfl | rfl | rfl | rfl | rfl
  · exact hline (by decide) (by decide)
  · exact hline (by decide) (by decide)
  · exact hline (by decide) h.model.2
  · exact hline (by decide) (locationText_plain (promptPath_clean h.runDir)).2
  · exact hline (by decide) (tokenText_plain _).2
  · exact hline (by decide) (tokenText_plain _).2

theorem checkManifest_feed (h : ManifestWritable args runtime continuation) (hpositive : 0 < args.seqLen)
    {layers : List CanonicalLayer} (hlayers : layers ≠ []) :
    checkManifest (feedManifest args runtime continuation layers) =
      .ok (feedManifest args runtime continuation layers) := by
  have hpath : asBytes (locationText (promptPath args)) ≠ [] := asBytes_eq_nil_iff.not.mpr (locationText_ne_empty _)
  have htokens : runtime.promptTokens.take args.seqLen.toNat ≠ [] := by
    rw [Ne, List.take_eq_nil_iff, not_or]
    exact ⟨by omega, h.promptTokens⟩
  have hschema : ¬(feedManifest args runtime continuation layers).schemaVersion ≠
      asBytes "permeantos-cross-runtime-canonical-kv-v0" := not_not.mpr rfl
  rw [checkManifest, if_neg hschema, if_neg]
  rintro (hempty | hempty | hempty)
  · exact hpath hempty
  · exact htokens hempty
  · exact hlayers (List.map_eq_nil_iff.mp hempty)

/-- What the exporter has written is read back where every line has a value, and refused where one has none. -/
theorem loadExternalManifest_export (hrun : (exportMlxCanonicalKv memory f4 args runtime continuation).run disk =
      .ok () disk') (h : ManifestWritable args runtime continuation) (hlayers : runtime.layers ≠ [])
    (hcount : runtime.layers.length ≤ 2 ^ 64) (workingDirectory : Directory) :
    ∃ layers, ExportedLayers memory f4 args runtime.layers layers ∧ ((∀ layer ∈ layers, layer.Fits) →
      ((∃ manifest, loadExternalManifest disk' workingDirectory (asBytes (locationText (feedManifestPath args))) =
        .ok manifest) ↔ args.model ≠ "" ∧ continuation.tokens ≠ []) ∧
      ∀ manifest, loadExternalManifest disk' workingDirectory (asBytes (locationText (feedManifestPath args))) =
        .ok manifest → manifest = feedManifest args runtime continuation layers ∧
          readTextFile disk' workingDirectory manifest.promptPath = .ok (asBytes runtime.promptText)) := by
  obtain ⟨hpositive, hprompt, lines, layers, hexported, hmanifest⟩ := exportMlxCanonicalKv_ok hrun
  have hsources := hexported.sources
  refine ⟨layers, ⟨hsources.1, fun i tensors layer hi hlayer => ?_⟩, ?_⟩
  · have hsource := hsources.2 i tensors layer hi hlayer
    rwa [Nat.zero_add] at hsource
  intro hfits
  have hnewline : ∀ line ∈ manifestHead args runtime continuation ++ lines, '\n' ∉ line.toList := by
    intro line hline
    rcases List.mem_append.mp hline with hline | hline
    · exact manifestHead_plain h line hline
    · exact hexported.lines_plain h.runDir line hline
  have hopen : openFile disk' workingDirectory (asBytes (locationText (feedManifestPath args))) =
      some (asBytes (String.intercalate "\n" (manifestHead args runtime continuation ++ lines) ++ "\n")) := by
    rw [openFile_locationText disk' workingDirectory (feedManifestPath_clean h.runDir), hmanifest]
    rfl
  have hpieces : getlines 10 (asBytes (String.intercalate "\n" (manifestHead args runtime continuation ++ lines) ++
      "\n")) = (manifestHead args runtime continuation).map asBytes ++ lines.map asBytes := by
    have hbreak : asBytes "\n" = [10] := by decide
    rw [asBytes_append, asBytes_intercalate, hbreak, ← List.map_append]
    apply getlines_closed
    · intro piece hpiece
      obtain ⟨line, hline, rfl⟩ := List.mem_map.mp hpiece
      exact not_mem_asBytes (by decide) rfl (hnewline line hline)
    · simp [manifestHead]
  have hload : loadExternalManifest disk' workingDirectory (asBytes (locationText (feedManifestPath args))) =
      (((manifestHead args runtime continuation).map asBytes).foldlM (loadLine disk' workingDirectory) .empty >>=
        fun manifest => (lines.map asBytes).foldlM (loadLine disk' workingDirectory) manifest) >>= checkManifest := by
    rw [loadExternalManifest, hopen]
    dsimp only
    rw [hpieces, List.foldlM_append]
  by_cases hvalues : args.model ≠ "" ∧ continuation.tokens ≠ []
  · have hok : loadExternalManifest disk' workingDirectory (asBytes (locationText (feedManifestPath args))) =
        .ok (feedManifest args runtime continuation layers) := by
      rw [hload, except_bind_of_ok (foldlM_head workingDirectory h hpositive hvalues.1 hvalues.2),
        except_bind_of_ok (foldlM_layers workingDirectory h.runDir h.seqLen hexported (by omega) hfits _)]
      exact checkManifest_feed h hpositive (by rintro rfl; exact hlayers (List.length_eq_zero_iff.mp hsources.1.symm))
    refine ⟨iff_of_true ⟨_, hok⟩ hvalues, ?_⟩
    intro manifest hmanifest'
    obtain rfl := Except.ok.inj (hok.symm.trans hmanifest')
    refine ⟨rfl, ?_⟩
    have hpromptOpen : openFile disk' workingDirectory (asBytes (locationText (promptPath args))) =
        some (asBytes runtime.promptText) := by
      rw [openFile_locationText disk' workingDirectory (promptPath_clean h.runDir), hprompt]
      rfl
    rw [readTextFile, feedManifest, hpromptOpen]
  · obtain ⟨line, hhead⟩ := foldlM_head_error disk' workingDirectory h hpositive (by
      rwa [not_and_or, not_not, not_not] at hvalues)
    have herror : loadExternalManifest disk' workingDirectory (asBytes (locationText (feedManifestPath args))) =
        .error (.runtimeError (asBytes "invalid external KV manifest line: " ++ line)) := by
      rw [hload, hhead]
      rfl
    refine ⟨iff_of_false ?_ hvalues, ?_⟩
    · rintro ⟨manifest, hmanifest'⟩
      rw [herror] at hmanifest'
      cases hmanifest'
    · intro manifest hmanifest'
      rw [herror] at hmanifest'
      cases hmanifest'

/-- The export of one layer with one head, two positions and two dimensions. -/
def feedArgs : ExportArgs := ⟨"model", 2, ⟨["run"], by decide⟩⟩

def feedElements (i h t d : Nat) : F32 := ⟨UInt32.ofNat (1000 * i + 100 * h + 10 * t + d)⟩

def feedTensor : CacheTensor F32 := .array (tabulate 1 fun _ => tensor3 1 2 2 (feedElements 0))

def feedRuntime : LiveRuntime F32 := ⟨"hi", [7, 8, 9], [(feedTensor, feedTensor)]⟩

def feedContinuation : Continuation := ⟨"!", [10]⟩

def emptyDisk : Disk := fun location => if location = [] then some .dir else none

theorem exportMlxCanonicalKv_feed :
    ∃ disk', (exportMlxCanonicalKv 4 id feedArgs feedRuntime feedContinuation).run emptyDisk = .ok () disk' := by
  have hok : (match (exportMlxCanonicalKv 4 id feedArgs feedRuntime feedContinuation).run emptyDisk with
      | .ok _ _ => true
      | .error _ _ => false) = true := by decide +kernel
  cases hrun : (exportMlxCanonicalKv 4 id feedArgs feedRuntime feedContinuation).run emptyDisk with
  | ok result disk' => exact ⟨disk', rfl⟩
  | error e disk' =>
    rw [hrun] at hok
    cases hok

theorem feed_writable : ManifestWritable feedArgs feedRuntime feedContinuation where
  model := by decide
  runDir := by
    intro name hname
    obtain rfl := List.mem_singleton.mp hname
    exact (cleanName_of_fileChars (by decide) (List.all_eq_true.mp (by decide))).1
  seqLen := by decide
  promptTokens := by decide
  tokens := by decide

theorem feedTensor_canonical (name : String) : canonicalizeTensor 4 name feedTensor (some 2) =
    .ok (tensor3 2 1 2 fun t h d => feedElements 0 h t d) := rfl

theorem loadExternalManifest_feed : ∃ disk' layers,
    (exportMlxCanonicalKv 4 id feedArgs feedRuntime feedContinuation).run emptyDisk = .ok () disk' ∧
      loadExternalManifest disk' ⟨[], by decide⟩ (asBytes (locationText (feedManifestPath feedArgs))) =
        .ok (feedManifest feedArgs feedRuntime feedContinuation layers) := by
  obtain ⟨disk', hrun⟩ := exportMlxCanonicalKv_feed
  obtain ⟨layers, hexported, hread⟩ := loadExternalManifest_export hrun feed_writable (by decide) (by decide)
    ⟨[], by decide⟩
  have hfits : ∀ layer ∈ layers, layer.Fits := by
    intro layer hmem
    obtain ⟨i, hlayer⟩ := List.mem_iff_getElem?.mp hmem
    have hlength : layers.length = 1 := hexported.length_eq
    have hi := (List.getElem?_eq_some_iff.mp hlayer).1
    obtain rfl : i = 0 := by omega
    obtain ⟨key, value, heads, dim, hkey, _, hshape, _, hk, hv, _⟩ := (hexported.source 0 _ layer rfl hlayer).tensors
    cases (feedTensor_canonical _).symm.trans hkey
    have hsizes : some [2, 1, 2] = some [layer.seqLen, heads, dim] := hshape
    simp only [Option.some.injEq, List.cons.injEq, and_true] at hsizes
    obtain ⟨hseq, rfl, rfl⟩ := hsizes
    constructor <;> simp [← hseq, hk, hv]
  obtain ⟨hloads, hmanifest⟩ := hread hfits
  obtain ⟨manifest, hload⟩ := hloads.mpr ⟨by decide, by decide⟩
  refine ⟨disk', layers, hrun, ?_⟩
  rw [hload, (hmanifest manifest hload).1]

end Manifest

end PermeantOS
