import PermeantOS.ExternalKv
import PermeantOS.MlxCache
import PermeantOS.PyFiles

namespace PermeantOS

variable {α : Type}

section Arrays

mutual

/-- The shape of nested lists whose rows have one shape. -/
def arrayShape : Nested α → Option (List Nat)
  | .scalar _ => some []
  | .list items => (commonShape items).map (items.length :: ·)

def commonShape : List (Nested α) → Option (List Nat)
  | [] => some []
  | item :: items =>
    match arrayShape item with
    | none => none
    | some shape => if items.isEmpty ∨ commonShape items = some shape then some shape else none

end

mutual

/-- The elements in C order. -/
def arrayElements : Nested α → List α
  | .scalar x => [x]
  | .list items => itemElements items

def itemElements : List (Nested α) → List α
  | [] => []
  | item :: items => arrayElements item ++ itemElements items

end

/-- `str` of a tuple of sizes. -/
def tupleText : List Nat → String
  | [size] => "(" ++ toString size ++ ",)"
  | sizes => "(" ++ String.intercalate ", " (sizes.map toString) ++ ")"

end Arrays

section Names

/-- `re.sub(r"[^a-zA-Z0-9]+", "-", value)`, behind or not behind a character that was left out. -/
def dashRuns : Bool → List Char → List Char
  | _, [] => []
  | inRun, c :: text =>
    if c.isAlphanum then c :: dashRuns false text
    else if inRun then dashRuns true text
    else '-' :: dashRuns true text

def stripDashes (text : List Char) : List Char :=
  ((text.dropWhile (· = '-')).reverse.dropWhile (· = '-')).reverse

/-- `_stable_slug` -/
def stableSlug (value : String) : String :=
  let slug := (stripDashes (dashRuns false value.toList)).map Char.toLower
  if slug = [] then "model" else String.ofList slug

/-- `str(path)` of a place. -/
def locationText (location : Location) : String := "/" ++ String.intercalate "/" location

end Names

/-- What the exporter stops with. -/
inductive ExporterError
  | systemExit (message : String)
  | raised (e : PyException)
  /-- NumPy does not make one array of rows of different shapes. -/
  | inhomogeneousShape

abbrev ExporterIO (α : Type) := EStateM ExporterError Disk α

section Exporter

def onDisk (f : Disk → Except FileError Disk) : ExporterIO Unit := do
  let disk ← get
  let disk ← liftExcept ((liftFile (f disk)).mapError .raised)
  set disk

structure ExportArgs where
  model : String
  seqLen : Int
  /-- `args.output_dir.resolve()` -/
  runDir : Directory

/-- What the exporter uses of the runtime: the prompt, its tokens, and the keys and values of each layer. -/
structure LiveRuntime (α : Type) where
  promptText : String
  promptTokens : List Int
  layers : List (CacheTensor α × CacheTensor α)

/-- The text that the source runtime goes on with, and its tokens. -/
structure Continuation where
  text : String
  tokens : List Int

/-- The shape, the number of bytes and their digest. -/
structure WrittenTensor where
  shape : List Nat
  bytes : Nat
  sha256 : String

variable (memory : Nat) (f4 : α → F32) (args : ExportArgs)

/-- `_write_f32le`; `f4` is the conversion to `<f4`. -/
def writeF32le (path : Location) (data : Nested α) : ExporterIO WrittenTensor := do
  let shape ← liftExcept ((arrayShape data).elim (.error .inhomogeneousShape) .ok)
  if shape.length ≠ 3 then
    throw (.systemExit ("canonical tensor must be 3D, got shape " ++ tupleText shape))
  else do
    let raw := (arrayElements data).flatMap fun x => f32ToLeBytes (f4 x)
    onDisk fun disk => makeDirs disk path.dropLast
    onDisk fun disk => writeBytes disk path raw
    pure ⟨shape, raw.length, hashlibSha256 raw⟩

def tensorPath (layerIndex : Nat) (kind : String) : Location :=
  args.runDir.names ++ ["tensors", stableSlug args.model ++ "-seq" ++ toString args.seqLen ++ "-layer" ++
    toString layerIndex ++ "-" ++ kind ++ ".f32le"]

def promptPath : Location := args.runDir.names ++ ["prompt.txt"]

def feedManifestPath : Location := args.runDir.names ++ ["mlx-to-llamacpp-canonical-kv.tsv"]

def metadataPath : Location := args.runDir.names ++ ["metadata.json"]

/-- The product of the sizes behind the first. -/
def rowWidth : List Nat → Nat
  | [_, heads, dim] => heads * dim
  | _ => 0

/-- The line of a layer in the manifest. -/
def layerLine (layerIndex : Nat) (key value : WrittenTensor) : String :=
  String.intercalate "\t" ["layer", toString layerIndex, toString args.seqLen, toString (rowWidth key.shape),
    toString (rowWidth value.shape), locationText (tensorPath args layerIndex "key"),
    locationText (tensorPath args layerIndex "value"), key.sha256 ++ "," ++ value.sha256]

def shapeJson (shape : List Nat) : Json Empty := .list (shape.map fun size => .int size)

def tensorMetadata (layerIndex : Nat) (key value : WrittenTensor) : Json Empty :=
  .dict [("layer_index", .int layerIndex), ("key_shape", shapeJson key.shape), ("value_shape", shapeJson value.shape),
    ("key_bytes", .int key.bytes), ("value_bytes", .int value.bytes), ("key_sha256", .str ("sha256:" ++ key.sha256)),
    ("value_sha256", .str ("sha256:" ++ value.sha256))]

/-- One round of the loop over the layers: the line and the metadata of the layer. -/
def exportKvLayer (layerIndex : Nat) (tensors : CacheTensor α × CacheTensor α) :
    ExporterIO (String × Json Empty) := do
  let canonicalKey ← liftExcept ((canonicalizeTensor memory s!"layer.{layerIndex}.key" tensors.1
    (some args.seqLen)).mapError .raised)
  let canonicalValue ← liftExcept ((canonicalizeTensor memory s!"layer.{layerIndex}.value" tensors.2
    (some args.seqLen)).mapError .raised)
  let key ← writeF32le f4 (tensorPath args layerIndex "key") canonicalKey
  let value ← writeF32le f4 (tensorPath args layerIndex "value") canonicalValue
  if (key.shape.headD 0 : Int) ≠ args.seqLen ∨ (value.shape.headD 0 : Int) ≠ args.seqLen then
    throw (.systemExit s!"layer {layerIndex} did not export the requested sequence length")
  else if key.shape.tail ≠ value.shape.tail then
    throw (.systemExit s!"layer {layerIndex} key/value shape mismatch: {key.shape} vs {value.shape}")
  else pure (layerLine args layerIndex key value, tensorMetadata layerIndex key value)

def exportKvLayers (layerIndex : Nat) :
    List (CacheTensor α × CacheTensor α) → ExporterIO (List (String × Json Empty))
  | [] => pure []
  | tensors :: layers => do
    let first ← exportKvLayer memory f4 args layerIndex tensors
    let rest ← exportKvLayers (layerIndex + 1) layers
    pure (first :: rest)

def tokenText (tokens : List Int) : String := String.intercalate "," (tokens.map toString)

/-- The lines of the manifest before those of the layers. -/
def manifestHead (runtime : LiveRuntime α) (continuation : Continuation) : List String :=
  ["schema_version\tpermeantos-cross-runtime-canonical-kv-v0", "source_runtime\tmlx-live-runtime",
    "source_model\t" ++ args.model, "prompt_path\t" ++ locationText (promptPath args),
    "prompt_tokens\t" ++ tokenText (runtime.promptTokens.take args.seqLen.toNat),
    "source_token_ids\t" ++ tokenText continuation.tokens]

def exportMetadata (runtime : LiveRuntime α) (continuation : Continuation) (tensors : List (Json Empty)) :
    Json Empty :=
  .dict [("schema_version", .str "permeantos-cross-runtime-canonical-kv-export-v0"),
    ("source_runtime", .str "mlx-live-runtime"), ("source_model", .str args.model), ("seq_len", .int args.seqLen),
    ("prompt_path", .str (locationText (promptPath args))),
    ("manifest_path", .str (locationText (feedManifestPath args))),
    ("prompt_tokens", .list ((runtime.promptTokens.take args.seqLen.toNat).map .int)),
    ("source_continuation_text", .str continuation.text),
    ("source_continuation_token_ids", .list (continuation.tokens.map .int)), ("layer_count", .int tensors.length),
    ("tensors", .list tensors)]

/-- `main`, with what the runtime gives. -/
def exportMlxCanonicalKv (runtime : LiveRuntime α) (continuation : Continuation) : ExporterIO Unit := do
  if args.seqLen ≤ 0 then throw (.systemExit "--seq-len must be positive")
  else do
    onDisk fun disk => makeDirs disk args.runDir.names
    onDisk fun disk => writeBytes disk (promptPath args) (asBytes runtime.promptText)
    let exported ← exportKvLayers memory f4 args 0 runtime.layers
    let manifestLines := manifestHead args runtime continuation ++ exported.map Prod.fst
    onDisk fun disk => writeBytes disk (feedManifestPath args)
      (asBytes (String.intercalate "\n" manifestLines ++ "\n"))
    let metadata := exportMetadata args runtime continuation (exported.map Prod.snd)
    onDisk fun disk => writeBytes disk (metadataPath args)
      (asBytes (jsonDumpsIndented (fun x : Empty => nomatch x) (sortKeys metadata) ++ "\n"))

end Exporter

section Paths

/-- A name that a line of the manifest and a path can hold. -/
structure CleanName (name : String) : Prop where
  nonempty : name ≠ ""
  not_dot : name ≠ "."
  chars : ∀ c ∈ name.toList, c ≠ '/' ∧ c ≠ '\t' ∧ c ≠ '\n' ∧ c ≠ '\x00'

def CleanLocation (location : Location) : Prop := ∀ name ∈ location, CleanName name

variable {location : Location}

theorem toList_locationText (location : Location) :
    (locationText location).toList = '/' :: ['/'].intercalate (location.map String.toList) := by
  rw [locationText, String.toList_append, String.toList_intercalate]
  rfl

/-- The path in the text is the place. -/
theorem parts_locationText (h : CleanLocation location) :
    (PurePath.parse (locationText location)).parts = location := by
  have hslash : locationText location = "" ++ "/" ++ String.intercalate "/" location := by
    rw [locationText, String.empty_append]
  have hempty : (PurePath.parse "").parts = [] := by decide
  rw [hslash, PurePath.parts_slash, hempty, List.nil_append]
  cases hlocation : location with
  | nil => rw [String.intercalate_nil, hempty]
  | cons name names =>
    rw [← hlocation]
    have hmem : ∀ part ∈ location.map String.toList, '/' ∉ part := by
      intro part hpart hc
      obtain ⟨name, hname, rfl⟩ := List.mem_map.mp hpart
      exact ((h name hname).chars '/' hc).1 rfl
    have hne : location.map String.toList ≠ [] := by simp [hlocation]
    have hkept : (location.map String.toList).filter (fun part => part ≠ [] ∧ part ≠ ['.']) =
        location.map String.toList := by
      rw [List.filter_eq_self]
      intro part hpart
      obtain ⟨name, hname, rfl⟩ := List.mem_map.mp hpart
      have hname := h name hname
      simp only [decide_eq_true_eq]
      constructor
      · intro heq
        exact hname.nonempty (String.toList_injective heq)
      · intro heq
        exact hname.not_dot (String.toList_injective heq)
    have hchars : (String.intercalate "/" location).toList = ['/'].intercalate (location.map String.toList) :=
      String.toList_intercalate
    rw [PurePath.parse]
    dsimp only
    rw [hchars, List.splitOn_intercalate '/' hmem hne, hkept, List.map_map]
    simp

theorem isAbsolute_locationText (location : Location) :
    (PurePath.parse (locationText location)).isAbsolute = true := by
  rw [PurePath.isAbsolute, decide_eq_true_eq, PurePath.parse]
  dsimp only
  rw [toList_locationText, List.takeWhile_cons_of_pos (by decide), List.length_cons]
  split
  next h => cases h
  next => decide
  next => decide

/-- A file is opened under the text of its path, whatever the working directory is. -/
theorem openFile_locationText (disk : Disk) (workingDirectory : Directory) (h : CleanLocation location) :
    openFile disk workingDirectory (asBytes (locationText location)) = (readBytes disk location).toOption := by
  have hnull : ∀ b ∈ asBytes (locationText location), decide (b ≠ 0) = true := by
    intro b hb
    rw [decide_eq_true_eq]
    rintro rfl
    refine not_mem_asBytes (c := '\x00') (by decide) rfl ?_ hb
    rw [toList_locationText, List.mem_cons, not_or]
    refine ⟨by decide, ?_⟩
    intro hmem
    rcases mem_intercalate hmem with hslash | ⟨part, hpart, hc⟩
    · exact absurd hslash (by decide)
    · obtain ⟨name, hname, rfl⟩ := List.mem_map.mp hpart
      exact ((h name hname).chars _ hc).2.2.2 rfl
  rw [openFile, List.takeWhile_eq_self_iff.mpr hnull, fromUtf8_asBytes, Option.bind_some, PurePath.under,
    if_pos (isAbsolute_locationText location), parts_locationText h]

/-- The characters of the names of tensor files. -/
def isFileChar (c : Char) : Bool := c.isAlphanum || c = '-' || c = '.'

theorem mem_dashRuns {inRun : Bool} {text : List Char} {c : Char} (h : c ∈ dashRuns inRun text) :
    c.isAlphanum = true ∨ c = '-' := by
  induction text generalizing inRun with
  | nil => cases h
  | cons first text ih =>
    rw [dashRuns] at h
    split at h
    next halnum =>
      obtain rfl | h := List.mem_cons.mp h
      · exact .inl halnum
      · exact ih h
    next =>
      split at h
      next => exact ih h
      next =>
        obtain rfl | h := List.mem_cons.mp h
        · exact .inr rfl
        · exact ih h

theorem mem_stripDashes {text : List Char} {c : Char} (h : c ∈ stripDashes text) : c ∈ text := by
  rw [stripDashes, List.mem_reverse] at h
  have hmem := (List.dropWhile_sublist _).subset h
  rw [List.mem_reverse] at hmem
  exact (List.dropWhile_sublist _).subset hmem

theorem isAlphanum_toLower {c : Char} (h : c.isAlphanum = true) : c.toLower.isAlphanum = true := by
  by_cases hupper : c.val ≥ 'A'.val ∧ c.val ≤ 'Z'.val
  · have hlow : 65 ≤ c.val.toNat := UInt32.le_iff_toNat_le.mp hupper.1
    have hhigh : c.val.toNat ≤ 90 := UInt32.le_iff_toNat_le.mp hupper.2
    have hdown : c.toLower = _ := dif_pos hupper
    have hvalue : c.toLower.val.toNat = c.val.toNat + 32 := by
      rw [hdown, UInt32.toNat_add]
      exact Nat.mod_eq_of_lt (by show c.val.toNat + 32 < _; omega)
    have hlower : c.toLower.isLower = true := Bool.and_eq_true_iff.mpr
      ⟨decide_eq_true (UInt32.le_iff_toNat_le.mpr (by show 97 ≤ _; omega)),
        decide_eq_true (UInt32.le_iff_toNat_le.mpr (by show _ ≤ 122; omega))⟩
    show (c.toLower.isUpper || c.toLower.isLower || c.toLower.isDigit) = true
    rw [hlower, Bool.or_true, Bool.true_or]
  · have hsame : c.toLower = c := dif_neg hupper
    rwa [hsame]

theorem isFileChar_stableSlug (value : String) : ∀ c ∈ (stableSlug value).toList, isFileChar c = true := by
  intro c hc
  rw [stableSlug] at hc
  split at hc
  next =>
    have hall : ∀ c ∈ "model".toList, isFileChar c = true := List.all_eq_true.mp (by decide)
    exact hall c hc
  next =>
    rw [String.toList_ofList] at hc
    obtain ⟨d, hd, rfl⟩ := List.mem_map.mp hc
    rcases mem_dashRuns (mem_stripDashes hd) with halnum | rfl
    · simp [isFileChar, isAlphanum_toLower halnum]
    · decide

theorem isFileChar_toString (n : Int) : ∀ c ∈ (toString n).toList, isFileChar c = true := by
  intro c hc
  rcases toString_chars n c hc with rfl | hdigit
  · decide
  · have hbounds := isDigit_toNat hdigit
    have hdigit : c.isDigit = true := by
      simpa [isDigit, Char.isDigit, Char.le_def] using hdigit
    simp [isFileChar, Char.isAlphanum, hdigit]

theorem cleanName_of_fileChars {name : String} (hlength : 3 ≤ name.length)
    (h : ∀ c ∈ name.toList, isFileChar c = true) : CleanName name ∧ name ≠ ".." := by
  refine ⟨⟨?_, ?_, ?_⟩, ?_⟩
  · rintro rfl
    exact absurd hlength (by decide)
  · rintro rfl
    exact absurd hlength (by decide)
  · intro c hc
    have hplain := h c hc
    refine ⟨?_, ?_, ?_, ?_⟩ <;> rintro rfl <;> exact absurd hplain (by decide)
  · rintro rfl
    exact absurd hlength (by decide)

/-- What stands in a tensor file's name before its index. -/
def tensorStem (args : ExportArgs) : String := stableSlug args.model ++ "-seq" ++ toString args.seqLen ++ "-layer"

def tensorFileName (args : ExportArgs) (layerIndex : Nat) (kind : String) : String :=
  tensorStem args ++ toString layerIndex ++ "-" ++ kind ++ ".f32le"

theorem tensorPath_eq (args : ExportArgs) (layerIndex : Nat) (kind : String) :
    tensorPath args layerIndex kind = args.runDir.names ++ ["tensors", tensorFileName args layerIndex kind] := rfl

theorem tensorFileName_clean (args : ExportArgs) (layerIndex : Nat) {kind : String}
    (hkind : ∀ c ∈ kind.toList, isFileChar c = true) :
    CleanName (tensorFileName args layerIndex kind) ∧ tensorFileName args layerIndex kind ≠ ".." := by
  apply cleanName_of_fileChars
  · have hsuffix : ".f32le".length = 6 := by decide
    rw [tensorFileName, String.length_append, hsuffix]
    omega
  · have hliteral : ∀ text ∈ ["-seq", "-layer", "-", ".f32le"], ∀ c ∈ text.toList, isFileChar c = true := by
      have hall : ∀ text ∈ ["-seq", "-layer", "-", ".f32le"], text.toList.all isFileChar = true := by decide
      exact fun text htext => List.all_eq_true.mp (hall text htext)
    intro c hc
    simp only [tensorFileName, tensorStem, String.toList_append, List.mem_append] at hc
    rcases hc with ((((((hc | hc) | hc) | hc) | hc) | hc) | hc) | hc
    · exact isFileChar_stableSlug _ c hc
    · exact hliteral _ (by simp) c hc
    · exact isFileChar_toString _ c hc
    · exact hliteral _ (by simp) c hc
    · exact isFileChar_toString layerIndex c hc
    · exact hliteral _ (by simp) c hc
    · exact hkind c hc
    · exact hliteral _ (by simp) c hc

/-- Two tensor files of one name are one file. -/
theorem tensorFileName_inj {args : ExportArgs} {i j : Nat} {kind kind' : String}
    (h : tensorFileName args i kind = tensorFileName args j kind') : i = j ∧ kind = kind' := by
  have htext (n : Nat) : (toString n).toList = Nat.toDigits 10 n := Nat.toList_repr
  have hdash (n : Nat) : '-' ∉ (toString n).toList := by
    intro hmem
    rw [htext] at hmem
    exact absurd (isDigit_of_mem_toDigits hmem) (by decide)
  have hlist := congrArg String.toList h
  simp only [tensorFileName, String.toList_append, List.append_assoc] at hlist
  have hcut := List.append_cancel_left hlist
  obtain ⟨hindex, hrest⟩ := append_delim_inj hcut (hdash i) (hdash j)
  have hkind : kind.toList ++ ".f32le".toList = kind'.toList ++ ".f32le".toList := hrest
  refine ⟨?_, String.toList_injective (List.append_cancel_right hkind)⟩
  rw [htext, htext] at hindex
  rw [← Nat.ofDigitChars_ten_toDigits (n := i), hindex, Nat.ofDigitChars_ten_toDigits]

end Paths

end PermeantOS
