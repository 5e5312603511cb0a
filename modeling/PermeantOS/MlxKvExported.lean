import PermeantOS.MlxKvExport

namespace PermeantOS

variable {α : Type}

section Elements

mutual

/-- An array has as many elements as its shape says. -/
theorem length_arrayElements {shape : List Nat} : (data : Nested α) → arrayShape data = some shape →
    (arrayElements data).length = shape.prod
  | .scalar x, h => by
    cases h
    rfl
  | .list items, h => by
    rw [arrayShape, Option.map_eq_some_iff] at h
    obtain ⟨inner, hinner, rfl⟩ := h
    rw [arrayElements, List.prod_cons]
    exact length_itemElements items hinner

theorem length_itemElements {shape : List Nat} : (items : List (Nested α)) → commonShape items = some shape →
    (itemElements items).length = items.length * shape.prod
  | [], _ => by rw [itemElements, List.length_nil, List.length_nil, Nat.zero_mul]
  | item :: items, h => by
    rw [commonShape] at h
    cases hitem : arrayShape item with
    | none =>
      rw [hitem] at h
      cases h
    | some found =>
      rw [hitem] at h
      dsimp only at h
      split at h
      next hrest =>
        cases h
        rw [itemElements, List.length_append, length_arrayElements item hitem, List.length_cons, Nat.succ_mul,
          Nat.add_comm]
        rcases hrest with hempty | hrest
        · rw [List.isEmpty_iff] at hempty
          rw [hempty, itemElements, List.length_nil, List.length_nil, Nat.zero_mul]
        · rw [length_itemElements items hrest]
      next => cases h

end

end Elements

section Runs

/-- What was on the disk is still read, but for the places that were written. -/
def KeepsOthers (written : Location → Prop) (disk disk' : Disk) : Prop :=
  ∀ location, ¬written location → ".." ∉ location → ∀ content,
    readBytes disk location = .ok content → readBytes disk' location = .ok content

theorem KeepsOthers.refl (written : Location → Prop) (disk : Disk) : KeepsOthers written disk disk :=
  fun _ _ _ _ hread => hread

theorem KeepsOthers.trans {written : Location → Prop} {a b c : Disk} (hab : KeepsOthers written a b)
    (hbc : KeepsOthers written b c) : KeepsOthers written a c :=
  fun location hnot hdots content hread => hbc location hnot hdots content (hab location hnot hdots content hread)

theorem KeepsOthers.mono {written written' : Location → Prop} {disk disk' : Disk}
    (h : KeepsOthers written disk disk') (hsub : ∀ location, written location → written' location) :
    KeepsOthers written' disk disk' :=
  fun location hnot => h location fun hwritten => hnot (hsub location hwritten)

theorem run_onDisk_ok_iff {f : Disk → Except FileError Disk} {disk disk' : Disk} {result : Unit} :
    (onDisk f).run disk = .ok result disk' ↔ f disk = .ok disk' := by
  rw [onDisk, run_get_bind]
  cases h : f disk with
  | ok found => constructor <;> intro heq <;> cases heq <;> rfl
  | error e => constructor <;> intro heq <;> cases heq

theorem keepsOthers_makeDirs {disk disk' : Disk} {path : Location} (written : Location → Prop)
    (h : makeDirs disk path = .ok disk') : KeepsOthers written disk disk' :=
  fun _ _ _ _ hread => (makeDirs_sameFiles h).readBytes hread

theorem written_writeBytes {disk disk' : Disk} {path : Location} {content : List UInt8} (hdots : ".." ∉ path)
    (h : writeBytes disk path content = .ok disk') :
    readBytes disk' path = .ok content ∧ KeepsOthers (· = path) disk disk' := by
  obtain ⟨location, hresolve, hdir, rfl⟩ := writeBytes_ok_iff.mp h
  obtain rfl := resolve_of_not_mem hdots hresolve
  refine ⟨readBytes_written hresolve hdir, ?_⟩
  intro other hne hdots' bytes hread
  obtain ⟨found, hfound, _⟩ := readBytes_ok_iff.mp hread
  obtain rfl := resolve_of_not_mem hdots' hfound
  exact readBytes_update hread hfound hdir hne

variable {memory : Nat} {f4 : α → F32} {args : ExportArgs} {disk disk' : Disk}

/-- The bytes of an array as `<f4`. -/
def arrayBytes (f4 : α → F32) (data : Nested α) : List UInt8 :=
  (arrayElements data).flatMap fun x => f32ToLeBytes (f4 x)

theorem writeF32le_ok {path : Location} {data : Nested α} {written : WrittenTensor} (hdots : ".." ∉ path)
    (h : (writeF32le f4 path data).run disk = .ok written disk') :
    (∃ a b c, written.shape = [a, b, c] ∧ arrayShape data = some [a, b, c]) ∧
      written.sha256 = hashlibSha256 (arrayBytes f4 data) ∧ readBytes disk' path = .ok (arrayBytes f4 data) ∧
      KeepsOthers (· = path) disk disk' := by
  obtain ⟨shape, hshape, h⟩ := run_liftExcept_bind_ok_iff.mp h
  have hfound : arrayShape data = some shape := by
    cases harray : arrayShape data with
    | none =>
      rw [harray] at hshape
      cases hshape
    | some found =>
      rw [harray] at hshape
      cases hshape
      rfl
  split at h
  next => cases h
  next hthree =>
    obtain ⟨⟨⟩, mid, hmake, h⟩ := run_bind_ok_iff.mp h
    obtain ⟨⟨⟩, last, hwrite, h⟩ := run_bind_ok_iff.mp h
    cases h
    obtain ⟨hread, hkept⟩ := written_writeBytes hdots (run_onDisk_ok_iff.mp hwrite)
    refine ⟨?_, rfl, hread, (keepsOthers_makeDirs _ (run_onDisk_ok_iff.mp hmake)).trans hkept⟩
    match shape, hthree with
    | [a, b, c], _ => exact ⟨a, b, c, rfl, hfound⟩
    | [], hthree => exact absurd hthree (by simp)
    | [_], hthree => exact absurd hthree (by simp)
    | [_, _], hthree => exact absurd hthree (by simp)
    | _ :: _ :: _ :: _ :: _, hthree => exact absurd hthree (by simp)

/-- The layer that the files of one layer hold: the elements of its two tensors in canonical order. -/
structure ExportSource (memory : Nat) (f4 : α → F32) (args : ExportArgs) (layerIndex : Nat)
    (tensors : CacheTensor α × CacheTensor α) (layer : CanonicalLayer) : Prop where
  il : layer.il = UInt32.ofNat layerIndex
  seqLen : (layer.seqLen : Int) = args.seqLen
  tensors : ∃ key value heads dim,
    canonicalizeTensor memory s!"layer.{layerIndex}.key" tensors.1 (some args.seqLen) = .ok key ∧
    canonicalizeTensor memory s!"layer.{layerIndex}.value" tensors.2 (some args.seqLen) = .ok value ∧
    arrayShape key = some [layer.seqLen, heads, dim] ∧ arrayShape value = some [layer.seqLen, heads, dim] ∧
    layer.kWidth = heads * dim ∧ layer.vWidth = heads * dim ∧
    layer.key = (arrayElements key).map f4 ∧ layer.value = (arrayElements value).map f4

theorem ExportSource.lengths {layerIndex : Nat} {tensors : CacheTensor α × CacheTensor α} {layer : CanonicalLayer}
    (h : ExportSource memory f4 args layerIndex tensors layer) :
    layer.key.length = layer.seqLen * layer.kWidth ∧ layer.value.length = layer.seqLen * layer.vWidth := by
  obtain ⟨key, value, heads, dim, _, _, hkey, hvalue, hkwidth, hvwidth, hkeys, hvalues⟩ := h.tensors
  rw [hkeys, hvalues, List.length_map, List.length_map, length_arrayElements key hkey,
    length_arrayElements value hvalue, hkwidth, hvwidth]
  simp

/-- The line of a layer in the manifest, and the two files it names. -/
structure LayerStored (args : ExportArgs) (disk : Disk) (layerIndex : Nat) (line : String)
    (layer : CanonicalLayer) : Prop where
  line : ∃ key value, line = String.intercalate "\t" ["layer", toString layerIndex, toString args.seqLen,
    toString layer.kWidth, toString layer.vWidth, locationText (tensorPath args layerIndex "key"),
    locationText (tensorPath args layerIndex "value"), hashlibSha256 key ++ "," ++ hashlibSha256 value]
  key : readBytes disk (tensorPath args layerIndex "key") = .ok (layer.key.flatMap f32ToLeBytes)
  value : readBytes disk (tensorPath args layerIndex "value") = .ok (layer.value.flatMap f32ToLeBytes)

/-- A tensor file of a layer from this one on. -/
def TensorFrom (args : ExportArgs) (layerIndex : Nat) (location : Location) : Prop :=
  ∃ i, layerIndex ≤ i ∧ (location = tensorPath args i "key" ∨ location = tensorPath args i "value")

theorem tensorPath_dots (args : ExportArgs) (layerIndex : Nat) {kind : String}
    (hkind : ∀ c ∈ kind.toList, isFileChar c = true) : ".." ∉ tensorPath args layerIndex kind := by
  rw [tensorPath_eq]
  apply args.runDir.not_mem_append
  simp only [List.mem_cons, List.not_mem_nil, or_false, not_or]
  exact ⟨by decide, (tensorFileName_clean args layerIndex hkind).2.symm⟩

theorem key_fileChars : ∀ c ∈ "key".toList, isFileChar c = true := List.all_eq_true.mp (by decide)

theorem value_fileChars : ∀ c ∈ "value".toList, isFileChar c = true := List.all_eq_true.mp (by decide)

theorem tensorPath_inj {i j : Nat} {kind kind' : String} (h : tensorPath args i kind = tensorPath args j kind') :
    i = j ∧ kind = kind' := by
  rw [tensorPath_eq, tensorPath_eq, List.append_cancel_left_eq] at h
  exact tensorFileName_inj (List.cons.inj (List.cons.inj h).2).1

theorem exportKvLayer_ok {layerIndex : Nat} {tensors : CacheTensor α × CacheTensor α} {out : String × Json Empty}
    (h : (exportKvLayer memory f4 args layerIndex tensors).run disk = .ok out disk') :
    ∃ layer, ExportSource memory f4 args layerIndex tensors layer ∧ LayerStored args disk' layerIndex out.1 layer ∧
      KeepsOthers (TensorFrom args layerIndex) disk disk' := by
  obtain ⟨canonicalKey, hcanonicalKey, h⟩ := run_liftExcept_bind_ok_iff.mp h
  obtain ⟨canonicalValue, hcanonicalValue, h⟩ := run_liftExcept_bind_ok_iff.mp h
  obtain ⟨key, mid, hkey, h⟩ := run_bind_ok_iff.mp h
  obtain ⟨value, last, hvalue, h⟩ := run_bind_ok_iff.mp h
  obtain ⟨⟨n, a, b, hshape, harray⟩, hsha, hread, hkept⟩ :=
    writeF32le_ok (tensorPath_dots args layerIndex key_fileChars) hkey
  obtain ⟨⟨n', a', b', hshape', harray'⟩, hsha', hread', hkept'⟩ :=
    writeF32le_ok (tensorPath_dots args layerIndex value_fileChars) hvalue
  split at h
  next => cases h
  next hlengths =>
    split at h
    next => cases h
    next hsame =>
      cases h
      rw [hshape, hshape', not_or, not_not, not_not] at hlengths
      rw [hshape, hshape', not_not] at hsame
      obtain ⟨hn, hn'⟩ := hlengths
      have hnn : n = n' := by
        have hint : (n : Int) = n' := hn.trans hn'.symm
        exact_mod_cast hint
      have hwidths : [a, b] = [a', b'] := hsame
      cases hwidths
      subst hnn
      have hkeyKept : readBytes disk' (tensorPath args layerIndex "key") = .ok (arrayBytes f4 canonicalKey) := by
        refine hkept' _ ?_ (tensorPath_dots args layerIndex key_fileChars) _ hread
        intro heq
        exact absurd (tensorPath_inj heq).2 (by decide)
      have hmap {data : Nested α} : arrayBytes f4 data = ((arrayElements data).map f4).flatMap f32ToLeBytes := by
        rw [arrayBytes, List.flatMap_map]
      have hok {name : String} {tensor : CacheTensor α} {data : Nested α}
          (hcanonical : (canonicalizeTensor memory name tensor (some args.seqLen)).mapError ExporterError.raised =
            .ok data) : canonicalizeTensor memory name tensor (some args.seqLen) = .ok data := by
        cases hresult : canonicalizeTensor memory name tensor (some args.seqLen) with
        | ok found =>
          rw [hresult] at hcanonical
          cases hcanonical
          rfl
        | error e =>
          rw [hresult] at hcanonical
          cases hcanonical
      refine ⟨⟨UInt32.ofNat layerIndex, n, a * b, a * b, (arrayElements canonicalKey).map f4,
        (arrayElements canonicalValue).map f4⟩, ⟨rfl, hn, canonicalKey, canonicalValue, a, b, hok hcanonicalKey,
          hok hcanonicalValue, harray, harray', rfl, rfl, rfl, rfl⟩,
        ⟨⟨arrayBytes f4 canonicalKey, arrayBytes f4 canonicalValue, ?_⟩, ?_, ?_⟩, ?_⟩
      · rw [layerLine, hshape, hshape', hsha, hsha']
        rfl
      · rw [hkeyKept, hmap]
      · rw [hread', hmap]
      · apply (hkept.mono ?_).trans (hkept'.mono ?_)
        · rintro location rfl
          exact ⟨layerIndex, le_refl _, .inl rfl⟩
        · rintro location rfl
          exact ⟨layerIndex, le_refl _, .inr rfl⟩

/-- Layers from one index on, with their lines and their files. -/
inductive ExportedFrom (memory : Nat) (f4 : α → F32) (args : ExportArgs) (disk : Disk) :
    Nat → List (CacheTensor α × CacheTensor α) → List String → List CanonicalLayer → Prop
  | nil (layerIndex : Nat) : ExportedFrom memory f4 args disk layerIndex [] [] []
  | cons {layerIndex : Nat} {tensors : CacheTensor α × CacheTensor α}
      {sources : List (CacheTensor α × CacheTensor α)}
      {line : String} {lines : List String} {layer : CanonicalLayer} {layers : List CanonicalLayer}
      (source : ExportSource memory f4 args layerIndex tensors layer)
      (stored : LayerStored args disk layerIndex line layer)
      (rest : ExportedFrom memory f4 args disk (layerIndex + 1) sources lines layers) :
      ExportedFrom memory f4 args disk layerIndex (tensors :: sources) (line :: lines) (layer :: layers)

theorem LayerStored.kept {written : Location → Prop} {layerIndex : Nat} {line : String} {layer : CanonicalLayer}
    (h : LayerStored args disk layerIndex line layer) (hkept : KeepsOthers written disk disk')
    (hkey : ¬written (tensorPath args layerIndex "key")) (hvalue : ¬written (tensorPath args layerIndex "value")) :
    LayerStored args disk' layerIndex line layer :=
  ⟨h.line, hkept _ hkey (tensorPath_dots args layerIndex key_fileChars) _ h.key,
    hkept _ hvalue (tensorPath_dots args layerIndex value_fileChars) _ h.value⟩

theorem ExportedFrom.kept {written : Location → Prop} {layerIndex : Nat}
    {sources : List (CacheTensor α × CacheTensor α)} {lines : List String} {layers : List CanonicalLayer}
    (h : ExportedFrom memory f4 args disk layerIndex sources lines layers) (hkept : KeepsOthers written disk disk')
    (hnot : ∀ location, TensorFrom args layerIndex location → ¬written location) :
    ExportedFrom memory f4 args disk' layerIndex sources lines layers := by
  induction h with
  | nil layerIndex => exact .nil layerIndex
  | @cons layerIndex _ _ _ _ _ _ source stored _ ih =>
    refine .cons source (stored.kept hkept (hnot _ ⟨layerIndex, le_refl _, .inl rfl⟩)
      (hnot _ ⟨layerIndex, le_refl _, .inr rfl⟩)) (ih ?_)
    rintro location ⟨i, hi, hlocation⟩
    exact hnot location ⟨i, by omega, hlocation⟩

theorem exportKvLayers_ok {layerIndex : Nat} {sources : List (CacheTensor α × CacheTensor α)}
    {outs : List (String × Json Empty)}
    (h : (exportKvLayers memory f4 args layerIndex sources).run disk = .ok outs disk') :
    ∃ layers, ExportedFrom memory f4 args disk' layerIndex sources (outs.map Prod.fst) layers ∧
      KeepsOthers (TensorFrom args layerIndex) disk disk' := by
  induction sources generalizing layerIndex disk outs with
  | nil =>
    cases h
    exact ⟨[], .nil layerIndex, .refl _ _⟩
  | cons tensors sources ih =>
    obtain ⟨out, mid, hfirst, h⟩ := run_bind_ok_iff.mp h
    obtain ⟨rest, last, hrest, h⟩ := run_bind_ok_iff.mp h
    cases h
    obtain ⟨layer, hsource, hstored, hkept⟩ := exportKvLayer_ok hfirst
    obtain ⟨layers, hexported, hkept'⟩ := ih hrest
    -- later layers have files of their own
    have hown {kind : String} (hkind : kind = "key" ∨ kind = "value") :
        ¬TensorFrom args (layerIndex + 1) (tensorPath args layerIndex kind) := by
      rintro ⟨i, hi, heq | heq⟩ <;> have hsame := (tensorPath_inj heq).1 <;> omega
    refine ⟨layer :: layers, .cons hsource (hstored.kept hkept' (hown (.inl rfl)) (hown (.inr rfl))) hexported,
      hkept.trans (hkept'.mono ?_)⟩
    rintro location ⟨i, hi, hlocation⟩
    exact ⟨i, by omega, hlocation⟩

/-- The names of the three other files of a run. -/
theorem runFile_ne {name : String} {layerIndex : Nat} {location : Location}
    (h : TensorFrom args layerIndex location) : location ≠ args.runDir.names ++ [name] := by
  rintro rfl
  obtain ⟨i, _, heq | heq⟩ := h <;>
  · rw [tensorPath_eq, List.append_cancel_left_eq] at heq
    exact absurd (List.cons.inj heq).2 (by simp)

theorem runFile_dots {name : String} (hname : name ≠ "..") : ".." ∉ args.runDir.names ++ [name] :=
  args.runDir.not_mem_append (by simpa using hname.symm)

/-- What a run of the exporter leaves on the disk. -/
theorem exportMlxCanonicalKv_ok {runtime : LiveRuntime α} {continuation : Continuation}
    (h : (exportMlxCanonicalKv memory f4 args runtime continuation).run disk = .ok () disk') :
    0 < args.seqLen ∧ readBytes disk' (promptPath args) = .ok (asBytes runtime.promptText) ∧
      ∃ lines layers, ExportedFrom memory f4 args disk' 0 runtime.layers lines layers ∧
        readBytes disk' (feedManifestPath args) =
          .ok (asBytes (String.intercalate "\n" (manifestHead args runtime continuation ++ lines) ++ "\n")) := by
  rw [exportMlxCanonicalKv] at h
  split at h
  next => cases h
  next hpositive =>
    obtain ⟨⟨⟩, _, hmake, h⟩ := run_bind_ok_iff.mp h
    obtain ⟨⟨⟩, _, hprompt, h⟩ := run_bind_ok_iff.mp h
    obtain ⟨outs, _, hlayers, h⟩ := run_bind_ok_iff.mp h
    obtain ⟨⟨⟩, _, hmanifest, hmetadata⟩ := run_bind_ok_iff.mp h
    have hpromptDots : ".." ∉ promptPath args := runFile_dots (by decide)
    have hmanifestDots : ".." ∉ feedManifestPath args := runFile_dots (by decide)
    have hmetadataDots : ".." ∉ metadataPath args := runFile_dots (by decide)
    have hdistinct : promptPath args ≠ feedManifestPath args ∧ promptPath args ≠ metadataPath args ∧
        feedManifestPath args ≠ metadataPath args := by
      simp [promptPath, feedManifestPath, metadataPath]
    obtain ⟨hpromptRead, _⟩ := written_writeBytes hpromptDots (run_onDisk_ok_iff.mp hprompt)
    obtain ⟨layers, hexported, hlayersKept⟩ := exportKvLayers_ok hlayers
    obtain ⟨hmanifestRead, hmanifestKept⟩ := written_writeBytes hmanifestDots (run_onDisk_ok_iff.mp hmanifest)
    obtain ⟨_, hmetadataKept⟩ := written_writeBytes hmetadataDots (run_onDisk_ok_iff.mp hmetadata)
    refine ⟨by omega, ?_, outs.map Prod.fst, layers, ?_, hmetadataKept _ hdistinct.2.2 hmanifestDots _ hmanifestRead⟩
    · have hprompt' := hlayersKept _ (fun hfrom => runFile_ne hfrom rfl) hpromptDots _ hpromptRead
      exact hmetadataKept _ hdistinct.2.1 hpromptDots _ (hmanifestKept _ hdistinct.1 hpromptDots _ hprompt')
    · exact (hexported.kept hmanifestKept fun _ hfrom => runFile_ne hfrom).kept hmetadataKept
        fun _ hfrom => runFile_ne hfrom

end Runs

end PermeantOS
