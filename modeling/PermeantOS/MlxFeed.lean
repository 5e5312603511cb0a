import PermeantOS.Loops
import PermeantOS.MlxToLlama

namespace PermeantOS

variable {α : Type}

section Elements

/-- Blocks of one width, one behind the other. -/
theorem getElem?_flatMap_range {β : Type} {f : Nat → List β} {n width i j : Nat}
    (hlength : ∀ k, (f k).length = width) (hi : i < n) (hj : j < width) : ((List.range n).flatMap f)[i * width + j]? = (f i)[j]? := by
  have hblocks (m : Nat) : ((List.range m).flatMap f).length = m * width := by
    rw [length_flatMap_of_length hlength, List.length_range]
  obtain ⟨k, rfl⟩ : ∃ k, n = i + (1 + k) := ⟨n - (i + 1), by omega⟩
  rw [List.range_add, List.flatMap_append, List.getElem?_append_right (by rw [hblocks]; omega), hblocks,
    Nat.add_sub_cancel_left, List.range_add, List.map_append, List.flatMap_append, List.range_one, List.map_singleton,
    List.flatMap_singleton, List.getElem?_append_left (by rw [hlength]; exact hj), Nat.add_zero]

variable {a b c : Nat} {x : Nat → Nat → Nat → α}

theorem itemElements_eq_flatMap (items : List (Nested α)) : itemElements items = items.flatMap arrayElements := by
  induction items with
  | nil => rfl
  | cons item items ih => rw [itemElements, ih, List.flatMap_cons]

theorem arrayElements_tabulate (n : Nat) (f : Nat → Nested α) :
    arrayElements (tabulate n f) = (List.range n).flatMap fun i => arrayElements (f i) := by
  rw [tabulate, arrayElements, itemElements_eq_flatMap, List.flatMap_map]

theorem commonShape_of_forall {items : List (Nested α)} {shape : List Nat} (hne : items ≠ [])
    (h : ∀ item ∈ items, arrayShape item = some shape) : commonShape items = some shape := by
  induction items with
  | nil => exact absurd rfl hne
  | cons item items ih =>
    obtain ⟨hfirst, hrest⟩ := List.forall_mem_cons.mp h
    rw [commonShape, hfirst]
    dsimp only
    rw [if_pos]
    cases items with
    | nil => exact .inl rfl
    | cons second items => exact .inr (ih (by simp) hrest)

theorem arrayShape_tabulate {n : Nat} {f : Nat → Nested α} {shape : List Nat} (hn : 0 < n)
    (h : ∀ i, arrayShape (f i) = some shape) : arrayShape (tabulate n f) = some (n :: shape) := by
  have hcommon : commonShape ((List.range n).map f) = some shape := by
    apply commonShape_of_forall
    · simpa using by omega
    · intro item hitem
      obtain ⟨i, _, rfl⟩ := List.mem_map.mp hitem
      exact h i
  rw [tabulate, arrayShape, hcommon, List.length_map, List.length_range]
  rfl

theorem arrayShape_tensor3 (ha : 0 < a) (hb : 0 < b) (hc : 0 < c) : arrayShape (tensor3 a b c x) = some [a, b, c] :=
  arrayShape_tabulate ha fun _ => arrayShape_tabulate hb fun _ => arrayShape_tabulate hc fun _ => rfl

/-- The element of a token, a head and a dimension stands where the product of the widths says. -/
theorem arrayElements_tensor3 {t h d : Nat} (ht : t < a) (hh : h < b) (hd : d < c) :
    (arrayElements (tensor3 a b c x))[(t * b + h) * c + d]? = some (x t h d) := by
  have hcolumn (t h : Nat) : (arrayElements (tabulate c fun d => .scalar (x t h d))) =
      (List.range c).map fun d => x t h d := by
    rw [arrayElements_tabulate]
    simp [arrayElements, List.map_eq_flatMap]
  have hcolumns (t h : Nat) : (arrayElements (tabulate c fun d => .scalar (x t h d))).length = c := by
    rw [hcolumn, List.length_map, List.length_range]
  have hrows (t : Nat) :
      (arrayElements (tabulate b fun h => tabulate c fun d => .scalar (x t h d))).length = b * c := by
    rw [arrayElements_tabulate, length_flatMap_of_length (hcolumns t), List.length_range]
  have hindex : (t * b + h) * c + d = t * (b * c) + (h * c + d) := by ring
  rw [hindex, tensor3, arrayElements_tabulate, getElem?_flatMap_range hrows ht (mul_add_lt_mul hh hd),
    arrayElements_tabulate, getElem?_flatMap_range (hcolumns t) hh hd, hcolumn, List.getElem?_map,
    List.getElem?_range hd]
  rfl

end Elements

section Sources

variable {memory : Nat} {f4 : α → F32} {args : ExportArgs} {kvHeads positions headDim seqLen : Nat}

/-- The values at each token, head and dimension. -/
def PlacedAt (f4 : α → F32) (seqLen heads headDim : Nat) (x : Nat → Nat → Nat → α) (values : List F32) : Prop :=
  ∀ t < seqLen, ∀ h < heads, ∀ d < headDim, values[(t * heads + h) * headDim + d]? = some (f4 (x t h d))

/-- The number of heads that a canonical tensor has, where the axes are exchanged and where they are not. -/
def fedHeads (seqLen kvHeads positions : Nat) : Nat :=
  if headsFirst seqLen kvHeads positions = true then kvHeads else positions

def fedElement (seqLen kvHeads positions : Nat) (x : Nat → Nat → Nat → α) (t h d : Nat) : α :=
  if headsFirst seqLen kvHeads positions = true then x h t d else x t h d

theorem canonicalizeTensor_fed {tensor : CacheTensor α} {name : String} {x : Nat → Nat → Nat → α}
    (hmemory : 4 ≤ memory) (h : tensor.Holds kvHeads positions headDim x) (hheads : 0 < kvHeads) (hdim : 0 < headDim) (hseq : 1 ≤ seqLen)
    (hpositions : seqLen ≤ positions) :
    canonicalizeTensor memory name tensor (some seqLen) = .ok (tensor3 seqLen (fedHeads seqLen kvHeads positions)
      headDim (fedElement seqLen kvHeads positions x)) := by
  rw [canonicalizeTensor_of_holds hmemory h (by omega), if_pos ⟨hheads, hdim⟩,
    orderAxes_tensor3 (by omega) hheads hdim hseq hpositions]
  by_cases horder : headsFirst seqLen kvHeads positions = true
  · have helement : fedElement seqLen kvHeads positions x = fun t h d => x h t d := by
      funext t h d
      exact if_pos horder
    rw [fedHeads, if_pos horder, if_pos horder, helement]
  · have helement : fedElement seqLen kvHeads positions x = x := by
      funext t h d
      exact if_neg horder
    rw [fedHeads, if_neg horder, if_neg horder, helement]

theorem fedHeads_pos (hheads : 0 < kvHeads) (hseq : 1 ≤ seqLen) (hpositions : seqLen ≤ positions) :
    0 < fedHeads seqLen kvHeads positions := by
  rw [fedHeads]
  split <;> omega

/-- A layer of one width for keys and values, with all of them. -/
def FedLayer (seqLen width i : Nat) (layer : CanonicalLayer) : Prop :=
  layer.il = UInt32.ofNat i ∧ layer.seqLen = seqLen ∧ layer.kWidth = width ∧ layer.vWidth = width ∧
    layer.key.length = layer.seqLen * layer.kWidth ∧ layer.value.length = layer.seqLen * layer.vWidth

/-- The layer that comes of two tensors of a cache. -/
theorem ExportSource.placed {layerIndex : Nat} {tensors : CacheTensor α × CacheTensor α} {layer : CanonicalLayer}
    {x y : Nat → Nat → Nat → α} (h : ExportSource memory f4 args layerIndex tensors layer) (hmemory : 4 ≤ memory)
    (hargs : args.seqLen = seqLen) (hkey : tensors.1.Holds kvHeads positions headDim x)
    (hvalue : tensors.2.Holds kvHeads positions headDim y) (hheads : 0 < kvHeads) (hdim : 0 < headDim)
    (hseq : 1 ≤ seqLen) (hpositions : seqLen ≤ positions) :
    FedLayer seqLen (fedHeads seqLen kvHeads positions * headDim) layerIndex layer ∧
      PlacedAt f4 seqLen (fedHeads seqLen kvHeads positions) headDim (fedElement seqLen kvHeads positions x)
        layer.key ∧
      PlacedAt f4 seqLen (fedHeads seqLen kvHeads positions) headDim (fedElement seqLen kvHeads positions y)
        layer.value := by
  obtain ⟨key, value, heads, dim, hkeys, hvalues, hshape, _, hkWidth, hvWidth, hkeyList, hvalueList⟩ := h.tensors
  rw [hargs, canonicalizeTensor_fed hmemory hkey hheads hdim hseq hpositions] at hkeys
  rw [hargs, canonicalizeTensor_fed hmemory hvalue hheads hdim hseq hpositions] at hvalues
  cases hkeys
  cases hvalues
  have hfed : 0 < fedHeads seqLen kvHeads positions := fedHeads_pos hheads hseq hpositions
  rw [arrayShape_tensor3 (by omega) hfed hdim] at hshape
  obtain ⟨hlayerSeq, hsame⟩ := List.cons.inj (Option.some.inj hshape)
  obtain ⟨rfl, hdims⟩ := List.cons.inj hsame
  obtain ⟨rfl, _⟩ := List.cons.inj hdims
  refine ⟨⟨h.il, hlayerSeq.symm, hkWidth, hvWidth, h.lengths⟩, ?_, ?_⟩
  · intro t ht h hh d hd
    rw [hkeyList, List.getElem?_map, arrayElements_tensor3 ht hh hd]
    rfl
  · intro t ht h hh d hd
    rw [hvalueList, List.getElem?_map, arrayElements_tensor3 ht hh hd]
    rfl

end Sources

section Targets

variable {half : HalfFloats} {target : LlamaKvCache} {kvSize width : Nat}

/-- A layer of a target cache with F32 tensors of one width. -/
def TargetLayer (target : LlamaKvCache) (width i : Nat) (layer : KvLayer) : Prop :=
  ∃ k v, layer = ⟨UInt32.ofNat i, some k, some v⟩ ∧ k.type = .f32 ∧ v.type = .f32 ∧ k.ne0 * 4 ≤ k.nb1 ∧
    v.ne0 * 4 ≤ v.nb1 ∧ k.ne0 = width ∧ target.vWidth (UInt32.ofNat i) v = width

/-- Layers of the widths of the target are written, and are what the target then exports. -/
theorem importLayers_fed (half : HalfFloats) {seqLen : Nat} (start : Nat) (hseq : seqLen ≤ kvSize) {dsts : List KvLayer}
    {srcs : List CanonicalLayer} (hlength : srcs.length = dsts.length)
    (hdsts : ∀ i dst, dsts[i]? = some dst → TargetLayer target width (start + i) dst)
    (hsrcs : ∀ i src, srcs[i]? = some src → FedLayer seqLen width (start + i) src) :
    ∃ written, importLayers half target kvSize dsts srcs = .ok written ∧
      exportLayers half target kvSize seqLen written = .ok srcs ∧
      List.Forall₂ (CellsKept target kvSize seqLen) dsts written := by
  induction dsts generalizing srcs start with
  | nil =>
    obtain rfl := List.length_eq_zero_iff.mp hlength
    exact ⟨[], rfl, rfl, .nil⟩
  | cons dst dsts ih =>
    cases srcs with
    | nil => cases hlength
    | cons src srcs =>
      obtain ⟨k, v, rfl, hk, hv, hkstride, hvstride, hkwidth, hvwidth⟩ := hdsts 0 dst rfl
      obtain ⟨hil, rfl, hksrc, hvsrc, hkey, hvalue⟩ := hsrcs 0 src rfl
      obtain ⟨k', v', himport, hexport, hkept⟩ := importLayer_f32 half target src hk hv hkstride hvstride hseq hil
        (hksrc.trans hkwidth.symm) (hvsrc.trans hvwidth.symm) hkey hvalue
      obtain ⟨written, hrest, hagain, hkeptRest⟩ := ih (start + 1) (Nat.succ.inj hlength)
        (fun i dst hdst => by
          have hnext := hdsts (i + 1) dst hdst
          rwa [Nat.add_comm i 1, ← Nat.add_assoc] at hnext)
        (fun i src hsrc => by
          have hnext := hsrcs (i + 1) src hsrc
          rwa [Nat.add_comm i 1, ← Nat.add_assoc] at hnext)
      refine ⟨⟨UInt32.ofNat (start + 0), some k', some v'⟩ :: written, ?_, ?_, .cons hkept hkeptRest⟩
      · rw [importLayers, except_bind_of_ok himport, except_bind_of_ok hrest]
        rfl
      · rw [exportLayers]
        dsimp only
        rw [except_bind_of_ok hexport, except_bind_of_ok hagain]
        rfl

/-- A first layer of another width is not written. -/
theorem importLayers_mismatch (half : HalfFloats) {i : Nat} {dst : KvLayer} {dsts : List KvLayer}
    {src : CanonicalLayer} {srcs : List CanonicalLayer} (hdst : TargetLayer target width i dst) (hwidth : src.kWidth ≠ width) :
    importLayers half target kvSize (dst :: dsts) (src :: srcs) =
      .error (.runtimeError "canonical KV layer geometry does not match llama.cpp target") := by
  obtain ⟨k, v, rfl, _, _, _, _, hkwidth, _⟩ := hdst
  rw [importLayers, importLayer]
  dsimp only
  rw [if_pos (.inr (.inl fun heq => hwidth (heq.symm.trans hkwidth)))]
  rfl

end Targets

section Feed

variable {disk disk' : Disk} {memory : Nat} {f4 : α → F32} {args : ExportArgs} {runtime : LiveRuntime α}
  {continuation : Continuation} {kvHeads positions headDim seqLen : Nat} {x y : Nat → Nat → Nat → Nat → α}
  {target : LlamaKvCache} {kvSize : Nat}

/-- A cache whose layers have one shape; `x` and `y` are the keys and the values by layer, head, position and
dimension. -/
structure CacheFeed (memory : Nat) (args : ExportArgs) (runtime : LiveRuntime α)
    (kvHeads positions headDim seqLen : Nat) (x y : Nat → Nat → Nat → Nat → α) : Prop where
  deep : 4 ≤ memory
  seqLen_eq : args.seqLen = seqLen
  seqLen_le : seqLen ≤ positions
  kvHeads_pos : 0 < kvHeads
  headDim_pos : 0 < headDim
  count_pos : 0 < runtime.layers.length
  count_le : runtime.layers.length ≤ 2 ^ 64
  size_lt : seqLen * (max kvHeads positions * headDim) < 2 ^ 61
  holds : ∀ i (tensors : CacheTensor α × CacheTensor α), runtime.layers[i]? = some tensors →
    tensors.1.Holds kvHeads positions headDim (x i) ∧ tensors.2.Holds kvHeads positions headDim (y i)

/-- A single-stream target with F32 layers of one width, and room for `kvSize` tokens. -/
structure FeedTarget (target : LlamaKvCache) (layerCount width kvSize : Nat) : Prop where
  size : target.kvSize = .ok kvSize
  length_eq : target.layers.length = layerCount
  layers : ∀ i layer, target.layers[i]? = some layer → TargetLayer target width i layer

theorem fedHeads_le (seqLen kvHeads positions : Nat) :
    fedHeads seqLen kvHeads positions ≤ max kvHeads positions := by
  rw [fedHeads]
  split <;> omega

theorem fedHeads_eq_iff : fedHeads seqLen kvHeads positions = kvHeads ↔
    headsFirst seqLen kvHeads positions = true ∨ kvHeads = positions := by
  by_cases horder : headsFirst seqLen kvHeads positions = true
  · rw [fedHeads, if_pos horder]
    exact iff_of_true rfl (.inl horder)
  · rw [fedHeads, if_neg horder, or_iff_right horder, eq_comm]

theorem CacheFeed.fits (hfeed : CacheFeed memory args runtime kvHeads positions headDim seqLen x y)
    (hseq : 1 ≤ seqLen) {i : Nat} {layer : CanonicalLayer}
    (hlayer : FedLayer seqLen (fedHeads seqLen kvHeads positions * headDim) i layer) : layer.Fits := by
  obtain ⟨_, hseqLen, hk, hv, _⟩ := hlayer
  have hwidth : fedHeads seqLen kvHeads positions * headDim ≤ max kvHeads positions * headDim :=
    Nat.mul_le_mul_right headDim (fedHeads_le _ _ _)
  have hsize : seqLen * (fedHeads seqLen kvHeads positions * headDim) < 2 ^ 61 :=
    lt_of_le_of_lt (Nat.mul_le_mul_left seqLen hwidth) hfeed.size_lt
  have hone : fedHeads seqLen kvHeads positions * headDim ≤ seqLen * (fedHeads seqLen kvHeads positions * headDim) :=
    Nat.le_mul_of_pos_left _ hseq
  constructor
  · omega
  · omega
  · rwa [hseqLen, hk]
  · rwa [hseqLen, hv]

/-- All layers of the exporter. -/
theorem ExportedLayers.placed {layers : List CanonicalLayer} (h : ExportedLayers memory f4 args runtime.layers layers)
    (hfeed : CacheFeed memory args runtime kvHeads positions headDim seqLen x y) (hseq : 1 ≤ seqLen) (i : Nat)
    (layer : CanonicalLayer) (hlayer : layers[i]? = some layer) :
    FedLayer seqLen (fedHeads seqLen kvHeads positions * headDim) i layer ∧
      PlacedAt f4 seqLen (fedHeads seqLen kvHeads positions) headDim (fedElement seqLen kvHeads positions (x i))
        layer.key ∧
      PlacedAt f4 seqLen (fedHeads seqLen kvHeads positions) headDim (fedElement seqLen kvHeads positions (y i))
        layer.value := by
  have hi : i < runtime.layers.length := by
    rw [← h.length_eq]
    exact (List.getElem?_eq_some_iff.mp hlayer).1
  have htensors : runtime.layers[i]? = some runtime.layers[i] := List.getElem?_eq_getElem hi
  obtain ⟨hkey, hvalue⟩ := hfeed.holds i _ htensors
  exact (h.source i _ layer htensors hlayer).placed hfeed.deep hfeed.seqLen_eq hkey hvalue hfeed.kvHeads_pos
    hfeed.headDim_pos hseq hfeed.seqLen_le

/-- A target takes layers of its width, and no others. -/
theorem importCanonical_fedLayers (half : HalfFloats) {layers : List CanonicalLayer} {width fedWidth : Nat}
    (htarget : FeedTarget target layers.length width kvSize) (hroom : seqLen ≤ kvSize) (hcount : 0 < layers.length)
    (hlayers : ∀ i layer, layers[i]? = some layer → FedLayer seqLen fedWidth i layer) :
    ((∃ target', importCanonical half target layers = .ok target') ↔ fedWidth = width) ∧
      ∀ target', importCanonical half target layers = .ok target' → exportCanonical half target' seqLen = .ok layers ∧
        List.Forall₂ (CellsKept target kvSize seqLen) target.layers target'.layers := by
  have himport : importCanonical half target layers =
      importLayers half target kvSize target.layers layers >>=
        fun written => pure { target with layers := written } := by
    have hlength := htarget.length_eq
    rw [importCanonical, except_bind_of_ok htarget.size, if_neg (by omega)]
  by_cases hwidth : fedWidth = width
  · subst hwidth
    obtain ⟨written, hwritten, hexport, hkept⟩ := importLayers_fed half 0 hroom htarget.length_eq.symm
      (fun i dst hdst => (Nat.zero_add i).symm ▸ htarget.layers i dst hdst)
      (fun i src hsrc => (Nat.zero_add i).symm ▸ hlayers i src hsrc)
    have hok : importCanonical half target layers = .ok { target with layers := written } := by
      rw [himport, hwritten]
      rfl
    refine ⟨iff_of_true ⟨_, hok⟩ rfl, ?_⟩
    intro target' htarget'
    cases hok.symm.trans htarget'
    have hsize : LlamaKvCache.kvSize { target with layers := written } = .ok kvSize := htarget.size
    refine ⟨?_, hkept⟩
    rw [exportCanonical, except_bind_of_ok hsize, exportLayers_layers, hexport]
  · -- the first layer already has another width
    obtain ⟨e, herror⟩ : ∃ e, importCanonical half target layers = .error e := by
      cases hsrcs : layers with
      | nil =>
        rw [hsrcs] at hcount
        cases hcount
      | cons src srcs =>
        cases hdsts : target.layers with
        | nil =>
          have hlength := htarget.length_eq
          rw [hdsts, hsrcs] at hlength
          cases hlength
        | cons dst dsts =>
          obtain ⟨_, _, hk, _⟩ := hlayers 0 src (by rw [hsrcs]; rfl)
          have hdst := htarget.layers 0 dst (by rw [hdsts]; rfl)
          rw [← hsrcs, himport, hdsts, hsrcs, importLayers_mismatch half hdst (by rwa [hk])]
          exact ⟨_, rfl⟩
    have hnone : ∀ target', importCanonical half target layers ≠ .ok target' := by
      intro target' hok
      rw [herror] at hok
      cases hok
    refine ⟨iff_of_false ?_ hwidth, fun target' hok => absurd hok (hnone target')⟩
    rintro ⟨target', hok⟩
    exact hnone target' hok

/-- What the exporter has written of a cache reaches a target where the heads stand before the tokens, and one
with as many positions as heads with the two exchanged. -/
theorem importCanonical_export (half : HalfFloats)
    (hrun : (exportMlxCanonicalKv memory f4 args runtime continuation).run disk = .ok () disk')
    (h : ManifestWritable args runtime continuation) (hvalues : args.model ≠ "" ∧ continuation.tokens ≠ [])
    (hfeed : CacheFeed memory args runtime kvHeads positions headDim seqLen x y)
    (htarget : FeedTarget target runtime.layers.length (kvHeads * headDim) kvSize) (hroom : seqLen ≤ kvSize)
    (workingDirectory : Directory) :
    ∃ manifest layers, loadExternalManifest disk' workingDirectory (asBytes (locationText (feedManifestPath args))) =
        .ok manifest ∧ manifest.layers = layers.map .ofCanonical ∧ layers.length = runtime.layers.length ∧
      ((∃ target', importCanonical half target layers = .ok target') ↔
        headsFirst seqLen kvHeads positions = true ∨ kvHeads = positions) ∧
      ∀ target', importCanonical half target layers = .ok target' →
        exportCanonical half target' seqLen = .ok layers ∧
        List.Forall₂ (CellsKept target kvSize seqLen) target.layers target'.layers ∧
        ∀ i layer, layers[i]? = some layer →
          PlacedAt f4 seqLen kvHeads headDim (fedElement seqLen kvHeads positions (x i)) layer.key ∧
            PlacedAt f4 seqLen kvHeads headDim (fedElement seqLen kvHeads positions (y i)) layer.value := by
  have hseq : 1 ≤ seqLen := by
    have hpositive := (exportMlxCanonicalKv_ok hrun).1
    rw [hfeed.seqLen_eq] at hpositive
    exact_mod_cast hpositive
  obtain ⟨layers, hexported, hread⟩ := loadExternalManifest_export hrun h
    (List.length_pos_iff.mp hfeed.count_pos) hfeed.count_le workingDirectory
  have hplaced := hexported.placed hfeed hseq
  have hfits : ∀ layer ∈ layers, layer.Fits := by
    intro layer hmem
    obtain ⟨i, hlayer⟩ := List.mem_iff_getElem?.mp hmem
    exact hfeed.fits hseq (hplaced i layer hlayer).1
  obtain ⟨hloads, hmanifest⟩ := hread hfits
  obtain ⟨manifest, hload⟩ := hloads.mpr hvalues
  have hmanifestLayers : manifest.layers = layers.map .ofCanonical := by
    rw [(hmanifest manifest hload).1]
    rfl
  rw [← hexported.length_eq] at htarget
  have hcount : 0 < layers.length := hexported.length_eq ▸ hfeed.count_pos
  obtain ⟨htakes, hwritten⟩ := importCanonical_fedLayers half htarget hroom hcount
    fun i layer hlayer => (hplaced i layer hlayer).1
  rw [Nat.mul_left_inj (Nat.pos_iff_ne_zero.mp hfeed.headDim_pos)] at htakes
  refine ⟨manifest, layers, hload, hmanifestLayers, hexported.length_eq, htakes.trans fedHeads_eq_iff, ?_⟩
  intro target' htarget'
  obtain ⟨hexport, hkept⟩ := hwritten target' htarget'
  refine ⟨hexport, hkept, ?_⟩
  intro i layer hlayer
  have hplaces := (hplaced i layer hlayer).2
  rwa [htakes.mp ⟨target', htarget'⟩] at hplaces

theorem feed_cacheFeed : CacheFeed 4 feedArgs feedRuntime 1 2 2 2 feedElements feedElements where
  deep := Nat.le_refl 4
  seqLen_eq := rfl
  seqLen_le := Nat.le_refl 2
  kvHeads_pos := by decide
  headDim_pos := by decide
  count_pos := by decide
  count_le := by decide
  size_lt := by decide
  holds := by
    intro i tensors htensors
    obtain ⟨rfl, rfl⟩ : i = 0 ∧ tensors = (feedTensor, feedTensor) := by
      match i, htensors with
      | 0, htensors => exact ⟨rfl, (Option.some.inj htensors).symm⟩
    exact ⟨rfl, rfl⟩

theorem smallCache_feedTarget (vTrans : Bool) (data : Memory UInt8) :
    FeedTarget (smallCache vTrans 3 data) 1 2 3 where
  size := rfl
  length_eq := rfl
  layers := by
    intro i layer hlayer
    match i, hlayer with
    | 0, hlayer =>
      obtain rfl := Option.some.inj hlayer
      refine ⟨_, _, rfl, rfl, rfl, Nat.le_refl 8, Nat.le_refl 8, rfl, ?_⟩
      cases vTrans <;> rfl

theorem feed_imported : ∃ disk' layers target',
    (exportMlxCanonicalKv 4 id feedArgs feedRuntime feedContinuation).run emptyDisk = .ok () disk' ∧
      importCanonical noHalf (smallCache true 3 fun _ => 0) layers = .ok target' ∧
      exportCanonical noHalf target' 2 = .ok layers ∧
      ∀ layer, layers[0]? = some layer → PlacedAt id 2 1 2 (fun t h d => feedElements 0 h t d) layer.key := by
  obtain ⟨disk', hrun⟩ := exportMlxCanonicalKv_feed
  obtain ⟨_, layers, _, _, _, htakes, hwritten⟩ := importCanonical_export noHalf hrun feed_writable (by decide)
    feed_cacheFeed (smallCache_feedTarget true fun _ => 0) (by decide) ⟨[], by decide⟩
  obtain ⟨target', htarget'⟩ := htakes.mpr (by decide)
  obtain ⟨hexport, _, hplaces⟩ := hwritten target' htarget'
  exact ⟨disk', layers, target', hrun, htarget', hexport, fun layer hlayer => (hplaces 0 layer hlayer).1⟩

end Feed

end PermeantOS
