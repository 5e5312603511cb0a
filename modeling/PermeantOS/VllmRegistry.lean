import PermeantOS.CellWrites
import PermeantOS.PyInt

namespace PermeantOS

/-- An array of one shape: a tensor, or nested lists. Two names for one object have one `id`. -/
structure CacheArray where
  id : Nat
  shape : List Nat
  deriving DecidableEq, Repr

/-- What `kv_caches` holds for a layer. A pair of nested lists is to the code an array whose first
dimension is two. -/
inductive KvCache
  | array (storage : CacheArray)
  | pair (key value : CacheArray)
  | dict (key value : Option CacheArray)
  deriving DecidableEq, Repr

abbrev Cell := Nat × List Nat

/-- `permeant_layer_map` and `kv_caches`, both in insertion order. -/
structure VllmRuntime where
  permeantLayerMap : List (Int × String)
  kvCaches : List (String × KvCache)

/-- What happens to a number on its way into a cache and when it is compared with one from there. -/
structure CacheHost (P E : Type) where
  cast : P → E
  isClose : P → E → Bool

structure FlatTensor (P : Type) where
  shape : List Nat
  data : List P

inductive LayerSource (P : Type)
  | blocks (keyBlocks valueBlocks : List (List (List (List P))))
  | flat (key value : FlatTensor P)
  | missing

structure PreparedLayer (P : Type) where
  layerIndex : Option Int
  source : LayerSource P

structure LayerViews where
  blockCount : Nat
  blockSize : Nat
  kvHeads : Nat
  headDim : Nat
  deriving DecidableEq, Repr

variable {P E : Type}

section Indexing

/-- `xs[i]`, which counts from the end where `i` is negative. -/
def pyIndex {α : Type} (xs : List α) (i : Int) : Except PyException α :=
  let j := if i < 0 then i + xs.length else i
  if j < 0 then .error .indexError
  else match xs[j.toNat]? with
    | some x => .ok x
    | none => .error .indexError

/-- The place that a chain of indices stands for, where it is in range. -/
def resolvePath : List Nat → List Int → Option (List Nat)
  | [], [] => some []
  | size :: shape, i :: path =>
    let j := if i < 0 then i + size else i
    if 0 ≤ j ∧ j < size then (resolvePath shape path).map (j.toNat :: ·) else none
  | _, _ => none

def writeCell (storage : CacheArray) (path : List Int) (x : E) :
    EStateM PyException (Cell → E) Unit :=
  match resolvePath storage.shape path with
  | some index => modify fun cells => Function.update cells (storage.id, index) x
  | none => throw .indexError

def readCell (storage : CacheArray) (path : List Int) : EStateM PyException (Cell → E) E := do
  let cells ← get
  match resolvePath storage.shape path with
  | some index => pure (cells (storage.id, index))
  | none => throw .indexError

end Indexing

section Layers

def layerBlockViews : LayerSource P → Except PyException LayerViews
  | .blocks keyBlocks valueBlocks =>
    let heads := keyBlocks.headD []
    .ok ⟨keyBlocks.length, ((valueBlocks.headD []).headD []).length, heads.length,
      (heads.headD []).length⟩
  | .flat key value =>
    if key.shape.length ≠ 4 ∨ value.shape.length ≠ 4 then .error (.runtimeError
      "prepared key/value tensor payloads must include flat data with 4D shapes")
    else .ok ⟨key.shape.getD 0 0, key.shape.getD 3 0, key.shape.getD 1 0, key.shape.getD 2 0⟩
  | .missing => .error (.runtimeError
      "prepared payload layer must expose key/value blocks or key_tensor/value_tensor")

def blockElement (blocks : List (List (List (List P)))) (i j k l : Int) : Except PyException P := do
  let first ← pyIndex blocks i
  let second ← pyIndex first j
  let third ← pyIndex second k
  pyIndex third l

def flatKeyValue (key value : FlatTensor P) (block head dim token : Int) :
    Except PyException (P × P) := do
  let keyOffset := ((block * key.shape.getD 1 0 + head) * key.shape.getD 2 0 + dim) *
    key.shape.getD 3 0 + token
  let valueOffset := ((block * value.shape.getD 1 0 + head) * value.shape.getD 2 0 + token) *
    value.shape.getD 3 0 + dim
  let keyValue ← pyIndex key.data keyOffset
  let valueValue ← pyIndex value.data valueOffset
  pure (keyValue, valueValue)

def sourceValue (source : LayerSource P) (block head dim token : Int) :
    Except PyException (P × P) :=
  match source with
  | .blocks keyBlocks valueBlocks => do
    let keyValue ← blockElement keyBlocks block head dim token
    let valueValue ← blockElement valueBlocks block head token dim
    pure (keyValue, valueValue)
  | .flat key value => flatKeyValue key value block head dim token
  | .missing => .error .indexError

/-- The key of one element; a flat source is read for its value too. -/
def LayerSource.keyOnly (source : LayerSource P) (block head dim token : Int) : Except PyException P :=
  match source with
  | .blocks keyBlocks _ => blockElement keyBlocks block head dim token
  | _ => (sourceValue source block head dim token).map Prod.fst

/-- The value of one element; a flat source is read for its key too. -/
def LayerSource.valueOnly (source : LayerSource P) (block head dim token : Int) : Except PyException P :=
  match source with
  | .blocks _ valueBlocks => blockElement valueBlocks block head token dim
  | _ => (sourceValue source block head dim token).map Prod.snd

end Layers

section Combined

inductive CombinedLayout
  | tokenHeadDim
  | headTokenDim
  | splitTokenHeadDim (tokensPerTargetBlock targetBlocksPerSourceBlock : Nat)
  | splitHeadTokenDim (tokensPerTargetBlock targetBlocksPerSourceBlock : Nat)
  | unsupported
  deriving DecidableEq, Repr

/-- `sizes and block_size % tokens == 0`, of which the second part is evaluated after the first. -/
def splitsEvenly (sizes : Bool) (blockSize tokens : Nat) : Except PyException Bool :=
  if sizes = false then .ok false
  else if tokens = 0 then .error .zeroDivisionError
  else .ok (decide (blockSize % tokens = 0))

def combinedLayout (shape : List Nat) (views : LayerViews) : Except PyException CombinedLayout :=
  match shape with
  | [_, 2, a, b, c] =>
    if a = views.blockSize ∧ b = views.kvHeads ∧ c = views.headDim then .ok .tokenHeadDim
    else if a = views.kvHeads ∧ b = views.blockSize ∧ c = views.headDim then .ok .headTokenDim
    else do
      if ← splitsEvenly (b = views.kvHeads ∧ c = views.headDim) views.blockSize a then
        pure (.splitTokenHeadDim a (views.blockSize / a))
      else if ← splitsEvenly (a = views.kvHeads ∧ c = views.headDim) views.blockSize b then
        pure (.splitHeadTokenDim b (views.blockSize / b))
      else pure .unsupported
  | _ => .ok .unsupported

/-- `int(layout.get("target_blocks_per_source_block") or 1)` -/
def CombinedLayout.blocksPerSource : CombinedLayout → Nat
  | .splitTokenHeadDim _ blocks => if blocks = 0 then 1 else blocks
  | .splitHeadTokenDim _ blocks => if blocks = 0 then 1 else blocks
  | _ => 1

def targetBlockId (logicalBlockIndex : Int) : Option (List Int) → Except PyException Int
  | none => .ok logicalBlockIndex
  | some targetBlockIds => pyIndex targetBlockIds logicalBlockIndex

def combinedTargetBlockCount (storage : CacheArray) (source : LayerSource P) :
    Except PyException Nat := do
  let views ← layerBlockViews source
  let layout ← combinedLayout storage.shape views
  pure (views.blockCount * layout.blocksPerSource)

variable (host : CacheHost P E) (storage : CacheArray) (source : LayerSource P)
  (targetBlockIds : Option (List Int))

/-- The two assignments in the middle of every loop. -/
def writeElement (targetBlock : Int) (path : List Int) (element : P × P) :
    EStateM PyException (Cell → E) Unit := do
  writeCell storage (targetBlock :: 0 :: path) (host.cast element.1)
  writeCell storage (targetBlock :: 1 :: path) (host.cast element.2)

def writeTokenHeadDim (views : LayerViews) : EStateM PyException (Cell → E) Unit :=
  forBelow views.blockCount fun block =>
    forBelow views.blockSize fun token =>
      forBelow views.kvHeads fun head =>
        forBelow views.headDim fun dim => do
          let element ← liftExcept (sourceValue source block head dim token)
          let targetBlock ← liftExcept (targetBlockId block targetBlockIds)
          writeElement host storage targetBlock [token, head, dim] element

def writeHeadTokenDim (views : LayerViews) : EStateM PyException (Cell → E) Unit :=
  forBelow views.blockCount fun block =>
    forBelow views.kvHeads fun head =>
      forBelow views.blockSize fun token =>
        forBelow views.headDim fun dim => do
          let element ← liftExcept (sourceValue source block head dim token)
          let targetBlock ← liftExcept (targetBlockId block targetBlockIds)
          writeElement host storage targetBlock [head, token, dim] element

/-- The loops of both layouts that split a source block; `arrange` orders the last three indices. -/
def writeSplit (arrange : Nat → Nat → Nat → List Int) (tokens blocks : Nat) (views : LayerViews) :
    EStateM PyException (Cell → E) Unit :=
  forBelow views.blockCount fun block =>
    forBelow views.blockSize fun token => do
      let targetBlock ← liftExcept
        (targetBlockId ((block * blocks + token / tokens : Nat) : Int) targetBlockIds)
      forBelow views.kvHeads fun head =>
        forBelow views.headDim fun dim => do
          let element ← liftExcept (sourceValue source block head dim token)
          writeElement host storage targetBlock (arrange (token % tokens) head dim) element

/-- The writer asks for the layouts itself, in the order of `combinedLayout`. -/
def writeCombinedCache : EStateM PyException (Cell → E) Unit := do
  let views ← liftExcept (layerBlockViews source)
  if storage.shape.length ≠ 5 ∨ storage.shape.getD 1 0 ≠ 2 then
    throw (.runtimeError s!"unsupported combined kv_cache shape {storage.shape}")
  else
    let a := storage.shape.getD 2 0
    let b := storage.shape.getD 3 0
    let c := storage.shape.getD 4 0
    if a = views.blockSize ∧ b = views.kvHeads ∧ c = views.headDim then
      writeTokenHeadDim host storage source targetBlockIds views
    else if a = views.kvHeads ∧ b = views.blockSize ∧ c = views.headDim then
      writeHeadTokenDim host storage source targetBlockIds views
    else if ← liftExcept (splitsEvenly (b = views.kvHeads ∧ c = views.headDim) views.blockSize a) then
      writeSplit host storage source targetBlockIds (fun token head dim => [token, head, dim])
        a (views.blockSize / a) views
    else if ← liftExcept (splitsEvenly (a = views.kvHeads ∧ c = views.headDim) views.blockSize b) then
      writeSplit host storage source targetBlockIds (fun token head dim => [head, token, dim])
        b (views.blockSize / b) views
    else throw (.runtimeError ("unsupported combined kv_cache layout " ++
      s!"{storage.shape} for source block_size={views.blockSize}, kv_heads={views.kvHeads}, " ++
      s!"head_dim={views.headDim}"))

/-- What the writer does for a layout. -/
def writeLayout (views : LayerViews) : CombinedLayout → EStateM PyException (Cell → E) Unit
  | .tokenHeadDim => writeTokenHeadDim host storage source targetBlockIds views
  | .headTokenDim => writeHeadTokenDim host storage source targetBlockIds views
  | .splitTokenHeadDim tokens blocks =>
    writeSplit host storage source targetBlockIds (fun token head dim => [token, head, dim]) tokens blocks views
  | .splitHeadTokenDim tokens blocks =>
    writeSplit host storage source targetBlockIds (fun token head dim => [head, token, dim]) tokens blocks views
  | .unsupported => throw (.runtimeError ("unsupported combined kv_cache layout " ++
      s!"{storage.shape} for source block_size={views.blockSize}, kv_heads={views.kvHeads}, " ++
      s!"head_dim={views.headDim}"))

/-- The writer and the probes agree on the layout of a cache. -/
theorem writeCombinedCache_eq : writeCombinedCache host storage source targetBlockIds = (do
    let views ← liftExcept (layerBlockViews source)
    if storage.shape.length ≠ 5 ∨ storage.shape.getD 1 0 ≠ 2 then
      throw (.runtimeError s!"unsupported combined kv_cache shape {storage.shape}")
    else do
      let layout ← liftExcept (combinedLayout storage.shape views)
      writeLayout host storage source targetBlockIds views layout) := by
  rw [writeCombinedCache]
  congr 1
  funext views
  by_cases hshape : storage.shape.length ≠ 5 ∨ storage.shape.getD 1 0 ≠ 2
  · rw [if_pos hshape, if_pos hshape]
  rw [if_neg hshape, if_neg hshape]
  obtain ⟨hfive, htwo⟩ := not_or.mp hshape
  obtain ⟨n, two, a, b, c, hsizes⟩ : ∃ n two a b c, storage.shape = [n, two, a, b, c] := by
    obtain ⟨n, rest, hrest⟩ := List.exists_of_length_succ _ (not_not.mp hfive)
    rw [hrest, not_not, List.length_cons, Nat.add_right_cancel_iff] at hfive
    obtain ⟨two, sizes, rfl⟩ := List.exists_of_length_succ _ hfive
    obtain ⟨a, b, c, rfl⟩ := List.length_eq_three.mp (Nat.add_right_cancel hfive)
    exact ⟨n, two, a, b, c, hrest⟩
  rw [hsizes] at htwo
  obtain rfl : two = 2 := not_not.mp htwo
  have ha : storage.shape.getD 2 0 = a := by rw [hsizes]; rfl
  have hb : storage.shape.getD 3 0 = b := by rw [hsizes]; rfl
  have hc : storage.shape.getD 4 0 = c := by rw [hsizes]; rfl
  have hlayout : combinedLayout storage.shape views = combinedLayout [n, 2, a, b, c] views := by rw [hsizes]
  simp only [ha, hb, hc, hlayout]
  rw [combinedLayout]
  by_cases htoken : a = views.blockSize ∧ b = views.kvHeads ∧ c = views.headDim
  · rw [if_pos htoken, if_pos htoken]
    rfl
  rw [if_neg htoken, if_neg htoken]
  by_cases hhead : a = views.kvHeads ∧ b = views.blockSize ∧ c = views.headDim
  · rw [if_pos hhead, if_pos hhead]
    rfl
  rw [if_neg hhead, if_neg hhead]
  cases splitsEvenly (b = views.kvHeads ∧ c = views.headDim) views.blockSize a with
  | error e => rfl
  | ok tokens =>
    cases tokens with
    | true => rfl
    | false =>
      cases splitsEvenly (a = views.kvHeads ∧ c = views.headDim) views.blockSize b with
      | error e => rfl
      | ok heads => cases heads <;> rfl

end Combined

section Samples

structure SamplePoint where
  blockIndex : Int
  tokenIndex : Int
  headIndex : Int
  dimIndex : Int
  deriving DecidableEq, Repr

/-- `_sample_points`; the limit is looked at after a point was taken. -/
def samplePoints (limit : Int) (views : LayerViews) : List SamplePoint :=
  let candidates : List SamplePoint := [⟨0, 0, 0, 0⟩,
    ⟨0, min ((views.blockSize : Int) - 1) 1, min ((views.kvHeads : Int) - 1) 1,
      min ((views.headDim : Int) - 1) 1⟩,
    ⟨max ((views.blockCount : Int) - 1) 0, max ((views.blockSize : Int) - 1) 0,
      max ((views.kvHeads : Int) - 1) 0, max ((views.headDim : Int) - 1) 0⟩]
  candidates.eraseDups.take (max 1 limit).toNat

def combinedTargetIndices (layout : CombinedLayout) (point : SamplePoint)
    (targetBlockIds : Option (List Int)) : Except PyException (List Int × List Int) :=
  let split (tokens : Nat) := do
    let target ← targetBlockId
      (point.blockIndex * layout.blocksPerSource + point.tokenIndex / tokens) targetBlockIds
    pure (target, point.tokenIndex % tokens)
  match layout with
  | .tokenHeadDim => do
    let target ← targetBlockId point.blockIndex targetBlockIds
    pure ([target, 0, point.tokenIndex, point.headIndex, point.dimIndex],
      [target, 1, point.tokenIndex, point.headIndex, point.dimIndex])
  | .headTokenDim => do
    let target ← targetBlockId point.blockIndex targetBlockIds
    pure ([target, 0, point.headIndex, point.tokenIndex, point.dimIndex],
      [target, 1, point.headIndex, point.tokenIndex, point.dimIndex])
  | .splitTokenHeadDim tokens _ => do
    let (target, token) ← split tokens
    pure ([target, 0, token, point.headIndex, point.dimIndex],
      [target, 1, token, point.headIndex, point.dimIndex])
  | .splitHeadTokenDim tokens _ => do
    let (target, token) ← split tokens
    pure ([target, 0, point.headIndex, token, point.dimIndex],
      [target, 1, point.headIndex, token, point.dimIndex])
  | .unsupported => .error (.runtimeError "unsupported combined kv_cache layout sample")

variable (host : CacheHost P E) (limit : Int) (storage : CacheArray) (source : LayerSource P)
  (targetBlockIds : Option (List Int))

def slotSample (layout : CombinedLayout) (point : SamplePoint) :
    EStateM PyException (Cell → E) Bool := do
  let (sourceKey, sourceValue) ← liftExcept
    (sourceValue source point.blockIndex point.headIndex point.dimIndex point.tokenIndex)
  let (keyIndices, valueIndices) ← liftExcept (combinedTargetIndices layout point targetBlockIds)
  let targetKey ← readCell storage keyIndices
  let targetValue ← readCell storage valueIndices
  pure (host.isClose sourceKey targetKey && host.isClose sourceValue targetValue)

def slotSamples (layout : CombinedLayout) :
    List SamplePoint → EStateM PyException (Cell → E) Bool
  | [] => pure true
  | point :: points => do
    let matching ← slotSample host storage source targetBlockIds layout point
    let rest ← slotSamples layout points
    pure (matching && rest)

/-- `_combined_slot_samples`, of which the result is `all_samples_match`. -/
def combinedSlotSamples : EStateM PyException (Cell → E) Bool := do
  let views ← liftExcept (layerBlockViews source)
  let layout ← liftExcept (combinedLayout storage.shape views)
  slotSamples host storage source targetBlockIds layout (samplePoints limit views)

end Samples

section Separate

variable (host : CacheHost P E) (source : LayerSource P)

/-- The four loops of a separate cache, in the order of the array; `element` reads the source. -/
def writeSeparate (storage : CacheArray) (n₀ n₁ n₂ n₃ : Nat)
    (element : Nat → Nat → Nat → Nat → Except PyException P) :
    EStateM PyException (Cell → E) Unit :=
  forBelow n₀ fun i₀ =>
    forBelow n₁ fun i₁ =>
      forBelow n₂ fun i₂ =>
        forBelow n₃ fun i₃ => do
          let x ← liftExcept (element i₀ i₁ i₂ i₃)
          writeCell storage [i₀, i₁, i₂, i₃] (host.cast x)

/-- One side of a separate cache, of which there are two layouts: `first` reads the element at the
place of an array of sizes `a`, `b`, `c`, and `second` the one of a token, a head and a dimension. -/
def writeSide (side : String) (storage : CacheArray) (views : LayerViews) (a b c : Nat)
    (first second : Nat → Nat → Nat → Nat → Except PyException P) :
    EStateM PyException (Cell → E) Unit :=
  match storage.shape with
  | [] => throw .indexError
  | blocks :: sizes =>
    if sizes = [a, b, c] then writeSeparate host storage blocks a b c first
    else if sizes = [views.blockSize, views.kvHeads, views.headDim] then
      writeSeparate host storage blocks views.blockSize views.kvHeads views.headDim second
    else throw (.runtimeError s!"unsupported {side} cache layout {storage.shape}")

def writeKeyCache (views : LayerViews) (key : CacheArray) : EStateM PyException (Cell → E) Unit :=
  writeSide host "key" key views views.kvHeads views.headDim views.blockSize
    (fun block head dim token => source.keyOnly block head dim token)
    (fun block token head dim => source.keyOnly block head dim token)

def writeValueCache (views : LayerViews) (value : CacheArray) :
    EStateM PyException (Cell → E) Unit :=
  writeSide host "value" value views views.kvHeads views.blockSize views.headDim
    (fun block head token dim => source.valueOnly block head dim token)
    (fun block token head dim => source.valueOnly block head dim token)

def separateArrays : KvCache → Except PyException (CacheArray × CacheArray)
  | .pair key value => .ok (key, value)
  | .dict (some key) (some value) => .ok (key, value)
  | .dict _ _ => .error (.runtimeError "separate kv cache pair is missing key/value storage")
  | .array _ => .error (.runtimeError
      "separate kv cache must be a 2-tuple/list or dict with key/value entries")

def writeSeparateCache (cache : KvCache) : EStateM PyException (Cell → E) Unit := do
  let (key, value) ← liftExcept (separateArrays cache)
  let views ← liftExcept (layerBlockViews source)
  writeKeyCache host source views key
  writeValueCache host source views value

end Separate

section Register

/-- What `\d+` matches. -/
def isLayerNumber (digits : List Char) : Bool :=
  !digits.isEmpty && digits.all fun c => isDigit (decimalToAscii c)

/-- The digits behind the first of the words that has some. `$` also stands before a last newline. -/
def numberAfter (words : List String) : List (List Char) → Option (List Char)
  | word :: digits :: rest =>
    let number := if rest = [] ∧ digits.getLast? = some '\n' then digits.dropLast else digits
    if String.ofList word ∈ words ∧ isLayerNumber number = true then some number
    else numberAfter words (digits :: rest)
  | _ => none

/-- `_layer_index_from_name`, which does not catch what `int` raises. -/
def layerIndexFromName (name : String) : Except PyException (Option Int) :=
  match numberAfter ["layer", "layers"] (name.toList.splitOn '.') <|>
    numberAfter ["layer"] (name.toList.splitOn '_') <|>
    numberAfter ["layer"] (name.toList.splitOn '.') with
  | none => .ok none
  | some number =>
    match pyInt (String.ofList number) with
    | some layerIndex => .ok (some layerIndex)
    | none => .error (.valueError "Exceeds the limit (4300 digits) for integer string conversion")

/-- `_get_layer_map`, of which the first entry for an index counts. -/
def getLayerMap (runtime : VllmRuntime) : Except PyException (List (Int × String)) :=
  if runtime.permeantLayerMap ≠ [] then .ok runtime.permeantLayerMap
  else do
    let found ← runtime.kvCaches.mapM fun (layerName, _) => do
      pure ((← layerIndexFromName layerName).map fun layerIndex => (layerIndex, layerName))
    if found.reduceOption ≠ [] then .ok found.reduceOption
    else .error (.runtimeError "unable to infer layer-name mapping from runtime kv_caches")

def kvCacheAt (runtime : VllmRuntime) (layerName : String) : Except PyException KvCache :=
  match runtime.kvCaches.lookup layerName with
  | some cache => .ok cache
  | none => .error (.keyError layerName)

/-- One registration: the prepared payload, and what the block pool would answer then, which is
nothing where there is no pool, it is disabled or it raises. -/
structure RegistryCall (P : Type) where
  hash : String
  layers : List (PreparedLayer P)
  pool : Nat → Option (List Int)

/-- The target blocks of a registration, which its first layer decides. -/
def allocateTargetBlockIds (runtime : VllmRuntime) (layerMap : List (Int × String))
    (call : RegistryCall P) : Except PyException (Option (List Int)) :=
  match call.layers with
  | [] => .ok none
  | first :: _ =>
    match first.layerIndex.bind fun layerIndex => layerMap.lookup layerIndex with
    | none => .ok none
    | some layerName => do
      match ← kvCacheAt runtime layerName with
      | .array storage =>
        if storage.shape.length = 5 then do
          let targetBlockCount ← combinedTargetBlockCount storage first.source
          pure (call.pool targetBlockCount)
        else pure none
      | _ => pure none

variable (host : CacheHost P E) (limit : Int)

def layerCache (runtime : VllmRuntime) (layerMap : List (Int × String)) (layer : PreparedLayer P) :
    Except PyException (String × KvCache) :=
  match layer.layerIndex with
  | none => .error (.runtimeError "prepared payload layer_index must be an int")
  | some layerIndex =>
    match layerMap.lookup layerIndex with
    | none => .error (.runtimeError s!"runtime layer map is missing layer_index {layerIndex}")
    | some layerName => do
      let cache ← kvCacheAt runtime layerName
      pure (layerName, cache)

/-- One round of the loop over the layers: the written layer and what its slot probe says. -/
def registerLayer (runtime : VllmRuntime) (layerMap : List (Int × String))
    (targetBlockIds : Option (List Int)) (layer : PreparedLayer P) :
    EStateM PyException (Cell → E) (String × Option Bool) := do
  let (layerName, cache) ← liftExcept (layerCache runtime layerMap layer)
  match cache with
  | .array storage =>
    if storage.shape.length = 5 then do
      writeCombinedCache host storage layer.source targetBlockIds
      let allSamplesMatch ← combinedSlotSamples host limit storage layer.source targetBlockIds
      pure (layerName, some allSamplesMatch)
    else do
      writeSeparateCache host layer.source cache
      pure (layerName, none)
  | _ => do
    writeSeparateCache host layer.source cache
    pure (layerName, none)

def registerAll (runtime : VllmRuntime) (layerMap : List (Int × String))
    (targetBlockIds : Option (List Int)) :
    List (PreparedLayer P) → EStateM PyException (Cell → E) (List (String × Option Bool))
  | [] => pure []
  | layer :: layers => do
    let written ← registerLayer host limit runtime layerMap targetBlockIds layer
    let rest ← registerAll runtime layerMap targetBlockIds layers
    pure (written :: rest)

/-- What a registration answers: the written layers with their slot probes, and the allocation. -/
structure Registration where
  writtenLayers : List (String × Option Bool)
  targetBlockIds : Option (List Int)
  deriving DecidableEq, Repr

def directRegisterIntoKvCaches (runtime : VllmRuntime) (call : RegistryCall P) :
    EStateM PyException (Cell → E) Registration := do
  if runtime.kvCaches = [] then
    throw (.runtimeError "runtime object does not expose a non-empty kv_caches mapping")
  else
    let layerMap ← liftExcept (getLayerMap runtime)
    let targetBlockIds ← liftExcept (allocateTargetBlockIds runtime layerMap call)
    let writtenLayers ← registerAll host limit runtime layerMap targetBlockIds call.layers
    pure ⟨writtenLayers, targetBlockIds⟩

end Register

end PermeantOS
