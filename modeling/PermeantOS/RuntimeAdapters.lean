import PermeantOS.PyInt
import PermeantOS.RustFloat
import PermeantOS.Usxf
import Mathlib.Data.Finmap
import Mathlib.Data.Finset.Sort
import Mathlib.Algebra.Order.Floor.Div

namespace PermeantOS

/-- What the adapters take from Python and its libraries, with floats in `P`. `ofInt` is `float(n)`
and `packF32` is `struct.pack("<f", x)`, which overflow on what does not fit. -/
structure AdapterHost (P : Type) where
  ofInt : Int → Option P
  isZero : P → Bool
  packF32 : P → Option (List UInt8)
  floatRepr : P → String
  sha256Hex : List UInt8 → String

/-- Python and its libraries, as they answer for `1.0` and `2.0`. -/
def pythonAdapter : AdapterHost F32 where
  ofInt n := some (F32.ofLit n)
  isZero x := decide (x.bits = 0 ∨ x.bits = 0x80000000)
  packF32 x := some (f32ToLeBytes x)
  floatRepr x := if x.bits = 0x3f800000 then "1.0" else "2.0"
  sha256Hex := hashlibSha256

variable {P : Type}

/-- `value.get(key)`, which only a dictionary has. -/
def Json.get (key : String) : Json P → Except PyException (Json P)
  | .dict fields => .ok ((fields.lookup key).getD .null)
  | _ => .error .attributeError

def Json.truthy (host : AdapterHost P) : Json P → Bool
  | .null => false
  | .bool value => value
  | .int value => value ≠ 0
  | .float value => !host.isZero value
  | .str value => value ≠ ""
  | .list items => !items.isEmpty
  | .dict fields => !fields.isEmpty

/-- `a or b` -/
def pyOr (host : AdapterHost P) (a b : Json P) : Json P := if a.truthy host then a else b

/-- `isinstance(value, int)`, which a `bool` is too. -/
def Json.asInt : Json P → Option Int
  | .int value => some value
  | .bool value => some (if value then 1 else 0)
  | _ => none

abbrev Fields (P : Type) := List (String × Json P)

def Json.asDict : Json P → Option (Fields P)
  | .dict fields => some fields
  | _ => none

def Json.asList : Json P → List (Json P)
  | .list items => items
  | _ => []

def Json.asStr : Json P → Option String
  | .str value => some value
  | _ => none

/-- A list of strings, and nothing else. -/
def Json.asStrings : Json P → Option (List String)
  | .list items => items.mapM Json.asStr
  | _ => none

def Json.dimRepr : Json P → String
  | .bool true => "True"
  | .bool false => "False"
  | .int value => toString value
  | _ => ""

def shapeRepr (shape : List (Json P)) : String :=
  "[" ++ String.intercalate ", " (shape.map Json.dimRepr) ++ "]"

def dimValues (shape : List (Json P)) : List Int := shape.filterMap Json.asInt

section Tensors

variable (host : AdapterHost P)

mutual

def flattenNumeric : Json P → Except PyException (List P)
  | .int value => (host.ofInt value).elim (.error .overflowError) fun x => .ok [x]
  | .bool value =>
    (host.ofInt (if value then 1 else 0)).elim (.error .overflowError) fun x => .ok [x]
  | .float value => .ok [value]
  | .list items => flattenItems items
  | _ => .error (.adapterError "tensor data must be numeric or nested numeric lists")

def flattenItems : List (Json P) → Except PyException (List P)
  | [] => .ok []
  | item :: items => do
    let front ← flattenNumeric item
    let rest ← flattenItems items
    pure (front ++ rest)

end

def f32Sha256 (values : List P) : Except PyException String := do
  let packed ← values.mapM fun x => (host.packF32 x).elim (.error .overflowError) .ok
  pure ("sha256:" ++ host.sha256Hex packed.flatten)

/-- `range(0, len(values), stride)` -/
def strideStarts (length stride : Nat) : Except PyException (List Nat) :=
  if stride = 0 then .error (.valueError "range() arg 3 must not be zero")
  else .ok ((List.range (length ⌈/⌉ stride)).map (· * stride))

def nestedFromFlat (values : List P) : List Int → Except PyException (Json P)
  | [] =>
    match values with
    | [x] => .ok (.float x)
    | _ => .error (.adapterError "scalar tensor shape cannot contain multiple values")
  | dim :: dims =>
    if dim < 0 ∨ dims.any (· < 0) then
      .error (.adapterError "tensor shape cannot contain negative dimensions")
    else if (values.length : Int) ≠ dim * dims.prod then
      .error (.adapterError
        s!"flat tensor data length {values.length} does not match shape {dim :: dims}")
    else do
      let starts ← strideStarts values.length dims.prod.toNat
      let items ← starts.mapM fun index =>
        nestedFromFlat ((values.drop index).take dims.prod.toNat) dims
      pure (.list items)

/-- The name of a tensor, of which the message on a later error speaks. -/
def tensorName (tensor : Json P) : Except PyException String := do
  match ← tensor.get "name" with
  | .str name =>
    if name = "" then .error (.adapterError "injector tensor is missing a valid name")
    else pure name
  | _ => .error (.adapterError "injector tensor is missing a valid name")

def dropLeadingOne (shape : List (Json P)) : List (Json P) :=
  if shape.length = 4 ∧ (dimValues shape).head? = some 1 then shape.drop 1 else shape

def canonicalShape (tensor : Json P) (name : String) : Except PyException (List (Json P)) := do
  match ← tensor.get "shape" with
  | .list dims =>
    if dims.any fun dim => dim.asInt.isNone then
      .error (.adapterError s!"tensor {name} is missing a valid integer shape")
    else if (dropLeadingOne dims).length ≠ 3 then
      .error (.adapterError
        s!"tensor {name} must be canonical [seq, kv_heads, head_dim], got {shapeRepr (dropLeadingOne dims)}")
    else pure (dropLeadingOne dims)
  | _ => .error (.adapterError s!"tensor {name} is missing a valid integer shape")

/-- `_canonical_tensor` of the llama.cpp bridge: the shape without a leading one, and the values. -/
def Json.canonicalTensor (tensor : Json P) : Except PyException (List (Json P) × List P) := do
  let name ← tensorName tensor
  let shape ← canonicalShape tensor name
  let data ← tensor.get "data"
  let values ← flattenNumeric host data
  let expected := (dimValues shape).prod
  if (values.length : Int) ≠ expected then
    .error (.adapterError
      s!"tensor {name} contains {values.length} values, expected {expected} for shape {shapeRepr shape}")
  else pure (shape, values)

/-- `_canonical_tensor_data` of the PyTorch bridge, which also nests the values. -/
def Json.canonicalTensorData (tensor : Json P) :
    Except PyException (List (Json P) × List P × Json P) := do
  let (shape, values) ← tensor.canonicalTensor host
  let nested ← nestedFromFlat values (dimValues shape)
  pure (shape, values, nested)

end Tensors

structure LayerTensors (P : Type) where
  key : Option (Json P)
  value : Option (Json P)

abbrev GroupedLayers (P : Type) := Finmap (fun _ : Int => LayerTensors P)

/-- `grouped.setdefault(layer_index, {})` -/
def layerOf (grouped : GroupedLayers P) (layerIndex : Int) : LayerTensors P :=
  (grouped.lookup layerIndex).getD ⟨none, none⟩

def splitName (name : String) : List String := (name.toList.splitOn '.').map String.ofList

def groupTensor (grouped : GroupedLayers P) (tensor : Json P) :
    Except PyException (GroupedLayers P) := do
  match ← tensor.get "name" with
  | .str name =>
    match splitName name with
    | [first, index, kind] =>
      if first = "layer" ∧ (kind = "key" ∨ kind = "value") then
        match pyInt index with
        | some layerIndex =>
          let layer := layerOf grouped layerIndex
          pure (grouped.insert layerIndex
            (if kind = "key" then { layer with key := some tensor }
            else { layer with value := some tensor }))
        | none => .error (.adapterError s!"invalid layer index in tensor name '{name}'")
      else .error (.adapterError s!"unexpected tensor name '{name}'")
    | _ => .error (.adapterError s!"unexpected tensor name '{name}'")
  | _ => .error (.adapterError "injector tensor name must be a string")

def groupLayerTensors (tensors : List (Json P)) : Except PyException (GroupedLayers P) :=
  tensors.foldlM groupTensor ∅

/-- `sorted(grouped)` -/
def sortedLayers (grouped : GroupedLayers P) : List Int := grouped.keys.sort (· ≤ ·)

/-- Both tensors of a layer, read one after the other and of one shape. -/
def layerPair {X : Type} (read : Json P → Except PyException (List (Json P) × X))
    (grouped : GroupedLayers P) (layerIndex : Int) :
    Except PyException (List (Json P) × X × X) :=
  match layerOf grouped layerIndex with
  | ⟨some key, some value⟩ => do
    let (keyShape, keyData) ← read key
    let (valueShape, valueData) ← read value
    if dimValues keyShape ≠ dimValues valueShape then
      .error (.adapterError
        s!"layer {layerIndex} key/value shapes differ: {shapeRepr keyShape} != {shapeRepr valueShape}")
    else pure (keyShape, keyData, valueData)
  | _ => .error (.adapterError s!"layer {layerIndex} is missing key/value tensors")

structure LayerSummary where
  layerIndex : Int
  shape : List Int
  keySha256 : String
  valueSha256 : String
  valueCount : Nat
  deriving DecidableEq, Repr

def layerSummary (host : AdapterHost P) (layerIndex : Int) (shape : List (Json P))
    (keyValues valueValues : List P) : Except PyException LayerSummary := do
  let keySha256 ← f32Sha256 host keyValues
  let valueSha256 ← f32Sha256 host valueValues
  pure ⟨layerIndex, dimValues shape, keySha256, valueSha256, keyValues.length⟩

/-- `payload.get("hash") or payload.get("block_hash")`, which must be a non-empty string. -/
def requestHash (host : AdapterHost P) (payload : Json P) : Except PyException String := do
  let hash ← payload.get "hash"
  let blockHash ← payload.get "block_hash"
  match pyOr host hash blockHash with
  | .str blockHash =>
    if blockHash = "" then
      .error (.adapterError "inject_block request must include a non-empty hash")
    else pure blockHash
  | _ => .error (.adapterError "inject_block request must include a non-empty hash")

section Pytorch

structure BlockSummary where
  hash : String
  layers : List LayerSummary
  deriving DecidableEq, Repr

/-- `ReferencePytorchRuntime`, whose tensors are materialized in `T`. -/
structure PytorchRuntime (T : Type) where
  kvCache : Finmap (fun _ : Int => T × T)
  registeredHashes : Finset String
  blockSummaries : Finmap (fun _ : String => BlockSummary)

variable {T : Type}

def PytorchRuntime.cacheLayer (runtime : PytorchRuntime T) (layerIndex : Int) (tensors : T × T) :
    PytorchRuntime T :=
  { runtime with kvCache := runtime.kvCache.insert layerIndex tensors }

variable (host : AdapterHost P) (materialize : Json P → T)

/-- The loop over the layers. A layer is in the cache before its checksums are taken. -/
def registerLayers (grouped : GroupedLayers P) :
    List Int → EStateM PyException (PytorchRuntime T) (List LayerSummary)
  | [] => pure []
  | layerIndex :: rest => do
    let (shape, (keyValues, keyNested), (valueValues, valueNested)) ←
      liftExcept (layerPair (Json.canonicalTensorData host) grouped layerIndex)
    modify fun runtime => runtime.cacheLayer layerIndex (materialize keyNested, materialize valueNested)
    let summary ← liftExcept (layerSummary host layerIndex shape keyValues valueValues)
    let summaries ← registerLayers grouped rest
    pure (summary :: summaries)

/-- `ReferencePytorchRuntime.register_permeant_block` without a state file and a probe file. -/
def PytorchRuntime.registerPermeantBlock (payload : Json P) :
    EStateM PyException (PytorchRuntime T) BlockSummary := do
  let blockHash ← liftExcept (requestHash host payload)
  match ← liftExcept (payload.get "tensors") with
  | .list (tensor :: tensors) =>
    let grouped ← liftExcept (groupLayerTensors (tensor :: tensors))
    let layers ← registerLayers host materialize grouped (sortedLayers grouped)
    let summary : BlockSummary := ⟨blockHash, layers⟩
    modify fun runtime => { runtime with
      registeredHashes := insert blockHash runtime.registeredHashes
      blockSummaries := runtime.blockSummaries.insert blockHash summary }
    pure summary
  | _ => throw (.adapterError "inject_block request must include a non-empty tensors list")

end Pytorch

section LlamaCpp

def normalizeResponse : Json P → Except PyException (Fields P)
  | .null => .ok [("success", .bool true)]
  | .bool value => .ok [("success", .bool value)]
  | .dict fields =>
    match (fields.lookup "success").getD (.bool true) with
    | .bool success => .ok (dictInsert fields "success" (.bool success))
    | _ => .error (.adapterError "llama.cpp runtime response field 'success' must be a boolean")
  | _ =>
    .error (.adapterError "llama.cpp runtime hook must return a JSON object, bool, or None")

def nonEmptyString : Json P → Option String
  | .str value => if value = "" then none else some value
  | _ => none

def stringList (fieldName : String) (value : Json P) : Except PyException (List String) :=
  let strings := match value with
    | .list items => items.mapM nonEmptyString
    | _ => none
  match strings with
  | some strings => .ok strings
  | none => .error (.adapterError
      s!"llama.cpp live binding field '{fieldName}' must be a non-empty string list")

def normalizeBoundHashes (proof : Fields P) : Except PyException (List String) :=
  let boundHashes := match (proof.lookup "bound_hashes").getD .null with
    | .null =>
      match ((proof.lookup "bound_hash").getD .null : Json P) with
      | .str boundHash => if boundHash = "" then .null else .list [.str boundHash]
      | _ => .null
    | boundHashes => boundHashes
  stringList "binding_proof.bound_hashes" boundHashes

variable (host : AdapterHost P)

def proofHash (payload : Fields P) : String :=
  "sha256:" ++ host.sha256Hex (jsonDumpsSorted host.floatRepr (.dict payload)).toUTF8.toList

def bindingProofHash (proof : Fields P) : String :=
  match (proof.lookup "proof_hash").getD .null with
  | .str hash => if startsWithSha256 hash then hash else proofHash host proof
  | _ => proofHash host proof

def bindingContractVersion : String := "permeantos-llamacpp-live-kv-binding-v0"

def validateBindingResult (result : Fields P) (blockHash : String) :
    Except PyException (Fields P) :=
  if ((result.lookup "success").getD .null).truthy host = false then
    .error (.adapterError "llama.cpp live binding hook reported failure")
  else
    match (result.lookup "runtime_state_bound").getD .null with
    | .bool true =>
      match (result.lookup "binding_proof").getD .null with
      | .dict proof => do
        let boundHashes ← normalizeBoundHashes proof
        if blockHash ∉ boundHashes then
          .error (.adapterError
            s!"llama.cpp binding proof does not include migrated block hash {blockHash}")
        else if (nonEmptyString ((proof.lookup "context_id").getD .null)).isNone then
          .error (.adapterError "llama.cpp binding proof must include a non-empty context_id")
        else if (((proof.lookup "kv_token_count").getD .null).asInt.filter (0 ≤ ·)).isNone then
          .error (.adapterError
            "llama.cpp binding proof must include non-negative integer kv_token_count")
        else
          let proofFields := dictInsert (dictInsert proof "bound_hashes"
            (.list (boundHashes.map .str))) "proof_hash" (.str (bindingProofHash host proof))
          pure (dictInsert (dictInsert (dictInsert result "binding_contract_version"
            (.str bindingContractVersion)) "binding_proof" (.dict proofFields))
            "runtime_state_bound" (.bool true))
      | _ => .error (.adapterError
          "llama.cpp live binding hook must return a binding_proof object")
    | _ => .error (.adapterError
        "llama.cpp live binding hook must set runtime_state_bound=true")

structure BindingRequirements where
  blockHash : String
  layerCount : Nat
  seqLens : List Int
  kvHeads : List Int
  headDims : List Int
  deriving DecidableEq, Repr

def layerSizes (layers : List LayerSummary) (dim : Nat) : List Int :=
  (layers.filterMap (·.shape[dim]?)).toFinset.sort (· ≤ ·)

def bindingRequirements (blockHash : String) (layers : List LayerSummary) : BindingRequirements :=
  ⟨blockHash, layers.length, layerSizes layers 0, layerSizes layers 1, layerSizes layers 2⟩

structure AcceptedState (P : Type) where
  hash : String
  adapterMode : String
  layers : List LayerSummary
  bindingRequirements : BindingRequirements
  decodeClaim : String
  runtimeState : Option (Fields P)
  liveHookResult : Option (Fields P)

structure LlamaCppRuntime (P : Type) where
  registeredHashes : Finset String
  blockSummaries : Finmap (fun _ : String => AcceptedState P)
  lastLiveResult : Option (Fields P)

/-- A live hook on the accepted state, the payload and the request. -/
abbrev LiveHook (P : Type) := AcceptedState P → Json P → Json P → Except PyException (Json P)

def summarizeLayer (grouped : GroupedLayers P) (layerIndex : Int) : Except PyException LayerSummary := do
  let (shape, keyValues, valueValues) ← layerPair (Json.canonicalTensor host) grouped layerIndex
  layerSummary host layerIndex shape keyValues valueValues

def summarizeLayers (tensors : List (Json P)) : Except PyException (List LayerSummary) :=
  if tensors = [] then .ok []
  else do
    let grouped ← groupLayerTensors tensors
    (sortedLayers grouped).mapM (summarizeLayer host grouped)

def acceptState (payload : Json P) : Except PyException (AcceptedState P) := do
  let blockHash ← requestHash host payload
  let tensors ← payload.get "tensors"
  let runtimeState ← payload.get "runtime_state"
  if tensors.asList.isEmpty ∧ runtimeState.asDict.isNone then
    .error (.adapterError "inject_block request must include tensors or runtime_state")
  else do
    let layers ← summarizeLayers host tensors.asList
    pure ⟨blockHash, "accepted-state", layers, bindingRequirements blockHash layers,
      "none-without-live-kv-import-hook", runtimeState.asDict, none⟩

/-- The part of a registration that only a live hook has. -/
def LlamaCppRuntime.bindLive (liveHook : Option (LiveHook P)) (accepted : AcceptedState P)
    (payload request : Json P) : EStateM PyException (LlamaCppRuntime P) (AcceptedState P) :=
  match liveHook with
  | none => pure accepted
  | some hook => do
    let answer ← liftExcept (hook accepted payload request)
    let response ← liftExcept (normalizeResponse answer)
    let liveResult ← liftExcept (validateBindingResult host response accepted.hash)
    modify fun runtime => { runtime with lastLiveResult := some liveResult }
    pure { accepted with
      liveHookResult := some liveResult
      adapterMode := "live-kv-binding-hook"
      decodeClaim := "live-kv-bound-continuation-not-yet-verified" }

/-- `LlamaCppReferenceRuntime.register_permeant_block` without a state file and a probe file. -/
def LlamaCppRuntime.registerPermeantBlock (liveHook : Option (LiveHook P)) (payload request : Json P) :
    EStateM PyException (LlamaCppRuntime P) (AcceptedState P) := do
  let accepted ← liftExcept (acceptState host payload)
  let accepted ← bindLive host liveHook accepted payload request
  modify fun runtime => { runtime with
    registeredHashes := insert accepted.hash runtime.registeredHashes
    blockSummaries := runtime.blockSummaries.insert accepted.hash accepted }
  pure accepted

end LlamaCpp

end PermeantOS
