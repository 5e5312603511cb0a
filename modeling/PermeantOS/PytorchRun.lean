import PermeantOS.AdapterReads
import PermeantOS.Loops

namespace PermeantOS

variable {P T : Type}

section Verify

structure ContinuationProof where
  prompt : String
  verifiedHashes : List String
  registeredHashes : List String
  layerCount : Nat
  proofHash : String
  deriving DecidableEq, Repr

inductive VerifyResult
  | missing (hashes : List String)
  | verified (hashes : List String) (continuationProof : Option ContinuationProof)
  deriving DecidableEq, Repr

variable (host : AdapterHost P)

def buildContinuationProof (runtime : PytorchRuntime T) (prompt : String) (hashes : List String) :
    ContinuationProof :=
  let registeredHashes := runtime.registeredHashes.sort (· ≤ ·)
  let layerCount := runtime.kvCache.keys.card
  ⟨prompt, hashes, registeredHashes, layerCount, proofHash host
    [("target_runtime", .str "pytorch-reference"), ("prompt", .str prompt),
      ("verified_hashes", .list (hashes.map .str)),
      ("registered_hashes", .list (registeredHashes.map .str)), ("layer_count", .int layerCount)]⟩

/-- `ReferencePytorchRuntime.verify_permeant_hashes` without a state file and a probe file. -/
def PytorchRuntime.verifyPermeantHashes (payload : Json P) (runtime : PytorchRuntime T) :
    Except PyException VerifyResult := do
  let blockHashes ← payload.get "block_hashes"
  let expectedHashes ← payload.get "expected_hashes"
  match (pyOr host blockHashes expectedHashes).asStrings with
  | none => .error (.adapterError "verify_continuation requires a string list of block hashes")
  | some hashes =>
    if hashes.filter (· ∉ runtime.registeredHashes) ≠ [] then
      pure (.missing (hashes.filter (· ∉ runtime.registeredHashes)))
    else do
      let prompt ← payload.get "prompt"
      let continuationPrompt ← payload.get "continuation_prompt"
      match nonEmptyString (pyOr host prompt continuationPrompt) with
      | some prompt => pure (.verified hashes (some (buildContinuationProof host runtime prompt hashes)))
      | none => pure (.verified hashes none)

theorem verifyPermeantHashes_registered {payload : Json P} {runtime : PytorchRuntime T}
    {hashes : List String} {proof : Option ContinuationProof}
    (h : runtime.verifyPermeantHashes host payload = .ok (.verified hashes proof)) :
    ∀ hash ∈ hashes, hash ∈ runtime.registeredHashes := by
  unfold PytorchRuntime.verifyPermeantHashes at h
  obtain ⟨blockHashes, _, h⟩ := except_bind_ok_iff.mp h
  obtain ⟨expectedHashes, _, h⟩ := except_bind_ok_iff.mp h
  split at h
  next => cases h
  next strings heq =>
    split at h
    next => cases h
    next hmissing =>
      obtain ⟨prompt, _, h⟩ := except_bind_ok_iff.mp h
      obtain ⟨continuationPrompt, _, h⟩ := except_bind_ok_iff.mp h
      have hnone := List.filter_eq_nil_iff.mp (not_not.mp hmissing)
      have hall : ∀ hash ∈ strings, hash ∈ runtime.registeredHashes := by
        intro hash hmem
        simpa using hnone hash hmem
      split at h
      next => cases h; exact hall
      next => cases h; exact hall

end Verify

section Backend

variable (host : AdapterHost P)

/-- The hash and the layers of a request. -/
def requestLayers (payload : Json P) : Except PyException (String × GroupedLayers P) := do
  let blockHash ← requestHash host payload
  match ← payload.get "tensors" with
  | .list (tensor :: tensors) => do
    let grouped ← groupLayerTensors (tensor :: tensors)
    pure (blockHash, grouped)
  | _ => .error (.adapterError "inject_block request must include a non-empty tensors list")

def cachedSummary (grouped : GroupedLayers P) (layerIndex : Int) : Except PyException LayerSummary := do
  let (shape, key, value) ← layerPair (Json.canonicalTensorData host) grouped layerIndex
  layerSummary host layerIndex shape key.1 value.1

-- `_materialize_tensor`, which raises where `torch` refuses the tensor, and what writing the state file and the
-- probe file comes to
variable (materialize : Json P → Except PyException T) (files : Except PyException Unit)

/-- The loop over the layers with a backend that can refuse a tensor. -/
def registerLayersWith (grouped : GroupedLayers P) :
    List Int → EStateM PyException (PytorchRuntime T) (List LayerSummary)
  | [] => pure []
  | layerIndex :: rest => do
    let (shape, (keyValues, keyNested), (valueValues, valueNested)) ←
      liftExcept (layerPair (Json.canonicalTensorData host) grouped layerIndex)
    let key ← liftExcept (materialize keyNested)
    let value ← liftExcept (materialize valueNested)
    modify fun runtime => runtime.cacheLayer layerIndex (key, value)
    let summary ← liftExcept (layerSummary host layerIndex shape keyValues valueValues)
    let summaries ← registerLayersWith grouped rest
    pure (summary :: summaries)

/-- `ReferencePytorchRuntime.register_permeant_block`, which writes its files last. -/
def PytorchRuntime.registerPermeantBlockWith (payload : Json P) :
    EStateM PyException (PytorchRuntime T) BlockSummary := do
  let (blockHash, grouped) ← liftExcept (requestLayers host payload)
  let layers ← registerLayersWith host materialize grouped (sortedLayers grouped)
  let summary : BlockSummary := ⟨blockHash, layers⟩
  modify fun runtime => { runtime with
    registeredHashes := insert blockHash runtime.registeredHashes
    blockSummaries := runtime.blockSummaries.insert blockHash summary }
  liftExcept files
  pure summary

/-- The tensors of a layer as they go in the cache. -/
def layerTensors (grouped : GroupedLayers P) (layerIndex : Int) : Except PyException (T × T) := do
  let (_, key, value) ← layerPair (Json.canonicalTensorData host) grouped layerIndex
  let keyTensor ← materialize key.2
  let valueTensor ← materialize value.2
  pure (keyTensor, valueTensor)

/-- The summary of a layer that the loop gets past. -/
def takenSummary (grouped : GroupedLayers P) (layerIndex : Int) : Except PyException LayerSummary := do
  let _ ← layerTensors host materialize grouped layerIndex
  cachedSummary host grouped layerIndex

/-- What the loop puts in the cache, with a backend that can refuse a tensor. -/
def writtenLayersWith (grouped : GroupedLayers P) : List Int → List (Int × T × T)
  | [] => []
  | layerIndex :: rest =>
    match layerTensors host materialize grouped layerIndex with
    | .error _ => []
    | .ok tensors =>
      (layerIndex, tensors) ::
        match takenSummary host materialize grouped layerIndex with
        | .error _ => []
        | .ok _ => writtenLayersWith grouped rest

/-- The summary that a request is recorded with. -/
def acceptedSummary (payload : Json P) : Except PyException BlockSummary := do
  let (blockHash, grouped) ← requestLayers host payload
  let layers ← (sortedLayers grouped).mapM (takenSummary host materialize grouped)
  pure ⟨blockHash, layers⟩

/-- The tensors that a request puts in the cache, whether or not it is recorded. -/
def requestWrites (payload : Json P) : List (Int × T × T) :=
  match requestLayers host payload with
  | .ok (_, grouped) => writtenLayersWith host materialize grouped (sortedLayers grouped)
  | .error _ => []

def cacheAll (runtime : PytorchRuntime T) (writes : List (Int × T × T)) : PytorchRuntime T :=
  writes.foldl (fun runtime write => runtime.cacheLayer write.1 write.2) runtime

theorem cacheAll_registeredHashes (writes : List (Int × T × T)) (runtime : PytorchRuntime T) :
    (cacheAll runtime writes).registeredHashes = runtime.registeredHashes ∧
      (cacheAll runtime writes).blockSummaries = runtime.blockSummaries := by
  induction writes generalizing runtime with
  | nil => exact ⟨rfl, rfl⟩
  | cons write writes ih => exact ih (runtime.cacheLayer write.1 write.2)

variable {host materialize files}

theorem run_registerLayersWith (grouped : GroupedLayers P) (layers : List Int) (runtime : PytorchRuntime T) :
    (registerLayersWith host materialize grouped layers).run runtime =
      match layers.mapM (takenSummary host materialize grouped) with
      | .ok summaries => .ok summaries (cacheAll runtime (writtenLayersWith host materialize grouped layers))
      | .error e => .error e (cacheAll runtime (writtenLayersWith host materialize grouped layers)) := by
  induction layers generalizing runtime with
  | nil => rfl
  | cons layerIndex layers ih =>
    rw [registerLayersWith, List.mapM_cons, writtenLayersWith]
    cases hpair : layerPair (Json.canonicalTensorData host) grouped layerIndex with
    | error e =>
      have htensors : layerTensors host materialize grouped layerIndex = .error e := by
        rw [layerTensors, hpair]
        rfl
      rw [takenSummary, htensors]
      rfl
    | ok pair =>
      obtain ⟨shape, key, value⟩ := pair
      have htensors : layerTensors host materialize grouped layerIndex =
          (do
            let keyTensor ← materialize key.2
            let valueTensor ← materialize value.2
            pure (keyTensor, valueTensor)) := by
        rw [layerTensors, except_bind_of_ok hpair]
      have hcached : cachedSummary host grouped layerIndex =
          layerSummary host layerIndex shape key.1 value.1 := by
        rw [cachedSummary, except_bind_of_ok hpair]
      rw [takenSummary, htensors, hcached, run_liftExcept_bind_of_ok rfl]
      dsimp only
      cases materialize key.2 with
      | error e => rfl
      | ok keyTensor =>
        rw [run_liftExcept_bind_of_ok rfl, except_bind_of_ok rfl]
        cases materialize value.2 with
        | error e => rfl
        | ok valueTensor =>
          rw [run_liftExcept_bind_of_ok rfl, except_bind_of_ok rfl, pure_bind]
          show EStateM.run (liftExcept (layerSummary host layerIndex shape key.1 value.1) >>= _)
            (runtime.cacheLayer layerIndex (keyTensor, valueTensor)) = _
          cases layerSummary host layerIndex shape key.1 value.1 with
          | error e => rfl
          | ok summary =>
            rw [run_liftExcept_bind_of_ok rfl, EStateM.run_bind, ih, except_bind_of_ok rfl]
            cases layers.mapM (takenSummary host materialize grouped) with
            | error e => rfl
            | ok summaries => rfl

/-- The runtime after a registration that the files end. -/
def recordBlock (runtime : PytorchRuntime T) (summary : BlockSummary) : PytorchRuntime T :=
  { runtime with
    registeredHashes := insert summary.hash runtime.registeredHashes
    blockSummaries := runtime.blockSummaries.insert summary.hash summary }

theorem run_registerPermeantBlockWith_of_error {payload : Json P} {e : PyException}
    (h : requestLayers host payload = .error e) (runtime : PytorchRuntime T) :
    (PytorchRuntime.registerPermeantBlockWith host materialize files payload).run runtime =
      .error e runtime := by
  rw [PytorchRuntime.registerPermeantBlockWith, h]
  rfl

/-- The layers are written one by one, the block is recorded, and the files come last. -/
theorem run_registerPermeantBlockWith {payload : Json P} {blockHash : String} {grouped : GroupedLayers P}
    (h : requestLayers host payload = .ok (blockHash, grouped)) (runtime : PytorchRuntime T) :
    (PytorchRuntime.registerPermeantBlockWith host materialize files payload).run runtime =
      match (sortedLayers grouped).mapM (takenSummary host materialize grouped), files with
      | .ok layers, .ok () => .ok ⟨blockHash, layers⟩ (recordBlock
          (cacheAll runtime (writtenLayersWith host materialize grouped (sortedLayers grouped)))
          ⟨blockHash, layers⟩)
      | .ok layers, .error e => .error e (recordBlock
          (cacheAll runtime (writtenLayersWith host materialize grouped (sortedLayers grouped)))
          ⟨blockHash, layers⟩)
      | .error e, _ => .error e
          (cacheAll runtime (writtenLayersWith host materialize grouped (sortedLayers grouped))) := by
  rw [PytorchRuntime.registerPermeantBlockWith, run_liftExcept_bind_of_ok h, EStateM.run_bind,
    run_registerLayersWith]
  cases (sortedLayers grouped).mapM (takenSummary host materialize grouped) with
  | error e => rfl
  | ok layers =>
    cases files with
    | error e => rfl
    | ok _ => rfl

theorem writtenLayersWith_keys (grouped : GroupedLayers P) (layers : List Int) :
    (writtenLayersWith host materialize grouped layers).map (·.1) <+: layers := by
  induction layers with
  | nil => exact List.prefix_refl _
  | cons layerIndex layers ih =>
    rw [writtenLayersWith]
    split
    next => exact List.nil_prefix
    next =>
      rw [List.map_cons, List.prefix_cons_inj]
      split
      next => exact List.nil_prefix
      next => exact ih

end Backend

section Retention

theorem lookup_cacheAll_of_not_mem {writes : List (Int × T × T)} {i : Int}
    (h : ∀ write ∈ writes, write.1 ≠ i) (runtime : PytorchRuntime T) :
    (cacheAll runtime writes).kvCache.lookup i = runtime.kvCache.lookup i := by
  induction writes generalizing runtime with
  | nil => rfl
  | cons write writes ih =>
    obtain ⟨hwrite, hrest⟩ := List.forall_mem_cons.mp h
    show (cacheAll (runtime.cacheLayer write.1 write.2) writes).kvCache.lookup i = _
    rw [ih hrest, PytorchRuntime.cacheLayer, Finmap.lookup_insert_of_ne _ hwrite.symm]

theorem lookup_cacheAll_of_mem {writes : List (Int × T × T)} (hnodup : (writes.map (·.1)).Nodup)
    {i : Int} {tensors : T × T} (h : (i, tensors) ∈ writes) (runtime : PytorchRuntime T) :
    (cacheAll runtime writes).kvCache.lookup i = some tensors := by
  induction writes generalizing runtime with
  | nil => cases h
  | cons write writes ih =>
    obtain ⟨hfresh, hnodup⟩ := List.nodup_cons.mp hnodup
    show (cacheAll (runtime.cacheLayer write.1 write.2) writes).kvCache.lookup i = _
    rcases List.mem_cons.mp h with rfl | h
    · rw [lookup_cacheAll_of_not_mem, PytorchRuntime.cacheLayer, Finmap.lookup_insert]
      intro other hmem heq
      exact hfresh (List.mem_map.mpr ⟨other, hmem, heq⟩)
    · exact ih hnodup h _

section Requests

variable {host : AdapterHost P} {materialize : Json P → Except PyException T} {files : Except PyException Unit}

theorem requestWrites_nodup (payload : Json P) :
    ((requestWrites host materialize payload).map (·.1)).Nodup := by
  unfold requestWrites
  split
  next blockHash grouped _ =>
    exact sortedLayers_nodup.sublist (writtenLayersWith_keys grouped _).sublist
  next => exact List.nodup_nil

/-- A request writes its layers one by one, and is recorded only when all are there. -/
theorem run_registerPermeantBlockWith_recorded (payload : Json P) (runtime : PytorchRuntime T) :
    leftState ((PytorchRuntime.registerPermeantBlockWith host materialize files payload).run runtime) =
      match acceptedSummary host materialize payload with
      | .ok summary => recordBlock (cacheAll runtime (requestWrites host materialize payload)) summary
      | .error _ => cacheAll runtime (requestWrites host materialize payload) := by
  unfold acceptedSummary requestWrites
  cases hrequest : requestLayers host payload with
  | error e =>
    rw [run_registerPermeantBlockWith_of_error hrequest]
    rfl
  | ok request =>
    obtain ⟨blockHash, grouped⟩ := request
    rw [run_registerPermeantBlockWith hrequest, except_bind_of_ok rfl]
    dsimp only
    cases (sortedLayers grouped).mapM (takenSummary host materialize grouped) with
    | error e => rfl
    | ok layers =>
      cases files with
      | error e => rfl
      | ok _ => rfl

theorem layerIndex_of_summary {layerIndex : Int} {shape : List (Json P)} {keyValues valueValues : List P}
    {summary : LayerSummary} (h : layerSummary host layerIndex shape keyValues valueValues = .ok summary) :
    summary.layerIndex = layerIndex := by
  obtain ⟨keySha256, _, h⟩ := except_bind_ok_iff.mp h
  obtain ⟨valueSha256, _, h⟩ := except_bind_ok_iff.mp h
  cases h
  rfl

theorem takenSummary_ok {grouped : GroupedLayers P} {layerIndex : Int} {summary : LayerSummary}
    (h : takenSummary host materialize grouped layerIndex = .ok summary) :
    summary.layerIndex = layerIndex ∧ ∃ tensors, layerTensors host materialize grouped layerIndex = .ok tensors := by
  obtain ⟨tensors, htensors, h⟩ := except_bind_ok_iff.mp h
  obtain ⟨_, _, hsummary⟩ := except_bind_ok_iff.mp h
  exact ⟨layerIndex_of_summary hsummary, tensors, htensors⟩

theorem exists_written_of_taken {grouped : GroupedLayers P} {layers : List Int}
    {summaries : List LayerSummary} (h : layers.mapM (takenSummary host materialize grouped) = .ok summaries)
    {layer : LayerSummary} (hlayer : layer ∈ summaries) :
    ∃ tensors, (layer.layerIndex, tensors) ∈ writtenLayersWith host materialize grouped layers := by
  induction layers generalizing summaries with
  | nil =>
    cases h
    cases hlayer
  | cons layerIndex layers ih =>
    rw [List.mapM_cons] at h
    obtain ⟨first, hfirst, h⟩ := except_bind_ok_iff.mp h
    obtain ⟨rest, hrest, h⟩ := except_bind_ok_iff.mp h
    cases h
    obtain ⟨hindex, tensors, htensors⟩ := takenSummary_ok hfirst
    simp only [writtenLayersWith, htensors, hfirst]
    rcases List.mem_cons.mp hlayer with rfl | hlayer
    · exact ⟨tensors, hindex ▸ List.mem_cons_self⟩
    · obtain ⟨others, hmem⟩ := ih hrest hlayer
      exact ⟨others, List.mem_cons_of_mem _ hmem⟩

/-- A request that is recorded has put every layer of its summary in the cache. -/
theorem exists_write_of_accepted {payload : Json P} {summary : BlockSummary}
    (h : acceptedSummary host materialize payload = .ok summary) {layer : LayerSummary}
    (hlayer : layer ∈ summary.layers) :
    ∃ tensors, (layer.layerIndex, tensors) ∈ requestWrites host materialize payload := by
  obtain ⟨⟨blockHash, grouped⟩, hrequest, h⟩ := except_bind_ok_iff.mp h
  obtain ⟨layers, hlayers, h⟩ := except_bind_ok_iff.mp h
  cases h
  rw [requestWrites, hrequest]
  exact exists_written_of_taken hlayers hlayer

end Requests

/-- A call of `register_permeant_block`, with the backend as it is at that time and what writing the two files
comes to. -/
structure RegisterRequest (P T : Type) where
  materialize : Json P → Except PyException T
  files : Except PyException Unit
  payload : Json P

variable (host : AdapterHost P) (fingerprint : T → Option String)

/-- The summary that a call is recorded with. It may still raise, where a file cannot be written. -/
def RegisterRequest.summary (request : RegisterRequest P T) : Except PyException BlockSummary :=
  acceptedSummary host request.materialize request.payload

def RegisterRequest.writes (request : RegisterRequest P T) : List (Int × T × T) :=
  requestWrites host request.materialize request.payload

/-- The fingerprints of two tensors are those recorded for a layer. -/
def Fingerprinted (tensors : T × T) (layer : LayerSummary) : Prop :=
  fingerprint tensors.1 = some layer.keySha256 ∧ fingerprint tensors.2 = some layer.valueSha256

def recordedLayers (runtime : PytorchRuntime T) (hash : String) : List LayerSummary :=
  ((runtime.blockSummaries.lookup hash).map (·.layers)).getD []

def HoldsLayer (runtime : PytorchRuntime T) (layer : LayerSummary) : Prop :=
  ∃ tensors, runtime.kvCache.lookup layer.layerIndex = some tensors ∧
    Fingerprinted fingerprint tensors layer

/-- Every layer that was recorded for a registered block is still held. -/
def Retains (runtime : PytorchRuntime T) : Prop :=
  ∀ hash ∈ runtime.registeredHashes, ∀ layer ∈ recordedLayers runtime hash,
    HoldsLayer fingerprint runtime layer

/-- A call that leaves what is recorded in place: a layer it writes that is recorded for another block, or
for any block if the call is not recorded itself, keeps its fingerprints; and the tensors it is recorded for
have, once they are stored, the fingerprints of their elements. -/
structure Spares (runtime : PytorchRuntime T) (request : RegisterRequest P T) : Prop where
  others : ∀ hash ∈ runtime.registeredHashes,
    (∀ summary, request.summary host = .ok summary → summary.hash ≠ hash) →
      ∀ layer ∈ recordedLayers runtime hash, ∀ tensors, (layer.layerIndex, tensors) ∈ request.writes host →
        Fingerprinted fingerprint tensors layer
  own : ∀ summary, request.summary host = .ok summary → ∀ layer ∈ summary.layers, ∀ tensors,
    (layer.layerIndex, tensors) ∈ request.writes host → Fingerprinted fingerprint tensors layer

/-- The runtime after one more call, whether or not it raises. -/
def register (runtime : PytorchRuntime T) (request : RegisterRequest P T) : PytorchRuntime T :=
  leftState ((PytorchRuntime.registerPermeantBlockWith host request.materialize request.files
    request.payload).run runtime)

def PytorchRuntime.empty : PytorchRuntime T := ⟨∅, ∅, ∅⟩

/-- A new runtime after a list of calls. -/
def registerEach (requests : List (RegisterRequest P T)) : PytorchRuntime T :=
  requests.foldl (register host) .empty

variable {host fingerprint} {request : RegisterRequest P T} {runtime : PytorchRuntime T} {summary : BlockSummary}

theorem register_of_error {e : PyException} (h : request.summary host = .error e) :
    register host runtime request = cacheAll runtime (request.writes host) := by
  rw [RegisterRequest.summary] at h
  rw [register, run_registerPermeantBlockWith_recorded, h]
  rfl

theorem register_of_ok (h : request.summary host = .ok summary) :
    register host runtime request = recordBlock (cacheAll runtime (request.writes host)) summary := by
  rw [RegisterRequest.summary] at h
  rw [register, run_registerPermeantBlockWith_recorded, h]
  rfl

theorem lookup_register (runtime : PytorchRuntime T) (request : RegisterRequest P T) (i : Int) :
    (register host runtime request).kvCache.lookup i =
      (cacheAll runtime (request.writes host)).kvCache.lookup i := by
  cases hsummary : request.summary host with
  | ok summary =>
    rw [register_of_ok hsummary]
    rfl
  | error e => rw [register_of_error hsummary]

theorem holdsLayer_register_iff {layer : LayerSummary}
    (h : (∃ tensors, (layer.layerIndex, tensors) ∈ request.writes host) ∨ HoldsLayer fingerprint runtime layer) :
    HoldsLayer fingerprint (register host runtime request) layer ↔
      ∀ tensors, (layer.layerIndex, tensors) ∈ request.writes host → Fingerprinted fingerprint tensors layer := by
  have hnodup : ((request.writes host).map (·.1)).Nodup := requestWrites_nodup request.payload
  unfold HoldsLayer
  rw [lookup_register]
  by_cases hmem : ∃ tensors, (layer.layerIndex, tensors) ∈ request.writes host
  · obtain ⟨tensors, hmem⟩ := hmem
    have hlookup := lookup_cacheAll_of_mem hnodup hmem runtime
    constructor
    · intro hheld other hother
      obtain ⟨found, hfound, hprint⟩ := hheld
      rw [lookup_cacheAll_of_mem hnodup hother] at hfound
      cases hfound
      exact hprint
    · intro hwrites
      exact ⟨tensors, hlookup, hwrites tensors hmem⟩
  · have hnot : ∀ write ∈ request.writes host, write.1 ≠ layer.layerIndex := by
      intro write hwrite heq
      exact hmem ⟨write.2, heq ▸ hwrite⟩
    rw [lookup_cacheAll_of_not_mem hnot]
    constructor
    · intro _ tensors htensors
      exact absurd ⟨tensors, htensors⟩ hmem
    · intro _
      exact h.resolve_left hmem

theorem register_unrecorded {e : PyException} (h : request.summary host = .error e) (runtime : PytorchRuntime T) :
    (register host runtime request).registeredHashes = runtime.registeredHashes ∧
      recordedLayers (register host runtime request) = recordedLayers runtime := by
  obtain ⟨hhashes, hsummaries⟩ := cacheAll_registeredHashes (request.writes host) runtime
  rw [register_of_error h]
  refine ⟨hhashes, ?_⟩
  funext hash
  rw [recordedLayers, hsummaries, recordedLayers]

theorem register_recorded (h : request.summary host = .ok summary) (runtime : PytorchRuntime T) :
    (register host runtime request).registeredHashes = insert summary.hash runtime.registeredHashes ∧
      ∀ hash, recordedLayers (register host runtime request) hash =
        if hash = summary.hash then summary.layers else recordedLayers runtime hash := by
  obtain ⟨hhashes, hsummaries⟩ := cacheAll_registeredHashes (request.writes host) runtime
  rw [register_of_ok h, recordBlock, hhashes, hsummaries]
  refine ⟨rfl, ?_⟩
  intro hash
  rw [recordedLayers]
  split
  next heq => rw [heq, Finmap.lookup_insert, Option.map_some, Option.getD_some]
  next hne => rw [Finmap.lookup_insert_of_ne _ hne, recordedLayers]

/-- One more call keeps everything that is recorded exactly when it spares it. -/
theorem retains_register_iff (hretains : Retains fingerprint runtime) (request : RegisterRequest P T) :
    Retains fingerprint (register host runtime request) ↔ Spares host fingerprint runtime request := by
  cases haccepted : request.summary host with
  | error e =>
    obtain ⟨hhashes, hlayers⟩ := register_unrecorded haccepted runtime
    unfold Retains
    rw [hhashes, hlayers]
    constructor
    · intro h
      refine ⟨?_, ?_⟩
      · intro hash hmem _ layer hlayer
        exact (holdsLayer_register_iff (.inr (hretains hash hmem layer hlayer))).mp
          (h hash hmem layer hlayer)
      · intro summary hsummary
        rw [haccepted] at hsummary
        cases hsummary
    · intro h hash hmem layer hlayer
      apply (holdsLayer_register_iff (.inr (hretains hash hmem layer hlayer))).mpr
      apply h.others hash hmem _ layer hlayer
      intro summary hsummary
      rw [haccepted] at hsummary
      cases hsummary
  | ok summary =>
    obtain ⟨hhashes, hlayers⟩ := register_recorded haccepted runtime
    unfold Retains
    rw [hhashes]
    constructor
    · intro h
      refine ⟨?_, ?_⟩
      · intro hash hmem hother layer hlayer
        have hne : hash ≠ summary.hash := (hother summary haccepted).symm
        have hheld := h hash (Finset.mem_insert_of_mem hmem)
        rw [hlayers, if_neg hne] at hheld
        exact (holdsLayer_register_iff (.inr (hretains hash hmem layer hlayer))).mp
          (hheld layer hlayer)
      · intro accepted hagain layer hlayer
        cases haccepted.symm.trans hagain
        have hheld := h summary.hash (Finset.mem_insert_self _ _)
        rw [hlayers, if_pos rfl] at hheld
        exact (holdsLayer_register_iff (.inl (exists_write_of_accepted haccepted hlayer))).mp
          (hheld layer hlayer)
    · intro h hash hmem layer hlayer
      rw [hlayers] at hlayer
      by_cases heq : hash = summary.hash
      · rw [if_pos heq] at hlayer
        apply (holdsLayer_register_iff (.inl (exists_write_of_accepted haccepted hlayer))).mpr
        exact h.own summary haccepted layer hlayer
      · rw [if_neg heq] at hlayer
        have hbefore := (Finset.mem_insert.mp hmem).resolve_left heq
        apply (holdsLayer_register_iff (.inr (hretains hash hbefore layer hlayer))).mpr
        apply h.others hash hbefore _ layer hlayer
        intro accepted hagain
        cases haccepted.symm.trans hagain
        exact fun hsame => heq hsame.symm

theorem registerEach_concat (requests : List (RegisterRequest P T)) (request : RegisterRequest P T) :
    registerEach host (requests ++ [request]) = register host (registerEach host requests) request := by
  rw [registerEach, List.foldl_append, registerEach]
  rfl

theorem retains_empty : Retains fingerprint (.empty : PytorchRuntime T) := by
  intro hash hmem
  exact absurd hmem (Finset.notMem_empty hash)

theorem retains_registerEach_iff (requests : List (RegisterRequest P T)) :
    (∀ front, front <+: requests → Retains fingerprint (registerEach host front)) ↔
      ∀ front request, front ++ [request] <+: requests →
        Spares host fingerprint (registerEach host front) request := by
  refine forall_prefix_iff retains_empty ?_ requests
  intro front request hbefore
  rw [registerEach_concat]
  exact retains_register_iff hbefore request

variable (host fingerprint)

/-- The runtime keeps what it acknowledges, at every point of a run, exactly when no call of the run writes
other tensors over a layer that is recorded. -/
theorem registerEach_retains_iff (requests : List (RegisterRequest P T)) :
    (∀ front, front <+: requests →
      Retains fingerprint (registerEach host front) ∧
        ∀ payload hashes proof,
          (registerEach host front).verifyPermeantHashes host payload = .ok (.verified hashes proof) →
            ∀ hash ∈ hashes, ∀ layer ∈ recordedLayers (registerEach host front) hash,
              HoldsLayer fingerprint (registerEach host front) layer) ↔
      ∀ front request, front ++ [request] <+: requests →
        Spares host fingerprint (registerEach host front) request := by
  rw [← retains_registerEach_iff]
  constructor
  · intro h front hfront
    exact (h front hfront).1
  · intro h front hfront
    refine ⟨h front hfront, ?_⟩
    intro payload hashes proof hverified hash hmem
    exact h front hfront hash (verifyPermeantHashes_registered host hverified hash hmem)

/-- The fingerprint of a nested list, taken as the runtime takes it of the values. -/
def listFingerprint (nested : Json P) : Option String :=
  (flattenNumeric host nested >>= f32Sha256 host).toOption

def elementTensor (name : String) (x : F32) : Json F32 :=
  .dict [("name", .str name), ("shape", .list [.int 1, .int 1, .int 1]), ("data", .list [.float x])]

/-- A call with one element for either tensor of layer 0, which the list backend takes, and no files. -/
def elementRequest (hash : String) (x : F32) : RegisterRequest F32 (Json F32) where
  materialize := .ok
  files := .ok ()
  payload := .dict [("hash", .str hash),
    ("tensors", .list [elementTensor "layer.0.key" x, elementTensor "layer.0.value" x])]

/-- Two blocks that each bring a layer 0, one of `1.0` and one of `2.0`. -/
def twoBlocks : List (RegisterRequest F32 (Json F32)) :=
  [elementRequest "a" ⟨0x3f800000⟩, elementRequest "b" ⟨0x40000000⟩]

/-- The second block takes the place of the first, which is still verified. -/
theorem twoBlocks_verified_not_retained :
    "a" ∈ (registerEach pythonAdapter twoBlocks).registeredHashes ∧
      (registerEach pythonAdapter twoBlocks).verifyPermeantHashes pythonAdapter
          (.dict [("block_hashes", .list [.str "a"])]) = .ok (.verified ["a"] none) ∧
      ¬Retains (listFingerprint pythonAdapter) (registerEach pythonAdapter twoBlocks) := by
  refine ⟨by decide +kernel, by decide +kernel, ?_⟩
  intro h
  have hfirst : ∃ layer ∈ recordedLayers (registerEach pythonAdapter twoBlocks) "a",
      layer.layerIndex = 0 ∧
        ((registerEach pythonAdapter twoBlocks).kvCache.lookup 0).map
          (fun tensors => listFingerprint pythonAdapter tensors.1) ≠ some (some layer.keySha256) := by
    decide +kernel
  obtain ⟨layer, hlayer, hindex, hprint⟩ := hfirst
  obtain ⟨tensors, hlookup, hkey, _⟩ := h "a" (by decide +kernel) layer hlayer
  rw [hindex] at hlookup
  rw [hlookup, Option.map_some, hkey] at hprint
  exact hprint rfl

end Retention

end PermeantOS
