import PermeantOS.RustText
import PermeantOS.Usxf
import Mathlib.Data.Finmap

namespace PermeantOS

structure Tensor (F : Type) where
  data : List F
  shape : List Usize
  deriving DecidableEq, Repr

abbrev TensorMap (F : Type) := Finmap (fun _ : String => Tensor F)

/-- `HashMap<String, HashMap<String, Tensor>>`, by block hash. -/
abbrev BlockMap (F : Type) := Finmap (fun _ : String => TensorMap F)

/-- The order in which a `HashMap` yields its keys: any order, each key once. -/
structure HashOrder where
  keys : {V : Type} → Finmap (fun _ : String => V) → List String
  nodup_keys : ∀ {V : Type} (m : Finmap (fun _ : String => V)), (keys m).Nodup
  mem_keys_iff : ∀ {V : Type} (m : Finmap (fun _ : String => V)) (k : String), k ∈ keys m ↔ k ∈ m

structure SerializedTensor (F : Type) where
  name : String
  shape : List Usize
  data : List F

inductive InjectorRequest (F : Type)
  | injectBlock (blockSize : Usize) (blockHash : String) (tensors : List (SerializedTensor F))
  | verifyContinuation (blockSize : Usize) (expectedHashes : List String)

structure InjectorResponse where
  success : Option Bool
  error : Option String
  missingHashes : Option (List String)

/-- What the process around an injector command does: `run` starts it, writes the request and waits
for its exit status, standard output and standard error. -/
structure InjectorHost (F : Type) where
  run : String → InjectorRequest F → Fallible (Bool × List UInt8 × String)
  responseFromSlice : List UInt8 → Option InjectorResponse

inductive InjectorBackend (F : Type)
  | mock (physicalCache : BlockMap F)
  | jsonCommand (command : String)

structure KVConnectorBaseV1 (F : Type) where
  blockSize : Usize
  backend : InjectorBackend F

variable {F : Type}

/-- A command that prints nothing succeeded. -/
def injectorResponse (host : InjectorHost F) (stdout : List UInt8) : Fallible InjectorResponse :=
  if stdout = [] then .ok ⟨some true, none, none⟩
  else contextOption "Failed to parse injector command JSON output" (host.responseFromSlice stdout)

def runInjectorCommand (host : InjectorHost F) (command : String) (request : InjectorRequest F) :
    Fallible Unit := do
  let (status, stdout, stderr) ← host.run command request
  bailIf (status = false) s!"Injector command failed: {trimText stderr}"
  let response ← injectorResponse host stdout
  if response.success.getD true then .ok ()
  else match response.missingHashes with
    | some missing => bail s!"Injector command reported missing hashes: {debugStrings missing}"
    | none =>
      let error := response.error.getD "unknown error"
      bail s!"Injector command reported failure: {error}"

def requireCommand (command : String) : Fallible Unit :=
  bailIf (trimIsEmpty command = true)
    "PERMEANT_INJECTOR_CMD must be set when PERMEANT_INJECTOR_MODE=json_command"

def KVConnectorBaseV1.injectBlockTensors (host : InjectorHost F) (order : HashOrder)
    (injector : KVConnectorBaseV1 F) (blockHash : String) (tensors : TensorMap F) :
    Fallible (KVConnectorBaseV1 F) :=
  match injector.backend with
  | .mock physicalCache =>
    .ok { injector with backend := .mock (physicalCache.insert blockHash tensors) }
  | .jsonCommand command => do
    requireCommand command
    let serialized := (order.keys tensors).filterMap fun name =>
      (tensors.lookup name).map fun tensor => ⟨name, tensor.shape, tensor.data⟩
    runInjectorCommand host command (.injectBlock injector.blockSize blockHash serialized)
    pure injector

def KVConnectorBaseV1.verifyContinuation (host : InjectorHost F)
    (injector : KVConnectorBaseV1 F) (expectedHashes : List String) : Fallible Unit :=
  match injector.backend with
  | .mock physicalCache =>
    let missing := expectedHashes.filter fun hash => hash ∉ physicalCache
    bailIf (missing ≠ []) s!"Missing migrated KV blocks in target cache: {debugStrings missing}"
  | .jsonCommand command => do
    requireCommand command
    runInjectorCommand host command (.verifyContinuation injector.blockSize expectedHashes)

end PermeantOS
