import PermeantOS.AdapterReads

namespace PermeantOS

variable {P : Type}

/-- What the llama.cpp adapter takes from Python besides: `str` of a list of strings. -/
structure LlamaHost (P : Type) extends AdapterHost P where
  listRepr : List String → String

/-- Python, as the adapter uses it. -/
def pythonLlama : LlamaHost F32 where
  toAdapterHost := pythonAdapter
  listRepr := fun hashes => "[" ++ String.intercalate ", " (hashes.map fun hash => "'" ++ hash ++ "'") ++ "]"

section Continuation

variable (host : LlamaHost P)

/-- The continuation of an answer that reports success. -/
def continuationFields (result : Fields P) : Except PyException (Fields P) :=
  if ((result.lookup "success").getD .null).truthy host.toAdapterHost = false then
    .error (.adapterError "llama.cpp live binding hook reported continuation failure")
  else
    match (result.lookup "continuation").getD .null with
    | .dict continuation => .ok continuation
    | _ => .error (.adapterError "llama.cpp live binding hook must return continuation evidence")

def continuationTokenIds (continuation : Fields P) : Except PyException (List (Json P)) :=
  match (continuation.lookup "token_ids").getD .null with
  | .list tokenIds =>
    if tokenIds.any fun tokenId => tokenId.asInt.isNone then
      .error (.adapterError "llama.cpp continuation evidence must include integer token_ids")
    else .ok tokenIds
  | _ => .error (.adapterError "llama.cpp continuation evidence must include integer token_ids")

def checkUsedMigratedKv (continuation : Fields P) : Except PyException Unit :=
  match (continuation.lookup "used_migrated_kv").getD .null with
  | .bool true => .ok ()
  | _ => .error (.adapterError "llama.cpp continuation evidence must set used_migrated_kv=true")

/-- `result.get("binding_proof") or continuation.get("binding_proof")` -/
def continuationBindingProof (result continuation : Fields P) : Except PyException (Fields P) :=
  match pyOr host.toAdapterHost ((result.lookup "binding_proof").getD .null)
    ((continuation.lookup "binding_proof").getD .null) with
  | .dict proof => .ok proof
  | _ => .error (.adapterError "llama.cpp continuation evidence must include binding_proof")

def checkExpectedBound (expectedHashes boundHashes : List String) : Except PyException Unit :=
  if expectedHashes.filter (· ∉ boundHashes) = [] then .ok ()
  else .error (.adapterError ("llama.cpp continuation binding proof is missing expected hashes: " ++
    host.listRepr (expectedHashes.filter (· ∉ boundHashes))))

def continuationProofHash (expectedHashes : List String) (proof : Fields P) (tokenIds : List (Json P)) : String :=
  proofHash host.toAdapterHost [("contract", .str bindingContractVersion),
    ("expected_hashes", .list (expectedHashes.map .str)),
    ("binding_proof_hash", .str (bindingProofHash host.toAdapterHost proof)), ("token_ids", .list tokenIds)]

/-- The binding proof as it is kept: with the list of its hashes and a hash of its own. -/
def keptProof (host : AdapterHost P) (proof : Fields P) (boundHashes : List String) : Fields P :=
  dictInsert (dictInsert proof "bound_hashes" (.list (boundHashes.map .str)))
    "proof_hash" (.str (bindingProofHash host proof))

/-- `_validate_continuation_result` -/
def validateContinuationResult (result : Fields P) (expectedHashes : List String) :
    Except PyException (Fields P) := do
  let continuation ← continuationFields host result
  let tokenIds ← continuationTokenIds continuation
  checkUsedMigratedKv continuation
  let proof ← continuationBindingProof host result continuation
  let boundHashes ← normalizeBoundHashes proof
  checkExpectedBound host expectedHashes boundHashes
  pure (dictInsert (dictInsert (dictInsert (dictInsert result
    "binding_contract_version" (.str bindingContractVersion))
    "binding_proof" (.dict (keptProof host.toAdapterHost proof boundHashes)))
    "continuation" (.dict (dictInsert continuation "used_migrated_kv" (.bool true))))
    "continuation_proof_hash" (.str (continuationProofHash host expectedHashes proof tokenIds)))

end Continuation

/-- What `verify_permeant_hashes` returns, with `none` for the keys that are not there. -/
structure LlamaVerifyResult (P : Type) where
  success : Bool
  missingHashes : Option (List String)
  verifiedHashes : Option (List String)
  decodeStatus : Option String
  liveHookResult : Option (Fields P)
  continuationProofHash : Option (Json P)

/-- `LlamaCppReferenceRuntime`, whose blocks are `LlamaCppRuntime`. -/
structure LlamaCppReferenceRuntime (P : Type) extends LlamaCppRuntime P where
  lastVerifyResult : Option (LlamaVerifyResult P)

/-- A live hook on a verify request, the accepted hashes and their blocks. -/
abbrev VerifyHook (P : Type) :=
  Json P → List String → List (String × Option (AcceptedState P)) → Except PyException (Json P)

structure ReverseRuntimeState (P : Type) where
  registeredHashes : List String
  blocks : Finmap (fun _ : String => AcceptedState P)
  lastVerifyResult : Option (LlamaVerifyResult P)
  lastLiveResult : Option (Fields P)
  decodeClaim : String

section Requests

variable (host : LlamaHost P)

def requestedHashes (payload : Json P) : Except PyException (List String) := do
  let blockHashes ← payload.get "block_hashes"
  let expectedHashes ← payload.get "expected_hashes"
  match (pyOr host.toAdapterHost blockHashes expectedHashes).asStrings with
  | some hashes => .ok hashes
  | none => .error (.adapterError "verify_continuation requires a string list of block hashes")

/-- The result for hashes that are all registered. -/
def liveVerification (liveHook : Option (VerifyHook P)) (payload : Json P)
    (blockSummaries : Finmap (fun _ : String => AcceptedState P)) (hashes : List String) :
    Except PyException (LlamaVerifyResult P) :=
  match liveHook with
  | none => .ok ⟨true, none, some hashes, some "not_attempted_without_live_kv_import_hook", none, none⟩
  | some hook => do
    let answer ← hook payload hashes
      (hashes.eraseDups.map fun hash => (hash, blockSummaries.lookup hash))
    let response ← normalizeResponse answer
    let liveResult ← validateContinuationResult host response hashes
    pure ⟨true, none, some hashes, some "live_kv_binding_continuation_proven", some liveResult,
      liveResult.lookup "continuation_proof_hash"⟩

/-- What `verify_permeant_hashes` finds, before it is kept. -/
def verification (liveHook : Option (VerifyHook P)) (payload : Json P) (runtime : LlamaCppRuntime P) :
    Except PyException (LlamaVerifyResult P) := do
  let hashes ← requestedHashes host payload
  if hashes.filter (· ∉ runtime.registeredHashes) = [] then
    liveVerification host liveHook payload runtime.blockSummaries hashes
  else
    pure ⟨false, some (hashes.filter (· ∉ runtime.registeredHashes)), none, none, none, none⟩

/-- `LlamaCppReferenceRuntime.verify_permeant_hashes` without a state file. Its last step appends an event
to the probe file, which comes to `probe`. -/
def LlamaCppReferenceRuntime.verifyPermeantHashes (liveHook : Option (VerifyHook P))
    (probe : Except PyException Unit) (payload : Json P) :
    EStateM PyException (LlamaCppReferenceRuntime P) (LlamaVerifyResult P) := do
  let runtime ← get
  let result ← liftExcept (verification host liveHook payload runtime.toLlamaCppRuntime)
  modify fun runtime => { runtime with lastVerifyResult := some result }
  liftExcept probe
  pure result

/-- `_decode_claim` -/
def decodeClaim (blocks : Finmap (fun _ : String => AcceptedState P))
    (verifyResult : Option (LlamaVerifyResult P)) : String :=
  if verifyResult.bind (·.decodeStatus) = some "live_kv_binding_continuation_proven" then
    "live-kv-binding-continuation-proven"
  else if ∃ hash ∈ blocks.keys, (blocks.lookup hash).map (·.adapterMode) = some "live-kv-binding-hook" then
    "live-kv-bound-continuation-not-yet-verified"
  else "none-without-live-kv-import-hook"

/-- `export_reverse_runtime_state` without a state file, up to the proof hash. -/
def LlamaCppReferenceRuntime.exportReverseRuntimeState (probe : Except PyException Unit) :
    EStateM PyException (LlamaCppReferenceRuntime P) (ReverseRuntimeState P) := do
  let runtime ← get
  liftExcept probe
  pure ⟨runtime.registeredHashes.sort (· ≤ ·), runtime.blockSummaries, runtime.lastVerifyResult,
    runtime.lastLiveResult, decodeClaim runtime.blockSummaries runtime.lastVerifyResult⟩

/-- A step that the last verify result has no part in. -/
def onBlocks {α : Type} (step : EStateM PyException (LlamaCppRuntime P) α) :
    EStateM PyException (LlamaCppReferenceRuntime P) α := fun runtime =>
  match step.run runtime.toLlamaCppRuntime with
  | .ok result after => .ok result { runtime with toLlamaCppRuntime := after }
  | .error e after => .error e { runtime with toLlamaCppRuntime := after }

theorem run_onBlocks {α : Type} (step : EStateM PyException (LlamaCppRuntime P) α)
    (runtime : LlamaCppReferenceRuntime P) :
    (onBlocks step).run runtime =
      match step.run runtime.toLlamaCppRuntime with
      | .ok result after => .ok result { runtime with toLlamaCppRuntime := after }
      | .error e after => .error e { runtime with toLlamaCppRuntime := after } := rfl

/-- `register_permeant_block` without a state file. The block is recorded when the probe file is written. -/
def LlamaCppReferenceRuntime.registerPermeantBlock (liveHook : Option (LiveHook P))
    (probe : Except PyException Unit) (payload request : Json P) :
    EStateM PyException (LlamaCppReferenceRuntime P) (AcceptedState P) := do
  let accepted ← onBlocks (LlamaCppRuntime.registerPermeantBlock host.toAdapterHost liveHook payload request)
  liftExcept probe
  pure accepted

end Requests

section Registration

variable (host : AdapterHost P)

/-- What a registration comes to, which the state of the runtime has no part in. -/
def registration (liveHook : Option (LiveHook P)) (payload request : Json P) :
    Except PyException (AcceptedState P) := do
  let accepted ← acceptState host payload
  match liveHook with
  | none => pure accepted
  | some hook => do
    let answer ← hook accepted payload request
    let response ← normalizeResponse answer
    let liveResult ← validateBindingResult host response accepted.hash
    pure { accepted with
      liveHookResult := some liveResult
      adapterMode := "live-kv-binding-hook"
      decodeClaim := "live-kv-bound-continuation-not-yet-verified" }

def LlamaCppRuntime.record (runtime : LlamaCppRuntime P) (accepted : AcceptedState P) : LlamaCppRuntime P where
  registeredHashes := insert accepted.hash runtime.registeredHashes
  blockSummaries := runtime.blockSummaries.insert accepted.hash accepted
  lastLiveResult := accepted.liveHookResult <|> runtime.lastLiveResult

variable {host}

theorem acceptState_ok {payload : Json P} {accepted : AcceptedState P}
    (h : acceptState host payload = .ok accepted) :
    accepted.adapterMode = "accepted-state" ∧ accepted.liveHookResult = none := by
  rw [acceptState] at h
  obtain ⟨blockHash, _, h⟩ := except_bind_ok_iff.mp h
  obtain ⟨tensors, _, h⟩ := except_bind_ok_iff.mp h
  obtain ⟨runtimeState, _, h⟩ := except_bind_ok_iff.mp h
  split at h
  next => cases h
  next =>
    obtain ⟨layers, _, h⟩ := except_bind_ok_iff.mp h
    cases h
    exact ⟨rfl, rfl⟩

/-- A registration is recorded as a whole, or not at all. -/
theorem run_registerPermeantBlock_llamaCpp (liveHook : Option (LiveHook P)) (payload request : Json P)
    (runtime : LlamaCppRuntime P) :
    (LlamaCppRuntime.registerPermeantBlock host liveHook payload request).run runtime =
      match registration host liveHook payload request with
      | .ok accepted => .ok accepted (runtime.record accepted)
      | .error e => .error e runtime := by
  rw [LlamaCppRuntime.registerPermeantBlock, registration]
  cases haccept : acceptState host payload with
  | error e => rfl
  | ok accepted =>
    obtain ⟨_, hnone⟩ := acceptState_ok haccept
    rw [run_liftExcept_bind_of_ok rfl, except_bind_of_ok rfl]
    cases liveHook with
    | none =>
      show EStateM.Result.ok accepted _ = EStateM.Result.ok accepted (runtime.record accepted)
      rw [LlamaCppRuntime.record, hnone]
      rfl
    | some hook =>
      rw [LlamaCppRuntime.bindLive, EStateM.run_bind]
      dsimp only
      cases hook accepted payload request with
      | error e => rfl
      | ok answer =>
        rw [run_liftExcept_bind_of_ok rfl, except_bind_of_ok rfl]
        cases normalizeResponse answer with
        | error e => rfl
        | ok response =>
          rw [run_liftExcept_bind_of_ok rfl, except_bind_of_ok rfl]
          cases validateBindingResult host response accepted.hash with
          | error e => rfl
          | ok liveResult => rfl

end Registration

section Runs

/-- A request, with the live hook at that time and what writing the probe file comes to. -/
inductive RuntimeRequest (P : Type)
  | register (liveHook : Option (LiveHook P)) (probe : Except PyException Unit) (payload request : Json P)
  | verify (liveHook : Option (VerifyHook P)) (probe : Except PyException Unit) (payload : Json P)
  | exportState (probe : Except PyException Unit)

inductive RuntimeAnswer (P : Type)
  | accepted (summary : AcceptedState P)
  | verified (result : LlamaVerifyResult P)
  | exported (state : ReverseRuntimeState P)

variable (host : LlamaHost P)

def LlamaCppReferenceRuntime.answer :
    RuntimeRequest P → EStateM PyException (LlamaCppReferenceRuntime P) (RuntimeAnswer P)
  | .register liveHook probe payload request => do
    let accepted ← registerPermeantBlock host liveHook probe payload request
    pure (.accepted accepted)
  | .verify liveHook probe payload => do
    let result ← verifyPermeantHashes host liveHook probe payload
    pure (.verified result)
  | .exportState probe => do
    let state ← exportReverseRuntimeState probe
    pure (.exported state)

def LlamaCppReferenceRuntime.empty : LlamaCppReferenceRuntime P := ⟨⟨∅, ∅, none⟩, none⟩

/-- The runtime after a request, whether or not it raises. -/
def LlamaCppReferenceRuntime.next (runtime : LlamaCppReferenceRuntime P) (request : RuntimeRequest P) :
    LlamaCppReferenceRuntime P :=
  leftState ((answer host request).run runtime)

/-- A new runtime after a list of requests. -/
def runtimeAfter (requests : List (RuntimeRequest P)) : LlamaCppReferenceRuntime P :=
  requests.foldl (LlamaCppReferenceRuntime.next host) .empty

theorem runtimeAfter_concat (requests : List (RuntimeRequest P)) (request : RuntimeRequest P) :
    runtimeAfter host (requests ++ [request]) = (runtimeAfter host requests).next host request := by
  rw [runtimeAfter, List.foldl_append]
  rfl

variable {host}

theorem run_registerPermeantBlock_reference (liveHook : Option (LiveHook P)) (probe : Except PyException Unit)
    (payload request : Json P) (runtime : LlamaCppReferenceRuntime P) :
    (LlamaCppReferenceRuntime.registerPermeantBlock host liveHook probe payload request).run runtime =
      match registration host.toAdapterHost liveHook payload request, probe with
      | .ok accepted, .ok () => .ok accepted { runtime with toLlamaCppRuntime := runtime.record accepted }
      | .ok accepted, .error e => .error e { runtime with toLlamaCppRuntime := runtime.record accepted }
      | .error e, _ => .error e runtime := by
  have hstep : (onBlocks (LlamaCppRuntime.registerPermeantBlock host.toAdapterHost liveHook payload request)).run
      runtime = match registration host.toAdapterHost liveHook payload request with
      | .ok accepted => .ok accepted { runtime with toLlamaCppRuntime := runtime.record accepted }
      | .error e => .error e runtime := by
    rw [run_onBlocks, run_registerPermeantBlock_llamaCpp]
    cases registration host.toAdapterHost liveHook payload request with
    | ok accepted => rfl
    | error e => rfl
  rw [LlamaCppReferenceRuntime.registerPermeantBlock, EStateM.run_bind, hstep]
  cases registration host.toAdapterHost liveHook payload request with
  | error e => rfl
  | ok accepted =>
    cases probe with
    | ok written => rfl
    | error e => rfl

theorem run_verifyPermeantHashes (liveHook : Option (VerifyHook P)) (probe : Except PyException Unit)
    (payload : Json P) (runtime : LlamaCppReferenceRuntime P) :
    (LlamaCppReferenceRuntime.verifyPermeantHashes host liveHook probe payload).run runtime =
      match verification host liveHook payload runtime.toLlamaCppRuntime, probe with
      | .ok result, .ok () => .ok result { runtime with lastVerifyResult := some result }
      | .ok result, .error e => .error e { runtime with lastVerifyResult := some result }
      | .error e, _ => .error e runtime := by
  show EStateM.run (liftExcept (verification host liveHook payload runtime.toLlamaCppRuntime) >>= _) runtime = _
  cases verification host liveHook payload runtime.toLlamaCppRuntime with
  | error e => rfl
  | ok result =>
    cases probe with
    | ok written => rfl
    | error e => rfl

/-- A registration is recorded whether or not the probe file can be written. -/
theorem next_register (liveHook : Option (LiveHook P)) (probe : Except PyException Unit)
    (payload request : Json P) (runtime : LlamaCppReferenceRuntime P) :
    runtime.next host (.register liveHook probe payload request) =
      match registration host.toAdapterHost liveHook payload request with
      | .ok accepted => { runtime with toLlamaCppRuntime := runtime.record accepted }
      | .error _ => runtime := by
  rw [LlamaCppReferenceRuntime.next, LlamaCppReferenceRuntime.answer, EStateM.run_bind,
    run_registerPermeantBlock_reference]
  cases registration host.toAdapterHost liveHook payload request with
  | error e => rfl
  | ok accepted =>
    cases probe with
    | ok written => rfl
    | error e => rfl

theorem next_verify (liveHook : Option (VerifyHook P)) (probe : Except PyException Unit) (payload : Json P)
    (runtime : LlamaCppReferenceRuntime P) :
    runtime.next host (.verify liveHook probe payload) =
      match verification host liveHook payload runtime.toLlamaCppRuntime with
      | .ok result => { runtime with lastVerifyResult := some result }
      | .error _ => runtime := by
  rw [LlamaCppReferenceRuntime.next, LlamaCppReferenceRuntime.answer, EStateM.run_bind,
    run_verifyPermeantHashes]
  cases verification host liveHook payload runtime.toLlamaCppRuntime with
  | error e => rfl
  | ok result =>
    cases probe with
    | ok written => rfl
    | error e => rfl

theorem next_exportState (probe : Except PyException Unit) (runtime : LlamaCppReferenceRuntime P) :
    runtime.next host (.exportState probe) = runtime := by
  cases probe with
  | ok written => rfl
  | error e => rfl

end Runs

end PermeantOS
