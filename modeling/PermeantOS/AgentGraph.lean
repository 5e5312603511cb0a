import PermeantOS.AgentFiles

namespace PermeantOS

variable {P : Type}

section Constants

def runtimeId : String := "examples/agent-memory-graph"

def securityPolicyVersion : String := "agent-graph-security-policy-v0"

def rootSignatureAlgorithm : String := "sha256-local-root-signature-v0"

def trustedSignerId : String := "signer:local-reference"

def allowedTargetRuntimes : List String := [runtimeId]

def allowedToolNames : List String :=
  ["fs.write_file", "aws.ec2.describe_instances", "aws.ec2.run_instances"]

def forbiddenSecretKeys : List String :=
  ["secret_value", "raw_secret", "raw_credential", "private_key", "access_token", "refresh_token",
    "api_key", "password"]

def pendingToolStatuses : List String := ["not_started", "in_progress", "failed", "needs_user"]

def manualResumePolicies : List String := ["ask_user", "rebind", "compensate"]

def embeddingModel : String := "deterministic-local-byte-embedding-v0"

def embeddingDim : Nat := 8

def vectorStoreRef : String := "vector:local-reference:session"

end Constants

variable (host : AgentHost P)

section Nodes

def canonicalGraphHash : Json P → Except PyException String
  | .dict fields => .ok (sha256Json host (.dict (fields.filter fun field => field.1 ≠ "graph_hash")))
  | .list _ => .error .typeError
  | _ => .error .attributeError

def graphRootSignature (graphHash signerId : Json P) : String :=
  sha256Json host (.dict [("algorithm", .str rootSignatureAlgorithm), ("graph_hash", graphHash),
    ("policy_version", .str securityPolicyVersion), ("signer_id", signerId)])

def selectNodes (kind : String) : List (Json P) → Except PyException (List (Json P))
  | [] => .ok []
  | node :: nodes => do
    let type ← node.get "type"
    let rest ← selectNodes kind nodes
    pure (if pyEq host type (.str kind) = true then node :: rest else rest)

/-- `[node for node in graph.get("nodes", []) if node.get("type") == kind]` -/
def nodesOfType (kind : String) (graph : Json P) : Except PyException (List (Json P)) := do
  let nodes ← graph.getOr "nodes" (.list [])
  let nodes ← nodes.iterate
  selectNodes host kind nodes

def toolCallNodes (graph : Json P) : Except PyException (List (Json P)) := nodesOfType host "tool_call" graph

def memoryNodes (graph : Json P) : Except PyException (List (Json P)) := nodesOfType host "memory" graph

def retrievalNodes (graph : Json P) : Except PyException (List (Json P)) := nodesOfType host "retrieval" graph

def credentialRefNodes (graph : Json P) : Except PyException (List (Json P)) :=
  nodesOfType host "credential_ref" graph

def artifactNodes (graph : Json P) : Except PyException (List (Json P)) := nodesOfType host "artifact" graph

def verifyGraph (graph expectedHash : Json P) : Except PyException Unit := do
  let actualHash ← canonicalGraphHash host graph
  refuseIf (!pyEq host (.str actualHash) expectedHash)
    s!"graph hash mismatch: expected {pyStr host expectedHash}, got {actualHash}"
  let graphHash ← graph.get "graph_hash"
  refuseIf (!pyEq host graphHash expectedHash) "graph hash field does not match manifest"

end Nodes

section Audit

structure AuditEntry (P : Type) where
  nodeId : Json P
  name : Json P
  sideEffect : Json P
  status : Json P
  resumePolicy : Json P
  approvalState : Json P
  action : String
  safeToImport : Bool
  reason : String

structure ReplayVerdict where
  action : String
  safeToImport : Bool
  reason : String
  deriving DecidableEq, Repr

/-- What the audit says of a tool call before it looks at the approval. -/
def replayVerdict (sideEffect status resumePolicy : Json P) : Except PyException ReplayVerdict := do
  let finished ← status.inStrings ["completed", "cancelled"]
  if finished = true then do
    let risky ← sideEffect.inStrings ["external_write", "unknown"]
    if risky = true ∧ pyEq host resumePolicy (.str "retry_safe") = true then
      pure ⟨"reject", false, "completed side-effecting tool call cannot be marked retry_safe"⟩
    else pure ⟨"no_replay", true, s!"tool call is {pyStr host status} and must not be replayed"⟩
  else do
    let harmless ← sideEffect.inStrings ["none", "read_only"]
    if harmless = true ∧ pyEq host resumePolicy (.str "retry_safe") = true then
      pure ⟨"retry_allowed", true, "pending non-mutating tool call is marked retry_safe"⟩
    else do
      let risky ← sideEffect.inStrings ["external_write", "unknown"]
      if risky = true then do
        let manual ← resumePolicy.inStrings manualResumePolicies
        if manual = true then
          pure ⟨if pyEq host resumePolicy (.str "ask_user") = true then "requires_user"
            else s!"{pyStr host resumePolicy}_required", true,
            "side-effecting tool call requires explicit resume policy before activation"⟩
        else pure ⟨"reject", false, "pending side-effecting tool call is not safe to replay automatically"⟩
      else do
        let pending ← status.inStrings pendingToolStatuses
        pure ⟨"manual_review", true,
          if pending = true then "pending tool call requires explicit operator review"
          else "manual review required before tool resume"⟩

/-- A denied or expired approval rejects a pending tool call. -/
def approvalVerdict (status approvalState : Json P) (verdict : ReplayVerdict) :
    Except PyException ReplayVerdict := do
  let denied ← approvalState.inStrings ["denied", "expired"]
  if denied = true then do
    let pending ← status.inStrings pendingToolStatuses
    if pending = true then
      pure ⟨"reject", false, s!"pending tool call approval is {pyStr host approvalState}"⟩
    else pure verdict
  else pure verdict

def auditNode (graph node : Json P) : Except PyException (AuditEntry P) := do
  let sideEffect ← node.getOr "side_effect" (.str "unknown")
  let status ← node.getOr "status" (.str "needs_user")
  let policies ← graph.getOr "policies" (.dict [])
  let defaultPolicy ← policies.getOr "default_replay_policy" (.str "ask_user")
  let resumePolicy ← node.getOr "resume_policy" defaultPolicy
  let approvalState ← node.getOr "approval_state" (.str "not_required")
  let nodeId ← node.item "id"
  let name ← node.get "name"
  let verdict ← replayVerdict host sideEffect status resumePolicy
  let verdict ← approvalVerdict host status approvalState verdict
  pure ⟨nodeId, name, sideEffect, status, resumePolicy, approvalState, verdict.action,
    verdict.safeToImport, verdict.reason⟩

def auditToolReplaySafety (graph : Json P) : Except PyException (List (AuditEntry P)) := do
  let nodes ← toolCallNodes host graph
  nodes.mapM (auditNode host graph)

def rejectUnsafeToolReplay (audit : List (AuditEntry P)) : Except PyException Unit :=
  let unsafeEntries := audit.filter fun entry => !entry.safeToImport
  let summary := String.intercalate ", "
    (unsafeEntries.map fun entry => s!"{pyStr host entry.nodeId}: {entry.reason}")
  refuseIf (!unsafeEntries.isEmpty) s!"unsafe tool replay policy: {summary}"

end Audit

section Vectors

def addToBucket (buckets : List P) (entry : UInt8 × Nat) : List P :=
  buckets.modify (entry.2 % embeddingDim) fun value =>
    host.add value (host.thirtyFirsts (entry.1.toNat % 31))

def deterministicEmbedding (text : String) : List P :=
  let buckets := (asBytes text).zipIdx.foldl (addToBucket host)
    (List.replicate embeddingDim (host.parseFloat "0.0".toList))
  let magnitude := host.sqrt (host.sum (buckets.map fun value => host.mul value value))
  if host.isZero magnitude = true then buckets
  else buckets.map fun value => host.round8 (host.div value magnitude)

def embeddingHash (vector : List P) : String :=
  sha256Json host (.list (vector.map fun value => .float (host.round8 value)))

def cosineSimilarity (left right : List P) : P := host.sum (List.zipWith host.mul left right)

structure VectorRecord (P : Type) where
  nodeId : Json P
  embedding : List P
  embeddingHash : String
  textHash : Json P

/-- `" ".join(str(value) for value in [subject, predicate, object] if value)` -/
def memoryText (node : Json P) : Except PyException String := do
  let subject ← node.get "subject"
  let predicate ← node.get "predicate"
  let object ← node.get "object"
  let values := [subject, predicate, object].filter fun value => value.truthy host.toAdapterHost
  pure (String.intercalate " " (values.map (pyStr host)))

def vectorRecords : List (Json P) → Except PyException (List (VectorRecord P))
  | [] => .ok []
  | node :: nodes => do
    let model ← node.get "embedding_model"
    if pyEq host model (.str embeddingModel) = true then do
      let text ← memoryText host node
      let nodeId ← node.item "id"
      let textHash ← node.get "text_hash"
      let vector := deterministicEmbedding host text
      let rest ← vectorRecords nodes
      pure (⟨nodeId, vector, embeddingHash host vector, textHash⟩ :: rest)
    else vectorRecords nodes

/-- Whether `a < b` has an answer. -/
def comparable (a b : Json P) : Bool :=
  match a, b with
  | .str _, .str _ => true
  | a, b => pyEq host a b || (numeric a && numeric b)
where
  numeric : Json P → Bool
    | .bool _ => true
    | .int _ => true
    | .float _ => true
    | _ => false

/-- `a <= b` on node ids that can be compared. -/
def nodeIdLe (a b : Json P) : Bool :=
  match a, b with
  | .str a, .str b => decide (a ≤ b)
  | .float a, .float b => !host.floatLt b a
  | .float a, b => ((b.asInt.bind host.ofInt).map fun b => !host.floatLt b a).getD true
  | a, .float b => ((a.asInt.bind host.ofInt).map fun a => !host.floatLt b a).getD true
  | a, b => (a.asInt.bind fun a => b.asInt.map fun b => decide (a ≤ b)).getD true

/-- `(-score, node_id)` in ascending order. -/
def resultLe (a b : Json P × P) : Bool :=
  if host.floatEq (host.neg a.2) (host.neg b.2) = true then nodeIdLe host a.1 b.1
  else !host.floatLt (host.neg b.2) (host.neg a.2)

/-- Scored results in descending order; results with one score are in the order of their node ids. -/
def sortedResults (results : List (Json P × P)) : Except PyException (List (Json P × P)) :=
  if results.all fun a => results.all fun b =>
      !host.floatEq (host.neg a.2) (host.neg b.2) || comparable host a.1 b.1 then
    .ok (results.mergeSort (resultLe host))
  else .error .typeError

structure VectorSnapshot (P : Type) where
  records : List (VectorRecord P)
  expectedResults : Json P

def buildVectorSnapshot (graph queryText : Json P) : Except PyException (VectorSnapshot P) := do
  let query ← match queryText with
    | .str text => .ok text
    | _ => .error .attributeError
  let queryEmbedding := deterministicEmbedding host query
  let nodes ← memoryNodes host graph
  let records ← vectorRecords host nodes
  let results ← sortedResults host (records.map fun record =>
    (record.nodeId, host.round8 (cosineSimilarity host queryEmbedding record.embedding)))
  pure ⟨records, .list (results.zipIdx.map fun entry =>
    .dict [("node_id", entry.1.1), ("rank", .int (entry.2 + 1)), ("score", .float entry.1.2)])⟩

/-- `{key(x): x for x in xs}.get(key)`: the last one that has the key. -/
def lastWithKey {X : Type} (key : X → Json P) (xs : List X) (value : Json P) :
    Except PyException (Option X) :=
  if xs.all (fun x => (key x).hashable) && value.hashable then
    .ok (xs.reverse.find? fun x => pyEq host (key x) value)
  else .error .typeError

structure VectorReport (P : Type) where
  status : String
  details : List (String × Json P)

def checkVectorRecord (snapshot : VectorSnapshot P) (memories : List (Json P × Json P)) (record : Json P) :
    Except PyException Unit := do
  let nodeId ← record.get "node_id"
  match ← lastWithKey host (·.nodeId) snapshot.records nodeId with
  | none => .error (.importVerificationError
      s!"vector snapshot references unknown memory node: {pyStr host nodeId}")
  | some expected => do
    let recordId ← record.item "node_id"
    match ← lastWithKey host (·.1) memories recordId with
    | none => .error (.keyError (pyStr host recordId))
    | some memory => do
      let memoryHash ← memory.2.get "embedding_hash"
      refuseIf (!pyEq host memoryHash (.str expected.embeddingHash))
        s!"memory node embedding hash mismatch for {pyStr host nodeId}"
      let recordHash ← record.get "embedding_hash"
      refuseIf (!pyEq host recordHash (.str expected.embeddingHash))
        s!"vector embedding hash mismatch for {pyStr host nodeId}"

def retrievalResult (result : Json P) : Except PyException (Json P) := do
  let nodeId ← result.item "node_id"
  let rank ← result.item "rank"
  let score ← result.get "score"
  pure (.dict [("node_id", nodeId), ("rank", rank), ("score", score)])

def checkRetrieval (snapshot : VectorSnapshot P) (retrieval : Json P) : Except PyException Unit := do
  let kind ← retrieval.get "retrieval_kind"
  if pyEq host kind (.str "vector") = true then do
    let results ← retrieval.getOr "results" (.list [])
    let results ← results.iterate
    let results ← results.mapM retrievalResult
    if pyEq host (.list results) snapshot.expectedResults = true then pure ()
    else do
      let nodeId ← retrieval.item "id"
      .error (.importVerificationError
        s!"retrieval node {pyStr host nodeId} does not match vector snapshot results")
  else pure ()

def checkVectorSnapshot (graph vectorMemory : Json P) : Except PyException (VectorReport P) := do
  let model ← vectorMemory.get "embedding_model"
  refuseIf (!pyEq host model (.str embeddingModel)) "vector memory embedding model mismatch"
  let dim ← vectorMemory.get "embedding_dim"
  refuseIf (!pyEq host dim (.int embeddingDim)) "vector memory embedding dimension mismatch"
  let metric ← vectorMemory.get "distance_metric"
  refuseIf (!pyEq host metric (.str "cosine")) "vector memory distance metric mismatch"
  let queryText ← vectorMemory.item "query_text"
  let snapshot ← buildVectorSnapshot host graph queryText
  let memories ← memoryNodes host graph
  let memories ← memories.mapM fun node => do
    let nodeId ← node.item "id"
    pure (nodeId, node)
  let records ← vectorMemory.getOr "records" (.list [])
  let records ← records.iterate
  checkEach (fun _ record => checkVectorRecord host snapshot memories record) 0 records
  let expectedResults ← vectorMemory.get "expected_results"
  refuseIf (!pyEq host expectedResults snapshot.expectedResults) "vector retrieval results mismatch"
  let retrievals ← retrievalNodes host graph
  checkEach (fun _ retrieval => checkRetrieval host snapshot retrieval) 0 retrievals
  let storeRef ← vectorMemory.item "vector_store_ref"
  let queryHash ← vectorMemory.item "query_hash"
  pure ⟨"verified", [("vector_store_ref", storeRef), ("embedding_model", model), ("embedding_dim", dim),
    ("query_hash", queryHash), ("expected_results", expectedResults)]⟩

def validateVectorMemory (graph manifest : Json P) : Except PyException (VectorReport P) := do
  let vectorMemory ← manifest.get "vector_memory"
  if vectorMemory.truthy host.toAdapterHost = true then do
    let mode ← vectorMemory.get "mode"
    if pyEq host mode (.str "external_rebind") = true then do
      let rebind ← vectorMemory.get "rebind_required"
      refuseIf (!rebind.isTrue) "external vector memory must be explicitly marked rebind_required"
      let storeRef ← vectorMemory.get "vector_store_ref"
      let model ← vectorMemory.get "embedding_model"
      pure ⟨"rebind_required", [("vector_store_ref", storeRef), ("embedding_model", model)]⟩
    else if pyEq host mode (.str "snapshot") = true then checkVectorSnapshot host graph vectorMemory
    else .error (.importVerificationError s!"unsupported vector memory mode: {pyStr host mode}")
  else pure ⟨"not_present", []⟩

end Vectors

section Policy

/-- The lower case of a character, as far as it is ASCII. -/
def lowerChar (c : Char) : Char :=
  if 'A' ≤ c ∧ c ≤ 'Z' then Char.ofNat (c.toNat + 32)
  else if c = '\u212a' then 'k'
  else c

def isForbiddenKey (key : String) : Bool :=
  decide (String.ofList (key.toList.map lowerChar) ∈ forbiddenSecretKeys)

mutual

def findForbiddenSecretMaterial (path : String) : Json P → List String
  | .dict fields => findForbiddenFields path fields
  | .list items => findForbiddenItems path 0 items
  | _ => []

def findForbiddenFields (path : String) : List (String × Json P) → List String
  | [] => []
  | (key, child) :: fields =>
    (if isForbiddenKey key = true then [s!"{path}.{key}"] else []) ++
      (findForbiddenSecretMaterial s!"{path}.{key}" child ++ findForbiddenFields path fields)

def findForbiddenItems (path : String) (index : Nat) : List (Json P) → List String
  | [] => []
  | child :: items =>
    findForbiddenSecretMaterial s!"{path}[{index}]" child ++ findForbiddenItems path (index + 1) items

end

structure SecurityReport (P : Type) where
  signerId : Json P
  targetRuntime : String
  provenanceEvents : Nat

/-- The signer and the signature of the graph's root. -/
def checkSignature (graph security : Json P) : Except PyException (Json P) := do
  let version ← security.get "policy_version"
  refuseIf (!pyEq host version (.str securityPolicyVersion)) "unsupported security policy version"
  let algorithm ← security.get "signature_algorithm"
  refuseIf (!pyEq host algorithm (.str rootSignatureAlgorithm))
    "unsupported graph root signature algorithm"
  let signerId ← security.get "signer_id"
  let trustedSigners ← security.getOr "trusted_signer_ids" (.list [])
  let trusted ← inSet host signerId trustedSigners
  refuseIf (!trusted) "graph root signer is not trusted"
  let graphHash ← graph.item "graph_hash"
  let signature ← security.get "graph_root_signature"
  refuseIf (!pyEq host signature (.str (graphRootSignature host graphHash signerId)))
    "graph root signature mismatch"
  pure signerId

def checkTool (allowedTools node : Json P) : Except PyException Unit := do
  let name ← node.get "name"
  let allowed ← inSet host name allowedTools
  refuseIf (!allowed) s!"tool is not allowed by security policy: {pyStr host name}"

/-- The target runtime and the tools against the hooks of the manifest. -/
def checkHooks (graph security : Json P) (targetRuntime : String) : Except PyException Unit := do
  let policyHooks ← security.getOr "policy_hooks" (.dict [])
  let allowedTargets ← policyHooks.getOr "allowed_target_runtimes" (.list [])
  let allowed ← inSet host (.str targetRuntime) allowedTargets
  refuseIf (!allowed) s!"target runtime is not allowed by security policy: {targetRuntime}"
  let allowedTools ← policyHooks.getOr "allowed_tools" (.list [])
  -- the set is built before any tool is looked up in it
  let _ ← inSet host .null allowedTools
  let nodes ← toolCallNodes host graph
  checkEach (fun _ node => checkTool host allowedTools node) 0 nodes

def checkArtifactPaths (artifact : Json P) : Except PyException Unit := do
  let path ← artifact.getOr "path" (.str "")
  let pathAllowed ← pathAllowedByPrefix path
  refuseIf (!pathAllowed) s!"artifact path is not allowed by security policy: {pyStr host path}"
  let targetPath ← artifact.getOr "target_path" path
  let targetAllowed ← pathAllowedByPrefix targetPath
  refuseIf (!targetAllowed)
    s!"artifact target path is not allowed by security policy: {pyStr host targetPath}"

def checkArtifactNode (node : Json P) : Except PyException Unit := do
  let path ← node.get "path"
  if path.truthy host.toAdapterHost = true then do
    let allowed ← pathAllowedByPrefix path
    refuseIf (!allowed) s!"artifact node path is not allowed by security policy: {pyStr host path}"
  else pure ()

/-- A refusal whose message names the node. -/
def refuseNode (c : Bool) (message : String) (node : Json P) : Except PyException Unit :=
  if c = true then do
    let nodeId ← node.item "id"
    .error (.importVerificationError s!"{message}: {pyStr host nodeId}")
  else .ok ()

def checkCredential (node : Json P) : Except PyException Unit := do
  let redaction ← node.get "redaction_state"
  refuseNode host (!pyEq host redaction (.str "external_only")) "credential reference must be external_only"
    node
  let required ← node.get "required"
  refuseNode host (!required.isTrue) "credential reference must require target rebind" node
  let binding ← node.get "binding"
  refuseNode host (!binding.truthy host.toAdapterHost) "credential reference must include a rebind hint" node

/-- `chain[-1]` and `len(chain)` of something that is not empty. -/
def latestEvent : Json P → Except PyException (Json P × Nat)
  | .list items =>
    match items.getLast? with
    | some latest => .ok (latest, items.length)
    | none => .error .indexError
  | .str text =>
    match text.toList.getLast? with
    | some c => .ok (.str (String.ofList [c]), text.length)
    | none => .error .indexError
  | .dict _ => .error (.keyError "-1")
  | _ => .error .typeError

def checkProvenance (graph security : Json P) : Except PyException Nat := do
  let chain ← security.getOr "provenance_chain" (.list [])
  refuseIf (!chain.truthy host.toAdapterHost) "missing provenance chain"
  let (latest, events) ← latestEvent chain
  let latestId ← latest.get "graph_id"
  let graphId ← graph.get "graph_id"
  let latestHash ← latest.get "graph_hash"
  let graphHash ← graph.get "graph_hash"
  refuseIf (!(pyEq host latestId graphId && pyEq host latestHash graphHash))
    "provenance chain does not match graph root"
  pure events

/-- What the package holds: tools, paths, no secrets, and credentials to be bound again. -/
def checkContents (graph manifest security : Json P) (targetRuntime : String) : Except PyException Unit := do
  checkHooks host graph security targetRuntime
  let artifacts ← manifest.getOr "artifacts" (.list [])
  let artifacts ← artifacts.iterate
  checkEach (fun _ artifact => checkArtifactPaths host artifact) 0 artifacts
  let nodes ← artifactNodes host graph
  checkEach (fun _ node => checkArtifactNode host node) 0 nodes
  let findings := findForbiddenSecretMaterial "$" graph ++ findForbiddenSecretMaterial "$" manifest
  refuseIf (!findings.isEmpty) ("raw secret material is not allowed: " ++ String.intercalate ", " findings)
  let credentials ← credentialRefNodes host graph
  checkEach (fun _ node => checkCredential host node) 0 credentials

def validateSecurityPolicy (graph manifest : Json P) (targetRuntime : String) :
    Except PyException (SecurityReport P) := do
  let security ← manifest.get "security"
  refuseIf (!security.truthy host.toAdapterHost) "missing security attestation"
  let signerId ← checkSignature host graph security
  checkContents host graph manifest security targetRuntime
  let events ← checkProvenance host graph security
  pure ⟨signerId, targetRuntime, events⟩

/-- The three checks of a security attestation. -/
theorem validateSecurityPolicy_ok {host} {graph manifest : Json P} {targetRuntime : String}
    {report : SecurityReport P} (h : validateSecurityPolicy host graph manifest targetRuntime = .ok report) :
    ∃ security signerId events, manifest.get "security" = .ok security ∧
      checkSignature host graph security = .ok signerId ∧
      checkContents host graph manifest security targetRuntime = .ok () ∧
      checkProvenance host graph security = .ok events := by
  obtain ⟨security, hsecurity, h⟩ := except_bind_ok_iff.mp h
  obtain ⟨_, h⟩ := except_bind_unit_ok_iff.mp h
  obtain ⟨signerId, hsigner, h⟩ := except_bind_ok_iff.mp h
  obtain ⟨hcontents, h⟩ := except_bind_unit_ok_iff.mp h
  obtain ⟨events, hprovenance, _⟩ := except_bind_ok_iff.mp h
  exact ⟨security, signerId, events, hsecurity, hsigner, hcontents, hprovenance⟩

end Policy

end PermeantOS
