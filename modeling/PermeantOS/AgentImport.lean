import PermeantOS.AgentGraph
import PermeantOS.ByteWords

namespace PermeantOS

variable {P : Type}

/-- A directory inside another one. -/
def Directory.child (directory : Directory) (name : String) (h : name ≠ "..") : Directory where
  names := directory.names ++ [name]
  no_dots := by simp [directory.no_dots, h.symm]

variable (host : AgentHost P)

section Artifacts

/-- A refusal whose message shows the path of the entry. -/
def refuseEntry (c : Bool) (artifact : Json P) (message : String → String) : Except PyException Unit :=
  if c = true then do
    let path ← artifact.item "path"
    .error (.importVerificationError (message (pyStr host path)))
  else .ok ()

def validateArtifactManifestEntry (artifact : Json P) : Except PyException Unit := do
  let policy ← artifact.getOr "restore_policy" (.str "required")
  let blobPath ← artifact.get "blob_path"
  let hasBlob := blobPath.truthy host.toAdapterHost
  let sha256 ← artifact.get "sha256"
  let shownPath ← artifact.getOr "path" (.str "<unknown>")
  refuseIf (!sha256.truthy host.toAdapterHost)
    s!"artifact is missing sha256 evidence: {pyStr host shownPath}"
  if pyEq host policy (.str "external_rebind") = true then do
    refuseEntry host hasBlob artifact
      fun path => s!"external rebind artifact must not include a blob path: {path}"
    let rebind ← artifact.get "rebind_required"
    refuseEntry host (!rebind.isTrue) artifact
      fun path => s!"external artifact must be explicitly marked rebindable: {path}"
  else refuseIf (!hasBlob) s!"unresolved artifact is not explicitly rebindable: {pyStr host shownPath}"

inductive VerifiedArtifact (P : Type)
  | rebindRequired (path sha256 : Json P)
  | packaged (path blobPath : Json P) (sha256 : String)

/-- Hash and size of a blob against its entry. -/
def checkBlob (artifact : Json P) (actualHash : String) (actualSize : Nat) :
    Except PyException (VerifiedArtifact P) := do
  let sha256 ← artifact.item "sha256"
  refuseEntry host (!pyEq host (.str actualHash) sha256) artifact
    fun path => s!"artifact hash mismatch for {path}: expected {pyStr host sha256}, got {actualHash}"
  let sizeBytes ← artifact.item "size_bytes"
  refuseEntry host (!pyEq host (.int actualSize) sizeBytes) artifact
    fun path => s!"artifact size mismatch for {path}"
  let path ← artifact.item "path"
  let blobPath ← artifact.item "blob_path"
  pure (.packaged path blobPath actualHash)

def verifyArtifact (package : Directory) (artifact : Json P) : AgentIO (VerifiedArtifact P) := do
  liftExcept (validateArtifactManifestEntry host artifact)
  let policy ← liftExcept (artifact.get "restore_policy")
  if pyEq host policy (.str "external_rebind") = true then do
    let path ← liftExcept (artifact.item "path")
    let sha256 ← liftExcept (artifact.get "sha256")
    pure (.rebindRequired path sha256)
  else do
    let blobPath ← liftExcept (artifact.item "blob_path")
    let relative ← liftExcept (safePackageRelativePath blobPath)
    let blob := package.names ++ relative.parts
    let found ← liftDisk fun disk => .ok (fileExists disk blob)
    liftExcept (refuseIf (!found) s!"missing artifact blob: {pyStr host blobPath}")
    let (actualHash, actualSize) ← fileSha256AndSize host blob
    liftExcept (checkBlob host artifact actualHash actualSize)

def manifestArtifacts (manifest : Json P) : Except PyException (List (Json P)) := do
  let artifacts ← manifest.item "artifacts"
  artifacts.iterate

def verifyArtifacts (package : Directory) (manifest : Json P) : AgentIO (List (VerifiedArtifact P)) := do
  let artifacts ← liftExcept (manifestArtifacts manifest)
  artifacts.mapM (verifyArtifact host package)

end Artifacts

section Restore

inductive RestoreStatus
  | rebindRequired
  | quarantined
  | restored
  deriving DecidableEq, Repr

structure RestoreEntry (P : Type) where
  path : Json P
  targetPath : Option PurePath
  status : RestoreStatus
  policy : Json P
  sha256 : Json P
  sizeBytes : Option Nat

def quarantineName : String := ".permeantos-quarantine"

/-- The blob of an entry, relative to the package, and its target, relative to the workspace. -/
def artifactPaths (artifact : Json P) : Except PyException (PurePath × PurePath) := do
  let blobPath ← artifact.item "blob_path"
  let source ← safePackageRelativePath blobPath
  let path ← artifact.item "path"
  let targetPath ← artifact.getOr "target_path" path
  let target ← safeWorkspaceRelativePath targetPath
  pure (source, target)

theorem artifactPaths_ok_iff {artifact : Json P} {source target : PurePath} :
    artifactPaths artifact = .ok (source, target) ↔ ∃ blobPath path targetPath,
      artifact.item "blob_path" = .ok blobPath ∧ safePackageRelativePath blobPath = .ok source ∧
      artifact.item "path" = .ok path ∧ artifact.getOr "target_path" path = .ok targetPath ∧
      safeWorkspaceRelativePath targetPath = .ok target := by
  constructor
  · intro h
    obtain ⟨blobPath, hblobPath, h⟩ := except_bind_ok_iff.mp h
    obtain ⟨relative, hsource, h⟩ := except_bind_ok_iff.mp h
    obtain ⟨path, hpath, h⟩ := except_bind_ok_iff.mp h
    obtain ⟨targetPath, htargetPath, h⟩ := except_bind_ok_iff.mp h
    obtain ⟨found, htarget, h⟩ := except_bind_ok_iff.mp h
    cases h
    exact ⟨blobPath, path, targetPath, hblobPath, hsource, hpath, htargetPath, htarget⟩
  · intro h
    obtain ⟨blobPath, path, targetPath, hblobPath, hsource, hpath, htargetPath, htarget⟩ := h
    rw [artifactPaths, except_bind_of_ok hblobPath, except_bind_of_ok hsource, except_bind_of_ok hpath,
      except_bind_of_ok htargetPath, except_bind_of_ok htarget]
    rfl

theorem artifactPaths_dots {artifact : Json P} {source target : PurePath}
    (h : artifactPaths artifact = .ok (source, target)) : ".." ∉ source.parts ∧ ".." ∉ target.parts := by
  obtain ⟨blobPath, path, targetPath, _, hsource, _, _, htarget⟩ := artifactPaths_ok_iff.mp h
  exact ⟨(safeRelativePath_ok hsource).1.no_dots, (safeRelativePath_ok htarget).1.no_dots⟩

/-- What becomes of a blob whose hash is known. -/
def restoreStatus (artifact policy : Json P) (actualHash : String) : Except PyException RestoreStatus := do
  let sha256 ← artifact.item "sha256"
  if pyEq host (.str actualHash) sha256 = true then pure .restored
  else if pyEq host policy (.str "quarantine_on_mismatch") = true then pure .quarantined
  else do
    let path ← artifact.item "path"
    .error (.importVerificationError <|
      s!"artifact hash mismatch while restoring {pyStr host path}: " ++
        s!"expected {pyStr host sha256}, got {actualHash}")

def restoreTarget (workspace : Directory) (target : PurePath) : RestoreStatus → List String
  | .quarantined => workspace.names ++ quarantineName :: target.parts
  | _ => workspace.names ++ target.parts

/-- The target as the report shows it. -/
def reportedTarget (workspace : Directory) (target : PurePath) (status : RestoreStatus) : PurePath :=
  match status with
  | .quarantined => ⟨"/", restoreTarget workspace target .quarantined⟩
  | _ => target

def restoreArtifact (package workspace : Directory) (artifact : Json P) : AgentIO (RestoreEntry P) := do
  let policy ← liftExcept (artifact.getOr "restore_policy" (.str "required"))
  if pyEq host policy (.str "external_rebind") = true then do
    let path ← liftExcept (artifact.item "path")
    let sha256 ← liftExcept (artifact.get "sha256")
    pure ⟨path, none, .rebindRequired, policy, sha256, none⟩
  else do
    let (relative, target) ← liftExcept (artifactPaths artifact)
    let source := package.names ++ relative.parts
    let (actualHash, _) ← fileSha256AndSize host source
    let status ← liftExcept (restoreStatus host artifact policy actualHash)
    let (copiedHash, copiedSize) ←
      copyFileStreamingWithHash host source (restoreTarget workspace target status)
    let path ← liftExcept (artifact.item "path")
    pure ⟨path, some (reportedTarget workspace target status), status, policy, .str copiedHash,
      some copiedSize⟩

def restoreArtifacts (package : Directory) (manifest : Json P) (workspace : Directory) :
    AgentIO (List (RestoreEntry P)) := do
  let artifacts ← liftExcept (manifestArtifacts manifest)
  artifacts.mapM (restoreArtifact host package workspace)

end Restore

section Continuation

def messagesOf : List (Json P) → Except PyException (List (Json P × Json P))
  | [] => .ok []
  | node :: nodes => do
    let type ← node.get "type"
    if pyEq host type (.str "message") = true then do
      let role ← node.item "role"
      let content ← node.item "content"
      let rest ← messagesOf nodes
      pure ((role, content) :: rest)
    else messagesOf nodes

def messageLines (message : Json P × Json P) : Except PyException (List String) :=
  match message.2 with
  | .str content => .ok [s!"<{pyStr host message.1}>", content, s!"</{pyStr host message.1}>"]
  | _ => .error .typeError

def reconstructPromptFromMessages (messages : List (Json P × Json P)) : Except PyException String := do
  let lines ← messages.mapM (messageLines host)
  pure (String.intercalate "\n" lines.flatten ++ "\n")

def reconstructPrompt (graph : Json P) : Except PyException String := do
  let nodes ← graph.item "nodes"
  let nodes ← nodes.iterate
  let messages ← messagesOf host nodes
  reconstructPromptFromMessages host messages

def tokenizePrompt (prompt : String) : List UInt8 := asBytes prompt

def tokenHash (tokens : List UInt8) : String :=
  sha256Bytes host (tokens.flatMap fun token => bigEndian 2 token.toNat)

def kvBytes (tokens : List UInt8) : List UInt8 :=
  asBytes "permeant-local-kv-v0\x00" ++
    tokens.zipIdx.flatMap fun entry => bigEndian 4 entry.2 ++ bigEndian 2 entry.1.toNat

/-- A position beyond four bytes overflows. -/
def simulatedKvHash (tokens : List UInt8) : Except PyException String :=
  if tokens.length ≤ 2 ^ 32 then .ok (sha256Bytes host (kvBytes tokens)) else .error .overflowError

def deterministicContinue (prompt : String) (artifactHash : Json P) : String :=
  let digest := host.sha256Hex (asBytes s!"{prompt}\n{pyStr host artifactHash}")
  s!"Deterministic continuation: report verified with digest {String.ofList (digest.toList.take 16)}."

/-- `value[0]` -/
def Json.first : Json P → Except PyException (Json P)
  | .list (item :: _) => .ok item
  | .list [] => .error .indexError
  | .str text =>
    match text.toList with
    | c :: _ => .ok (.str (String.ofList [c]))
    | [] => .error .indexError
  | .dict _ => .error (.keyError "0")
  | _ => .error .typeError

structure ImportEvidence where
  promptByteHash : String
  promptTokenHash : String
  kvHash : String
  continuation : String

/-- The checks that follow the restore: prompt, tokens, simulated KV and continuation. -/
def checkContinuation (manifest graph : Json P) : Except PyException ImportEvidence := do
  let prompt ← reconstructPrompt host graph
  let tokens := tokenizePrompt prompt
  let promptByteHash := sha256Bytes host (asBytes prompt)
  let promptTokenHash := tokenHash host tokens
  let kvHash ← simulatedKvHash host tokens
  let promptEntry ← manifest.item "prompt"
  let byteHash ← promptEntry.item "byte_hash"
  refuseIf (!pyEq host (.str promptByteHash) byteHash) "prompt byte hash mismatch"
  let expectedTokenHash ← promptEntry.item "token_hash"
  refuseIf (!pyEq host (.str promptTokenHash) expectedTokenHash) "prompt token hash mismatch"
  let kvEntry ← manifest.item "kv"
  let expectedKvHash ← kvEntry.item "kv_hash"
  refuseIf (!pyEq host (.str kvHash) expectedKvHash) "simulated KV hash mismatch"
  let artifacts ← manifest.item "artifacts"
  let artifact ← artifacts.first
  let artifactHash ← artifact.item "sha256"
  let continuation := deterministicContinue host prompt artifactHash
  let expected ← manifest.item "deterministic_next_response"
  refuseIf (!pyEq host (.str continuation) expected) "deterministic continuation mismatch"
  pure ⟨promptByteHash, promptTokenHash, kvHash, continuation⟩

end Continuation

section Import

/-- What the package says, after every check that comes before the restore. -/
structure VerifiedPackage (P : Type) where
  manifest : Json P
  graph : Json P
  security : SecurityReport P
  sideEffectAudit : List (AuditEntry P)
  vectorMemory : VectorReport P
  verifiedArtifacts : List (VerifiedArtifact P)

structure ImportResult (P : Type) where
  graphHash : Json P
  artifactHashes : List (Json P × Json P)
  artifactStore : Json P
  verifiedArtifacts : List (VerifiedArtifact P)
  restoredWorkspace : Directory
  restoreReport : List (RestoreEntry P)
  security : SecurityReport P
  sideEffectAudit : List (AuditEntry P)
  vectorMemory : VectorReport P
  evidence : ImportEvidence

def manifestPath (package : Directory) : List String := package.names ++ ["manifest.json"]

/-- The manifest, and the graph that it points to. -/
def readPackage (package : Directory) : AgentIO (Json P × Json P) := do
  let manifest ← readJson host (manifestPath package)
  let graphPath ← liftExcept (manifest.item "graph_path")
  let relative ← liftExcept (safePackageRelativePath graphPath)
  let graph ← readJson host (package.names ++ relative.parts)
  pure (manifest, graph)

/-- The documents of a package, as a disk holds them. -/
def packageAt (package : Directory) (disk : Disk) : Except PyException (Json P × Json P) := do
  let manifest ← jsonAt host disk (manifestPath package)
  let graphPath ← manifest.item "graph_path"
  let relative ← safePackageRelativePath graphPath
  let graph ← jsonAt host disk (package.names ++ relative.parts)
  pure (manifest, graph)

theorem run_readPackage_ok {package : Directory} {world world' : World} {documents : Json P × Json P}
    (h : (readPackage host package).run world = .ok documents world') :
    packageAt host package world.disk = .ok documents ∧ world'.disk = world.disk := by
  obtain ⟨manifest, middle, hmanifest, h⟩ := run_bind_ok_iff.mp h
  obtain ⟨graphPath, hgraphPath, h⟩ := run_liftExcept_bind_ok_iff.mp h
  obtain ⟨relative, hrelative, h⟩ := run_liftExcept_bind_ok_iff.mp h
  obtain ⟨graph, last, hgraph, h⟩ := run_bind_ok_iff.mp h
  cases h
  obtain ⟨hfirst, _, _, rfl⟩ := run_readJson_ok_iff.mp hmanifest
  obtain ⟨hsecond, _, _, rfl⟩ := run_readJson_ok_iff.mp hgraph
  rw [packageAt, except_bind_of_ok hfirst, except_bind_of_ok hgraphPath, except_bind_of_ok hrelative,
    except_bind_of_ok hsecond]
  exact ⟨rfl, rfl⟩

/-- The files that a package is read from. -/
def documentPaths (package : Directory) (manifest : Json P) : List Location :=
  match manifest.item "graph_path" >>= safePackageRelativePath with
  | .ok relative => [manifestPath package, package.names ++ relative.parts]
  | .error _ => []

def packageReads (package : Directory) (manifest : Json P) : List Access :=
  (documentPaths package manifest).map .read

theorem run_readPackage_of_packageAt {package : Directory} (world : World) {manifest graph : Json P}
    (h : packageAt host package world.disk = .ok (manifest, graph)) :
    (readPackage host package).run world =
      .ok (manifest, graph) ⟨world.disk, world.log ++ packageReads package manifest⟩ := by
  obtain ⟨found, hmanifest, h⟩ := except_bind_ok_iff.mp h
  obtain ⟨graphPath, hgraphPath, h⟩ := except_bind_ok_iff.mp h
  obtain ⟨relative, hrelative, h⟩ := except_bind_ok_iff.mp h
  obtain ⟨read, hgraph, h⟩ := except_bind_ok_iff.mp h
  cases h
  have hdots := package.not_mem_append (safeRelativePath_ok hrelative).1.no_dots
  have hdots' : ".." ∉ manifestPath package := by simp [manifestPath, package.no_dots]
  have hreads : packageReads package manifest =
      [.read (manifestPath package), .read (package.names ++ relative.parts)] := by
    rw [packageReads, documentPaths, except_bind_of_ok hgraphPath, hrelative]
    rfl
  have hsecond := run_readJson_of_jsonAt ⟨world.disk, world.log ++ [.read (manifestPath package)]⟩ hdots hgraph
  rw [readPackage, run_bind_of_ok (run_readJson_of_jsonAt world hdots' hmanifest),
    run_liftExcept_bind_of_ok hgraphPath, run_liftExcept_bind_of_ok hrelative, run_bind_of_ok hsecond,
    hreads, List.append_assoc]
  rfl

/-- The checks of the two documents against each other. -/
def checkDocuments (manifest graph : Json P) (targetRuntime : String) :
    Except PyException (SecurityReport P × List (AuditEntry P) × VectorReport P) := do
  let graphHash ← manifest.item "graph_hash"
  verifyGraph host graph graphHash
  let security ← validateSecurityPolicy host graph manifest targetRuntime
  let audit ← auditToolReplaySafety host graph
  rejectUnsafeToolReplay host audit
  let vectorMemory ← validateVectorMemory host graph manifest
  pure (security, audit, vectorMemory)

/-- What each of the checks found. -/
structure DocumentsChecked (manifest graph : Json P) (targetRuntime : String)
    (reports : SecurityReport P × List (AuditEntry P) × VectorReport P) : Prop where
  verified : ∃ graphHash, manifest.item "graph_hash" = .ok graphHash ∧ verifyGraph host graph graphHash = .ok ()
  security : validateSecurityPolicy host graph manifest targetRuntime = .ok reports.1
  audit : auditToolReplaySafety host graph = .ok reports.2.1
  safe : rejectUnsafeToolReplay host reports.2.1 = .ok ()
  vectorMemory : validateVectorMemory host graph manifest = .ok reports.2.2

theorem checkDocuments_ok {host} {manifest graph : Json P} {targetRuntime : String}
    {reports : SecurityReport P × List (AuditEntry P) × VectorReport P}
    (h : checkDocuments host manifest graph targetRuntime = .ok reports) :
    DocumentsChecked host manifest graph targetRuntime reports := by
  obtain ⟨graphHash, hgraphHash, h⟩ := except_bind_ok_iff.mp h
  obtain ⟨hverify, h⟩ := except_bind_unit_ok_iff.mp h
  obtain ⟨security, hsecurity, h⟩ := except_bind_ok_iff.mp h
  obtain ⟨audit, haudit, h⟩ := except_bind_ok_iff.mp h
  obtain ⟨hsafe, h⟩ := except_bind_unit_ok_iff.mp h
  obtain ⟨vectorMemory, hvector, h⟩ := except_bind_ok_iff.mp h
  cases h
  exact ⟨⟨graphHash, hgraphHash, hverify⟩, hsecurity, haudit, hsafe, hvector⟩

def verifyPackage (package : Directory) (targetRuntime : String) : AgentIO (VerifiedPackage P) := do
  let (manifest, graph) ← readPackage host package
  let (security, audit, vectorMemory) ← liftExcept (checkDocuments host manifest graph targetRuntime)
  let verified ← verifyArtifacts host package manifest
  pure ⟨manifest, graph, security, audit, vectorMemory, verified⟩

/-- `(artifact["path"], artifact["sha256"])`, where the later entry of a path is the one that counts. -/
def artifactHash (artifact : Json P) : Except PyException (Json P × Json P) := do
  let path ← artifact.item "path"
  let sha256 ← artifact.item "sha256"
  if path.hashable = true then pure (path, sha256) else .error .typeError

/-- The last checks, and the result. -/
def finishImport (verified : VerifiedPackage P) (workspace : Directory) (report : List (RestoreEntry P)) :
    Except PyException (ImportResult P) := do
  let evidence ← checkContinuation host verified.manifest verified.graph
  let graphHash ← verified.graph.item "graph_hash"
  let artifacts ← manifestArtifacts verified.manifest
  let artifactHashes ← artifacts.mapM artifactHash
  let artifactStore ← verified.manifest.item "artifact_store"
  pure ⟨graphHash, artifactHashes, artifactStore, verified.verifiedArtifacts, workspace, report,
    verified.security, verified.sideEffectAudit, verified.vectorMemory, evidence⟩

/-- The last checks change nothing of what was verified and restored. -/
theorem finishImport_ok {host} {verified : VerifiedPackage P} {workspace : Directory}
    {report : List (RestoreEntry P)} {result : ImportResult P}
    (h : finishImport host verified workspace report = .ok result) :
    result.restoreReport = report ∧ result.restoredWorkspace = workspace ∧
      result.sideEffectAudit = verified.sideEffectAudit := by
  obtain ⟨evidence, _, h⟩ := except_bind_ok_iff.mp h
  obtain ⟨graphHash, _, h⟩ := except_bind_ok_iff.mp h
  obtain ⟨artifacts, _, h⟩ := except_bind_ok_iff.mp h
  obtain ⟨hashes, _, h⟩ := except_bind_ok_iff.mp h
  obtain ⟨store, _, h⟩ := except_bind_ok_iff.mp h
  cases h
  exact ⟨rfl, rfl, rfl⟩

/-- Where the artifacts go when no workspace is named. -/
def workspaceOr (package : Directory) (workspace : Option Directory) : Directory :=
  workspace.getD (package.child "restored-workspace" (by decide))

def importSession (package : Directory) (workspace : Option Directory) (targetRuntime : String) :
    AgentIO (ImportResult P) := do
  let verified ← verifyPackage host package targetRuntime
  let workspace := workspaceOr package workspace
  let report ← restoreArtifacts host package verified.manifest workspace
  liftExcept (finishImport host verified workspace report)

/-- An import of documents that were read. -/
def importDocuments (package : Directory) (workspace : Option Directory) (targetRuntime : String)
    (manifest graph : Json P) : AgentIO (ImportResult P) := do
  let (security, audit, vectorMemory) ← liftExcept (checkDocuments host manifest graph targetRuntime)
  let verified ← verifyArtifacts host package manifest
  let report ← restoreArtifacts host package manifest (workspaceOr package workspace)
  liftExcept (finishImport host ⟨manifest, graph, security, audit, vectorMemory, verified⟩
    (workspaceOr package workspace) report)

theorem importSession_eq (package : Directory) (workspace : Option Directory) (targetRuntime : String) :
    importSession host package workspace targetRuntime = readPackage host package >>= fun documents =>
      importDocuments host package workspace targetRuntime documents.1 documents.2 := by
  simp only [importSession, verifyPackage, importDocuments, bind_assoc, pure_bind]

theorem packageAt_of_files {package : Directory} {disk : Disk} {manifest graph graphPath : Json P}
    {relative : PurePath} (hmanifest : readBytes disk (manifestPath package) = .ok (jsonBytes host manifest))
    (hprintable : Printable host.floatRepr host.parseFloat manifest)
    (hpath : manifest.item "graph_path" = .ok graphPath)
    (hrelative : safePackageRelativePath graphPath = .ok relative)
    (hgraph : readBytes disk (package.names ++ relative.parts) = .ok (jsonBytes host graph))
    (hprintable' : Printable host.floatRepr host.parseFloat graph) :
    packageAt host package disk = .ok (manifest, graph) := by
  have hfirst : jsonAt host disk (manifestPath package) = .ok manifest :=
    jsonAt_ok_iff.mpr ⟨_, hmanifest, parseJson_jsonBytes hprintable⟩
  have hsecond : jsonAt host disk (package.names ++ relative.parts) = .ok graph :=
    jsonAt_ok_iff.mpr ⟨_, hgraph, parseJson_jsonBytes hprintable'⟩
  rw [packageAt, except_bind_of_ok hfirst, except_bind_of_ok hpath, except_bind_of_ok hrelative,
    except_bind_of_ok hsecond]
  rfl

section Runs

variable {package : Directory} {targetRuntime : String} {world world' : World} {host}

theorem sameDisk_readPackage : Keeps SameDisk (readPackage host package) := by
  apply Keeps.bind (sameDisk_readJson _)
  intro manifest
  refine Keeps.bind (Keeps.liftExcept _) ?_
  intro graphPath
  refine Keeps.bind (Keeps.liftExcept _) ?_
  intro relative
  apply Keeps.bind (sameDisk_readJson _)
  intro graph
  exact Keeps.pure _

theorem sameDisk_verifyArtifact (artifact : Json P) : Keeps SameDisk (verifyArtifact host package artifact) := by
  unfold verifyArtifact
  refine Keeps.bind (Keeps.liftExcept _) ?_
  intro _
  refine Keeps.bind (Keeps.liftExcept _) ?_
  intro policy
  split
  next =>
    refine Keeps.bind (Keeps.liftExcept _) ?_
    intro path
    refine Keeps.bind (Keeps.liftExcept _) ?_
    intro sha256
    exact Keeps.pure _
  next =>
    refine Keeps.bind (Keeps.liftExcept _) ?_
    intro blobPath
    refine Keeps.bind (Keeps.liftExcept _) ?_
    intro relative
    apply Keeps.bind (sameDisk_liftDisk _)
    intro found
    refine Keeps.bind (Keeps.liftExcept _) ?_
    intro _
    refine Keeps.bind (Keeps.bind (sameDisk_openRead _) fun _ => Keeps.pure _) ?_
    intro actual
    exact Keeps.liftExcept _

/-- The checks before the restore write nothing. -/
theorem sameDisk_verifyPackage (host : AgentHost P) (package : Directory) (targetRuntime : String) :
    Keeps SameDisk (verifyPackage host package targetRuntime) := by
  apply Keeps.bind sameDisk_readPackage
  intro documents
  refine Keeps.bind (Keeps.liftExcept _) ?_
  intro reports
  refine Keeps.bind (Keeps.bind (Keeps.liftExcept _) ?_) ?_
  · intro artifacts
    exact Keeps.mapM fun artifact _ => sameDisk_verifyArtifact artifact
  · intro verified
    exact Keeps.pure _

/-- The documents that a verified package is about. -/
structure VerifiedAt (host : AgentHost P) (package : Directory) (targetRuntime : String) (disk : Disk)
    (verified : VerifiedPackage P) : Prop where
  documents : packageAt host package disk = .ok (verified.manifest, verified.graph)
  checks : checkDocuments host verified.manifest verified.graph targetRuntime =
    .ok (verified.security, verified.sideEffectAudit, verified.vectorMemory)

theorem run_verifyPackage_ok {verified : VerifiedPackage P}
    (h : (verifyPackage host package targetRuntime).run world = .ok verified world') :
    SameDisk world world' ∧ VerifiedAt host package targetRuntime world.disk verified := by
  have hsame := sameDisk_verifyPackage host package targetRuntime world
  rw [h] at hsame
  obtain ⟨documents, middle, hread, h⟩ := run_bind_ok_iff.mp h
  obtain ⟨reports, hreports, h⟩ := run_liftExcept_bind_ok_iff.mp h
  obtain ⟨found, last, _, h⟩ := run_bind_ok_iff.mp h
  cases h
  exact ⟨hsame, (run_readPackage_ok host hread).1, hreports⟩

/-- An import that returns: verification, then restore, then the last checks. -/
theorem run_importSession_ok_iff {workspace : Option Directory} {result : ImportResult P} :
    (importSession host package workspace targetRuntime).run world = .ok result world' ↔
      ∃ verified middle report, (verifyPackage host package targetRuntime).run world = .ok verified middle ∧
        (restoreArtifacts host package verified.manifest (workspaceOr package workspace)).run middle =
          .ok report world' ∧
        finishImport host verified (workspaceOr package workspace) report = .ok result := by
  rw [importSession, run_bind_ok_iff]
  constructor
  · intro h
    obtain ⟨verified, middle, hverify, h⟩ := h
    obtain ⟨report, last, hrestore, h⟩ := run_bind_ok_iff.mp h
    obtain ⟨hfinish, rfl⟩ := run_liftExcept_ok_iff.mp h
    exact ⟨verified, middle, report, hverify, hrestore, hfinish⟩
  · intro h
    obtain ⟨verified, middle, report, hverify, hrestore, hfinish⟩ := h
    refine ⟨verified, middle, hverify, ?_⟩
    exact run_bind_ok_iff.mpr ⟨report, world', hrestore, run_liftExcept_ok_iff.mpr ⟨hfinish, rfl⟩⟩

end Runs

end Import

end PermeantOS
