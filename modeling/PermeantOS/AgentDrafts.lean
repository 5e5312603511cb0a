import PermeantOS.AgentImport

namespace PermeantOS

variable {P : Type} (host : AgentHost P)

section Drafts

/-- A disk with some directories and files, and nothing else. -/
def diskOf (directories : List Location) (files : List (Location × List UInt8)) : Disk := fun location =>
  if location ∈ directories then some .dir else (files.lookup location).map .file

/-- What the author of a package can choose; the rest of the documents follows from it. -/
structure PackageDraft (P : Type) where
  graphPath : String
  signer : String
  signers : List String
  targets : List String
  tools : List String
  nodes : List (Json P)
  artifact : Fields P
  artifactSha256 : String

variable (draft : PackageDraft P)

def draftBody : Fields P :=
  [("edges", .list []), ("graph_id", .str "graph"), ("lineage", .list []), ("nodes", .list draft.nodes)]

def draftHash : Json P := .str (sha256Json host (.dict (draftBody draft)))

def draftGraph : Json P := .dict (("graph_hash", draftHash host draft) :: draftBody draft)

def draftNames (names : List String) : Json P := .list (names.map .str)

def draftSecurity : Json P :=
  .dict [("policy_version", .str securityPolicyVersion),
    ("signature_algorithm", .str rootSignatureAlgorithm), ("signer_id", .str draft.signer),
    ("trusted_signer_ids", draftNames draft.signers),
    ("graph_root_signature", .str (graphRootSignature host (draftHash host draft) (.str draft.signer))),
    ("policy_hooks", .dict [("allowed_target_runtimes", draftNames draft.targets),
      ("allowed_tools", draftNames draft.tools)]),
    ("provenance_chain", .list [.dict [("graph_id", .str "graph"), ("graph_hash", draftHash host draft)]])]

def draftArtifact : Json P := .dict (("sha256", .str draft.artifactSha256) :: draft.artifact)

/-- A manifest that agrees with the graph, as long as the graph has no messages. -/
def draftManifest : Json P :=
  .dict [("graph_path", .str draft.graphPath), ("graph_hash", draftHash host draft),
    ("security", draftSecurity host draft), ("artifacts", .list [draftArtifact draft]),
    ("prompt", .dict [("byte_hash", .str (sha256Bytes host (asBytes "\n"))),
      ("token_hash", .str (tokenHash host (asBytes "\n")))]),
    ("kv", .dict [("kv_hash", .str (sha256Bytes host (kvBytes (asBytes "\n"))))]),
    ("deterministic_next_response", .str (deterministicContinue host "\n" (.str draft.artifactSha256))),
    ("artifact_store", .str "content-addressed-v0")]

def draftPackage : Directory := ⟨["package"], by decide⟩

/-- A disk with the two documents of a draft, and with more directories and files. -/
def draftDisk (graphLocation : Location) (directories : List Location)
    (files : List (Location × List UInt8)) : Disk :=
  diskOf ([] :: ["package"] :: directories)
    ((["package", "manifest.json"], jsonBytes host (draftManifest host draft)) ::
      (graphLocation, jsonBytes host (draftGraph host draft)) :: files)

def draftWorld : World := ⟨draftDisk host draft ["package", "graph.json"] [] [], []⟩

/-- A package of the trusted signer, with one artifact in it. -/
def blobDraft (graphPath path : String) (nodes : List (Json P)) (content : List UInt8) : PackageDraft P where
  graphPath := graphPath
  signer := trustedSignerId
  signers := [trustedSignerId]
  targets := allowedTargetRuntimes
  tools := allowedToolNames
  nodes := nodes
  artifact := [("path", .str path), ("blob_path", .str "blob"), ("size_bytes", .int content.length)]
  artifactSha256 := sha256Bytes host content

end Drafts

section Checks

theorem pyEq_str_self (text : String) : pyEq host (.str text) (.str text) = true := (pyEq_str_iff host).mpr rfl

theorem refuseIf_pyEq_str_self (text message : String) :
    refuseIf (!pyEq host (.str text) (.str text)) message = .ok () := by
  rw [refuseIf_ok_iff, pyEq_str_self]
  rfl

theorem verifyGraph_draft (draft : PackageDraft P) :
    verifyGraph host (draftGraph host draft) (draftHash host draft) = .ok () := by
  simp [verifyGraph, draftGraph, canonicalGraphHash, draftBody, draftHash, pyEq_str_self, refuseIf,
    Json.get, bind, Except.bind]

theorem all_hashable_names (names : List String) :
    (names.map (Json.str : String → Json P)).all Json.hashable = true := by
  simp [Json.hashable]

theorem inSet_draftNames {name : String} {names : List String} (h : name ∈ names) :
    inSet host (.str name) (draftNames names) = .ok true := by
  have hitems : (draftNames names : Json P).iterate = .ok (names.map .str) := rfl
  have hany : ((names.map (Json.str : String → Json P)).any fun item => pyEq host item (.str name)) = true := by
    rw [List.any_eq_true]
    exact ⟨.str name, List.mem_map_of_mem h, pyEq_str_self host name⟩
  rw [inSet, except_bind_of_ok hitems, all_hashable_names, hany]
  rfl

theorem inSet_null_draftNames (names : List String) :
    ∃ answer, inSet host .null (draftNames names) = .ok answer := by
  have hitems : (draftNames names : Json P).iterate = .ok (names.map .str) := rfl
  rw [inSet, except_bind_of_ok hitems, all_hashable_names]
  exact ⟨_, rfl⟩

theorem checkSignature_draft {draft : PackageDraft P} (h : draft.signer ∈ draft.signers) :
    checkSignature host (draftGraph host draft) (draftSecurity host draft) = .ok (.str draft.signer) := by
  have hversion : (draftSecurity host draft).get "policy_version" = .ok (.str securityPolicyVersion) := rfl
  have halgorithm : (draftSecurity host draft).get "signature_algorithm" = .ok (.str rootSignatureAlgorithm) := rfl
  have hsigner : (draftSecurity host draft).get "signer_id" = .ok (.str draft.signer) := rfl
  have hsigners : (draftSecurity host draft).getOr "trusted_signer_ids" (.list []) =
    .ok (draftNames draft.signers) := rfl
  have hset := inSet_draftNames host h
  have htrusted : refuseIf (!true) "graph root signer is not trusted" = .ok () := rfl
  have hhash : (draftGraph host draft).item "graph_hash" = .ok (draftHash host draft) := rfl
  have hsignature : (draftSecurity host draft).get "graph_root_signature" =
    .ok (.str (graphRootSignature host (draftHash host draft) (.str draft.signer))) := rfl
  rw [checkSignature, except_bind_of_ok hversion, except_bind_of_ok (refuseIf_pyEq_str_self host _ _),
    except_bind_of_ok halgorithm, except_bind_of_ok (refuseIf_pyEq_str_self host _ _), except_bind_of_ok hsigner,
    except_bind_of_ok hsigners, except_bind_of_ok hset, except_bind_of_ok htrusted, except_bind_of_ok hhash,
    except_bind_of_ok hsignature, except_bind_of_ok (refuseIf_pyEq_str_self host _ _)]
  rfl

theorem checkProvenance_draft (draft : PackageDraft P) :
    checkProvenance host (draftGraph host draft) (draftSecurity host draft) = .ok 1 := by
  simp [checkProvenance, draftSecurity, draftGraph, draftBody, draftHash, Json.getOr, Json.get, List.lookup_cons,
    Json.truthy, latestEvent, pyEq_str_self, refuseIf, bind, Except.bind]
  rfl

theorem nodesOfType_draft (kind : String) (draft : PackageDraft P) :
    nodesOfType host kind (draftGraph host draft) = selectNodes host kind draft.nodes := rfl

/-- The attestation of a draft fits its graph; what is left to check is what the package holds. -/
theorem validateSecurityPolicy_draft (draft : PackageDraft P) (targetRuntime : String)
    (hsigner : draft.signer ∈ draft.signers)
    (hcontents : checkContents host (draftGraph host draft) (draftManifest host draft)
      (draftSecurity host draft) targetRuntime = .ok ()) :
    validateSecurityPolicy host (draftGraph host draft) (draftManifest host draft) targetRuntime =
      .ok ⟨.str draft.signer, targetRuntime, 1⟩ := by
  have hget : (draftManifest host draft).get "security" = .ok (draftSecurity host draft) := rfl
  have htruthy : refuseIf (!(draftSecurity host draft).truthy host.toAdapterHost)
    "missing security attestation" = .ok () := rfl
  rw [validateSecurityPolicy, except_bind_of_ok hget, except_bind_of_ok htruthy,
    except_bind_of_ok (checkSignature_draft host hsigner), except_bind_of_ok hcontents,
    except_bind_of_ok (checkProvenance_draft host draft)]
  rfl

theorem checkDocuments_draft (draft : PackageDraft P) (targetRuntime : String)
    (hsigner : draft.signer ∈ draft.signers)
    (hcontents : checkContents host (draftGraph host draft) (draftManifest host draft)
      (draftSecurity host draft) targetRuntime = .ok ())
    (haudit : (auditToolReplaySafety host (draftGraph host draft) >>= rejectUnsafeToolReplay host) = .ok ()) :
    ∃ reports, checkDocuments host (draftManifest host draft) (draftGraph host draft) targetRuntime =
      .ok reports := by
  have hhash : (draftManifest host draft).item "graph_hash" = .ok (draftHash host draft) := rfl
  have hvector : validateVectorMemory host (draftGraph host draft) (draftManifest host draft) =
    .ok ⟨"not_present", []⟩ := rfl
  obtain ⟨audit, haudited, hreject⟩ := except_bind_ok_iff.mp haudit
  rw [checkDocuments, except_bind_of_ok hhash, except_bind_of_ok (verifyGraph_draft host draft),
    except_bind_of_ok (validateSecurityPolicy_draft host draft targetRuntime hsigner hcontents),
    except_bind_of_ok haudited, except_bind_of_ok hreject, except_bind_of_ok hvector]
  exact ⟨_, rfl⟩

theorem findForbiddenItems_names (path : String) (index : Nat) (names : List String) :
    findForbiddenItems path index (names.map (Json.str : String → Json P)) = [] := by
  induction names generalizing index with
  | nil => rfl
  | cons name names ih => exact ih (index + 1)

theorem printableItems_names (names : List String) :
    PrintableItems host.floatRepr host.parseFloat (names.map .str) := by
  induction names with
  | nil => trivial
  | cons name names ih => exact ⟨trivial, ih⟩

end Checks

section Blobs

variable {graphPath path : String} {nodes : List (Json P)} {content : List UInt8} {disk : Disk}
  (log : List Access)

/-- The entry of the artifact. -/
def blobArtifact (path : String) (content : List UInt8) : Json P :=
  .dict [("sha256", .str (sha256Bytes host content)), ("path", .str path), ("blob_path", .str "blob"),
    ("size_bytes", .int content.length)]

theorem sha256Bytes_ne_empty (data : List UInt8) : sha256Bytes host data ≠ "" := by
  intro h
  have hlist := congrArg String.toList h
  simp [sha256Bytes] at hlist

theorem validateArtifactManifestEntry_blobDraft :
    validateArtifactManifestEntry host (blobArtifact host path content) = .ok () := by
  simp [validateArtifactManifestEntry, blobArtifact, Json.getOr, Json.get, List.lookup_cons, Json.truthy,
    sha256Bytes_ne_empty, pyEq, refuseIf, bind, Except.bind]

theorem run_fileSha256AndSize_of_readBytes {path : List String} (hdots : ".." ∉ path)
    (h : readBytes disk path = .ok content) :
    (fileSha256AndSize host path).run ⟨disk, log⟩ = .ok (sha256Bytes host content, content.length)
      ⟨disk, log ++ [.read path]⟩ := by
  obtain ⟨location, hresolve, hfile⟩ := readBytes_ok_iff.mp h
  cases resolve_of_not_mem hdots hresolve
  rw [fileSha256AndSize, run_bind_of_ok (run_openRead_ok_iff.mpr ⟨path, hresolve, hfile, rfl⟩)]
  rfl

/-- An artifact whose blob is where its entry says is copied to its target. -/
theorem run_restoreArtifact_of_readBytes {artifact policy path : Json P} {package workspace : Directory}
    {source target : PurePath} {status : RestoreStatus} {disk' : Disk}
    (hpolicy : artifact.getOr "restore_policy" (.str "required") = .ok policy)
    (hpackaged : pyEq host policy (.str "external_rebind") = false)
    (hpaths : artifactPaths artifact = .ok (source, target)) (hpath : artifact.item "path" = .ok path)
    (hread : readBytes disk (package.names ++ source.parts) = .ok content)
    (hstatus : restoreStatus host artifact policy (sha256Bytes host content) = .ok status)
    (hdirs : makeDirs disk (restoreTarget workspace target status).dropLast = .ok disk')
    (hresolve : resolve disk' (restoreTarget workspace target status) =
      .ok (restoreTarget workspace target status))
    (hdir : disk' (restoreTarget workspace target status) ≠ some .dir)
    (hne : package.names ++ source.parts ≠ restoreTarget workspace target status) :
    ∃ log', (restoreArtifact host package workspace artifact).run ⟨disk, log⟩ =
      .ok ⟨path, some (reportedTarget workspace target status), status, policy,
          .str (sha256Bytes host content), some content.length⟩
        ⟨Function.update disk' (restoreTarget workspace target status) (some (.file content)), log'⟩ := by
  have hdots := package.not_mem_append (artifactPaths_dots hpaths).1
  have hcopy := run_copyFile_of_readBytes host (log ++ [.read (package.names ++ source.parts)]) hread hdots hdirs
    hresolve hdir hne
  rw [restoreArtifact, run_liftExcept_bind_of_ok hpolicy, hpackaged]
  simp only [Bool.false_eq_true, if_false]
  rw [run_liftExcept_bind_of_ok hpaths]
  dsimp only
  rw [run_bind_of_ok (run_fileSha256AndSize_of_readBytes host log hdots hread)]
  dsimp only
  rw [run_liftExcept_bind_of_ok hstatus, run_bind_of_ok hcopy]
  dsimp only
  rw [run_liftExcept_bind_of_ok hpath]
  exact ⟨_, rfl⟩

theorem checkBlob_blobDraft :
    checkBlob host (blobArtifact host path content) (sha256Bytes host content) content.length =
      .ok (.packaged (.str path) (.str "blob") (sha256Bytes host content)) := by
  have hsize : pyEq host (.int content.length) (.int content.length) = true := by
    simp [pyEq, numbersEq, Json.asInt]
  simp [checkBlob, blobArtifact, Json.item, List.lookup_cons, pyEq_str_self, hsize, refuseEntry, bind,
    Except.bind, pure, Except.pure]

theorem run_verifyArtifacts_blobDraft (hblob : readBytes disk ["package", "blob"] = .ok content) :
    (verifyArtifacts host draftPackage
      (draftManifest host (blobDraft host graphPath path nodes content))).run ⟨disk, log⟩ =
      .ok [.packaged (.str path) (.str "blob") (sha256Bytes host content)]
        ⟨disk, log ++ [.read ["package", "blob"]]⟩ := by
  have hartifacts : manifestArtifacts (draftManifest host (blobDraft host graphPath path nodes content)) =
    .ok [blobArtifact host path content] := rfl
  have hpolicy : (blobArtifact host path content).get "restore_policy" = .ok .null := rfl
  have hblobPath : (blobArtifact host path content).item "blob_path" = .ok (.str "blob") := rfl
  have hrelative : safePackageRelativePath (.str "blob" : Json P) = .ok ⟨"", ["blob"]⟩ := rfl
  have hfound (blob : Json P) : refuseIf (!true) s!"missing artifact blob: {pyStr host blob}" = .ok () := rfl
  have hlocation : draftPackage.names ++ PurePath.parts ⟨"", ["blob"]⟩ = ["package", "blob"] := rfl
  have hdisk : (liftDisk fun disk => .ok (fileExists disk ["package", "blob"]) : AgentIO Bool).run
      ⟨disk, log⟩ = .ok true ⟨disk, log⟩ := by
    rw [liftDisk, run_get_bind, fileExists_of_readBytes hblob]
    rfl
  have hexternal : pyEq host .null (.str "external_rebind") = false := rfl
  have hrun : (verifyArtifact host draftPackage (blobArtifact host path content)).run ⟨disk, log⟩ =
      .ok (.packaged (.str path) (.str "blob") (sha256Bytes host content))
        ⟨disk, log ++ [.read ["package", "blob"]]⟩ := by
    rw [verifyArtifact, run_liftExcept_bind_of_ok (validateArtifactManifestEntry_blobDraft host),
      run_liftExcept_bind_of_ok hpolicy, hexternal]
    simp only [Bool.false_eq_true, if_false]
    rw [run_liftExcept_bind_of_ok hblobPath, run_liftExcept_bind_of_ok hrelative, hlocation,
      run_bind_of_ok hdisk, run_liftExcept_bind_of_ok (hfound _),
      run_bind_of_ok (run_fileSha256AndSize_of_readBytes host log (by decide) hblob), checkBlob_blobDraft]
    rfl
  rw [verifyArtifacts, run_liftExcept_bind_of_ok hartifacts, List.mapM_cons, run_bind_of_ok hrun]
  rfl

/-- The report of the one artifact. -/
def blobEntry (path : String) (target : PurePath) (content : List UInt8) : RestoreEntry P :=
  ⟨.str path, some target, .restored, .str "required", .str (sha256Bytes host content), some content.length⟩

theorem run_restoreArtifacts_blobDraft {workspace : Directory} {target : PurePath} {location : Location}
    {disk' : Disk} (htarget : safeWorkspaceRelativePath (.str path : Json P) = .ok target)
    (hlocation : workspace.names ++ target.parts = location)
    (hblob : readBytes disk ["package", "blob"] = .ok content)
    (hdirs : makeDirs disk location.dropLast = .ok disk') (hresolve : resolve disk' location = .ok location)
    (hdir : disk' location ≠ some .dir) (hne : ["package", "blob"] ≠ location) :
    ∃ log', (restoreArtifacts host draftPackage
      (draftManifest host (blobDraft host graphPath path nodes content)) workspace).run ⟨disk, log⟩ =
        .ok [blobEntry host path target content]
          ⟨Function.update disk' location (some (.file content)), log'⟩ := by
  have hartifacts : manifestArtifacts (draftManifest host (blobDraft host graphPath path nodes content)) =
    .ok [blobArtifact host path content] := rfl
  have hpolicy : (blobArtifact host path content).getOr "restore_policy" (.str "required") =
    .ok (.str "required") := rfl
  have hexternal : pyEq host (.str "required") (.str "external_rebind") = false := rfl
  have hpaths : artifactPaths (blobArtifact host path content) = .ok (⟨"", ["blob"]⟩, target) := by
    have hblobPath : (blobArtifact host path content).item "blob_path" = .ok (.str "blob") := rfl
    have hrelative : safePackageRelativePath (.str "blob" : Json P) = .ok ⟨"", ["blob"]⟩ := rfl
    have hpath : (blobArtifact host path content).item "path" = .ok (.str path) := rfl
    have htargetPath : (blobArtifact host path content).getOr "target_path" (.str path) =
      .ok (.str path) := rfl
    exact artifactPaths_ok_iff.mpr ⟨_, _, _, hblobPath, hrelative, hpath, htargetPath, htarget⟩
  have hstatus : restoreStatus host (blobArtifact host path content) (.str "required")
      (sha256Bytes host content) = .ok .restored := by
    simp [restoreStatus, blobArtifact, Json.item, pyEq_str_self, bind, Except.bind, pure, Except.pure]
  subst hlocation
  have hread : readBytes disk (draftPackage.names ++ ["blob"]) = .ok content := hblob
  obtain ⟨log', hrun⟩ := run_restoreArtifact_of_readBytes host log hpolicy hexternal hpaths rfl hread hstatus hdirs
    hresolve hdir hne
  refine ⟨log', ?_⟩
  rw [restoreArtifacts, run_liftExcept_bind_of_ok hartifacts, List.mapM_cons, run_bind_of_ok hrun]
  rfl

end Blobs

section Continuation

/-- The entries of a manifest that let the session of a prompt go on. -/
structure ManifestContinues (manifest : Json P) (prompt : String) : Prop where
  promptHashes : ∃ entry, manifest.item "prompt" = .ok entry ∧
    entry.item "byte_hash" = .ok (.str (sha256Bytes host (asBytes prompt))) ∧
    entry.item "token_hash" = .ok (.str (tokenHash host (asBytes prompt)))
  kvHash : ∃ entry, manifest.item "kv" = .ok entry ∧
    entry.item "kv_hash" = .ok (.str (sha256Bytes host (kvBytes (asBytes prompt))))
  response : ∃ artifacts artifact sha256, manifest.item "artifacts" = .ok artifacts ∧
    artifacts.first = .ok artifact ∧ artifact.item "sha256" = .ok sha256 ∧
    manifest.item "deterministic_next_response" = .ok (.str (deterministicContinue host prompt sha256))

variable {host} {manifest graph : Json P} {prompt : String}

theorem ManifestContinues.checkContinuation (h : ManifestContinues host manifest prompt)
    (hprompt : reconstructPrompt host graph = .ok prompt) (hshort : (asBytes prompt).length ≤ 2 ^ 32) :
    ∃ evidence, PermeantOS.checkContinuation host manifest graph = .ok evidence := by
  have hkv : simulatedKvHash host (tokenizePrompt prompt) = .ok (sha256Bytes host (kvBytes (asBytes prompt))) :=
    if_pos hshort
  obtain ⟨promptEntry, hpromptEntry, hbytes, htokens⟩ := h.promptHashes
  obtain ⟨kvEntry, hkvEntry, hkvHash⟩ := h.kvHash
  obtain ⟨artifacts, artifact, sha256, hartifacts, hfirst, hsha256, hresponse⟩ := h.response
  rw [PermeantOS.checkContinuation, except_bind_of_ok hprompt]
  dsimp only
  rw [except_bind_of_ok hkv, except_bind_of_ok hpromptEntry, except_bind_of_ok hbytes,
    except_bind_of_ok (refuseIf_pyEq_str_self host _ _), except_bind_of_ok htokens, tokenizePrompt,
    except_bind_of_ok (refuseIf_pyEq_str_self host _ _), except_bind_of_ok hkvEntry, except_bind_of_ok hkvHash,
    except_bind_of_ok (refuseIf_pyEq_str_self host _ _), except_bind_of_ok hartifacts, except_bind_of_ok hfirst,
    except_bind_of_ok hsha256, except_bind_of_ok hresponse, except_bind_of_ok (refuseIf_pyEq_str_self host _ _)]
  exact ⟨_, rfl⟩

/-- Where the session can go on, the last checks need only the fields that they report. -/
theorem ManifestContinues.finishImport (verified : VerifiedPackage P) {hash store : Json P} {artifacts : List (Json P)}
    {hashes : List (Json P × Json P)} (h : ManifestContinues host verified.manifest prompt)
    (hprompt : reconstructPrompt host verified.graph = .ok prompt) (hshort : (asBytes prompt).length ≤ 2 ^ 32)
    (hhash : verified.graph.item "graph_hash" = .ok hash)
    (hartifacts : manifestArtifacts verified.manifest = .ok artifacts)
    (hhashes : artifacts.mapM artifactHash = .ok hashes)
    (hstore : verified.manifest.item "artifact_store" = .ok store) (workspace : Directory)
    (report : List (RestoreEntry P)) :
    ∃ result, PermeantOS.finishImport host verified workspace report = .ok result := by
  obtain ⟨evidence, hevidence⟩ := h.checkContinuation hprompt hshort
  rw [PermeantOS.finishImport, except_bind_of_ok hevidence, except_bind_of_ok hhash, except_bind_of_ok hartifacts,
    except_bind_of_ok hhashes, except_bind_of_ok hstore]
  exact ⟨_, rfl⟩

variable (host)

theorem reconstructPrompt_draft {draft : PackageDraft P} (hmessages : messagesOf host draft.nodes = .ok []) :
    reconstructPrompt host (draftGraph host draft) = .ok "\n" := by
  have hnodes : (draftGraph host draft).item "nodes" = .ok (.list draft.nodes) := rfl
  have hitems : (Json.list draft.nodes).iterate = .ok draft.nodes := rfl
  rw [reconstructPrompt, except_bind_of_ok hnodes, except_bind_of_ok hitems, except_bind_of_ok hmessages]
  rfl

theorem continues_draft (draft : PackageDraft P) : ManifestContinues host (draftManifest host draft) "\n" :=
  ⟨⟨_, rfl, rfl, rfl⟩, ⟨_, rfl, rfl⟩, ⟨_, draftArtifact draft, .str draft.artifactSha256, rfl, rfl, rfl, rfl⟩⟩

theorem finishImport_draft (draft : PackageDraft P) (hmessages : messagesOf host draft.nodes = .ok [])
    {hash : Json P × Json P} (hhash : artifactHash (draftArtifact draft) = .ok hash)
    (reports : SecurityReport P × List (AuditEntry P) × VectorReport P)
    (verified : List (VerifiedArtifact P)) (workspace : Directory) (report : List (RestoreEntry P)) :
    ∃ result : ImportResult P, finishImport host ⟨draftManifest host draft, draftGraph host draft,
      reports.1, reports.2.1, reports.2.2, verified⟩ workspace report = .ok result ∧
        result.restoreReport = report ∧ result.restoredWorkspace = workspace := by
  have hgraphHash : (draftGraph host draft).item "graph_hash" = .ok (draftHash host draft) := rfl
  have hartifacts : manifestArtifacts (draftManifest host draft) = .ok [draftArtifact draft] := rfl
  have hhashes : [draftArtifact draft].mapM artifactHash = .ok [hash] := by
    rw [List.mapM_cons, except_bind_of_ok hhash]
    rfl
  have hstore : (draftManifest host draft).item "artifact_store" = .ok (.str "content-addressed-v0") := rfl
  obtain ⟨result, hresult⟩ := ManifestContinues.finishImport ⟨draftManifest host draft, draftGraph host draft,
    reports.1, reports.2.1, reports.2.2, verified⟩ (continues_draft host draft) (reconstructPrompt_draft host hmessages)
    (by decide) hgraphHash hartifacts hhashes hstore workspace report
  obtain ⟨hreport, hworkspace, _⟩ := finishImport_ok hresult
  exact ⟨result, hresult, hreport, hworkspace⟩

end Continuation

/-- The import of a draft whose artifact can be copied comes down to the last checks. -/
theorem run_importSession_blobDraft {graphPath path : String} {nodes : List (Json P)} {content : List UInt8}
    {targetRuntime : String} (workspace : Option Directory) (target : PurePath) (location : Location)
    {world : World} {disk' : Disk} {reports : SecurityReport P × List (AuditEntry P) × VectorReport P}
    (hpackage : packageAt host draftPackage world.disk =
      .ok (draftManifest host (blobDraft host graphPath path nodes content),
        draftGraph host (blobDraft host graphPath path nodes content)))
    (hreports : checkDocuments host (draftManifest host (blobDraft host graphPath path nodes content))
      (draftGraph host (blobDraft host graphPath path nodes content)) targetRuntime = .ok reports)
    (hblob : readBytes world.disk ["package", "blob"] = .ok content)
    (htarget : safeWorkspaceRelativePath (.str path : Json P) = .ok target)
    (hlocation : (workspaceOr draftPackage workspace).names ++ target.parts = location)
    (hdirs : makeDirs world.disk location.dropLast = .ok disk')
    (hresolve : resolve disk' location = .ok location) (hdir : disk' location ≠ some .dir)
    (hne : ["package", "blob"] ≠ location) :
    ∃ log', (importSession host draftPackage workspace targetRuntime).run world =
      (liftExcept (finishImport host ⟨draftManifest host (blobDraft host graphPath path nodes content),
        draftGraph host (blobDraft host graphPath path nodes content), reports.1, reports.2.1, reports.2.2,
          [.packaged (.str path) (.str "blob") (sha256Bytes host content)]⟩
          (workspaceOr draftPackage workspace) [blobEntry host path target content]) : AgentIO _).run
        ⟨Function.update disk' location (some (.file content)), log'⟩ := by
  obtain ⟨log', hrestore⟩ := run_restoreArtifacts_blobDraft host
    (world.log ++ packageReads draftPackage (draftManifest host (blobDraft host graphPath path nodes content)) ++
      [.read ["package", "blob"]]) htarget hlocation hblob hdirs hresolve hdir hne
  refine ⟨log', ?_⟩
  rw [importSession_eq, run_bind_of_ok (run_readPackage_of_packageAt host world hpackage)]
  dsimp only
  rw [importDocuments, run_liftExcept_bind_of_ok hreports]
  dsimp only
  rw [run_bind_of_ok (run_verifyArtifacts_blobDraft host _ hblob), run_bind_of_ok hrestore]

section Plain

/-- A package whose graph is empty, with three bytes for `reports/a`. -/
def plainDraft (nodes : List (Json Int)) : PackageDraft Int :=
  blobDraft decimalHost "graph.json" "reports/a" nodes [1, 2, 3]

def plainWorld (nodes : List (Json Int)) : World :=
  ⟨draftDisk decimalHost (plainDraft nodes) ["package", "graph.json"] []
    [(["package", "blob"], [1, 2, 3])], []⟩

def plainWorkspace : Directory := ⟨["workspace"], by decide⟩

theorem printable_draftGraph (draft : PackageDraft P)
    (h : PrintableItems host.floatRepr host.parseFloat draft.nodes) :
    Printable host.floatRepr host.parseFloat (draftGraph host draft) := by
  simp [draftGraph, draftBody, draftHash, Printable, PrintableFields, PrintableItems, h]

theorem printable_blobManifest (graphPath path : String) (nodes : List (Json P)) (content : List UInt8) :
    Printable host.floatRepr host.parseFloat
      (draftManifest host (blobDraft host graphPath path nodes content)) := by
  simp [draftManifest, draftHash, draftSecurity, draftNames, draftArtifact, blobDraft, Printable,
    PrintableFields, PrintableItems, allowedTargetRuntimes, allowedToolNames]

theorem packageAt_plain {nodes : List (Json Int)}
    (h : PrintableItems decimalHost.floatRepr decimalHost.parseFloat nodes) :
    packageAt decimalHost draftPackage (plainWorld nodes).disk =
      .ok (draftManifest decimalHost (plainDraft nodes), draftGraph decimalHost (plainDraft nodes)) := by
  have hrelative : safePackageRelativePath (.str "graph.json" : Json Int) = .ok ⟨"", ["graph.json"]⟩ := rfl
  exact packageAt_of_files decimalHost rfl (printable_blobManifest decimalHost _ _ _ _) rfl hrelative rfl
    (printable_draftGraph decimalHost (plainDraft nodes) h)

/-- What the import of the plain package leaves. -/
def plainImported (nodes : List (Json Int)) : Disk :=
  Function.update (Function.update (Function.update (plainWorld nodes).disk ["workspace"] (some .dir))
    ["workspace", "reports"] (some .dir)) ["workspace", "reports", "a"] (some (.file [1, 2, 3]))

theorem run_importSession_plain {nodes : List (Json Int)}
    (hnodes : PrintableItems decimalHost.floatRepr decimalHost.parseFloat nodes)
    (hcontents : checkContents decimalHost (draftGraph decimalHost (plainDraft nodes))
      (draftManifest decimalHost (plainDraft nodes)) (draftSecurity decimalHost (plainDraft nodes))
        runtimeId = .ok ())
    (haudit : (auditToolReplaySafety decimalHost (draftGraph decimalHost (plainDraft nodes)) >>=
      rejectUnsafeToolReplay decimalHost) = .ok ())
    (hmessages : messagesOf decimalHost nodes = .ok []) :
    ∃ result log, (importSession decimalHost draftPackage (some plainWorkspace) runtimeId).run
        (plainWorld nodes) = .ok result ⟨plainImported nodes, log⟩ ∧
      result.restoreReport = [blobEntry decimalHost "reports/a" ⟨"", ["reports", "a"]⟩ [1, 2, 3]] ∧
      result.restoredWorkspace = plainWorkspace := by
  obtain ⟨reports, hreports⟩ := checkDocuments_draft decimalHost (plainDraft nodes) runtimeId
    List.mem_cons_self hcontents haudit
  have htarget : safeWorkspaceRelativePath (.str "reports/a" : Json Int) = .ok ⟨"", ["reports", "a"]⟩ := rfl
  have hdirs : makeDirs (plainWorld nodes).disk ["workspace", "reports"] =
    .ok (Function.update (Function.update (plainWorld nodes).disk ["workspace"] (some .dir))
      ["workspace", "reports"] (some .dir)) := rfl
  obtain ⟨log, hrun⟩ := run_importSession_blobDraft decimalHost (some plainWorkspace) ⟨"", ["reports", "a"]⟩
    ["workspace", "reports", "a"] (packageAt_plain hnodes) hreports rfl htarget rfl hdirs rfl
    (by intro h; cases h) (by decide)
  have hhash : artifactHash (draftArtifact (plainDraft nodes)) =
    .ok (.str "reports/a", .str (sha256Bytes decimalHost [1, 2, 3])) := rfl
  obtain ⟨result, hfinish, hreport, hworkspace⟩ := finishImport_draft decimalHost (plainDraft nodes) hmessages hhash
    reports
    [.packaged (.str "reports/a") (.str "blob") (sha256Bytes decimalHost [1, 2, 3])] plainWorkspace
    [blobEntry decimalHost "reports/a" ⟨"", ["reports", "a"]⟩ [1, 2, 3]]
  exact ⟨result, log, hrun.trans (run_liftExcept_ok_iff.mpr ⟨hfinish, rfl⟩), hreport, hworkspace⟩

end Plain

end PermeantOS
