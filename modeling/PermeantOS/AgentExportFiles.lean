import PermeantOS.AgentExportChecks

namespace PermeantOS

variable {P : Type} {host : AgentHost P}

section BlobPaths

/-- Digests are written in hexadecimal digits. -/
def HexDigests (host : AgentHost P) : Prop :=
  ∀ data, ∀ c ∈ (host.sha256Hex data).toList, c ∈ "0123456789abcdef".toList

variable {content : List UInt8} {path : String}

theorem removePrefix_sha256Bytes : removePrefix (sha256Bytes host content) "sha256:" = host.sha256Hex content := by
  have htext : (sha256Bytes host content).toList = "sha256:".toList ++ (host.sha256Hex content).toList :=
    String.toList_append
  rw [removePrefix, htext, if_pos (List.isPrefixOf_iff_prefix.mpr (List.prefix_append _ _)), List.drop_left,
    String.ofList_toList]

theorem contentAddressedBlobPath_eq : contentAddressedBlobPath (sha256Bytes host content) path =
    "artifacts/sha256/" ++ String.ofList ((host.sha256Hex content).toList.take 2) ++ "/" ++
      host.sha256Hex content ++ "/" ++ pathName path := by
  unfold contentAddressedBlobPath
  rw [removePrefix_sha256Bytes]
  rfl

theorem mem_parts_of_hex {text part : String} (h : ∀ c ∈ text.toList, c ∈ "0123456789abcdef".toList)
    (hpart : part ∈ (PurePath.parse text).parts) : part ≠ ".." := by
  have hslash : '/' ∉ text.toList := by
    intro hmem
    exact absurd (h _ hmem) (by decide)
  rw [PurePath.eq_of_mem_parts hslash hpart]
  rintro rfl
  exact absurd (h '.' (by decide)) (by decide)

theorem hasNull_of_hex {text : String} (h : ∀ c ∈ text.toList, c ∈ "0123456789abcdef".toList) :
    hasNull (PurePath.parse text).parts = false := by
  have hslash : '/' ∉ text.toList := by
    intro hmem
    exact absurd (h _ hmem) (by decide)
  rw [hasNull, List.any_eq_false]
  intro part hpart
  rw [PurePath.eq_of_mem_parts hslash hpart, List.contains_iff_mem]
  intro hmem
  exact absurd (h _ hmem) (by decide)

theorem mem_parts_of_pathName {part : String} (hdots : ".." ∉ (PurePath.parse path).parts)
    (hpart : part ∈ (PurePath.parse (pathName path)).parts) : part ≠ ".." := by
  rw [pathName] at hpart
  cases hlast : (PurePath.parse path).parts.getLast? with
  | none =>
    have hempty : (PurePath.parse "").parts = [] := by decide
    rw [hlast, Option.getD_none, hempty] at hpart
    cases hpart
  | some last =>
    rw [hlast, Option.getD_some] at hpart
    have hmem := List.mem_of_getLast? hlast
    rw [PurePath.eq_of_mem_parts (PurePath.slash_not_mem hmem) hpart]
    rintro rfl
    exact hdots hmem

theorem blobPath_parts_eq (content : List UInt8) (path : String) :
    (PurePath.parse (contentAddressedBlobPath (sha256Bytes host content) path)).parts =
      ["artifacts", "sha256"] ++ (PurePath.parse (String.ofList ((host.sha256Hex content).toList.take 2))).parts ++
        (PurePath.parse (host.sha256Hex content)).parts ++ (PurePath.parse (pathName path)).parts := by
  have hstem : "artifacts/sha256/" = "artifacts/sha256" ++ "/" := by decide
  have hfirst : (PurePath.parse "artifacts/sha256").parts = ["artifacts", "sha256"] := by decide
  rw [contentAddressedBlobPath_eq, PurePath.parts_slash, PurePath.parts_slash, hstem, PurePath.parts_slash, hfirst]

theorem hexDigits_take {text : String} (h : ∀ c ∈ text.toList, c ∈ "0123456789abcdef".toList) (count : Nat) :
    ∀ c ∈ (String.ofList (text.toList.take count)).toList, c ∈ "0123456789abcdef".toList := by
  intro c hc
  rw [String.toList_ofList] at hc
  exact h c (List.mem_of_mem_take hc)

/-- The blob of an artifact lies in a directory of its own. -/
theorem blobPath_parts (hhex : HexDigests host) (content : List UInt8) (hdots : ".." ∉ (PurePath.parse path).parts) :
    ∃ rest, (PurePath.parse (contentAddressedBlobPath (sha256Bytes host content) path)).parts =
      "artifacts" :: rest ∧ ".." ∉ rest := by
  have hdigest := hhex content
  refine ⟨_, blobPath_parts_eq content path, ?_⟩
  simp only [List.append_eq, List.mem_cons, List.mem_append, List.not_mem_nil, or_false, not_or]
  exact ⟨⟨⟨by decide, fun hmem => mem_parts_of_hex (hexDigits_take hdigest 2) hmem rfl⟩,
    fun hmem => mem_parts_of_hex hdigest hmem rfl⟩, fun hmem => mem_parts_of_pathName hdots hmem rfl⟩

/-- Only the name of an artifact can bring a null character into the path of its blob. -/
theorem hasNull_blobPath (hhex : HexDigests host) (content : List UInt8) (path : String) :
    hasNull (PurePath.parse (contentAddressedBlobPath (sha256Bytes host content) path)).parts =
      hasNull (PurePath.parse (pathName path)).parts := by
  have hdigest := hhex content
  rw [blobPath_parts_eq, hasNull_append, hasNull_append, hasNull_append, hasNull_of_hex hdigest,
    hasNull_of_hex (hexDigits_take hdigest 2)]
  rfl

theorem safePackageRelativePath_blobPath (hhex : HexDigests host) (content : List UInt8)
    (hdots : ".." ∉ (PurePath.parse path).parts) :
    safePackageRelativePath (.str (contentAddressedBlobPath (sha256Bytes host content) path) : Json P) =
      .ok (PurePath.parse (contentAddressedBlobPath (sha256Bytes host content) path)) := by
  obtain ⟨rest, hparts, hrest⟩ := blobPath_parts hhex content hdots
  have hroot : (PurePath.parse (contentAddressedBlobPath (sha256Bytes host content) path)).isAbsolute = false := by
    have htext : (contentAddressedBlobPath (sha256Bytes host content) path).toList = 'a' ::
        ("rtifacts/sha256/" ++ String.ofList ((host.sha256Hex content).toList.take 2) ++ "/" ++
          host.sha256Hex content ++ "/" ++ pathName path).toList := by
      rw [contentAddressedBlobPath_eq]
      simp only [String.toList_append]
      rfl
    exact PurePath.isAbsolute_of_head htext (by decide)
  rw [safePackageRelativePath, safeRelativePath]
  simp [hroot, hparts, hrest]

end BlobPaths

section Entries

/-- What the manifest says of an artifact whose bytes are in the package. -/
structure PackagedEntry (host : AgentHost P) (artifact : Json P) (path blobPath : String) (content : List UInt8) :
    Prop where
  path_eq : artifact.item "path" = .ok (.str path)
  target_eq : artifact.item "target_path" = .ok (.str path)
  policy_eq : artifact.item "restore_policy" = .ok (.str "required")
  sha256_eq : artifact.item "sha256" = .ok (.str (sha256Bytes host content))
  size_eq : artifact.item "size_bytes" = .ok (.int content.length)
  blob_eq : artifact.item "blob_path" = .ok (.str blobPath)

/-- What the manifest says of an artifact that stays outside. -/
structure ExternalEntry (artifact : Json P) (path sha256 : String) : Prop where
  path_eq : artifact.item "path" = .ok (.str path)
  policy_eq : artifact.item "restore_policy" = .ok (.str "external_rebind")
  sha256_eq : artifact.item "sha256" = .ok (.str sha256)
  blob_eq : artifact.get "blob_path" = .ok .null
  rebind_eq : artifact.get "rebind_required" = .ok (.bool true)

variable {package workspace : Directory} {artifact : Json P} {path blobPath : String} {content : List UInt8}
  {disk : Disk} {source target : PurePath}

theorem run_verifyArtifact_packaged (log : List Access) (h : PackagedEntry host artifact path blobPath content)
    (hblobPath : blobPath ≠ "")
    (hsource : safePackageRelativePath (.str blobPath : Json P) = .ok source)
    (hread : readBytes disk (package.names ++ source.parts) = .ok content) :
    (verifyArtifact host package artifact).run ⟨disk, log⟩ =
      .ok (.packaged (.str path) (.str blobPath) (sha256Bytes host content))
        ⟨disk, log ++ [.read (package.names ++ source.parts)]⟩ := by
  have hdots := package.not_mem_append (safeRelativePath_ok hsource).1.no_dots
  have hok (message : String) : refuseIf (!true) message = .ok () := rfl
  have hpass (message : String → String) : refuseEntry host (!true) artifact message = .ok () := rfl
  have hblobTruthy : (Json.str blobPath : Json P).truthy host.toAdapterHost = true := by
    simp [Json.truthy, hblobPath]
  have hsha256 : (Json.str (sha256Bytes host content) : Json P).truthy host.toAdapterHost = true := by
    simp [Json.truthy, sha256Bytes_ne_empty]
  have hpolicy : pyEq host (.str "required") (.str "external_rebind") = false := rfl
  have hsize : pyEq host (.int content.length) (.int content.length) = true := by
    simp [pyEq, numbersEq, Json.asInt]
  have hentry : validateArtifactManifestEntry host artifact = .ok () := by
    rw [validateArtifactManifestEntry, except_bind_of_ok (Json.getOr_of_item h.policy_eq _),
      except_bind_of_ok (Json.get_of_item h.blob_eq)]
    dsimp only
    rw [except_bind_of_ok (Json.get_of_item h.sha256_eq), except_bind_of_ok (Json.getOr_of_item h.path_eq _), hsha256,
      except_bind_of_ok (hok _), hpolicy, hblobTruthy]
    rfl
  have hchecked : checkBlob host artifact (sha256Bytes host content) content.length =
      .ok (.packaged (.str path) (.str blobPath) (sha256Bytes host content)) := by
    rw [checkBlob, except_bind_of_ok h.sha256_eq, pyEq_str_self, except_bind_of_ok (hpass _),
      except_bind_of_ok h.size_eq, hsize, except_bind_of_ok (hpass _), except_bind_of_ok h.path_eq, except_bind_of_ok h.blob_eq]
    rfl
  have hfound : (liftDisk fun disk => .ok (fileExists disk (package.names ++ source.parts)) : AgentIO Bool).run
      ⟨disk, log⟩ = .ok true ⟨disk, log⟩ := by
    rw [liftDisk, run_get_bind, fileExists_of_readBytes hread]
    rfl
  rw [verifyArtifact, run_liftExcept_bind_of_ok hentry, run_liftExcept_bind_of_ok (Json.get_of_item h.policy_eq),
    hpolicy]
  simp only [Bool.false_eq_true, if_false]
  rw [run_liftExcept_bind_of_ok h.blob_eq, run_liftExcept_bind_of_ok hsource, run_bind_of_ok hfound,
    run_liftExcept_bind_of_ok (hok _), run_bind_of_ok (run_fileSha256AndSize_of_readBytes host log hdots hread), hchecked]
  rfl

theorem run_verifyArtifact_external {sha256 : String} (h : ExternalEntry artifact path sha256)
    (hsha256 : sha256 ≠ "") (world : World) :
    (verifyArtifact host package artifact).run world = .ok (.rebindRequired (.str path) (.str sha256)) world := by
  have hok (message : String) : refuseIf (!true) message = .ok () := rfl
  have hpass (message : String → String) : refuseEntry host false artifact message = .ok () := rfl
  have htruthy : (Json.str sha256 : Json P).truthy host.toAdapterHost = true := by simp [Json.truthy, hsha256]
  have hblob : (Json.null : Json P).truthy host.toAdapterHost = false := rfl
  have hmarked : refuseEntry host (!(Json.bool true : Json P).isTrue) artifact
    (fun path => s!"external artifact must be explicitly marked rebindable: {path}") = .ok () := rfl
  have hentry : validateArtifactManifestEntry host artifact = .ok () := by
    rw [validateArtifactManifestEntry, except_bind_of_ok (Json.getOr_of_item h.policy_eq _),
      except_bind_of_ok h.blob_eq]
    dsimp only
    rw [except_bind_of_ok (Json.get_of_item h.sha256_eq), except_bind_of_ok (Json.getOr_of_item h.path_eq _), htruthy,
      except_bind_of_ok (hok _), pyEq_str_self, hblob]
    simp only [if_true]
    rw [except_bind_of_ok (hpass _), except_bind_of_ok h.rebind_eq]
    exact hmarked
  rw [verifyArtifact, run_liftExcept_bind_of_ok hentry, run_liftExcept_bind_of_ok (Json.get_of_item h.policy_eq),
    pyEq_str_self]
  simp only [if_true]
  rw [run_liftExcept_bind_of_ok h.path_eq, run_liftExcept_bind_of_ok (Json.get_of_item h.sha256_eq)]
  rfl

theorem run_restoreArtifact_packaged (log : List Access) (h : PackagedEntry host artifact path blobPath content)
    (hsource : safePackageRelativePath (.str blobPath : Json P) = .ok source)
    (htarget : safeWorkspaceRelativePath (.str path : Json P) = .ok target)
    (hread : readBytes disk (package.names ++ source.parts) = .ok content) {disk' : Disk}
    (hdirs : makeDirs disk (workspace.names ++ target.parts).dropLast = .ok disk')
    (hresolve : resolve disk' (workspace.names ++ target.parts) = .ok (workspace.names ++ target.parts))
    (hdir : disk' (workspace.names ++ target.parts) ≠ some .dir)
    (hne : package.names ++ source.parts ≠ workspace.names ++ target.parts) :
    ∃ log', (restoreArtifact host package workspace artifact).run ⟨disk, log⟩ =
      .ok (blobEntry host path target content)
        ⟨Function.update disk' (workspace.names ++ target.parts) (some (.file content)), log'⟩ := by
  have hpaths : artifactPaths artifact = .ok (source, target) :=
    artifactPaths_ok_iff.mpr ⟨_, _, _, h.blob_eq, hsource, h.path_eq, Json.getOr_of_item h.target_eq _, htarget⟩
  have hstatus : restoreStatus host artifact (.str "required") (sha256Bytes host content) = .ok .restored := by
    rw [restoreStatus, except_bind_of_ok h.sha256_eq, pyEq_str_self]
    rfl
  exact run_restoreArtifact_of_readBytes host log (Json.getOr_of_item h.policy_eq _) rfl hpaths h.path_eq hread hstatus
    hdirs hresolve hdir hne

theorem run_restoreArtifact_external {sha256 : String} (h : ExternalEntry artifact path sha256) (world : World) :
    (restoreArtifact host package workspace artifact).run world =
      .ok ⟨.str path, none, .rebindRequired, .str "external_rebind", .str sha256, none⟩ world := by
  rw [restoreArtifact, run_liftExcept_bind_of_ok (Json.getOr_of_item h.policy_eq _), pyEq_str_self]
  simp only [if_true]
  rw [run_liftExcept_bind_of_ok h.path_eq, run_liftExcept_bind_of_ok (Json.get_of_item h.sha256_eq)]
  rfl

end Entries

section Continuation

variable {session : LocalSession} {record : ArtifactRecord} {prompt : String}

theorem uniqueKeys_promptFields : ((promptFields host prompt).map (·.1)).Nodup := by simp [promptFields]

theorem continues_exported
    (hresponse : session.deterministicResponse = deterministicContinue host prompt (.str record.contentHash)) :
    ManifestContinues host (sortKeys (exportedManifest host session record prompt)) prompt := by
  have hf : Transparent (sortKeys : Json P → Json P) := transparent_sortKeys
  have hpromptEntry : (sortKeys (exportedManifest host session record prompt)).item "prompt" =
    .ok (sortKeys (.dict (promptFields host prompt))) := hf.item uniqueKeys_manifest rfl
  have hbytes : (sortKeys (.dict (promptFields host prompt))).item "byte_hash" =
      .ok (.str (sha256Bytes host (asBytes prompt))) :=
    (hf.item uniqueKeys_promptFields rfl).trans (congrArg _ (hf.str _))
  have htokens : (sortKeys (.dict (promptFields host prompt))).item "token_hash" =
      .ok (.str (tokenHash host (tokenizePrompt prompt))) :=
    (hf.item uniqueKeys_promptFields rfl).trans (congrArg _ (hf.str _))
  have hkvEntry : (sortKeys (exportedManifest host session record prompt)).item "kv" =
    .ok (sortKeys (.dict (kvFields (sha256Bytes host (kvBytes (tokenizePrompt prompt)))))) :=
      hf.item uniqueKeys_manifest rfl
  have hkvKeys : ((kvFields (sha256Bytes host (kvBytes (tokenizePrompt prompt))) : Fields P).map (·.1)).Nodup := by
    simp [kvFields]
  have hkvHash : (sortKeys (.dict (kvFields (sha256Bytes host (kvBytes (tokenizePrompt prompt)))) : Json P)).item
      "kv_hash" = .ok (.str (sha256Bytes host (kvBytes (tokenizePrompt prompt)))) :=
    (hf.item hkvKeys rfl).trans (congrArg _ (hf.str _))
  have hfirst : (Json.list [sortKeys (manifestArtifact record : Json P)]).first =
    .ok (sortKeys (manifestArtifact record)) := rfl
  have hsha256 : (sortKeys (manifestArtifact record : Json P)).item "sha256" = .ok (.str record.contentHash) :=
    manifestArtifact_str hf rfl
  have hexpected : (sortKeys (exportedManifest host session record prompt)).item "deterministic_next_response" =
      .ok (.str (deterministicContinue host prompt (.str record.contentHash))) := by
    rw [← hresponse]
    exact (hf.item uniqueKeys_manifest rfl).trans (congrArg _ (hf.str _))
  exact ⟨⟨_, hpromptEntry, hbytes, htokens⟩, ⟨_, hkvEntry, hkvHash⟩,
    ⟨_, _, _, artifacts_exported hf, hfirst, hsha256, hexpected⟩⟩

theorem manifestArtifacts_exported : manifestArtifacts (sortKeys (exportedManifest host session record prompt)) =
    .ok [sortKeys (manifestArtifact record)] := by
  rw [manifestArtifacts, except_bind_of_ok (artifacts_exported transparent_sortKeys)]
  rfl

theorem finishImport_exported
    (hprompt : reconstructPromptFromMessages host (session.messages.map ChatMessage.json) = .ok prompt)
    (hshort : (asBytes prompt).length ≤ 2 ^ 32)
    (hresponse : session.deterministicResponse = deterministicContinue host prompt (.str record.contentHash))
    (reports : SecurityReport P × List (AuditEntry P) × VectorReport P) (verified : List (VerifiedArtifact P))
    (workspace : Directory) (report : List (RestoreEntry P)) :
    ∃ result, finishImport host ⟨sortKeys (exportedManifest host session record prompt),
      sortKeys (exportedGraph host session record prompt), reports.1, reports.2.1, reports.2.2, verified⟩
        workspace report = .ok result := by
  have hf : Transparent (sortKeys : Json P → Json P) := transparent_sortKeys
  have hpath : (sortKeys (manifestArtifact record : Json P)).item "path" = .ok (.str record.path) :=
    manifestArtifact_str hf rfl
  have hsha256 : (sortKeys (manifestArtifact record : Json P)).item "sha256" = .ok (.str record.contentHash) :=
    manifestArtifact_str hf rfl
  have hhash : artifactHash (sortKeys (manifestArtifact record : Json P)) =
      .ok (.str record.path, .str record.contentHash) := by
    rw [artifactHash, except_bind_of_ok hpath, except_bind_of_ok hsha256]
    rfl
  have hhashes : [sortKeys (manifestArtifact record : Json P)].mapM artifactHash =
      .ok [(.str record.path, .str record.contentHash)] := by
    rw [List.mapM_cons, except_bind_of_ok hhash]
    rfl
  have hstore : ∃ store, (sortKeys (exportedManifest host session record prompt)).item "artifact_store" = .ok store :=
    ⟨_, hf.item uniqueKeys_manifest rfl⟩
  obtain ⟨store, hstore⟩ := hstore
  exact ManifestContinues.finishImport ⟨_, _, reports.1, reports.2.1, reports.2.2, verified⟩
    (continues_exported hresponse) ((reconstructPrompt_exported hf).trans hprompt) hshort (graphHash_exported hf)
    manifestArtifacts_exported hhashes hstore workspace report

end Continuation

section Writing

/-- What a file that was written, and the directories made for it, change on a disk. -/
structure WroteFile (path : Location) (content : List UInt8) (disk disk' : Disk) : Prop where
  found : readBytes disk' path = .ok content
  others : ∀ other bytes, ".." ∉ other → other ≠ path → readBytes disk other = .ok bytes →
    readBytes disk' other = .ok bytes
  outside : ∀ location, ¬location <+: path → disk' location = disk location

theorem run_writeFile_ok {path : Location} {content : List UInt8} {world world' : World} (hdots : ".." ∉ path)
    (h : (writeFile path content).run world = .ok () world') :
    WroteFile path content world.disk world'.disk := by
  obtain ⟨_, middle, hmake, h⟩ := run_bind_ok_iff.mp h
  obtain ⟨disk, hdirs, rfl⟩ := run_makeDirectory_ok_iff.mp hmake
  obtain ⟨location, hresolve, hdir, rfl⟩ := run_openWrite_ok_iff.mp h
  cases resolve_of_not_mem hdots hresolve
  refine ⟨readBytes_written hresolve hdir, ?_, ?_⟩
  · intro other bytes hother hne hread
    have hmade := (makeDirs_sameFiles hdirs).readBytes hread
    obtain ⟨location, hlocation, _⟩ := readBytes_ok_iff.mp hmade
    cases resolve_of_not_mem hother hlocation
    exact readBytes_update hmade hlocation hdir hne
  · intro location hother
    have hne : location ≠ path := by
      rintro rfl
      exact hother (List.prefix_refl _)
    have hbefore : ¬location <+: path.dropLast := fun hbegins => hother (hbegins.trans (List.dropLast_prefix _))
    rw [← makeDirs_other hdirs hbefore]
    exact Function.update_of_ne hne _ _

/-- A file can be written where no other file is on the way, and no directory in its place. -/
theorem exists_writeFile {path : Location} (content : List UInt8) {world : World} (hroot : world.disk [] = some .dir)
    (hpath : path ≠ []) (hdots : ".." ∉ path) (hnull : hasNull path = false)
    (hfree : ∀ location, location <+: path.dropLast → ∀ bytes, world.disk location ≠ some (.file bytes))
    (hdir : world.disk path ≠ some .dir) : ∃ world', (writeFile path content).run world = .ok () world' := by
  have hnull' : hasNull path.dropLast = false := by
    rw [hasNull, List.any_eq_false] at hnull ⊢
    intro part hpart
    exact hnull part (List.mem_of_mem_dropLast hpart)
  obtain ⟨disk, hdirs⟩ := exists_makeDirs hnull' hfree
  have hresolve := resolve_of_makeDirs hroot hdots hnull hdirs
  have hplace : disk path ≠ some .dir := by
    rw [makeDirs_other hdirs (not_prefix_dropLast hpath)]
    exact hdir
  rw [writeFile, run_bind_of_ok (run_makeDirectory_ok_iff.mpr ⟨disk, hdirs, rfl⟩)]
  exact ⟨_, run_openWrite_ok_iff.mpr ⟨path, hresolve, hplace, rfl⟩⟩

end Writing

section Export

variable {session : LocalSession} {policy : ArtifactExportPolicy} {package : Directory} {prompt : String}
  {world world' : World}

theorem exportDocuments_eq
    (hprompt : reconstructPromptFromMessages host (session.messages.map ChatMessage.json) = .ok prompt)
    (hshort : (asBytes prompt).length ≤ 2 ^ 32) :
    exportDocuments host session policy =
      .ok (exportedGraph host session (buildArtifactRecord host session policy) prompt,
        exportedManifest host session (buildArtifactRecord host session policy) prompt) := by
  rw [exportDocuments, except_bind_of_ok hprompt, except_bind_of_ok buildGraph_eq,
    except_bind_of_ok (buildManifest_eq hshort)]
  rfl

/-- The files of an exported package, and the place that its artifacts are restored to by default. -/
structure ExportedAt (host : AgentHost P) (session : LocalSession) (policy : ArtifactExportPolicy) (prompt : String)
    (package : Directory) (disk : Disk) : Prop where
  manifest : readBytes disk (manifestPath package) =
    .ok (jsonFileBytes host (exportedManifest host session (buildArtifactRecord host session policy) prompt))
  graph : readBytes disk (package.names ++ ["graph.json"]) =
    .ok (jsonFileBytes host (exportedGraph host session (buildArtifactRecord host session policy) prompt))
  blob : ∀ blobPath, (buildArtifactRecord host session policy).blobPath = some blobPath →
    readBytes disk (package.names ++ (PurePath.parse blobPath).parts) = .ok session.artifactBytes
  fresh : ∀ location, package.names ++ ["restored-workspace"] <+: location → disk location = none

theorem blobPath_of_record {blobPath : String}
    (h : (buildArtifactRecord host session policy).blobPath = some blobPath) :
    policy.dispositionFor session.artifactPath = .packaged ∧
      blobPath = contentAddressedBlobPath (sha256Bytes host session.artifactBytes) session.artifactPath := by
  unfold buildArtifactRecord buildArtifactRecordFromBytes at h
  dsimp only at h
  split at h
  next hpackaged => exact ⟨hpackaged, (Option.some.inj h).symm⟩
  next => cases h

/-- Places below different names of one directory are not on the way to each other. -/
theorem not_prefix_of_ne {directory front back location : Location} {name other : String} (h : name ≠ other)
    (hlocation : directory ++ name :: front <+: location) : ¬location <+: directory ++ other :: back := by
  intro hprefix
  have hall := hlocation.trans hprefix
  rw [List.prefix_append_right_inj, List.cons_prefix_cons] at hall
  exact h hall.1

theorem run_removeTree_ok (h : (removeTree package).run world = .ok () world') :
    world'.disk = withoutTree world.disk package.names := by
  rw [removeTree, run_get_bind] at h
  split at h
  next => cases h
  next =>
    cases h
    rfl

theorem run_exportPackage_ok (hhex : HexDigests host) (hdots : ".." ∉ (PurePath.parse session.artifactPath).parts)
    (hprompt : reconstructPromptFromMessages host (session.messages.map ChatMessage.json) = .ok prompt)
    (hshort : (asBytes prompt).length ≤ 2 ^ 32)
    (h : (exportPackage host session policy package).run world = .ok () world') :
    ExportedAt host session policy prompt package world'.disk := by
  rw [exportPackage, run_liftExcept_bind_of_ok (exportDocuments_eq hprompt hshort)] at h
  dsimp only at h
  obtain ⟨_, first, hremove, h⟩ := run_bind_ok_iff.mp h
  obtain ⟨_, second, hblob, h⟩ := run_bind_ok_iff.mp h
  obtain ⟨_, third, hgraph, hmanifest⟩ := run_bind_ok_iff.mp h
  have hgraphDots : ".." ∉ package.names ++ ["graph.json"] := package.not_mem_append (by decide)
  have hmanifestDots : ".." ∉ package.names ++ ["manifest.json"] := package.not_mem_append (by decide)
  have hgraphWrote := run_writeFile_ok hgraphDots hgraph
  have hmanifestWrote := run_writeFile_ok hmanifestDots hmanifest
  have hfirst : ∀ location, package.names ++ ["restored-workspace"] <+: location → first.disk location = none := by
    intro location hlocation
    rw [run_removeTree_ok hremove, withoutTree, if_pos ((List.prefix_append _ _).trans hlocation)]
  -- the blob, if there is one, is next to what is written after it
  have hsecond : (∀ blobPath, (buildArtifactRecord host session policy).blobPath = some blobPath →
      readBytes second.disk (package.names ++ (PurePath.parse blobPath).parts) = .ok session.artifactBytes) ∧
      ∀ location, package.names ++ ["restored-workspace"] <+: location → second.disk location = none := by
    cases hpath : (buildArtifactRecord host session policy).blobPath with
    | none =>
      rw [hpath] at hblob
      cases hblob
      exact ⟨by simp, hfirst⟩
    | some blobPath =>
      rw [hpath] at hblob
      obtain ⟨rest, hparts, hrest⟩ := blobPath_parts hhex session.artifactBytes hdots
      rw [← (blobPath_of_record hpath).2] at hparts
      have hblobDots : ".." ∉ package.names ++ (PurePath.parse blobPath).parts := by
        rw [hparts]
        exact package.not_mem_append (by simp [hrest])
      have hwrote := run_writeFile_ok hblobDots hblob
      refine ⟨?_, ?_⟩
      · intro other hother
        cases hother
        exact hwrote.found
      · intro location hlocation
        rw [hwrote.outside location ?_, hfirst location hlocation]
        rw [hparts]
        exact not_prefix_of_ne (by decide) hlocation
  refine ⟨hmanifestWrote.found, ?_, ?_, ?_⟩
  · exact hmanifestWrote.others _ _ hgraphDots (by simp) hgraphWrote.found
  · intro blobPath hpath
    obtain ⟨rest, hparts, hrest⟩ := blobPath_parts hhex session.artifactBytes hdots
    rw [← (blobPath_of_record hpath).2] at hparts
    have hblobDots : ".." ∉ package.names ++ (PurePath.parse blobPath).parts := by
      rw [hparts]
      exact package.not_mem_append (by simp [hrest])
    have hread := hsecond.1 blobPath hpath
    have hgraphNe : package.names ++ (PurePath.parse blobPath).parts ≠ package.names ++ ["graph.json"] := by
      simp [hparts]
    have hmanifestNe : package.names ++ (PurePath.parse blobPath).parts ≠ package.names ++ ["manifest.json"] := by
      simp [hparts]
    exact hmanifestWrote.others _ _ hblobDots hmanifestNe (hgraphWrote.others _ _ hblobDots hgraphNe hread)
  · intro location hlocation
    rw [hmanifestWrote.outside location (not_prefix_of_ne (by decide) hlocation),
      hgraphWrote.outside location (not_prefix_of_ne (by decide) hlocation), hsecond.2 location hlocation]

theorem packageAt_exported (hfloats : ExportFloats host) {disk : Disk}
    (h : ExportedAt host session policy prompt package disk) :
    packageAt host package disk =
      .ok (sortKeys (exportedManifest host session (buildArtifactRecord host session policy) prompt),
        sortKeys (exportedGraph host session (buildArtifactRecord host session policy) prompt)) := by
  have hrelative : safePackageRelativePath (.str "graph.json" : Json P) = .ok ⟨"", ["graph.json"]⟩ := rfl
  exact packageAt_of_files host h.manifest (printable_sortKeys (printable_exportedManifest hfloats))
    (item_sortKeys uniqueKeys_manifest rfl) hrelative h.graph (printable_sortKeys (printable_exportedGraph hfloats))

theorem packagedEntry_exported (h : policy.dispositionFor session.artifactPath = .packaged) :
    PackagedEntry host (sortKeys (manifestArtifact (buildArtifactRecord host session policy))) session.artifactPath
      (contentAddressedBlobPath (sha256Bytes host session.artifactBytes) session.artifactPath)
      session.artifactBytes := by
  have hf : Transparent (sortKeys : Json P → Json P) := transparent_sortKeys
  have hrecord : buildArtifactRecord host session policy = ⟨session.artifactPath,
      sha256Bytes host session.artifactBytes, session.artifactBytes.length, "application/json", .packaged,
      some (contentAddressedBlobPath (sha256Bytes host session.artifactBytes) session.artifactPath), "required",
      session.artifactPath, false⟩ := by
    unfold buildArtifactRecord buildArtifactRecordFromBytes
    rw [if_pos h, h]
  rw [hrecord]
  exact ⟨manifestArtifact_str hf rfl, manifestArtifact_str hf rfl, manifestArtifact_str hf rfl,
    manifestArtifact_str hf rfl,
    (hf.item uniqueKeys_manifestArtifact (lookup_manifestArtifact rfl)).trans (congrArg _ (hf.int _)),
    (hf.item uniqueKeys_manifestArtifact rfl).trans (congrArg _ (hf.str _))⟩

theorem externalEntry_exported (h : policy.dispositionFor session.artifactPath ≠ .packaged) :
    ExternalEntry (sortKeys (manifestArtifact (buildArtifactRecord host session policy) : Json P))
      session.artifactPath (sha256Bytes host session.artifactBytes) := by
  have hf : Transparent (sortKeys : Json P → Json P) := transparent_sortKeys
  have hrecord : buildArtifactRecord host session policy = ⟨session.artifactPath,
      sha256Bytes host session.artifactBytes, session.artifactBytes.length, "application/json",
      policy.dispositionFor session.artifactPath, none, "external_rebind", session.artifactPath, true⟩ := by
    unfold buildArtifactRecord buildArtifactRecordFromBytes
    rw [if_neg h]
  rw [hrecord]
  exact ⟨manifestArtifact_str hf rfl, manifestArtifact_str hf rfl, manifestArtifact_str hf rfl,
    hf.get uniqueKeys_manifestArtifact rfl,
    (hf.get uniqueKeys_manifestArtifact rfl).trans (congrArg _ (hf.bool _))⟩

end Export

end PermeantOS
