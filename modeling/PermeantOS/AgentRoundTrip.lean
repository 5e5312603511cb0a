import PermeantOS.AgentExportFiles

namespace PermeantOS

variable {P : Type} {host : AgentHost P}

section RoundTrip

variable {session : LocalSession} {policy : ArtifactExportPolicy} {package : Directory} {prompt : String}

theorem record_path (host : AgentHost P) (session : LocalSession) (policy : ArtifactExportPolicy) :
     (buildArtifactRecord host session policy).path = session.artifactPath ∧
    (buildArtifactRecord host session policy).targetPath = session.artifactPath ∧
      (buildArtifactRecord host session policy).contentHash = sha256Bytes host session.artifactBytes := by
  unfold buildArtifactRecord buildArtifactRecordFromBytes
  dsimp only
  split
  next => exact ⟨rfl, rfl, rfl⟩
  next => exact ⟨rfl, rfl, rfl⟩

theorem no_dots_of_allowed {path : String} (h : pathAllowedByPrefix (.str path : Json P) = .ok true) :
    ".." ∉ (PurePath.parse path).parts := by
  obtain ⟨target, htarget, _⟩ := pathAllowedByPrefix_true h
  obtain ⟨hdescends, text, htext, hparse⟩ := safeRelativePath_ok htarget
  cases htext
  rw [← hparse]
  exact hdescends.no_dots

/-- A place in the workspace that is made by the import can be written to. -/
theorem exists_makeDirs_fresh {disk : Disk} {manifest target : Location}
    (hmanifest : resolve disk (manifestPath package) = .ok manifest)
    (hfresh : ∀ location, package.names ++ ["restored-workspace"] <+: location → disk location = none)
    (htarget : ".." ∉ target) (hnull : hasNull target = false) :
    ∃ disk', makeDirs disk (package.names ++ ["restored-workspace"] ++ target).dropLast = .ok disk' ∧
      resolve disk' (package.names ++ ["restored-workspace"] ++ target) =
        .ok (package.names ++ ["restored-workspace"] ++ target) ∧
      disk' (package.names ++ ["restored-workspace"] ++ target) = none := by
  have hdots : ".." ∉ manifestPath package := package.not_mem_append (by decide)
  have hnames : hasNull package.names = false := by
    have hall := hasNull_of_resolve hmanifest
    rw [manifestPath, hasNull_append, Bool.or_eq_false_iff] at hall
    exact hall.1
  have hpathNull : hasNull (package.names ++ ["restored-workspace"] ++ target) = false := by
    rw [hasNull_append, hasNull_append, hnames, hnull]
    rfl
  have hpathDots : ".." ∉ package.names ++ ["restored-workspace"] ++ target := by
    rw [List.append_assoc]
    exact package.not_mem_append (by simp [htarget])
  have hwhole : package.names ++ ["restored-workspace"] ++ target ≠ [] := by simp
  have hdirNull : hasNull (package.names ++ ["restored-workspace"] ++ target).dropLast = false := by
    rw [hasNull, List.any_eq_false] at hpathNull ⊢
    intro part hpart
    exact hpathNull part (List.mem_of_mem_dropLast hpart)
  have hdir : ∀ location, location <+: package.names → disk location = some .dir := by
    intro location hlocation
    refine dirs_of_resolve hdots hmanifest (hlocation.trans (List.prefix_append _ _)) ?_
    rintro rfl
    have hlength := hlocation.length_le
    simp [manifestPath] at hlength
  have hfree : ∀ location, location <+: (package.names ++ ["restored-workspace"] ++ target).dropLast →
      ∀ bytes, disk location ≠ some (.file bytes) := by
    intro location hlocation bytes
    have hprefix := hlocation.trans (List.dropLast_prefix _)
    obtain hbelow | hbelow := List.prefix_or_prefix_of_prefix (List.prefix_append _ target) hprefix
    · rw [hfresh location hbelow]
      simp
    · obtain rfl | hbelow := List.prefix_concat_iff.mp hbelow
      · rw [hfresh _ (List.prefix_refl _)]
        simp
      · rw [hdir location hbelow]
        simp
  obtain ⟨disk', hdirs⟩ := exists_makeDirs hdirNull hfree
  refine ⟨disk', hdirs, resolve_of_makeDirs (hdir [] List.nil_prefix) hpathDots hpathNull hdirs, ?_⟩
  rw [makeDirs_other hdirs (not_prefix_dropLast hwhole), hfresh _ (List.prefix_append _ _)]

/-- An import of the documents of an export comes down to its one artifact. -/
theorem run_importDocuments_exported (hfloats : ExportFloats host)
    (hprompt : reconstructPromptFromMessages host (session.messages.map ChatMessage.json) = .ok prompt)
    (hshort : (asBytes prompt).length ≤ 2 ^ 32)
    (hpath : pathAllowedByPrefix (.str session.artifactPath : Json P) = .ok true)
    (hresponse : session.deterministicResponse =
      deterministicContinue host prompt (.str (sha256Bytes host session.artifactBytes)))
    {verified : VerifiedArtifact P} {entry : RestoreEntry P} {world middle after : World}
    (hverify : (verifyArtifact host package
      (sortKeys (manifestArtifact (buildArtifactRecord host session policy)))).run world = .ok verified middle)
    (hrestore : (restoreArtifact host package (workspaceOr package none)
      (sortKeys (manifestArtifact (buildArtifactRecord host session policy)))).run middle = .ok entry after) :
    ∃ result, (importDocuments host package none runtimeId
      (sortKeys (exportedManifest host session (buildArtifactRecord host session policy) prompt))
      (sortKeys (exportedGraph host session (buildArtifactRecord host session policy) prompt))).run world =
        .ok result after := by
  obtain ⟨hrecord, htarget, hhash⟩ := record_path host session policy
  rw [← hrecord] at hpath
  rw [← hhash] at hresponse
  obtain ⟨reports, hreports⟩ := checkDocuments_exported session prompt hfloats hpath (htarget.trans hrecord.symm)
  have hverifyAll : (verifyArtifacts host package
      (sortKeys (exportedManifest host session (buildArtifactRecord host session policy) prompt))).run world =
        .ok [verified] middle := by
    rw [verifyArtifacts, run_liftExcept_bind_of_ok manifestArtifacts_exported, List.mapM_cons, run_bind_of_ok hverify]
    rfl
  have hrestoreAll : (restoreArtifacts host package
      (sortKeys (exportedManifest host session (buildArtifactRecord host session policy) prompt))
        (workspaceOr package none)).run middle = .ok [entry] after := by
    rw [restoreArtifacts, run_liftExcept_bind_of_ok manifestArtifacts_exported, List.mapM_cons,
      run_bind_of_ok hrestore]
    rfl
  obtain ⟨result, hresult⟩ := finishImport_exported hprompt hshort hresponse reports [verified]
    (workspaceOr package none) [entry]
  refine ⟨result, ?_⟩
  rw [importDocuments, run_liftExcept_bind_of_ok hreports]
  dsimp only
  rw [run_bind_of_ok hverifyAll, run_bind_of_ok hrestoreAll]
  exact run_liftExcept_ok_iff.mpr ⟨hresult, rfl⟩

theorem blobPath_of_packaged (h : policy.dispositionFor session.artifactPath = .packaged) :
    (buildArtifactRecord host session policy).blobPath =
      some (contentAddressedBlobPath (sha256Bytes host session.artifactBytes) session.artifactPath) := by
  rw [buildArtifactRecord, buildArtifactRecordFromBytes, if_pos h]

theorem blob_ne_target (hhex : HexDigests host) (content : List UInt8) {path : String} {target : List String}
    (hdots : ".." ∉ (PurePath.parse path).parts) (package : Directory) :
    package.names ++ (PurePath.parse (contentAddressedBlobPath (sha256Bytes host content) path)).parts ≠
      (workspaceOr package none).names ++ target := by
  obtain ⟨rest, hparts, _⟩ := blobPath_parts hhex content hdots
  rw [hparts]
  simp [workspaceOr, Directory.child]

theorem blobPath_ne_empty (content : List UInt8) (path : String) :
    contentAddressedBlobPath (sha256Bytes host content) path ≠ "" := by
  intro h
  have hlist := congrArg String.toList h
  rw [contentAddressedBlobPath_eq] at hlist
  simp [String.toList_append] at hlist

section Outcomes

variable (hfloats : ExportFloats host)
  (hprompt : reconstructPromptFromMessages host (session.messages.map ChatMessage.json) = .ok prompt)
  (hshort : (asBytes prompt).length ≤ 2 ^ 32)
  (hpath : pathAllowedByPrefix (.str session.artifactPath : Json P) = .ok true)
  (hresponse : session.deterministicResponse =
    deterministicContinue host prompt (.str (sha256Bytes host session.artifactBytes)))
include hfloats hprompt hshort hpath hresponse

theorem run_importDocuments_packaged (hhex : HexDigests host) {disk : Disk}
    (h : ExportedAt host session policy prompt package disk)
    (hpackaged : policy.dispositionFor session.artifactPath = .packaged)
    (hnull : hasNull (PurePath.parse session.artifactPath).parts = false) (log : List Access) :
    ∃ result after, (importDocuments host package none runtimeId
      (sortKeys (exportedManifest host session (buildArtifactRecord host session policy) prompt))
      (sortKeys (exportedGraph host session (buildArtifactRecord host session policy) prompt))).run ⟨disk, log⟩ =
        .ok result after ∧
      readBytes after.disk ((workspaceOr package none).names ++ (PurePath.parse session.artifactPath).parts) =
        .ok session.artifactBytes := by
  obtain ⟨target, htarget, _⟩ := pathAllowedByPrefix_true hpath
  obtain ⟨hdescends, text, htext, hparse⟩ := safeRelativePath_ok htarget
  cases htext
  subst hparse
  have hsource := safePackageRelativePath_blobPath hhex session.artifactBytes hdescends.no_dots
  have hblob := h.blob _ (blobPath_of_packaged hpackaged)
  obtain ⟨manifest, hmanifest, _⟩ := readBytes_ok_iff.mp h.manifest
  obtain ⟨disk', hdirs, hresolve, hnone⟩ := exists_makeDirs_fresh hmanifest h.fresh hdescends.no_dots hnull
  have hdir : disk' ((workspaceOr package none).names ++ (PurePath.parse session.artifactPath).parts) ≠
      some .dir := by
    intro heq
    cases hnone.symm.trans heq
  have hverify := run_verifyArtifact_packaged log (packagedEntry_exported hpackaged) (blobPath_ne_empty _ _)
    hsource hblob
  obtain ⟨log', hrestore⟩ := run_restoreArtifact_packaged _ (packagedEntry_exported hpackaged) hsource htarget hblob
    hdirs hresolve hdir (blob_ne_target hhex session.artifactBytes hdescends.no_dots package)
  obtain ⟨result, hrun⟩ := run_importDocuments_exported hfloats hprompt hshort hpath hresponse hverify hrestore
  exact ⟨result, _, hrun, readBytes_written hresolve hdir⟩

theorem run_importDocuments_external (package : Directory)
    (hexternal : policy.dispositionFor session.artifactPath ≠ .packaged)
    (world : World) : ∃ result, (importDocuments host package none runtimeId
      (sortKeys (exportedManifest host session (buildArtifactRecord host session policy) prompt))
      (sortKeys (exportedGraph host session (buildArtifactRecord host session policy) prompt))).run world =
        .ok result world := by
  have hentry : ExternalEntry (sortKeys (manifestArtifact (buildArtifactRecord host session policy) : Json P))
    session.artifactPath (sha256Bytes host session.artifactBytes) := externalEntry_exported hexternal
  exact run_importDocuments_exported hfloats hprompt hshort hpath hresponse
    (run_verifyArtifact_external hentry (sha256Bytes_ne_empty host _) world)
    (run_restoreArtifact_external hentry world)

end Outcomes

/-- What is exported can be imported: the prompt is that of the messages, and an artifact that was packaged
has its bytes at its path. -/
theorem importSession_of_export (hfloats : ExportFloats host) (hhex : HexDigests host)
    (hprompt : reconstructPromptFromMessages host (session.messages.map ChatMessage.json) = .ok prompt)
    (hshort : (asBytes prompt).length < 2 ^ 32)
    (hpath : pathAllowedByPrefix (.str session.artifactPath : Json P) = .ok true)
    (hnull : policy.dispositionFor session.artifactPath = .packaged →
      hasNull (PurePath.parse session.artifactPath).parts = false)
    (hresponse : session.deterministicResponse =
      deterministicContinue host prompt (.str (sha256Bytes host session.artifactBytes)))
    {world world' : World} (hexport : (exportPackage host session policy package).run world = .ok () world') :
    ∃ manifest graph result after, packageAt host package world'.disk = .ok (manifest, graph) ∧
      (importSession host package none runtimeId).run world' = .ok result after ∧
      reconstructPrompt host graph = .ok prompt ∧
      (policy.dispositionFor session.artifactPath = .packaged →
        readBytes after.disk ((workspaceOr package none).names ++ (PurePath.parse session.artifactPath).parts) =
          .ok session.artifactBytes) := by
  have hexported := run_exportPackage_ok hhex (no_dots_of_allowed hpath) hprompt hshort.le hexport
  have hpackage := packageAt_exported hfloats hexported
  have hread := run_readPackage_of_packageAt host world' hpackage
  have hgraph : reconstructPrompt host
      (sortKeys (exportedGraph host session (buildArtifactRecord host session policy) prompt)) = .ok prompt :=
    (reconstructPrompt_exported transparent_sortKeys).trans hprompt
  by_cases hpackaged : policy.dispositionFor session.artifactPath = .packaged
  · obtain ⟨result, after, hrun, hrestored⟩ := run_importDocuments_packaged hfloats hprompt hshort.le hpath hresponse
      hhex hexported hpackaged (hnull hpackaged) (world'.log ++ packageReads package
        (sortKeys (exportedManifest host session (buildArtifactRecord host session policy) prompt)))
    have himport : (importSession host package none runtimeId).run world' = .ok result after := by
      rw [importSession_eq, run_bind_of_ok hread]
      exact hrun
    exact ⟨_, _, result, after, hpackage, himport, hgraph, fun _ => hrestored⟩
  · obtain ⟨result, hrun⟩ := run_importDocuments_external hfloats hprompt hshort.le hpath hresponse package hpackaged
      ⟨world'.disk, world'.log ++ packageReads package
        (sortKeys (exportedManifest host session (buildArtifactRecord host session policy) prompt))⟩
    refine ⟨_, _, result, ⟨world'.disk, world'.log ++ packageReads package
      (sortKeys (exportedManifest host session (buildArtifactRecord host session policy) prompt))⟩, hpackage, ?_,
      hgraph, fun h => absurd h hpackaged⟩
    rw [importSession_eq, run_bind_of_ok hread]
    exact hrun

end RoundTrip

section Returns

variable {session : LocalSession} {policy : ArtifactExportPolicy} {package : Directory} {prompt : String}
  {world world' : World}

/-- A directory that files can be written to, or made. -/
structure Ready (package : Directory) (disk : Disk) : Prop where
  root : disk [] = some .dir
  free : ∀ location, location <+: package.names → ∀ bytes, disk location ≠ some (.file bytes)

theorem ready_of_wrote {name : String} {rest : List String} {content : List UInt8} {disk disk' : Disk}
    (hdots : ".." ∉ package.names ++ name :: rest)
    (h : WroteFile (package.names ++ name :: rest) content disk disk') : Ready package disk' := by
  obtain ⟨location, hresolve, _⟩ := readBytes_ok_iff.mp h.found
  have hdir : ∀ location, location <+: package.names → disk' location = some .dir := by
    intro location hlocation
    refine dirs_of_resolve hdots hresolve (hlocation.trans (List.prefix_append _ _)) ?_
    rintro rfl
    have hlength := hlocation.length_le
    simp at hlength
  refine ⟨hdir [] List.nil_prefix, ?_⟩
  intro location hlocation bytes
  rw [hdir location hlocation]
  simp

theorem exists_writeChild {name : String} (content : List UInt8) (h : Ready package world.disk)
    (hnull : hasNull package.names = false) (hname : hasNull [name] = false) (hdots : ".." ≠ name)
    (hnone : world.disk (package.names ++ [name]) = none) :
    ∃ world', (writeFile (package.names ++ [name]) content).run world = .ok () world' := by
  refine exists_writeFile content h.root (by simp) (package.not_mem_append (by simpa using hdots)) ?_ ?_ ?_
  · rw [hasNull_append, hnull, hname]
    rfl
  · rw [List.dropLast_concat]
    exact h.free
  · rw [hnone]
    simp

theorem withoutTree_below (disk : Disk) (package : Directory) (rest : Location) :
    withoutTree disk package.names (package.names ++ rest) = none :=
  if_pos (List.prefix_append _ _)

theorem withoutTree_root {disk : Disk} (hready : Ready package disk) (hne : package.names ≠ []) :
    withoutTree disk package.names [] = some .dir := by
  rw [withoutTree, if_neg (by simpa using hne), hready.root]

/-- Without the package, no file is in the way of a path into it. -/
theorem withoutTree_free {disk : Disk} (hready : Ready package disk) {rest location : Location}
    (hlocation : location <+: package.names ++ rest) (bytes : List UInt8) :
    withoutTree disk package.names location ≠ some (.file bytes) := by
  by_cases hbelow : package.names <+: location
  · rw [withoutTree, if_pos hbelow]
    simp
  · rw [withoutTree, if_neg hbelow]
    obtain habove | habove := List.prefix_or_prefix_of_prefix (List.prefix_append _ rest) hlocation
    · exact absurd habove hbelow
    · exact hready.free location habove bytes

/-- The blob does not keep the documents from being written. -/
theorem exists_writeBlob (hhex : HexDigests host) (hdots : ".." ∉ (PurePath.parse session.artifactPath).parts)
    (hready : Ready package world.disk) (hne : package.names ≠ []) (hnull : hasNull package.names = false)
    (hblob : ∀ blobPath, (buildArtifactRecord host session policy).blobPath = some blobPath →
      hasNull (PurePath.parse blobPath).parts = false) :
    ∃ second, (writeBlob package session.artifactBytes (buildArtifactRecord host session policy).blobPath).run
        ⟨withoutTree world.disk package.names, world.log⟩ = .ok () second ∧ Ready package second.disk ∧
      second.disk (package.names ++ ["graph.json"]) = none ∧
      second.disk (package.names ++ ["manifest.json"]) = none := by
  have hroot := withoutTree_root hready hne
  have hnone := withoutTree_below world.disk package
  cases hpath : (buildArtifactRecord host session policy).blobPath with
  | none =>
    refine ⟨_, rfl, ⟨hroot, ?_⟩, hnone _, hnone _⟩
    intro location hlocation
    exact withoutTree_free hready (hlocation.trans (List.prefix_append _ []))
  | some blobPath =>
    obtain ⟨rest, hparts, hrest⟩ := blobPath_parts hhex session.artifactBytes hdots
    rw [← (blobPath_of_record hpath).2] at hparts
    have hblobDots : ".." ∉ package.names ++ "artifacts" :: rest := package.not_mem_append (by simp [hrest])
    have hblobNull : hasNull (package.names ++ "artifacts" :: rest) = false := by
      rw [hasNull_append, hnull, ← hparts, hblob blobPath hpath]
      rfl
    have hplace : withoutTree world.disk package.names (package.names ++ "artifacts" :: rest) ≠ some .dir := by
      rw [hnone]
      simp
    have hexists : ∃ second, (writeFile (package.names ++ "artifacts" :: rest) session.artifactBytes).run
        ⟨withoutTree world.disk package.names, world.log⟩ = .ok () second :=
      exists_writeFile _ hroot (by simp) hblobDots hblobNull
        (fun location hlocation => withoutTree_free hready (hlocation.trans (List.dropLast_prefix _))) hplace
    obtain ⟨second, hsecond⟩ := hexists
    have hwrote := run_writeFile_ok hblobDots hsecond
    refine ⟨second, ?_, ready_of_wrote hblobDots hwrote, ?_, ?_⟩
    · rw [writeBlob, hparts]
      exact hsecond
    · rw [hwrote.outside _ (not_prefix_of_ne (by decide) (List.prefix_refl _))]
      exact hnone _
    · rw [hwrote.outside _ (not_prefix_of_ne (by decide) (List.prefix_refl _))]
      exact hnone _

/-- An export returns where nothing but a directory is in the way, and the system takes the names. -/
theorem exists_exportPackage (hhex : HexDigests host)
    (hdots : ".." ∉ (PurePath.parse session.artifactPath).parts)
    (hprompt : reconstructPromptFromMessages host (session.messages.map ChatMessage.json) = .ok prompt)
    (hshort : (asBytes prompt).length ≤ 2 ^ 32) (hready : Ready package world.disk) (hne : package.names ≠ [])
    (hnull : hasNull package.names = false)
    (hblob : ∀ blobPath, (buildArtifactRecord host session policy).blobPath = some blobPath →
      hasNull (PurePath.parse blobPath).parts = false) :
    ∃ world', (exportPackage host session policy package).run world = .ok () world' := by
  have hremove : (removeTree package).run world =
      .ok () ⟨withoutTree world.disk package.names, world.log⟩ := by
    rw [removeTree, run_get_bind]
    split
    next content hfile => exact absurd hfile (hready.free _ (List.prefix_refl _) content)
    next => rfl
  obtain ⟨second, hsecond, hreadySecond, hgraphNone, hmanifestNone⟩ :=
    exists_writeBlob hhex hdots hready hne hnull hblob
  obtain ⟨third, hthird⟩ := exists_writeChild (jsonFileBytes host (exportedGraph host session
    (buildArtifactRecord host session policy) prompt)) hreadySecond hnull (by decide) (by decide) hgraphNone
  have hgraphDots : ".." ∉ package.names ++ ["graph.json"] := package.not_mem_append (by decide)
  have hwrote := run_writeFile_ok hgraphDots hthird
  have hmanifestThird : third.disk (package.names ++ ["manifest.json"]) = none := by
    rw [hwrote.outside _ (not_prefix_of_ne (by decide) (List.prefix_refl _)), hmanifestNone]
  obtain ⟨last, hlast⟩ := exists_writeChild (jsonFileBytes host (exportedManifest host session
    (buildArtifactRecord host session policy) prompt)) (ready_of_wrote hgraphDots hwrote) hnull (by decide)
    (by decide) hmanifestThird
  refine ⟨last, ?_⟩
  rw [exportPackage, run_liftExcept_bind_of_ok (exportDocuments_eq hprompt hshort)]
  dsimp only
  rw [run_bind_of_ok hremove, run_bind_of_ok hsecond]
  exact run_bind_ok_iff.mpr ⟨(), third, hthird, hlast⟩

/-- An artifact is restored where the system takes the names of its path, and nowhere else. -/
theorem hasNull_of_restored {artifact : Json P} {path blobPath : String} {content : List UInt8}
    {workspace : Directory} {entry : RestoreEntry P} (hentry : PackagedEntry host artifact path blobPath content)
    (h : (restoreArtifact host package workspace artifact).run world = .ok entry world') :
    hasNull (PurePath.parse path).parts = false := by
  obtain ⟨policy, hpolicy, ⟨hexternal, _⟩ | ⟨_, source, target, blob, content, hcopied⟩⟩ := run_restoreArtifact_ok h
  · cases (Json.getOr_of_item hentry.policy_eq _).symm.trans hpolicy
    cases (show pyEq host (.str "required") (.str "external_rebind") = false from rfl).symm.trans hexternal
  · obtain ⟨_, _, targetPath, _, _, hpath, htargetPath, hsafe⟩ := artifactPaths_ok_iff.mp hcopied.paths
    cases (Json.getOr_of_item hentry.target_eq _).symm.trans htargetPath
    obtain ⟨_, text, htext, hparse⟩ := safeRelativePath_ok hsafe
    cases htext
    subst hparse
    have hnull := hcopied.named
    cases hstatus : entry.status with
    | quarantined =>
      rw [hstatus, restoreTarget, hasNull_append, ← List.singleton_append, hasNull_append] at hnull
      simp only [Bool.or_eq_false_iff] at hnull
      exact hnull.2.2
    | restored | rebindRequired =>
      rw [hstatus] at hnull
      change hasNull (workspace.names ++ (PurePath.parse path).parts) = false at hnull
      rw [hasNull_append, Bool.or_eq_false_iff] at hnull
      exact hnull.2

theorem hasNull_of_imported (hfloats : ExportFloats host) (h : ExportedAt host session policy prompt package world.disk)
    (hpackaged : policy.dispositionFor session.artifactPath = .packaged) {result : ImportResult P}
    (hrun : (importSession host package none runtimeId).run world = .ok result world') :
    hasNull (PurePath.parse session.artifactPath).parts = false := by
  obtain ⟨verified, middle, report, hverify, hrestore, _⟩ := run_importSession_ok_iff.mp hrun
  obtain ⟨_, hverified⟩ := run_verifyPackage_ok hverify
  have hdocuments := (packageAt_exported hfloats h).symm.trans hverified.documents
  rw [← (Prod.mk.inj (Except.ok.inj hdocuments)).1, restoreArtifacts,
    run_liftExcept_bind_of_ok manifestArtifacts_exported, List.mapM_cons] at hrestore
  obtain ⟨entry, last, hentry, _⟩ := run_bind_ok_iff.mp hrestore
  exact hasNull_of_restored (packagedEntry_exported hpackaged) hentry

end Returns

section Samples

theorem hexDigests_decimalHost : HexDigests decimalHost := by
  have hdigit : ∀ n < 16, hexDigit n ∈ "0123456789abcdef".toList := by decide
  exact forall_mem_hashlibSha256 hdigit

/-- Whether the text of a decimal is one, and is read back. -/
def readsDecimal (x : Int) : Bool :=
  isDecimalText (decimalHost.floatRepr x).toList && decide (decimalHost.parseFloat (decimalHost.floatRepr x).toList = x)

theorem readsBack_decimalHost {x : Int} (h : readsDecimal x = true) :
    ReadsBack decimalHost.floatRepr decimalHost.parseFloat x := by
  rw [readsDecimal, Bool.and_eq_true, decide_eq_true_eq] at h
  exact readsBack_of_decimal _ h.1 h.2

theorem readsDecimal_constants : ∀ text ∈ ["1.0", "0.5", "0.1", "0.0"],
    readsDecimal (decimalHost.parseFloat text.toList) = true := by decide +kernel

theorem readsDecimal_embedding : ∀ x ∈ deterministicEmbedding decimalHost reportText, readsDecimal x = true := by
  decide +kernel

theorem readsDecimal_score : readsDecimal (reportScore decimalHost queryText) = true := by decide +kernel

theorem exportFloats_decimalHost : ExportFloats decimalHost where
  constants text htext := readsBack_decimalHost (readsDecimal_constants text htext)
  score := readsBack_decimalHost readsDecimal_score
  embedding x hx := readsBack_decimalHost (readsDecimal_embedding x hx)
  score_eq := decide_eq_true rfl

def sampleMessages : List ChatMessage :=
  [⟨"user", "Is the quota enough?"⟩, ⟨"assistant", "It is read first."⟩]

def samplePrompt : String :=
  "<user>\nIs the quota enough?\n</user>\n<assistant>\nIt is read first.\n</assistant>\n"

/-- A session of two messages, and one artifact. -/
def sampleSession (path : String) : LocalSession where
  messages := sampleMessages
  artifactPath := path
  artifactBytes := [1, 2, 3]
  deterministicResponse := deterministicContinue decimalHost samplePrompt (.str (sha256Bytes decimalHost [1, 2, 3]))

def packageAll : ArtifactExportPolicy := ⟨∅, ∅⟩

def emptyWorld : World := ⟨diskOf [[]] [], []⟩

theorem sampleMessages_prompt :
    reconstructPromptFromMessages decimalHost (sampleMessages.map ChatMessage.json) = .ok samplePrompt := by
  decide +kernel

theorem ready_emptyWorld : Ready draftPackage emptyWorld.disk := by
  refine ⟨rfl, ?_⟩
  intro location _ bytes
  by_cases hroot : location = [] <;> simp [emptyWorld, diskOf, hroot]

theorem exportPackage_sample (path : String) (hdots : ".." ∉ (PurePath.parse path).parts)
    (hname : hasNull (PurePath.parse (pathName path)).parts = false) :
    ∃ world', (exportPackage decimalHost (sampleSession path) packageAll draftPackage).run emptyWorld =
      .ok () world' := by
  refine exists_exportPackage hexDigests_decimalHost hdots sampleMessages_prompt (by decide) ready_emptyWorld
    (by decide) (by decide) ?_
  intro blobPath hpath
  rw [(blobPath_of_record hpath).2]
  exact (hasNull_blobPath hexDigests_decimalHost _ _).trans hname

theorem sampleSession_imports : ∃ world' manifest graph result after,
    (exportPackage decimalHost (sampleSession "reports/a") packageAll draftPackage).run emptyWorld = .ok () world' ∧
    packageAt decimalHost draftPackage world'.disk = .ok (manifest, graph) ∧
    (importSession decimalHost draftPackage none runtimeId).run world' = .ok result after ∧
    reconstructPrompt decimalHost graph = .ok samplePrompt ∧
    readBytes after.disk ["package", "restored-workspace", "reports", "a"] = .ok [1, 2, 3] := by
  have hpackaged : packageAll.dispositionFor (sampleSession "reports/a").artifactPath = .packaged := rfl
  obtain ⟨world', hexport⟩ := exportPackage_sample "reports/a" (by decide) (by decide)
  obtain ⟨manifest, graph, result, after, hpackage, himport, hprompt, hrestored⟩ := importSession_of_export
    exportFloats_decimalHost hexDigests_decimalHost sampleMessages_prompt (by decide) rfl (by decide)
    rfl hexport
  have hplace :
      (workspaceOr draftPackage none).names ++ (PurePath.parse (sampleSession "reports/a").artifactPath).parts =
        ["package", "restored-workspace", "reports", "a"] := by decide
  have hread := hrestored hpackaged
  rw [hplace] at hread
  exact ⟨world', manifest, graph, result, after, hexport, hpackage, himport, hprompt, hread⟩

/-- A path with a null character in the name of a directory is allowed and exported, but not restored. -/
theorem nullDirectory_not_imported : ∃ world',
    pathAllowedByPrefix (.str "reports/a\x00b/c" : Json Int) = .ok true ∧
    (exportPackage decimalHost (sampleSession "reports/a\x00b/c") packageAll draftPackage).run emptyWorld =
      .ok () world' ∧
    ∀ result after, (importSession decimalHost draftPackage none runtimeId).run world' ≠ .ok result after := by
  obtain ⟨world', hexport⟩ := exportPackage_sample "reports/a\x00b/c" (by decide) (by decide)
  refine ⟨world', by decide +kernel, hexport, ?_⟩
  intro result after hrun
  have hexported := run_exportPackage_ok hexDigests_decimalHost (by decide) sampleMessages_prompt
    (by decide) hexport
  have hnull := hasNull_of_imported exportFloats_decimalHost hexported rfl hrun
  exact absurd hnull (by decide)

end Samples

end PermeantOS
