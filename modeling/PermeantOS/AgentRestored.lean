import PermeantOS.AgentWorkspace

namespace PermeantOS

variable {P : Type} {host : AgentHost P} {package workspace : Directory}

section Overwriting

variable (host workspace)

/-- The file at the target of an entry holds the bytes that the entry tells of. -/
def OnDisk (disk : Disk) (entry : RestoreEntry P) : Prop :=
  ∃ target content, entry.targetPath = some target ∧
    disk (workspace.names ++ target.parts) = some (.file content) ∧
    entry.sha256 = .str (sha256Bytes host content) ∧ entry.sizeBytes = some content.length

/-- No artifact is restored to the place of an earlier one with other bytes, as far as digest and size tell. -/
def NoneOverwritten (brought : List Delivery) : Prop :=
  brought.Pairwise fun earlier later => earlier.status = .restored → later.status = .restored →
    earlier.place workspace = later.place workspace →
      sha256Bytes host earlier.content = sha256Bytes host later.content ∧
        earlier.content.length = later.content.length

/-- What a report tells of a file. -/
def fileReport : FileNode → Option (String × Nat)
  | .dir => none
  | .file content => some (sha256Bytes host content, content.length)

/-- The places that the policy allows artifacts to be restored to. -/
def AllowedPlace (place : Location) : Prop :=
  ∃ path, AllowedPath path ∧ place = workspace.names ++ path.parts

variable {host workspace}

theorem AllowedPath.not_quarantined {path : PurePath} (h : AllowedPath path) (parts : List String) :
    path.parts ≠ quarantineName :: parts := by
  intro heq
  obtain ⟨start, hmem, hstart⟩ := h.starts
  rw [allowedArtifactPathPrefixes, List.mem_singleton] at hmem
  subst hmem
  have hroot : path.root = "" := by simpa [PurePath.isAbsolute] using h.descends.relative
  have htext : ∃ rest, path.asPosix = quarantineName ++ rest := by
    rw [PurePath.asPosix, hroot, heq, if_neg (by simp), String.empty_append]
    cases parts with
    | nil => exact ⟨"", by simp⟩
    | cons part parts =>
      rw [String.intercalate_cons_cons, String.append_assoc]
      exact ⟨_, rfl⟩
  obtain ⟨rest, htext⟩ := htext
  rw [htext, String.toList_append] at hstart
  -- the two paths differ in the first character
  obtain ⟨tail, htail⟩ := hstart
  have hhead : 'r' = '.' := Option.some.inj (congrArg List.head? htail)
  exact absurd hhead (by decide)

theorem allowedPlace_of_restored {artifact : Json P} {brought : Delivery}
    (hcheck : checkArtifactPaths host artifact = .ok ())
    (h : delivery host package workspace disk artifact = .ok (some brought)) :
    AllowedPlace workspace (brought.place workspace) ↔ brought.status = .restored := by
  obtain ⟨policy, relative, blob, _, _, hpaths, _⟩ := delivery_some h
  have hallowed := (artifactPaths_ok hcheck hpaths).2
  rcases delivery_status h with hstatus | hstatus
  · rw [Delivery.place, hstatus]
    exact iff_of_true ⟨brought.target, hallowed, rfl⟩ rfl
  · rw [Delivery.place, hstatus]
    refine iff_of_false ?_ (by decide)
    intro hplace
    obtain ⟨path, hpath, heq⟩ := hplace
    exact hpath.not_quarantined _ (List.append_cancel_left heq).symm

/-- A delivery of a run is one of an entry of the manifest. -/
theorem delivery_of_mem {artifacts : List (Json P)} {brought : Delivery}
    (h : brought ∈ deliveries host package workspace disk artifacts) :
    ∃ artifact ∈ artifacts, ∃ disk', delivery host package workspace disk' artifact = .ok (some brought) := by
  induction artifacts generalizing disk with
  | nil => cases h
  | cons artifact artifacts ih =>
    have hlater {disk' : Disk} (h : brought ∈ deliveries host package workspace disk' artifacts) :
        ∃ other ∈ artifact :: artifacts, ∃ disk', delivery host package workspace disk' other = .ok (some brought) := by
      obtain ⟨other, hmem, hother⟩ := ih h
      exact ⟨other, List.mem_cons_of_mem _ hmem, hother⟩
    rw [deliveries] at h
    split at h
    next first hfirst =>
      obtain rfl | h := List.mem_cons.mp h
      · exact ⟨artifact, List.mem_cons_self, disk, hfirst⟩
      · exact hlater h
    next => exact hlater h

/-- What a restored entry reports is on the disk exactly where the file looks the same as the bytes brought. -/
theorem Tells.onDisk_iff {brought : Delivery} {entry : RestoreEntry P} (h : Tells host workspace brought entry)
    (hrestored : brought.status = .restored) {files : Disk} (hfiles : SameFiles files disk) :
    OnDisk host workspace disk entry ↔ ∃ value, files (brought.place workspace) = some value ∧
      fileReport host value = fileReport host (.file brought.content) := by
  have htarget : entry.targetPath = some brought.target := by rw [h.targetPath, hrestored]; rfl
  have hplace : brought.place workspace = workspace.names ++ brought.target.parts := by
    rw [Delivery.place, hrestored]; rfl
  rw [hplace]
  constructor
  · intro hdisk
    obtain ⟨target, content, hfound, hfile, hsha256, hsize⟩ := hdisk
    cases htarget.symm.trans hfound
    refine ⟨.file content, (hfiles.file_iff _ _).mp hfile, ?_⟩
    rw [h.sha256, Json.str.injEq] at hsha256
    rw [h.sizeBytes, Option.some.injEq] at hsize
    rw [fileReport, fileReport, hsha256, hsize]
  · intro hfound
    obtain ⟨value, hvalue, hreport⟩ := hfound
    cases value with
    | dir => cases hreport
    | file content =>
      rw [fileReport, fileReport, Option.some.injEq, Prod.mk.injEq] at hreport
      exact ⟨brought.target, content, htarget, (hfiles.file_iff _ _).mpr hvalue, by rw [h.sha256, hreport.1],
        by rw [h.sizeBytes, hreport.2]⟩

theorem forall_restored_iff {brought : List Delivery} {report : List (RestoreEntry P)} {files : Disk}
    (htells : List.Forall₂ (Tells host workspace) brought
      (report.filter fun entry => entry.status ≠ .rebindRequired)) (hfiles : SameFiles files disk) :
    (∀ entry ∈ report, entry.status = .restored → OnDisk host workspace disk entry) ↔
      ∀ delivered ∈ brought, delivered.status = .restored → ∃ value, files (delivered.place workspace) = some value ∧
        fileReport host value = fileReport host (.file delivered.content) := by
  constructor
  · intro h delivered hmem hrestored
    obtain ⟨entry, hentry, hone⟩ := exists_of_forall₂ htells hmem
    refine (hone.onDisk_iff hrestored hfiles).mp ?_
    exact h entry (List.mem_of_mem_filter hentry) (hone.status.trans hrestored)
  · intro h entry hmem hrestored
    have hentry : entry ∈ report.filter fun entry => entry.status ≠ .rebindRequired := by
      simp [hmem, hrestored]
    obtain ⟨delivered, hdelivered, hone⟩ := exists_of_forall₂ htells.flip hentry
    have hstatus := hone.status.symm.trans hrestored
    exact (hone.onDisk_iff hstatus hfiles).mpr (h delivered hdelivered hstatus)

theorem noneOverwritten_of_nodup {brought : List Delivery} (h : (brought.map (Delivery.place workspace)).Nodup) :
    NoneOverwritten host workspace brought :=
  (List.pairwise_map.mp h).imp fun hne _ _ hplace => absurd hplace hne

/-- What a finished import reports as restored is on the disk exactly where none of its artifacts is
overwritten by a later one. -/
theorem restored_onDisk_iff {workspace : Option Directory} {targetRuntime : String} {result : ImportResult P}
    {manifest graph : Json P} {artifacts : List (Json P)}
    (h : (importSession host package workspace targetRuntime).run world = .ok result world')
    (hpackage : packageAt host package world.disk = .ok (manifest, graph))
    (hartifacts : manifestArtifacts manifest = .ok artifacts) :
    (∀ entry ∈ result.restoreReport, entry.status = .restored →
      OnDisk host (workspaceOr package workspace) world'.disk entry) ↔
    NoneOverwritten host (workspaceOr package workspace)
      (deliveries host package (workspaceOr package workspace) world.disk artifacts) := by
  obtain ⟨verified, middle, report, hverify, hrestore, hfinish⟩ := run_importSession_ok_iff.mp h
  obtain ⟨hsame, hverified⟩ := run_verifyPackage_ok hverify
  cases hpackage.symm.trans hverified.documents
  obtain ⟨found, hfound, hrestore⟩ := run_liftExcept_bind_ok_iff.mp hrestore
  cases hartifacts.symm.trans hfound
  have hchecked := validateSecurityPolicy_artifacts (checkDocuments_ok hverified.checks).security hartifacts
  obtain ⟨hfiles, htells⟩ := run_restoreEach_delivers (SameFiles.refl middle.disk) hrestore
  rw [hsame.disk] at hfiles htells
  rw [(finishImport_ok hfinish).1]
  generalize workspaceOr package workspace = workspace at *
  have hplaces : ∀ brought ∈ deliveries host package workspace world.disk artifacts,
      AllowedPlace workspace (brought.place workspace) ↔ brought.status = .restored := by
    intro brought hmem
    obtain ⟨artifact, hartifact, disk, hdelivery⟩ := delivery_of_mem hmem
    exact allowedPlace_of_restored (hchecked artifact hartifact) hdelivery
  have hlast := forall_found_iff_pairwise (AllowedPlace workspace) (fileReport host) world.disk
    ((deliveries host package workspace world.disk artifacts).map (Delivery.write workspace))
  rw [List.forall_mem_map, List.pairwise_map] at hlast
  have hreport := forall_restored_iff htells hfiles
  rw [hreport, NoneOverwritten]
  apply Iff.trans (Iff.trans _ hlast) _
  · exact forall₂_congr fun brought hmem => imp_congr_left (hplaces brought hmem).symm
  · apply List.Pairwise.iff_of_mem
    intro earlier later hearlier hlater
    have hsame : fileReport host (.file earlier.content) = fileReport host (.file later.content) ↔
        sha256Bytes host earlier.content = sha256Bytes host later.content ∧
          earlier.content.length = later.content.length := by
      rw [fileReport, fileReport, Option.some.injEq, Prod.mk.injEq]
    rw [Delivery.write, Delivery.write, hsame, hplaces earlier hearlier]
    constructor
    · intro h hrestored _ hplace
      exact h hrestored hplace
    · intro h hrestored hplace
      have hwatched := (hplaces earlier hearlier).mpr hrestored
      rw [show earlier.place workspace = later.place workspace from hplace] at hwatched
      exact h hrestored ((hplaces later hlater).mp hwatched) hplace

/-- The plain package with a second artifact, of other bytes, for any place. -/
def twoManifest (secondPath : String) : Json Int :=
  .dict [("graph_path", .str "graph.json"), ("graph_hash", draftHash decimalHost (plainDraft [])),
    ("security", draftSecurity decimalHost (plainDraft [])),
    ("artifacts", .list [draftArtifact (plainDraft []),
      .dict [("sha256", .str (sha256Bytes decimalHost [4])), ("path", .str secondPath),
        ("blob_path", .str "other"), ("size_bytes", .int 1)]]),
    ("prompt", .dict [("byte_hash", .str (sha256Bytes decimalHost (asBytes "\n"))),
      ("token_hash", .str (tokenHash decimalHost (asBytes "\n")))]),
    ("kv", .dict [("kv_hash", .str (sha256Bytes decimalHost (kvBytes (asBytes "\n"))))]),
    ("deterministic_next_response", .str (deterministicContinue decimalHost "\n"
      (.str (sha256Bytes decimalHost [1, 2, 3])))),
    ("artifact_store", .str "content-addressed-v0")]

def twoWorld (secondPath : String) : World :=
  ⟨diskOf [[], ["package"]] [(["package", "manifest.json"], jsonBytes decimalHost (twoManifest secondPath)),
    (["package", "graph.json"], jsonBytes decimalHost (draftGraph decimalHost (plainDraft []))),
    (["package", "blob"], [1, 2, 3]), (["package", "other"], [4])], []⟩

theorem packageAt_two (secondPath : String) :
    packageAt decimalHost draftPackage (twoWorld secondPath).disk =
      .ok (twoManifest secondPath, draftGraph decimalHost (plainDraft [])) := by
  have hrelative : safePackageRelativePath (.str "graph.json" : Json Int) = .ok ⟨"", ["graph.json"]⟩ := rfl
  refine packageAt_of_files decimalHost rfl ?_ rfl hrelative rfl
    (printable_draftGraph decimalHost (plainDraft []) trivial)
  simp [twoManifest, draftHash, draftSecurity, draftNames, draftArtifact, plainDraft, blobDraft, Printable,
    PrintableFields, PrintableItems, allowedTargetRuntimes, allowedToolNames]

theorem exists_run_ok {ε σ α : Type} {x : EStateM ε σ α} {s : σ} {p : α → σ → Bool}
    (h : (match x.run s with | .ok a t => p a t | .error _ _ => false) = true) :
    ∃ a t, x.run s = .ok a t ∧ p a t = true := by
  cases hrun : x.run s with
  | ok a t =>
    rw [hrun] at h
    exact ⟨a, t, rfl, h⟩
  | error e t =>
    rw [hrun] at h
    cases h

theorem checkDocuments_two {secondPath : String}
    (hcontents : checkContents decimalHost (draftGraph decimalHost (plainDraft [])) (twoManifest secondPath)
      (draftSecurity decimalHost (plainDraft [])) runtimeId = .ok ()) :
    checkDocuments decimalHost (twoManifest secondPath) (draftGraph decimalHost (plainDraft [])) runtimeId =
      .ok (⟨.str trustedSignerId, runtimeId, 1⟩, [], ⟨"not_present", []⟩) := by
  have hhash : (twoManifest secondPath).item "graph_hash" = .ok (draftHash decimalHost (plainDraft [])) := rfl
  have hget : (twoManifest secondPath).get "security" = .ok (draftSecurity decimalHost (plainDraft [])) := rfl
  have htruthy : refuseIf (!(draftSecurity decimalHost (plainDraft [])).truthy decimalHost.toAdapterHost)
    "missing security attestation" = .ok () := rfl
  rw [checkDocuments, except_bind_of_ok hhash, except_bind_of_ok (verifyGraph_draft decimalHost (plainDraft [])),
    validateSecurityPolicy, except_bind_of_ok hget, except_bind_of_ok htruthy,
    except_bind_of_ok (checkSignature_draft decimalHost List.mem_cons_self), except_bind_of_ok hcontents,
    except_bind_of_ok (checkProvenance_draft decimalHost (plainDraft []))]
  rfl

theorem continues_two (secondPath : String) : ManifestContinues decimalHost (twoManifest secondPath) "\n" :=
  ⟨⟨_, rfl, rfl, rfl⟩, ⟨_, rfl, rfl⟩,
    ⟨_, draftArtifact (plainDraft []), .str (sha256Bytes decimalHost [1, 2, 3]), rfl, rfl, rfl, rfl⟩⟩

/-- The part of the import that goes over the files of the artifacts. -/
def placeTwo (secondPath : String) : AgentIO (List (VerifiedArtifact Int) × List (RestoreEntry Int)) := do
  let verified ← verifyArtifacts decimalHost draftPackage (twoManifest secondPath)
  let report ← restoreArtifacts decimalHost draftPackage (twoManifest secondPath) plainWorkspace
  pure (verified, report)

theorem two_imported {secondPath : String} {p : List (RestoreEntry Int) → World → Bool}
    (hcontents : checkContents decimalHost (draftGraph decimalHost (plainDraft [])) (twoManifest secondPath)
      (draftSecurity decimalHost (plainDraft [])) runtimeId = .ok ())
    (hplaced : ∃ restored world', (placeTwo secondPath).run ⟨(twoWorld secondPath).disk,
      (twoWorld secondPath).log ++ packageReads draftPackage (twoManifest secondPath)⟩ = .ok restored world' ∧
        p restored.2 world' = true) :
    ∃ result world', (importSession decimalHost draftPackage (some plainWorkspace) runtimeId).run
      (twoWorld secondPath) = .ok result world' ∧ p result.restoreReport world' = true := by
  obtain ⟨restored, world', hrestored, hp⟩ := hplaced
  obtain ⟨verified, middle, hverified, hrestored⟩ := run_bind_ok_iff.mp hrestored
  obtain ⟨report, last, hreport, hrestored⟩ := run_bind_ok_iff.mp hrestored
  cases hrestored
  obtain ⟨result, hresult⟩ := ManifestContinues.finishImport ⟨twoManifest secondPath,
    draftGraph decimalHost (plainDraft []), ⟨.str trustedSignerId, runtimeId, 1⟩, [], ⟨"not_present", []⟩, verified⟩
    (continues_two secondPath) (reconstructPrompt_draft decimalHost rfl) (by decide) rfl rfl rfl rfl plainWorkspace
    report
  refine ⟨result, world', ?_, ?_⟩
  · rw [importSession_eq, run_bind_of_ok (run_readPackage_of_packageAt decimalHost _ (packageAt_two secondPath))]
    dsimp only
    rw [importDocuments, run_liftExcept_bind_of_ok (checkDocuments_two hcontents)]
    dsimp only
    rw [run_bind_of_ok hverified]
    exact run_bind_ok_iff.mpr ⟨report, world', hreport, run_liftExcept_ok_iff.mpr ⟨hresult, rfl⟩⟩
  · rw [(finishImport_ok hresult).1]
    exact hp

theorem apart_restored : ∃ restored world', (placeTwo "reports/b").run ⟨(twoWorld "reports/b").disk,
      (twoWorld "reports/b").log ++ packageReads draftPackage (twoManifest "reports/b")⟩ = .ok restored world' ∧
    (restored.2.map (·.status) = [.restored, .restored] : Bool) = true := by
  apply exists_run_ok
  decide +kernel

/-- Two artifacts of different bytes for two places. -/
theorem apartArtifacts_onDisk : ∃ result world',
    (importSession decimalHost draftPackage (some plainWorkspace) runtimeId).run (twoWorld "reports/b") =
      .ok result world' ∧ result.restoreReport.map (·.status) = [.restored, .restored] ∧
    ∀ entry ∈ result.restoreReport, entry.status = .restored →
      OnDisk decimalHost plainWorkspace world'.disk entry := by
  obtain ⟨result, world', hrun, hboth⟩ := two_imported
    (p := fun report _ => (report.map (·.status) = [.restored, .restored] : Bool)) (by decide +kernel) apart_restored
  refine ⟨result, world', hrun, of_decide_eq_true hboth,
    (restored_onDisk_iff hrun (packageAt_two "reports/b") rfl).mpr (noneOverwritten_of_nodup ?_)⟩
  decide +kernel

/-- Three bytes are reported at a place that holds one. -/
def reportsLostBytes (report : List (RestoreEntry Int)) (world : World) : Bool :=
  (report.any fun entry => entry.status = .restored ∧
    entry.targetPath = some ⟨"", ["reports", "a"]⟩ ∧ entry.sizeBytes = some 3) &&
      world.disk ["workspace", "reports", "a"] = some (.file [4])

theorem clash_restored : ∃ restored world', (placeTwo "reports/a").run ⟨(twoWorld "reports/a").disk,
      (twoWorld "reports/a").log ++ packageReads draftPackage (twoManifest "reports/a")⟩ = .ok restored world' ∧
    reportsLostBytes restored.2 world' = true := by
  apply exists_run_ok
  decide +kernel

/-- Two artifacts restored to one place: the import succeeds, and the report of the first is of bytes that
are gone. -/
theorem clash_not_onDisk : ∃ result world' entry,
    (importSession decimalHost draftPackage (some plainWorkspace) runtimeId).run (twoWorld "reports/a") =
      .ok result world' ∧ entry ∈ result.restoreReport ∧ entry.status = .restored ∧
        ¬OnDisk decimalHost plainWorkspace world'.disk entry := by
  obtain ⟨result, world', hrun, hlost⟩ := two_imported (by decide +kernel) clash_restored
  rw [reportsLostBytes, Bool.and_eq_true, List.any_eq_true, decide_eq_true_eq] at hlost
  obtain ⟨⟨entry, hmem, hentry⟩, hfile⟩ := hlost
  rw [decide_eq_true_eq] at hentry
  refine ⟨result, world', entry, hrun, hmem, hentry.1, ?_⟩
  intro hdisk
  obtain ⟨target, content, htarget, hcontent, _, hsize⟩ := hdisk
  cases hentry.2.1.symm.trans htarget
  cases hfile.symm.trans hcontent
  cases hentry.2.2.symm.trans hsize

end Overwriting

end PermeantOS
