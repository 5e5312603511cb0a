import PermeantOS.AgentAccepted

namespace PermeantOS

variable {P : Type} {host : AgentHost P}

section Atomicity

/-- Every file in a directory is as it was, and there is no new one. -/
def SameFilesUnder (directory : Directory) (disk disk' : Disk) : Prop :=
  ∀ location, directory.names <+: location →
    ∀ content, disk' location = some (.file content) ↔ disk location = some (.file content)

variable {package workspace : Directory} {targetRuntime : String} {world : World}

/-- A restore leaves the files of the workspace as they were exactly where what it brings changes nothing. -/
theorem sameFilesUnder_iff {disk disk' : Disk} {brought : List Delivery}
    (h : SameFiles (writeAll disk (brought.map (Delivery.write workspace))) disk') :
    SameFilesUnder workspace disk disk' ↔ writeAll disk (brought.map (Delivery.write workspace)) = disk := by
  constructor
  · intro hsame
    funext location
    by_cases hwritten : ∃ write ∈ brought.map (Delivery.write workspace), write.1 = location
    · obtain ⟨write, hmem, rfl, hfound⟩ := writeAll_of_exists hwritten disk
      obtain ⟨delivered, _, rfl⟩ := List.mem_map.mp hmem
      rw [hfound]
      exact ((hsame _ (delivered.place_begins workspace) delivered.content).mp
        ((h.file_iff _ _).mpr hfound)).symm
    · exact writeAll_of_forall_ne (fun write hmem heq => hwritten ⟨write, hmem, heq⟩) disk
  · intro hwrites location _ content
    rw [hwrites] at h
    exact h.file_iff location content

/-- An import that raises leaves the files of the workspace as they were exactly where the package is not
accepted, where the restore can come to its end and the session goes on, or where all that the restore brings
is there already. -/
theorem importSession_atomic_iff (host : AgentHost P) (package workspace : Directory)
    (targetRuntime : String) (world : World) :
    (∀ e world', (importSession host package (some workspace) targetRuntime).run world = .error e world' →
      SameFilesUnder workspace world.disk world'.disk) ↔
    ∀ manifest graph artifacts, Accepted host package targetRuntime world.disk manifest graph artifacts →
      ((∃ disk, (restorePlan host package workspace world.disk artifacts).2 = .ok disk) ∧
        SessionFits host manifest graph artifacts) ∨
      writeAll world.disk ((restorePlan host package workspace world.disk artifacts).1.map
        (Delivery.write workspace)) = world.disk := by
  constructor
  · intro h manifest graph artifacts haccepted
    cases hplan : (restorePlan host package workspace world.disk artifacts).2 with
    | error e =>
      obtain ⟨world', hrun, hfiles⟩ := haccepted.run_importSession_of_error (some workspace) hplan
      exact Or.inr ((sameFilesUnder_iff hfiles).mp (h e world' hrun))
    | ok disk =>
      obtain ⟨log, _, hrefused⟩ := haccepted.run_importSession_of_ok (some workspace) hplan
      by_cases hfits : SessionFits host manifest graph artifacts
      · exact Or.inl ⟨⟨disk, rfl⟩, hfits⟩
      · obtain ⟨e, hrun⟩ := hrefused hfits
        exact Or.inr ((sameFilesUnder_iff (restorePlan_files hplan)).mp (h e _ hrun))
  · intro h e world' hrun
    by_cases hsome : ∃ manifest graph artifacts, Accepted host package targetRuntime world.disk manifest graph artifacts
    · obtain ⟨manifest, graph, artifacts, haccepted⟩ := hsome
      have hcondition := h manifest graph artifacts haccepted
      cases hplan : (restorePlan host package workspace world.disk artifacts).2 with
      | error found =>
        obtain ⟨after, hfound, hfiles⟩ := haccepted.run_importSession_of_error (some workspace) hplan
        cases hfound.symm.trans hrun
        rw [hplan] at hcondition
        refine (sameFilesUnder_iff hfiles).mpr (hcondition.resolve_left ?_)
        rintro ⟨⟨disk, hdisk⟩, _⟩
        cases hdisk
      | ok disk =>
        obtain ⟨log, hgoes, hrefused⟩ := haccepted.run_importSession_of_ok (some workspace) hplan
        by_cases hfits : SessionFits host manifest graph artifacts
        · obtain ⟨result, hresult⟩ := hgoes hfits
          cases hresult.symm.trans hrun
        · obtain ⟨found, hfound⟩ := hrefused hfits
          cases hfound.symm.trans hrun
          exact (sameFilesUnder_iff (restorePlan_files hplan)).mpr (hcondition.resolve_left fun hboth => hfits hboth.2)
    · simp only [not_exists] at hsome
      obtain ⟨found, after, hfound, hdisk⟩ := run_importSession_of_refused (some workspace) hsome
      cases hfound.symm.trans hrun
      rw [hdisk]
      exact fun _ _ _ => Iff.rfl

theorem run_finishImport_of_error {verified : VerifiedPackage P} {report : List (RestoreEntry P)}
    {world : World} {e : PyException}
    (h : checkContinuation host verified.manifest verified.graph = .error e) :
    (liftExcept (finishImport host verified workspace report) : AgentIO _).run world = .error e world := by
  rw [finishImport, h]
  rfl

/-- A message that the prompt hashes of a draft do not know of. -/
def greeting : Json Int := .dict [("type", .str "message"), ("role", .str "user"), ("content", .str "hi")]

/-- A package whose prompt hashes do not fit is refused, with its artifact in the workspace already. -/
theorem greeting_refused_after_restore : ∃ e world',
    (importSession decimalHost draftPackage (some plainWorkspace) runtimeId).run (plainWorld [greeting]) =
      .error e world' ∧
    ¬SameFilesUnder plainWorkspace (plainWorld [greeting]).disk world'.disk := by
  obtain ⟨reports, hreports⟩ := checkDocuments_draft decimalHost (plainDraft [greeting]) runtimeId (by decide)
    (by decide +kernel) (by decide +kernel)
  have hcontinuation : (checkContinuation decimalHost (draftManifest decimalHost (plainDraft [greeting]))
      (draftGraph decimalHost (plainDraft [greeting]))).toBool = false := by decide +kernel
  have hnodes : PrintableItems decimalHost.floatRepr decimalHost.parseFloat [greeting] := by
    simp [greeting, Printable, PrintableFields, PrintableItems]
  obtain ⟨log, hrun⟩ := run_importSession_blobDraft decimalHost (some plainWorkspace) ⟨"", ["reports", "a"]⟩
    ["workspace", "reports", "a"] (packageAt_plain hnodes) hreports rfl rfl rfl rfl rfl
    (by intro h; cases h) (by decide)
  cases hresult : checkContinuation decimalHost (draftManifest decimalHost (plainDraft [greeting]))
      (draftGraph decimalHost (plainDraft [greeting])) with
  | ok evidence =>
    rw [hresult] at hcontinuation
    cases hcontinuation
  | error e =>
    refine ⟨e, _, hrun.trans (run_finishImport_of_error hresult), ?_⟩
    intro hsame
    have hnew := (hsame ["workspace", "reports", "a"] (by decide) [1, 2, 3]).mp (by simp)
    cases hnew

end Atomicity

section Vouching

variable {package workspace : Directory}

/-- A report of a restored artifact tells the bytes that were written to its target, and unless the target
is the blob itself, they have the digest that the entry of the manifest names. -/
def VouchedFor (host : AgentHost P) (package workspace : Directory) (log : List Access) (artifact : Json P)
    (entry : RestoreEntry P) : Prop :=
  ∃ source target content, artifact.item "path" = .ok entry.path ∧
    artifactPaths artifact = .ok (source, target) ∧ entry.targetPath = some target ∧
    .write (workspace.names ++ target.parts) content ∈ log ∧
    entry.sha256 = .str (sha256Bytes host content) ∧
    (package.names ++ source.parts ≠ workspace.names ++ target.parts →
      artifact.item "sha256" = .ok (.str (sha256Bytes host content)))

theorem VouchedFor.mono {log log' : List Access} {artifact : Json P} {entry : RestoreEntry P}
    (h : VouchedFor host package workspace log artifact entry) (hsubset : log ⊆ log') :
    VouchedFor host package workspace log' artifact entry := by
  obtain ⟨source, target, content, hpath, hpaths, htarget, hwrite, hsha256, hvouched⟩ := h
  exact ⟨source, target, content, hpath, hpaths, htarget, hsubset hwrite, hsha256, hvouched⟩

theorem run_restoreArtifact_restored {artifact : Json P} {entry : RestoreEntry P} {world world' : World}
    (h : (restoreArtifact host package workspace artifact).run world = .ok entry world')
    (hrestored : entry.status = .restored) :
    ∃ log, world'.log = world.log ++ log ∧ VouchedFor host package workspace log artifact entry := by
  obtain ⟨policy, _, ⟨_, hrebind, _⟩ | ⟨_, source, target, blob, content, hcopied⟩⟩ := run_restoreArtifact_ok h
  · cases hrebind.symm.trans hrestored
  · obtain ⟨log, hlog, hwrite⟩ := hcopied.logged
    have hstatus := hcopied.checked
    have hcontent := hcopied.copied
    have htarget := hcopied.targetPath
    rw [hrestored] at hwrite hstatus hcontent htarget
    refine ⟨log, hlog, source, target, content, hcopied.path, hcopied.paths, htarget, hwrite, hcopied.sha256, ?_⟩
    intro hne
    rcases restoreStatus_ok hstatus with ⟨_, hsha256⟩ | ⟨hquarantined, _⟩
    · rw [hcontent, restoreTarget, if_neg hne]
      · exact hsha256
      · simp
    · cases hquarantined

theorem run_restoreEach_vouched {artifacts : List (Json P)} {report : List (RestoreEntry P)}
    {world world' : World}
    (h : (artifacts.mapM (restoreArtifact host package workspace)).run world = .ok report world') :
    ∃ log, world'.log = world.log ++ log ∧ ∀ entry ∈ report, entry.status = .restored →
      ∃ artifact ∈ artifacts, VouchedFor host package workspace log artifact entry := by
  induction artifacts generalizing world report with
  | nil =>
    cases h
    exact ⟨[], by simp, by simp⟩
  | cons artifact artifacts ih =>
    rw [List.mapM_cons] at h
    obtain ⟨entry, middle, hentry, h⟩ := run_bind_ok_iff.mp h
    obtain ⟨rest, last, hrest, h⟩ := run_bind_ok_iff.mp h
    cases h
    obtain ⟨log, hlog, hall⟩ := ih hrest
    -- the log grows whatever becomes of the entry
    have hgrows := writesTarget_restoreArtifact host package workspace
      (List.mem_cons_self : artifact ∈ artifact :: artifacts) world
    rw [hentry] at hgrows
    obtain ⟨front, hfront⟩ := hgrows
    refine ⟨front ++ log, by rw [hlog, ← List.append_assoc]; exact congrArg (· ++ log) hfront.log_eq, ?_⟩
    intro other hmem hrestored
    rcases List.mem_cons.mp hmem with rfl | hmem
    · obtain ⟨log', hlog', hvouched⟩ := run_restoreArtifact_restored hentry hrestored
      cases List.append_cancel_left (hlog'.symm.trans hfront.log_eq)
      exact ⟨artifact, List.mem_cons_self, hvouched.mono (List.subset_append_left _ _)⟩
    · obtain ⟨source, hsource, hvouched⟩ := hall other hmem hrestored
      exact ⟨source, List.mem_cons_of_mem _ hsource, hvouched.mono (List.subset_append_right _ _)⟩

/-- The bytes of every artifact that an import reports as restored are those of its manifest entry. -/
theorem restored_vouched_by_manifest {workspace : Option Directory} {targetRuntime : String}
    {world world' : World} {result : ImportResult P} {manifest graph : Json P}
    (h : (importSession host package workspace targetRuntime).run world = .ok result world')
    (hpackage : packageAt host package world.disk = .ok (manifest, graph)) :
    ∃ artifacts log, manifestArtifacts manifest = .ok artifacts ∧ world'.log = world.log ++ log ∧
      ∀ entry ∈ result.restoreReport, entry.status = .restored → ∃ artifact ∈ artifacts,
        VouchedFor host package (workspaceOr package workspace) log artifact entry := by
  obtain ⟨verified, middle, report, hverify, hrestore, hfinish⟩ := run_importSession_ok_iff.mp h
  obtain ⟨hsame, hverified⟩ := run_verifyPackage_ok hverify
  cases hpackage.symm.trans hverified.documents
  obtain ⟨artifacts, hartifacts, hrestore⟩ := run_liftExcept_bind_ok_iff.mp hrestore
  obtain ⟨log, hlog, hall⟩ := run_restoreEach_vouched hrestore
  obtain ⟨reads, hreads⟩ := hsame.log
  refine ⟨artifacts, reads.map .read ++ log, hartifacts, by rw [hlog, hreads, List.append_assoc], ?_⟩
  intro entry hmem hrestored
  rw [(finishImport_ok hfinish).1] at hmem
  obtain ⟨artifact, hartifact, hvouched⟩ := hall entry hmem hrestored
  exact ⟨artifact, hartifact, hvouched.mono (List.subset_append_right _ _)⟩

theorem importSession_plainDraft : ∃ result log,
    (importSession decimalHost draftPackage (some plainWorkspace) runtimeId).run (plainWorld []) =
      .ok result ⟨plainImported [], log⟩ ∧
    result.restoreReport = [blobEntry decimalHost "reports/a" ⟨"", ["reports", "a"]⟩ [1, 2, 3]] := by
  have hnodes : PrintableItems decimalHost.floatRepr decimalHost.parseFloat [] := trivial
  obtain ⟨result, log, hrun, hreport, _⟩ := run_importSession_plain hnodes (by decide +kernel)
    (by decide +kernel) rfl
  exact ⟨result, log, hrun, hreport⟩

theorem plainArtifact_vouched : ∃ result log artifacts entry artifact,
    (importSession decimalHost draftPackage (some plainWorkspace) runtimeId).run (plainWorld []) =
      .ok result ⟨plainImported [], log⟩ ∧
    manifestArtifacts (draftManifest decimalHost (plainDraft [])) = .ok artifacts ∧
    entry ∈ result.restoreReport ∧ entry.status = .restored ∧ artifact ∈ artifacts ∧
    VouchedFor decimalHost draftPackage plainWorkspace log artifact entry := by
  have hnodes : PrintableItems decimalHost.floatRepr decimalHost.parseFloat [] := trivial
  obtain ⟨result, log, hrun, hreport⟩ := importSession_plainDraft
  have hmem : blobEntry decimalHost "reports/a" ⟨"", ["reports", "a"]⟩ [1, 2, 3] ∈ result.restoreReport := by
    rw [hreport]
    exact List.mem_singleton_self _
  obtain ⟨artifacts, written, hartifacts, hlog, hall⟩ :=
    restored_vouched_by_manifest hrun (packageAt_plain hnodes)
  obtain ⟨artifact, hartifact, hvouched⟩ := hall _ hmem rfl
  -- the log of the sample starts empty
  cases (hlog : log = [] ++ written)
  exact ⟨result, _, artifacts, _, artifact, hrun, hartifacts, hmem, rfl, hartifact, hvouched⟩

/-- The plain package is accepted and its artifact restored, although its graph has no artifact node. -/
theorem plainArtifact_unknown_to_graph : ∃ result log entry graph,
    (importSession decimalHost draftPackage (some plainWorkspace) runtimeId).run (plainWorld []) =
      .ok result ⟨plainImported [], log⟩ ∧
    packageAt decimalHost draftPackage (plainWorld []).disk =
      .ok (draftManifest decimalHost (plainDraft []), graph) ∧
    entry ∈ result.restoreReport ∧ entry.status = .restored ∧ artifactNodes decimalHost graph = .ok [] := by
  have hnodes : PrintableItems decimalHost.floatRepr decimalHost.parseFloat [] := trivial
  obtain ⟨result, log, hrun, hreport⟩ := importSession_plainDraft
  refine ⟨result, log, blobEntry decimalHost "reports/a" ⟨"", ["reports", "a"]⟩ [1, 2, 3], _, hrun,
    packageAt_plain hnodes, ?_, rfl, rfl⟩
  rw [hreport]
  exact List.mem_singleton_self _

end Vouching

end PermeantOS
