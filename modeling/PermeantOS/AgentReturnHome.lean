import PermeantOS.AgentReturn
import PermeantOS.AgentRoundTrip
import PermeantOS.AsciiText

namespace PermeantOS

variable {P : Type} {host : AgentHost P}

section Traces

variable {result : ImportResult P} {graph report : Json P} {world world' : World}

/-- The edits that lead from a graph to the one that a resume leaves. -/
structure PublishedResume.Edits (host : AgentHost P) (resume : PublishedResume P)
    (graph readGraph markedGraph : Json P) : Prop where
  read : resumeRead host graph = .ok readGraph
  marked : markToolCallCompleted host readGraph publishToolId "approved" = .ok markedGraph
  recorded : recordPublish host markedGraph (sha256Bytes host resume.announcement)
    resume.announcement.length = .ok resume.recorded
  closed : closeGraph host resume.recorded (.str resume.originHash) = .ok (resume.closed, resume.graphHash)

/-- The files that a resume leaves in a workspace. -/
structure PublishedResume.Files (host : AgentHost P) (resume : PublishedResume P) (workspace : Directory)
    (disk : Disk) : Prop where
  announcement : readBytes disk (announcementTarget workspace) = .ok resume.announcement
  graph : readBytes disk (resumedGraphPath workspace) = .ok (jsonFileBytes host resume.closed)
  report : readBytes disk (resumeReportPath workspace) = .ok (jsonFileBytes host (.dict (resume.report host)))

theorem run_writeJson_ok {path : Location} {value : Json P} (hdots : ".." ∉ path)
    (h : (writeJson host path value).run world = .ok () world') :
    WroteFile path (jsonFileBytes host value) world.disk world'.disk := run_writeFile_ok hdots h

theorem run_fileSha256AndSize_ok {path : List String} {content : List UInt8} {found : String × Nat}
    (h : (fileSha256AndSize host path).run world = .ok found world') (hdots : ".." ∉ path)
    (hread : readBytes world.disk path = .ok content) :
    found = (sha256Bytes host content, content.length) ∧ world'.disk = world.disk := by
  have hrun := run_fileSha256AndSize_of_readBytes host world.log hdots hread
  cases h.symm.trans hrun
  exact ⟨rfl, rfl⟩

/-- A resume with approval: its edits, and its files. -/
theorem run_resumeGraph_published {originHash : String} (hhash : graph.item "graph_hash" = .ok (.str originHash))
    (h : (resumeGraph host result graph true).run world = .ok report world') :
    ∃ (resume : PublishedResume P) (read marked : Json P), resume.originHash = originHash ∧
      resume.Edits host graph read marked ∧ resume.Files host result.restoredWorkspace world'.disk ∧
      ∀ other bytes, ".." ∉ other → ¬result.restoredWorkspace.names <+: other →
        readBytes world.disk other = .ok bytes → readBytes world'.disk other = .ok bytes := by
  rw [resumeGraph_eq, run_liftExcept_bind_of_ok hhash] at h
  obtain ⟨read, hread, h⟩ := run_liftExcept_bind_ok_iff.mp h
  obtain ⟨publishTool, _, h⟩ := run_liftExcept_bind_ok_iff.mp h
  obtain ⟨state, middle, hstate, h⟩ := run_bind_ok_iff.mp h
  obtain ⟨_, _, hstate⟩ := run_liftExcept_bind_ok_iff.mp hstate
  obtain ⟨_, _, hstate⟩ := run_liftExcept_bind_ok_iff.mp hstate
  obtain ⟨_, _, hstate⟩ := run_liftExcept_bind_ok_iff.mp hstate
  obtain ⟨marked, hmarked, hstate⟩ := run_liftExcept_bind_ok_iff.mp hstate
  obtain ⟨_, made, hmade, hstate⟩ := run_bind_ok_iff.mp hstate
  obtain ⟨_, wrote, hwrote, hstate⟩ := run_bind_ok_iff.mp hstate
  obtain ⟨found, hashed, hhashed, hstate⟩ := run_bind_ok_iff.mp hstate
  obtain ⟨recorded, hrecorded, hstate⟩ := run_liftExcept_bind_ok_iff.mp hstate
  cases hstate
  obtain ⟨⟨closed, graphHash⟩, hclosed, h⟩ := run_liftExcept_bind_ok_iff.mp h
  obtain ⟨_, after, hgraph, h⟩ := run_bind_ok_iff.mp h
  obtain ⟨_, last, hreport, h⟩ := run_bind_ok_iff.mp h
  cases h
  have hdots : ".." ∉ announcementTarget result.restoredWorkspace :=
    result.restoredWorkspace.not_mem_append (by decide)
  have hdots' : ".." ∉ resumedGraphPath result.restoredWorkspace :=
    result.restoredWorkspace.not_mem_append (by decide)
  have hdots'' : ".." ∉ resumeReportPath result.restoredWorkspace :=
    result.restoredWorkspace.not_mem_append (by decide)
  have hfirst := run_writeFile_ok hdots (run_bind_ok_iff.mpr ⟨(), made, hmade, hwrote⟩)
  obtain ⟨rfl, hsame⟩ := run_fileSha256AndSize_ok hhashed hdots hfirst.found
  have hsecond := run_writeJson_ok hdots' hgraph
  have hthird := run_writeJson_ok hdots'' hreport
  rw [hsame] at hsecond
  refine ⟨⟨result, recorded, closed, originHash, graphHash,
      asBytes (publishAnnouncementContent host result (.str originHash))⟩, read, marked, rfl,
    ⟨hread, hmarked, hrecorded, hclosed⟩, ⟨?_, ?_, hthird.found⟩, ?_⟩
  · refine hthird.others _ _ hdots (by simp [announcementTarget, resumeReportPath]) ?_
    exact hsecond.others _ _ hdots (by simp [announcementTarget, resumedGraphPath]) hfirst.found
  · exact hthird.others _ _ hdots' (by simp [resumedGraphPath, resumeReportPath]) hsecond.found
  · intro other bytes hother houtside hbytes
    have hne (names : List String) : other ≠ result.restoredWorkspace.names ++ names := by
      rintro rfl
      exact houtside (List.prefix_append _ _)
    exact hthird.others _ _ hother (hne _) (hsecond.others _ _ hother (hne _)
      (hfirst.others _ _ hother (hne _) hbytes))

end Traces

section Home

variable {package workspace home : Directory} {result : ImportResult P} {manifest graph report : Json P}
  {artifacts : List (Json P)} {world world' middle start after : World}

/-- `graph.get("nodes", [])`, as it is iterated. -/
def graphNodes (graph : Json P) : Except PyException (List (Json P)) := do
  let nodes ← graph.getOr "nodes" (.list [])
  nodes.iterate

/-- A search by type asks every node, and so every node is a dict. -/
theorem dicts_of_selectNodes {kind : String} {nodes selected : List (Json P)}
    (h : selectNodes host kind nodes = .ok selected) : ∀ node ∈ nodes, ∃ found, node.get "id" = .ok found := by
  induction nodes generalizing selected with
  | nil => simp
  | cons node nodes ih =>
    obtain ⟨type, htype, h⟩ := except_bind_ok_iff.mp h
    obtain ⟨rest, hrest, _⟩ := except_bind_ok_iff.mp h
    obtain ⟨fields, rfl, _⟩ := Json.get_ok_iff.mp htype
    exact List.forall_mem_cons.mpr ⟨⟨_, rfl⟩, ih hrest⟩

theorem nodeById_missing {nodeId : String} {audit : List (AuditEntry P)}
    (haudit : auditToolReplaySafety host graph = .ok audit)
    (hnew : ∀ nodes, graphNodes graph = .ok nodes → ∀ node ∈ nodes, node.get "id" ≠ .ok (.str nodeId)) :
    nodeById host graph nodeId = .error (.importVerificationError s!"missing graph node: {nodeId}") := by
  obtain ⟨calls, hcalls, _⟩ := except_bind_ok_iff.mp haudit
  obtain ⟨found, hfound, hcalls⟩ := except_bind_ok_iff.mp hcalls
  obtain ⟨nodes, hnodes, hcalls⟩ := except_bind_ok_iff.mp hcalls
  have hgraph : graphNodes graph = .ok nodes := by rw [graphNodes, except_bind_of_ok hfound, hnodes]
  rw [nodeById, except_bind_of_ok hfound, except_bind_of_ok hnodes]
  exact findNode_missing (dicts_of_selectNodes hcalls) (hnew nodes hgraph)

/-- The node of the announcement is the first with its id in the graph that a resume leaves. -/
theorem PublishedResume.Edits.node {resume : PublishedResume P} {read marked : Json P} {message : String}
    (h : resume.Edits host graph read marked)
    (hmissing : nodeById host graph announcementId = .error (.importVerificationError message)) :
    nodeById host resume.closed announcementId = .ok (resume.node host) := by
  have hread : nodeById host read announcementId = nodeById host graph announcementId :=
    (resumeRead_ok h.read).2 announcementId (by decide) (by decide)
  have hmarked : nodeById host marked announcementId = nodeById host read announcementId :=
    (markToolCallCompleted_ok h.marked).2 announcementId (by decide)
  rw [(closeGraph_ok h.closed).2.2.2 announcementId (by decide)]
  exact recordPublish_ok h.recorded ((hmarked.trans hread).trans hmissing)

theorem PublishedResume.Edits.keepable {resume : PublishedResume P} {read marked : Json P}
    (h : resume.Edits host graph read marked) (hfloats : ResumeFloats host) (hgraph : Keepable host graph) :
    Keepable host resume.closed :=
  keepable_closeGraph h.closed (keepable_recordPublish h.recorded hfloats
    (keepable_markToolCallCompleted h.marked (keepable_resumeRead h.read hgraph))) trivial

/-- The files that a return takes from a resume. -/
def resumeFiles (workspace : Directory) : List Location :=
  [announcementTarget workspace, resumedGraphPath workspace, resumeReportPath workspace]

theorem resumeFiles_no_dots {path : Location} (h : path ∈ resumeFiles workspace) : ".." ∉ path := by
  rcases List.mem_cons.mp h with rfl | h
  · exact workspace.not_mem_append (by decide)
  · rcases List.mem_pair.mp h with rfl | rfl
    · exact workspace.not_mem_append (by decide)
    · exact workspace.not_mem_append (by decide)

theorem PublishedResume.Files.mono {resume : PublishedResume P} {disk disk' : Disk}
    (h : resume.Files host workspace disk) (hkept : ∀ path ∈ resumeFiles workspace, ∀ bytes,
      readBytes disk path = .ok bytes → readBytes disk' path = .ok bytes) :
    resume.Files host workspace disk' where
  announcement := hkept _ (by simp [resumeFiles]) _ h.announcement
  graph := hkept _ (by simp [resumeFiles]) _ h.graph
  report := hkept _ (by simp [resumeFiles]) _ h.report

theorem originImport_ne : "origin-import" ≠ ".." := by decide

/-- Where a return restores the artifacts of the package to. -/
def originImport (home : Directory) : Directory := home.child "origin-import" originImport_ne

/-- What a return asks of the file system before its checks: the directory of the origin, and the artifacts below
it. -/
def placeHome (host : AgentHost P) (package home : Directory) (disk : Disk) (artifacts : List (Json P)) :
    Except FileError Disk := do
  let made ← makeDirs disk home.names
  placeEach (originImport home) made (deliveries host package (originImport home) disk artifacts)

/-- What a return reads of the work done elsewhere. -/
theorem jsonAt_written {disk : Disk} {path : List String} {value : Json P} (hkeep : Keepable host value)
    (h : readBytes disk path = .ok (jsonFileBytes host value)) : jsonAt host disk path = .ok (sortKeys value) := by
  refine jsonAt_ok_iff.mpr ⟨_, h, ?_⟩
  rw [jsonFileBytes_eq]
  exact parseJson_jsonBytes (printable_sortKeys hkeep)

theorem packageAt_manifest {disk : Disk} (h : packageAt host package disk = .ok (manifest, graph)) :
    jsonAt host disk (manifestPath package) = .ok manifest := by
  obtain ⟨_, hmanifest, h⟩ := except_bind_ok_iff.mp h
  obtain ⟨_, _, h⟩ := except_bind_ok_iff.mp h
  obtain ⟨_, _, h⟩ := except_bind_ok_iff.mp h
  obtain ⟨_, _, h⟩ := except_bind_ok_iff.mp h
  cases h
  exact hmanifest

/-- The checks of a return on the files of a resume. -/
theorem run_checkReturn (truncate : P → Except PyException Int) {resume : PublishedResume P} {read marked : Json P}
    {message : String} (hedits : resume.Edits host graph read marked)
    (hfiles : resume.Files host workspace after.disk) (hfloats : ResumeFloats host)
    (hkeep : Keepable host graph)
    (hmissing : nodeById host graph announcementId = .error (.importVerificationError message))
    (hmanifest : jsonAt host after.disk (manifestPath package) = .ok manifest)
    (hhash : manifest.item "graph_hash" = .ok (.str resume.originHash)) :
    ∃ evidence last, (checkReturn host truncate package (resumedGraphPath workspace) (resumeReportPath workspace)
      (some (announcementTarget workspace))).run after = .ok evidence last := by
  obtain ⟨hcanonical, hitem, ⟨nodes, hnodes⟩, _⟩ := closeGraph_ok hedits.closed
  have hclosed := hedits.keepable hfloats hkeep
  have hdots : ".." ∉ manifestPath package := package.not_mem_append (by decide)
  have hgraphDots : ".." ∉ resumedGraphPath workspace := workspace.not_mem_append (by decide)
  have hreportDots : ".." ∉ resumeReportPath workspace := workspace.not_mem_append (by decide)
  have hfileDots : ".." ∉ announcementTarget workspace := workspace.not_mem_append (by decide)
  have hgraphRun (log : List Access) := run_readJson_of_jsonAt ⟨after.disk, log⟩ hgraphDots
    (jsonAt_written hclosed hfiles.graph)
  have hreportRun (log : List Access) := run_readJson_of_jsonAt ⟨after.disk, log⟩ hreportDots
    (jsonAt_written (keepable_report resume) hfiles.report)
  rw [checkReturn, run_bind_of_ok (run_readJson_of_jsonAt after hdots hmanifest), run_bind_of_ok (hgraphRun _),
    run_bind_of_ok (hreportRun _),
    run_liftExcept_bind_of_ok (checkTargetReport_report resume hhash hclosed hcanonical hitem),
    run_liftExcept_bind_of_ok (targetArtifact_report resume)]
  dsimp only
  rw [run_liftExcept_bind_of_ok (checkTargetNode_report resume hclosed hnodes (hedits.node hmissing)),
    run_bind_of_ok (run_checkTargetFile_report resume host truncate _ hfileDots hfiles.announcement)]
  exact ⟨_, _, rfl⟩

/-- A package that is accepted, and whose session goes on, can be imported at home unless the file system refuses a
directory or a file. -/
theorem run_importHome (haccepted : Accepted host package runtimeId start.disk manifest graph artifacts)
    (hfits : SessionFits host manifest graph artifacts) (hhome : ApartFrom package home) :
    (∀ e, placeHome host package home start.disk artifacts = .error e → ∃ after,
      (importHome host package home).run start = .error (.ofFileError e) after) ∧
    ∀ placed, placeHome host package home start.disk artifacts = .ok placed →
      (∃ result log, (importHome host package home).run start = .ok result ⟨placed, log⟩) ∧
      ∀ path bytes, ".." ∉ path → readBytes start.disk path = .ok bytes →
        (∀ brought ∈ deliveries host package (originImport home) start.disk artifacts,
          brought.place (originImport home) = path → brought.content = bytes) →
        readBytes placed path = .ok bytes := by
  rw [placeHome]
  cases hmade : makeDirs start.disk home.names with
  | error e =>
    refine ⟨?_, fun placed hplaced => by cases hplaced⟩
    intro found hfound
    cases hfound
    exact ⟨start, run_bind_of_error (run_makeDirectory_of_error hmade)⟩
  | ok made =>
    have hsame := makeDirs_sameFiles hmade
    have hthere : Accepted host package runtimeId (World.mk made start.log).disk manifest graph artifacts :=
      haccepted.mono fun _ _ _ _ hread => hsame.readBytes hread
    have hpolicy : ∀ artifact ∈ artifacts, checkArtifactPaths host artifact = .ok () := by
      obtain ⟨reports, hreports⟩ := haccepted.checks
      exact validateSecurityPolicy_artifacts (checkDocuments_ok hreports).security haccepted.listed
    have hplan := restorePlan_of_apart (hhome.child originImport_ne)
      (fun artifact hmem => (haccepted.entries artifact hmem).delivers (hpolicy artifact hmem) _)
      fun location _ content => (hsame.file_iff location content).mpr
    have hdirectory : (makeDirectory home.names).run start = .ok () ⟨made, start.log⟩ :=
      run_makeDirectory_ok_iff.mpr ⟨made, hmade, rfl⟩
    have hrun : (importHome host package home).run start =
        (importSession host package (some (originImport home)) runtimeId).run ⟨made, start.log⟩ :=
      run_bind_of_ok hdirectory
    rw [except_bind_of_ok rfl, hrun]
    constructor
    · intro e hrefused
      rw [originImport] at hrefused
      rw [hrefused] at hplan
      obtain ⟨after, hafter, _⟩ := hthere.run_importSession_of_error (some (originImport home)) hplan
      exact ⟨after, hafter⟩
    · intro placed hplaced
      rw [originImport] at hplaced
      rw [hplaced] at hplan
      obtain ⟨log, hgoes, _⟩ := hthere.run_importSession_of_ok (some (originImport home)) hplan
      obtain ⟨result, hresult⟩ := hgoes hfits
      refine ⟨⟨result, log, hresult⟩, ?_⟩
      intro path bytes hdots hread hown
      refine restorePlan_reads hdots hplan ?_ (hsame.readBytes hread)
      rw [restorePlan_deliveries hsame hplan]
      exact hown

/-- A return from a resume that published passes every check, unless an artifact is restored over one of the files
that it takes: nothing but the two programs writes the files between them, and what the second import asks is what
the first one asked. Where the file system refuses a directory or a file, the return ends with its error. -/
theorem returnHome_passes (truncate : P → Except PyException Int)
    (hload : (loadImported host package (some workspace)).run world = .ok (result, graph) middle)
    (hresume : (resumeImportedAgent host package (some workspace) true).run world = .ok report world')
    (hpackage : packageAt host package world.disk = .ok (manifest, graph))
    (hartifacts : manifestArtifacts manifest = .ok artifacts)
    (hapart : ApartFrom package workspace) (hhome : ApartFrom package home)
    (hnew : ∀ nodes, graphNodes graph = .ok nodes →
      ∀ node ∈ nodes, node.get "id" ≠ .ok (.str announcementId))
    (hfloats : ResumeFloats host) (hkeep : Keepable host graph)
    (hkept : ∀ path, package.names <+: path ∨ path ∈ resumeFiles workspace → ".." ∉ path → ∀ bytes,
      readBytes world'.disk path = .ok bytes → readBytes start.disk path = .ok bytes)
    (hown : ∀ brought ∈ deliveries host package (originImport home) start.disk artifacts,
      brought.place (originImport home) ∈ resumeFiles workspace →
        readBytes world'.disk (brought.place (originImport home)) = .ok brought.content) :
    (∀ e, placeHome host package home start.disk artifacts = .error e → ∃ after,
      (importHome host package home).run start = .error (.ofFileError e) after) ∧
    ∀ placed, placeHome host package home start.disk artifacts = .ok placed → ∃ result' after evidence last,
      (importHome host package home).run start = .ok result' after ∧
      (checkReturn host truncate package (resumedGraphPath workspace) (resumeReportPath workspace)
        (some (announcementTarget workspace))).run after = .ok evidence last ∧
      (returnHomeAfterTargetResume host truncate package (resumedGraphPath workspace)
        (resumeReportPath workspace) (some home) (some (announcementTarget workspace))).run start =
        (continueHome host home result' evidence).run last := by
  obtain ⟨imported, _, himported, _, hdisk⟩ := run_loadImported_ok hload
  obtain ⟨_, _, _, haccepted, hfits, hplan⟩ := run_importSession_planned himported
  cases hpackage.symm.trans haccepted.documents
  cases hartifacts.symm.trans haccepted.listed
  obtain ⟨_, _, _, _, _, hfinish⟩ := run_importSession_ok_iff.mp himported
  obtain ⟨hash, hmanifestHash, _, hgraphHash⟩ := haccepted.graphHash
  have haudit := (importSession_audit himported hpackage).1
  rw [resumeImportedAgent, run_bind_of_ok hload] at hresume
  obtain ⟨resume, read, marked, rfl, hedits, hfiles, hothers⟩ := run_resumeGraph_published hgraphHash hresume
  rw [(finishImport_ok hfinish).2.1] at hfiles hothers
  -- the package is as it was, from the first import to the second
  have hinside : ∀ path, package.names <+: path → ".." ∉ path → ∀ bytes,
      readBytes world.disk path = .ok bytes → readBytes start.disk path = .ok bytes := by
    intro path hbegins hdots bytes hread
    refine hkept path (Or.inl hbegins) hdots bytes (hothers path bytes hdots (hapart.not_begins hbegins) ?_)
    rw [hdisk]
    refine restorePlan_reads hdots hplan ?_ hread
    intro brought _ hplace
    exact absurd (hplace ▸ brought.place_begins workspace) (hapart.not_begins hbegins)
  have hhere := haccepted.mono hinside
  obtain ⟨hrefused, hplaced⟩ := run_importHome hhere hfits hhome
  refine ⟨hrefused, ?_⟩
  intro placed hplace
  obtain ⟨⟨result', log, himport⟩, hreads⟩ := hplaced placed hplace
  have hfiles' : resume.Files host workspace placed := by
    refine hfiles.mono ?_
    intro path hmem bytes hread
    have hdots := resumeFiles_no_dots hmem
    refine hreads path bytes hdots (hkept path (Or.inr hmem) hdots bytes hread) ?_
    rintro brought hbrought rfl
    exact Except.ok.inj ((hown brought hbrought hmem).symm.trans hread)
  have hpackage' : packageAt host package placed = .ok (manifest, graph) := by
    refine packageAt_of_kept hhere.documents ?_
    intro path hpath hdots bytes hread
    refine hreads path bytes hdots hread ?_
    intro brought _ hplace
    exact absurd (hplace ▸ brought.place_begins (originImport home))
      ((hhome.child originImport_ne).not_begins (documentPaths_begin hpath))
  obtain ⟨evidence, last, hcheck⟩ : ∃ evidence last, (checkReturn host truncate package (resumedGraphPath workspace)
      (resumeReportPath workspace) (some (announcementTarget workspace))).run ⟨placed, log⟩ = .ok evidence last :=
    run_checkReturn truncate hedits hfiles' hfloats hkeep (nodeById_missing haudit hnew)
      (packageAt_manifest hpackage') hmanifestHash
  refine ⟨result', ⟨placed, log⟩, evidence, last, himport, hcheck, ?_⟩
  rw [returnHomeAfterTargetResume]
  exact (run_bind_of_ok himport).trans (run_bind_of_ok hcheck)

/-- A return does not pass its checks where the file of the artifact has another size than the report says. -/
theorem run_checkReturn_refused (truncate : P → Except PyException Int) {resume : PublishedResume P}
    {content : List UInt8} (package : Directory) (graphPath : List String)
    (hreport : readBytes after.disk (resumeReportPath workspace) =
      .ok (jsonFileBytes host (.dict (resume.report host))))
    (hfile : readBytes after.disk (announcementTarget workspace) = .ok content)
    (hlength : content.length ≠ resume.announcement.length) :
    ∃ e last, (checkReturn host truncate package graphPath (resumeReportPath workspace)
      (some (announcementTarget workspace))).run after = .error e last := by
  cases hrun : (checkReturn host truncate package graphPath (resumeReportPath workspace)
    (some (announcementTarget workspace))).run after with
  | error e last => exact ⟨e, last, rfl⟩
  | ok evidence last =>
    exfalso
    obtain ⟨_, first, hmanifest, hrun⟩ := run_bind_ok_iff.mp hrun
    obtain ⟨_, _, _, rfl⟩ := run_readJson_ok_iff.mp hmanifest
    obtain ⟨_, second, hgraph, hrun⟩ := run_bind_ok_iff.mp hrun
    obtain ⟨_, _, _, rfl⟩ := run_readJson_ok_iff.mp hgraph
    obtain ⟨_, third, hread, hrun⟩ := run_bind_ok_iff.mp hrun
    obtain ⟨hjson, _, _, rfl⟩ := run_readJson_ok_iff.mp hread
    cases (jsonAt_written (keepable_report resume) hreport).symm.trans hjson
    obtain ⟨_, _, hrun⟩ := run_liftExcept_bind_ok_iff.mp hrun
    obtain ⟨_, hartifact, hrun⟩ := run_liftExcept_bind_ok_iff.mp hrun
    cases (targetArtifact_report resume).symm.trans hartifact
    obtain ⟨_, _, hrun⟩ := run_liftExcept_bind_ok_iff.mp hrun
    obtain ⟨_, fourth, hcheck, _⟩ := run_bind_ok_iff.mp hrun
    obtain ⟨_, fifth, hhash, hcheck⟩ := run_bind_ok_iff.mp hcheck
    obtain ⟨rfl, _⟩ := run_fileSha256AndSize_ok hhash (workspace.not_mem_append (by decide)) hfile
    obtain ⟨_, _, hcheck⟩ := run_liftExcept_bind_ok_iff.mp hcheck
    obtain ⟨size, hsize, hcheck⟩ := run_liftExcept_bind_ok_iff.mp hcheck
    obtain ⟨number, hnumber, hcheck⟩ := run_liftExcept_bind_ok_iff.mp hcheck
    have hitem : (sortKeys (resume.artifact host)).item "size_bytes" =
      .ok (sortKeys (.int resume.announcement.length)) := item_sortKeys (by simp) rfl
    cases (Json.getOr_of_item hitem _).symm.trans hsize
    cases hnumber
    have hequal := (run_liftExcept_ok_iff.mp hcheck).1
    rw [refuseIf_ok_iff, decide_eq_false_iff_not, not_not] at hequal
    exact hlength (Int.ofNat.inj hequal).symm

end Home

section Plain

variable {workspace : Directory} {readStatus : String} {manifest hash : Json Int} {disk imported : Disk}

/-- The files of a resume that published. -/
def placeResume (workspace : Directory) (disk : Disk) (announcement graph report : List UInt8) :
    Except FileError Disk := do
  let announced ← placeFile disk (announcementTarget workspace) announcement
  let closed ← placeFile announced (resumedGraphPath workspace) graph
  placeFile closed (resumeReportPath workspace) report

/-- A graph of a draft, with any lists in it. -/
def draftShape (hash : Json P) (edges lineage nodes : List (Json P)) : Json P :=
  .dict [("graph_hash", hash), ("edges", .list edges), ("graph_id", .str "graph"), ("lineage", .list lineage),
    ("nodes", .list nodes)]

theorem appendPostMigrationNode_draftShape (host : AgentHost P) (hash : Json P) (edges lineage nodes : List (Json P))
    (nodeId nodeType : String) (payload : Fields P) :
    appendPostMigrationNode host (draftShape hash edges lineage nodes) nodeId nodeType payload =
      .ok (draftShape hash edges lineage (nodes ++ [postMigrationNode host nodeId nodeType payload])) := rfl

theorem appendEdges_draftShape (hash : Json P) (edges lineage nodes : List (Json P))
    (new : List (String × String × String)) :
    ∃ edges', appendEdges (draftShape hash edges lineage nodes) new =
      .ok (draftShape hash edges' lineage nodes) := by
  induction new generalizing edges with
  | nil => exact ⟨edges, rfl⟩
  | cons edge new ih => exact ih _

theorem closeGraph_draftShape (host : AgentHost P) (hash preResumeGraphHash : Json P)
    (edges lineage nodes : List (Json P)) :
    ∃ closed, closeGraph host (draftShape hash edges lineage nodes) preResumeGraphHash = .ok closed := by
  rw [closeGraph, except_bind_of_ok (appendPostMigrationNode_draftShape host hash edges lineage nodes _ _ _)]
  exact ⟨_, rfl⟩

theorem recordPublish_draftShape (host : AgentHost P) (hash : Json P) (edges lineage nodes : List (Json P))
    (announcementHash : String) (announcementSize : Nat) :
    ∃ edges' nodes', recordPublish host (draftShape hash edges lineage nodes) announcementHash announcementSize =
      .ok (draftShape hash edges' lineage nodes') := by
  rw [recordPublish, except_bind_of_ok (appendPostMigrationNode_draftShape ..),
    except_bind_of_ok (appendPostMigrationNode_draftShape ..),
    except_bind_of_ok (appendPostMigrationNode_draftShape ..)]
  obtain ⟨edges', hedges⟩ := appendEdges_draftShape hash edges lineage _ _
  exact ⟨edges', _, hedges⟩

theorem markPublish_resumable (host : AgentHost Int) (hash : Json Int) (readStatus : String) :
    ∃ graph' publishTool edges nodes,
      resumeRead host (draftShape hash [] [] (resumableNodes readStatus)) = .ok graph' ∧
      nodeById host graph' publishToolId = .ok publishTool ∧
      publishTool.get "side_effect" = .ok (.str "external_write") ∧
      publishTool.get "resume_policy" = .ok (.str "ask_user") ∧
      markToolCallCompleted host graph' publishToolId "approved" = .ok (draftShape hash edges [] nodes) :=
  ⟨_, _, _, _, rfl, rfl, rfl, rfl, rfl⟩

theorem run_publishRelease_of_place {host : AgentHost P} {result : ImportResult P}
    {hash publishTool graph marked recorded : Json P} {content : List UInt8} {placed : Disk}
    (log : List Access) (hworkspace : result.restoredWorkspace = workspace)
    (hsideEffect : publishTool.get "side_effect" = .ok (.str "external_write"))
    (hresumePolicy : publishTool.get "resume_policy" = .ok (.str "ask_user"))
    (hmarked : markToolCallCompleted host graph publishToolId "approved" = .ok marked)
    (hcontent : asBytes (publishAnnouncementContent host result hash) = content)
    (hrecorded : recordPublish host marked (sha256Bytes host content) content.length = .ok recorded)
    (hplace : placeFile disk (announcementTarget workspace) content = .ok placed) :
    ∃ state log', (publishRelease host result hash publishTool graph).run ⟨disk, log⟩ =
      .ok state ⟨placed, log'⟩ ∧ state.graph = recorded := by
  have hguard : refuseIf (!pyEq host (.str "external_write") (.str "external_write") ||
    !pyEq host (.str "ask_user") (.str "ask_user")) "publish tool is not gated by explicit user approval" =
      .ok () := rfl
  obtain ⟨made, location, hdirs, hresolve, hdir, rfl⟩ := placeFile_ok_iff.mp hplace
  have hdots : ".." ∉ announcementTarget workspace := workspace.not_mem_append (by decide)
  cases resolve_of_not_mem hdots hresolve
  have hwrite : (openWrite (announcementTarget workspace) content).run ⟨made, log⟩ = .ok () _ :=
    run_openWrite_ok_iff.mpr ⟨announcementTarget workspace, hresolve, hdir, rfl⟩
  rw [publishRelease, run_liftExcept_bind_of_ok hsideEffect, run_liftExcept_bind_of_ok hresumePolicy,
    run_liftExcept_bind_of_ok hguard, run_liftExcept_bind_of_ok hmarked, hworkspace, hcontent]
  dsimp only
  rw [run_bind_of_ok (run_makeDirectory_ok_iff.mpr ⟨made, hdirs, rfl⟩), run_bind_of_ok hwrite,
    run_bind_of_ok (run_fileSha256AndSize_of_readBytes host _ hdots (readBytes_written hresolve hdir))]
  dsimp only
  rw [run_liftExcept_bind_of_ok hrecorded]
  exact ⟨_, _, rfl, rfl⟩

/-- A resume with approval of a graph that can be resumed: its three files are placed. -/
theorem run_resumeImportedAgent_published {world : World} {log : List Access} {result : ImportResult Int}
    (left : List UInt8 → List UInt8 → List UInt8 → Disk)
    (himport : (importSession decimalHost draftPackage (some workspace) runtimeId).run world =
      .ok result ⟨imported, log⟩) (hworkspace : result.restoredWorkspace = workspace)
    (hpackage : packageAt decimalHost draftPackage imported =
      .ok (manifest, draftShape hash [] [] (resumableNodes readStatus)))
    (hplaces : ∀ announcement graph report, placeResume workspace imported announcement graph report =
      .ok (left announcement graph report)) :
    ∃ middle report graph' report' log',
      (loadImported decimalHost draftPackage (some workspace)).run world =
        .ok (result, draftShape hash [] [] (resumableNodes readStatus)) middle ∧
      (resumeImportedAgent decimalHost draftPackage (some workspace) true).run world =
        .ok report ⟨left (asBytes (publishAnnouncementContent decimalHost result hash)) graph' report', log'⟩ := by
  have hload := run_loadImported_of_import himport hpackage
  have hhash : (draftShape hash [] [] (resumableNodes readStatus)).item "graph_hash" = .ok hash := rfl
  obtain ⟨announcement, hannouncement⟩ :
      ∃ bytes, asBytes (publishAnnouncementContent decimalHost result hash) = bytes := ⟨_, rfl⟩
  obtain ⟨graph', publishTool, edges, nodes, hread, hpublish, hsideEffect, hresumePolicy, hmarked⟩ :=
    markPublish_resumable decimalHost hash readStatus
  obtain ⟨edges', nodes', hrecorded⟩ := recordPublish_draftShape decimalHost hash edges [] nodes
    (sha256Bytes decimalHost announcement) announcement.length
  obtain ⟨closed, hclose⟩ := closeGraph_draftShape decimalHost hash hash edges' [] nodes'
  obtain ⟨announced, hannounced, _⟩ := except_bind_ok_iff.mp (hplaces announcement [] [])
  obtain ⟨state, log', hrelease, hgraph⟩ := run_publishRelease_of_place
    (log ++ packageReads draftPackage manifest) hworkspace hsideEffect hresumePolicy hmarked hannouncement hrecorded
    hannounced
  rw [← hgraph] at hclose
  obtain ⟨found, hfound, hrest⟩ := except_bind_ok_iff.mp (hplaces announcement (jsonFileBytes decimalHost closed.1)
    (jsonFileBytes decimalHost (.dict (resumeReport decimalHost result true hash closed.2 state))))
  cases hannounced.symm.trans hfound
  obtain ⟨placed, hplaced, hlast⟩ := except_bind_ok_iff.mp hrest
  obtain ⟨report, last, hfinish⟩ :=
    run_finishResume_of_places true announced log' hworkspace hclose hplaced hlast
  rw [hannouncement]
  refine ⟨_, report, _, _, last, hload, Eq.trans ?_ hfinish⟩
  rw [resumeImportedAgent, run_bind_of_ok hload]
  dsimp only
  rw [resumeGraph_eq, run_liftExcept_bind_of_ok hhash, run_liftExcept_bind_of_ok hread,
    run_liftExcept_bind_of_ok hpublish, releaseOrBlock, if_pos rfl]
  exact run_bind_of_ok hrelease

theorem resumeFloats_decimalHost : ResumeFloats decimalHost := by
  have hreads : ∀ text ∈ ["1.0", "0.8", "0.0"], readsDecimal (decimalHost.parseFloat text.toList) = true := by
    decide +kernel
  exact fun text htext => readsBack_decimalHost (hreads text htext)

/-- `int` of a decimal, which counts units of `10⁻²⁰`. -/
def decimalTruncate (x : Int) : Except PyException Int := .ok (x.tdiv 100000000000000000000)

def homeDirectory : Directory := ⟨["home"], by decide⟩

/-- The plain workspace after a resume that published. -/
def resumedDisk (nodes : List (Json Int)) (announcement graph report : List UInt8) : Disk :=
  Function.update (Function.update (Function.update (Function.update (Function.update (plainImported nodes)
    ["workspace", "reports", "publish"] (some .dir))
    ["workspace", "reports", "publish", "announcement.md"] (some (.file announcement)))
    ["workspace", "reports", "resume"] (some .dir))
    ["workspace", "reports", "resume", "resumed-graph.json"] (some (.file graph)))
    ["workspace", "reports", "resume", "resume-report.json"] (some (.file report))

theorem placeHome_plain (nodes : List (Json Int)) (announcement graph report : List UInt8) :
    ∃ placed, placeHome decimalHost draftPackage homeDirectory (resumedDisk nodes announcement graph report)
      [blobArtifact decimalHost "reports/a" [1, 2, 3]] = .ok placed := by
  have hdeliveries : deliveries decimalHost draftPackage (originImport homeDirectory)
      (resumedDisk nodes announcement graph report) [blobArtifact decimalHost "reports/a" [1, 2, 3]] =
      [⟨⟨"", ["reports", "a"]⟩, .restored, [1, 2, 3]⟩] := deliveries_blobDraft decimalHost rfl rfl (by decide)
  rw [placeHome, hdeliveries]
  exact ⟨_, rfl⟩

theorem no_announcement (hash : Json Int) : ∀ nodes,
    graphNodes (draftShape hash [] [] (resumableNodes readStatus)) = .ok nodes →
      ∀ node ∈ nodes, node.get "id" ≠ .ok (.str announcementId) := by
  intro nodes hfound
  have hlisted : graphNodes (draftShape hash [] [] (resumableNodes readStatus)) =
    .ok (resumableNodes readStatus) := rfl
  cases hlisted.symm.trans hfound
  simp [resumableNodes, Json.get, readToolId, publishToolId, announcementId]

theorem plainResume_returnsHome : ∃ report world' result' after evidence last,
    (resumeImportedAgent decimalHost draftPackage (some plainWorkspace) true).run
      (plainWorld (resumableNodes "not_started")) = .ok report world' ∧
    (importHome decimalHost draftPackage homeDirectory).run world' = .ok result' after ∧
    (checkReturn decimalHost decimalTruncate draftPackage (resumedGraphPath plainWorkspace)
      (resumeReportPath plainWorkspace) (some (announcementTarget plainWorkspace))).run after = .ok evidence last := by
  have hnodes : PrintableItems decimalHost.floatRepr decimalHost.parseFloat (resumableNodes "not_started") := by
    simp [resumableNodes, Printable, PrintableFields, PrintableItems]
  obtain ⟨result, log, himport, _, hworkspace⟩ := run_importSession_plain hnodes (by decide +kernel)
    (by decide +kernel) rfl
  obtain ⟨middle, report, graph', report', log', hload, hresume⟩ := run_resumeImportedAgent_published
    (resumedDisk (resumableNodes "not_started")) himport hworkspace (packageAt_plainImported hnodes)
    fun _ _ _ => rfl
  obtain ⟨placed, hplaced⟩ := placeHome_plain (resumableNodes "not_started")
    (asBytes (publishAnnouncementContent decimalHost result (draftHash decimalHost
      (plainDraft (resumableNodes "not_started"))))) graph' report'
  have houtside : ∀ path ∈ resumeFiles plainWorkspace, ¬(originImport homeDirectory).names <+: path := by decide
  obtain ⟨_, hreturns⟩ := returnHome_passes decimalTruncate hload hresume (packageAt_plain hnodes) rfl apartFrom_plain
    ⟨by decide, by decide⟩ (no_announcement _) resumeFloats_decimalHost (printable_draftGraph decimalHost _ hnodes)
    (fun _ _ _ _ hread => hread) fun brought _ hmem => absurd (brought.place_begins _) (houtside _ hmem)
  obtain ⟨result', after, evidence, last, himported, hcheck, _⟩ := hreturns placed hplaced
  exact ⟨report, _, result', after, evidence, last, hresume, himported, hcheck⟩

end Plain

section Overwritten

/-- A package that can be resumed, with an artifact for the place of the announcement. -/
def announceDraft : PackageDraft Int :=
  blobDraft decimalHost "graph.json" announcementPath (resumableNodes "not_started") [1, 2, 3]

def announceWorld : World :=
  ⟨draftDisk decimalHost announceDraft ["package", "graph.json"] [] [(["package", "blob"], [1, 2, 3])], []⟩

def announceMade : Disk :=
  Function.update (Function.update (Function.update (Function.update announceWorld.disk
    ["home"] (some .dir)) ["home", "origin-import"] (some .dir))
    ["home", "origin-import", "reports"] (some .dir)) ["home", "origin-import", "reports", "publish"] (some .dir)

def announceImported : Disk :=
  Function.update announceMade ["home", "origin-import", "reports", "publish", "announcement.md"]
    (some (.file [1, 2, 3]))

def announceLeft (announcement graph report : List UInt8) : Disk :=
  Function.update (Function.update (Function.update (Function.update announceImported
    ["home", "origin-import", "reports", "publish", "announcement.md"] (some (.file announcement)))
    ["home", "origin-import", "reports", "resume"] (some .dir))
    ["home", "origin-import", "reports", "resume", "resumed-graph.json"] (some (.file graph)))
    ["home", "origin-import", "reports", "resume", "resume-report.json"] (some (.file report))

theorem packageAt_announce {disk : Disk}
    (hmanifest : readBytes disk ["package", "manifest.json"] =
      .ok (jsonBytes decimalHost (draftManifest decimalHost announceDraft)))
    (hgraph : readBytes disk ["package", "graph.json"] =
      .ok (jsonBytes decimalHost (draftGraph decimalHost announceDraft))) :
    packageAt decimalHost draftPackage disk =
      .ok (draftManifest decimalHost announceDraft, draftGraph decimalHost announceDraft) := by
  have hnodes : PrintableItems decimalHost.floatRepr decimalHost.parseFloat (resumableNodes "not_started") := by
    simp [resumableNodes, Printable, PrintableFields, PrintableItems]
  have hrelative : safePackageRelativePath (.str "graph.json" : Json Int) = .ok ⟨"", ["graph.json"]⟩ := rfl
  exact packageAt_of_files decimalHost hmanifest (printable_blobManifest decimalHost _ _ _ _) rfl hrelative hgraph
    (printable_draftGraph decimalHost announceDraft hnodes)

theorem checkDocuments_announce : ∃ reports, checkDocuments decimalHost (draftManifest decimalHost announceDraft)
    (draftGraph decimalHost announceDraft) runtimeId = .ok reports :=
  checkDocuments_draft decimalHost announceDraft runtimeId List.mem_cons_self (by decide +kernel)
    (by decide +kernel)

theorem run_importSession_announce : ∃ result log,
    (importSession decimalHost draftPackage (some (originImport homeDirectory)) runtimeId).run announceWorld =
      .ok result ⟨announceImported, log⟩ ∧ result.restoredWorkspace = originImport homeDirectory := by
  obtain ⟨reports, hreports⟩ := checkDocuments_announce
  have htarget : safeWorkspaceRelativePath (.str announcementPath : Json Int) =
    .ok ⟨"", ["reports", "publish", "announcement.md"]⟩ := rfl
  have hpackage : packageAt decimalHost draftPackage announceWorld.disk =
    .ok (draftManifest decimalHost announceDraft, draftGraph decimalHost announceDraft) := packageAt_announce rfl rfl
  have hdirs : makeDirs announceWorld.disk ["home", "origin-import", "reports", "publish"] = .ok announceMade := rfl
  obtain ⟨log, hrun⟩ := run_importSession_blobDraft decimalHost (some (originImport homeDirectory))
    ⟨"", ["reports", "publish", "announcement.md"]⟩
    ["home", "origin-import", "reports", "publish", "announcement.md"] hpackage hreports rfl
    htarget rfl hdirs rfl (by intro h; cases h) (by decide)
  have hhash : artifactHash (draftArtifact announceDraft) =
    .ok (.str announcementPath, .str (sha256Bytes decimalHost [1, 2, 3])) := rfl
  obtain ⟨result, hfinish, _, hworkspace⟩ := finishImport_draft decimalHost announceDraft rfl hhash reports
    [.packaged (.str announcementPath) (.str "blob") (sha256Bytes decimalHost [1, 2, 3])]
    (originImport homeDirectory)
    [blobEntry decimalHost announcementPath ⟨"", ["reports", "publish", "announcement.md"]⟩ [1, 2, 3]]
  exact ⟨result, log, hrun.trans (run_liftExcept_ok_iff.mpr ⟨hfinish, rfl⟩), hworkspace⟩

theorem placeHome_announce (announcement graph report : List UInt8) :
    ∃ placed, placeHome decimalHost draftPackage homeDirectory (announceLeft announcement graph report)
        [blobArtifact decimalHost announcementPath [1, 2, 3]] = .ok placed ∧
      readBytes placed (announcementTarget (originImport homeDirectory)) = .ok [1, 2, 3] ∧
      readBytes placed (resumeReportPath (originImport homeDirectory)) = .ok report := by
  have hdeliveries : deliveries decimalHost draftPackage (originImport homeDirectory)
      (announceLeft announcement graph report) [blobArtifact decimalHost announcementPath [1, 2, 3]] =
      [⟨⟨"", ["reports", "publish", "announcement.md"]⟩, .restored, [1, 2, 3]⟩] :=
    deliveries_blobDraft decimalHost rfl rfl (by decide)
  rw [placeHome, hdeliveries]
  exact ⟨_, rfl, rfl, rfl⟩

theorem three_lt_announcement (host : AgentHost P) (result : ImportResult P) (hash : Json P) :
    3 < (asBytes (publishAnnouncementContent host result hash)).length := by
  have htitle : 3 < (asBytes "# PermeantOS Agent Activity Continuation Proof").length := by decide +kernel
  rw [publishAnnouncementContent, String.intercalate_cons_cons, asBytes_append, asBytes_append, List.length_append,
    List.length_append]
  omega

/-- The second import restores the artifact over the announcement, and the return does not pass. -/
theorem announcement_overwritten : ∃ result middle report world' result' after,
    (loadImported decimalHost draftPackage (some (originImport homeDirectory))).run announceWorld =
      .ok (result, draftGraph decimalHost announceDraft) middle ∧
    (resumeImportedAgent decimalHost draftPackage (some (originImport homeDirectory)) true).run announceWorld =
      .ok report world' ∧
    ApartFrom draftPackage (originImport homeDirectory) ∧ ApartFrom draftPackage homeDirectory ∧
    (∀ nodes, graphNodes (draftGraph decimalHost announceDraft) = .ok nodes →
      ∀ node ∈ nodes, node.get "id" ≠ .ok (.str announcementId)) ∧
    (importHome decimalHost draftPackage homeDirectory).run world' = .ok result' after ∧
    ∃ e last, (checkReturn decimalHost decimalTruncate draftPackage (resumedGraphPath (originImport homeDirectory))
      (resumeReportPath (originImport homeDirectory))
      (some (announcementTarget (originImport homeDirectory)))).run after = .error e last := by
  obtain ⟨result, log, himport, hworkspace⟩ := run_importSession_announce
  obtain ⟨middle, report, graph', report', log', hload, hresume⟩ := run_resumeImportedAgent_published
    announceLeft himport hworkspace (packageAt_announce rfl rfl) fun _ _ _ => rfl
  obtain ⟨announcement, hannouncement⟩ : ∃ bytes, asBytes (publishAnnouncementContent decimalHost result
    (draftHash decimalHost announceDraft)) = bytes := ⟨_, rfl⟩
  have hlength := three_lt_announcement decimalHost result (draftHash decimalHost announceDraft)
  rw [hannouncement] at hresume hlength
  obtain ⟨placed, hplaced, hfile, hreport⟩ := placeHome_announce announcement graph' report'
  obtain ⟨reports, hreports⟩ := checkDocuments_announce
  have haccepted : Accepted decimalHost draftPackage runtimeId
      (World.mk (announceLeft announcement graph' report') log').disk (draftManifest decimalHost announceDraft)
      (draftGraph decimalHost announceDraft) [blobArtifact decimalHost announcementPath [1, 2, 3]] :=
    accepted_blobDraft decimalHost (packageAt_announce rfl rfl) hreports rfl
  have hapart : ApartFrom draftPackage homeDirectory := ⟨by decide, by decide⟩
  obtain ⟨⟨result', last, hreturned⟩, _⟩ :=
    (run_importHome haccepted (sessionFits_blobDraft decimalHost rfl) hapart).2 placed hplaced
  refine ⟨result, middle, report, _, result', _, hload, hresume, hapart.child originImport_ne, hapart,
    no_announcement _, hreturned, ?_⟩
  -- the report is of the announcement, which has more bytes than the artifact
  have hgraphHash : (draftGraph decimalHost announceDraft).item "graph_hash" =
    .ok (draftHash decimalHost announceDraft) := rfl
  rw [resumeImportedAgent, run_bind_of_ok hload] at hresume
  obtain ⟨resume, _, _, _, _, hfiles, _⟩ := run_resumeGraph_published hgraphHash hresume
  rw [hworkspace] at hfiles
  have hbytes : readBytes (announceLeft announcement graph' report') (announcementTarget (originImport homeDirectory)) =
    .ok announcement := rfl
  have hleft : readBytes (announceLeft announcement graph' report') (resumeReportPath (originImport homeDirectory)) =
    .ok report' := rfl
  have hreported : readBytes placed (resumeReportPath (originImport homeDirectory)) =
      .ok (jsonFileBytes decimalHost (.dict (resume.report decimalHost))) := by
    rw [hreport, ← hleft]
    exact hfiles.report
  rw [Except.ok.inj (hbytes.symm.trans hfiles.announcement)] at hlength
  exact run_checkReturn_refused decimalTruncate draftPackage _ hreported hfile (Nat.ne_of_lt hlength)

end Overwritten

end PermeantOS
