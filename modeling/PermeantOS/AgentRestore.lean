import PermeantOS.AgentDrafts

namespace PermeantOS

variable {P : Type} {host : AgentHost P}

section Steps

variable {A : Access → Prop} {source target : List String}

theorem keeps_fileSha256AndSize
    (h : ∀ disk location, resolve disk source = .ok location → A (.read location)) :
    Keeps (Extends A) (fileSha256AndSize host source) :=
  Keeps.bind (keeps_openRead h) fun _ => Keeps.pure _

theorem keeps_copyFileStreamingWithHash
    (hread : ∀ disk location, resolve disk source = .ok location → A (.read location))
    (hwrite : ∀ disk location content, resolve disk target = .ok location → A (.write location content)) :
    Keeps (Extends A) (copyFileStreamingWithHash host source target) := by
  apply Keeps.bind (keeps_makeDirectory _)
  intro _
  apply Keeps.bind (keeps_openRead hread)
  intro _
  apply Keeps.bind (keeps_openWrite fun disk location => hwrite disk location [])
  intro _
  apply Keeps.bind (keeps_openRead hread)
  intro content
  apply Keeps.bind (keeps_openWrite fun disk location => hwrite disk location content)
  intro _
  exact Keeps.pure _

end Steps

section Confinement

/-- A relative path that leads down and starts as the policy wants. -/
structure AllowedPath (path : PurePath) : Prop where
  descends : Descends path
  starts : ∃ start ∈ allowedArtifactPathPrefixes, start.toList <+: path.asPosix.toList

theorem pathAllowedByPrefix_true {value : Json P} (h : pathAllowedByPrefix value = .ok true) :
    ∃ path, safeWorkspaceRelativePath value = .ok path ∧ AllowedPath path := by
  obtain ⟨path, hpath, h⟩ := except_bind_ok_iff.mp h
  have hany := Except.ok.inj h
  obtain ⟨start, hmem, hstart⟩ := List.any_eq_true.mp hany
  exact ⟨path, hpath, (safeRelativePath_ok hpath).1, start, hmem, List.isPrefixOf_iff_prefix.mp hstart⟩

theorem checkArtifactPaths_target {artifact path targetPath : Json P}
    (h : checkArtifactPaths host artifact = .ok ()) (hpath : artifact.item "path" = .ok path)
    (htarget : artifact.getOr "target_path" path = .ok targetPath) :
    pathAllowedByPrefix targetPath = .ok true := by
  obtain ⟨found, hfound, h⟩ := except_bind_ok_iff.mp h
  cases hfound.symm.trans (Json.getOr_of_item hpath _)
  obtain ⟨allowed, _, h⟩ := except_bind_ok_iff.mp h
  obtain ⟨_, h⟩ := except_bind_unit_ok_iff.mp h
  obtain ⟨value, hvalue, h⟩ := except_bind_ok_iff.mp h
  obtain ⟨answer, hanswer, h⟩ := except_bind_ok_iff.mp h
  cases htarget.symm.trans hvalue
  rw [refuseIf_ok_iff, Bool.not_eq_false'] at h
  rw [hanswer, h]

theorem artifactPaths_ok {artifact : Json P} {source target : PurePath}
    (hcheck : checkArtifactPaths host artifact = .ok ())
    (h : artifactPaths artifact = .ok (source, target)) : Descends source ∧ AllowedPath target := by
  obtain ⟨blobPath, path, targetPath, _, hsource, hpath, htargetPath, htarget⟩ := artifactPaths_ok_iff.mp h
  obtain ⟨allowed, hallowed, hpolicy⟩ :=
    pathAllowedByPrefix_true (checkArtifactPaths_target hcheck hpath htargetPath)
  cases htarget.symm.trans hallowed
  exact ⟨(safeRelativePath_ok hsource).1, hpolicy⟩

/-- A read below the package, or a write at an allowed path below the workspace or its quarantine. -/
inductive Confined (package workspace : Directory) : Access → Prop
  | read {path : PurePath} (h : Descends path) : Confined package workspace (.read (package.names ++ path.parts))
  | restored {path : PurePath} (h : AllowedPath path) (content : List UInt8) :
    Confined package workspace (.write (workspace.names ++ path.parts) content)
  | quarantined {path : PurePath} (h : AllowedPath path) (content : List UInt8) :
    Confined package workspace (.write (workspace.names ++ quarantineName :: path.parts) content)

variable {package workspace : Directory}

theorem confined_read {path : PurePath} (h : Descends path) {disk : Disk} {location : Location}
    (hresolve : resolve disk (package.names ++ path.parts) = .ok location) :
    Confined package workspace (.read location) := by
  rw [resolve_of_not_mem (package.not_mem_append h.no_dots) hresolve]
  exact .read h

theorem confined_write {path : PurePath} (h : AllowedPath path) {status : RestoreStatus} {disk : Disk}
    {location : Location} (content : List UInt8)
    (hresolve : resolve disk (restoreTarget workspace path status) = .ok location) :
    Confined package workspace (.write location content) := by
  have hquarantine : ".." ∉ quarantineName :: path.parts := by
    rw [List.mem_cons, not_or]
    exact ⟨by decide, h.descends.no_dots⟩
  cases status with
  | quarantined =>
    rw [resolve_of_not_mem (workspace.not_mem_append hquarantine) hresolve]
    exact .quarantined h content
  | restored | rebindRequired =>
    rw [resolve_of_not_mem (workspace.not_mem_append h.descends.no_dots) hresolve]
    exact .restored h content

theorem keeps_restoreArtifact {artifact : Json P} (hcheck : checkArtifactPaths host artifact = .ok ()) :
    Keeps (Extends (Confined package workspace)) (restoreArtifact host package workspace artifact) := by
  unfold restoreArtifact
  refine Keeps.bind (Keeps.liftExcept _) ?_
  intro policy
  split
  next =>
    refine Keeps.bind (Keeps.liftExcept _) ?_
    intro path
    refine Keeps.bind (Keeps.liftExcept _) ?_
    intro sha256
    exact Keeps.pure _
  next =>
    apply Keeps.liftExcept_bind
    intro paths hpaths
    obtain ⟨hsource, htarget⟩ := artifactPaths_ok hcheck hpaths
    apply Keeps.bind (keeps_fileSha256AndSize fun _ _ => confined_read hsource)
    intro found
    refine Keeps.bind (Keeps.liftExcept _) ?_
    intro status
    apply Keeps.bind (keeps_copyFileStreamingWithHash (fun _ _ => confined_read hsource)
      fun _ _ content => confined_write htarget content)
    intro copied
    refine Keeps.bind (Keeps.liftExcept _) ?_
    intro path
    exact Keeps.pure _

theorem validateSecurityPolicy_artifacts {graph manifest : Json P} {targetRuntime : String}
    {report : SecurityReport P} (h : validateSecurityPolicy host graph manifest targetRuntime = .ok report)
    {artifacts : List (Json P)} (hartifacts : manifestArtifacts manifest = .ok artifacts) :
    ∀ artifact ∈ artifacts, checkArtifactPaths host artifact = .ok () := by
  obtain ⟨security, _, _, _, _, hcontents, _⟩ := validateSecurityPolicy_ok h
  obtain ⟨_, hcontents⟩ := except_bind_unit_ok_iff.mp hcontents
  obtain ⟨found, hfound, hcontents⟩ := except_bind_ok_iff.mp hcontents
  obtain ⟨items, hitems, hcontents⟩ := except_bind_ok_iff.mp hcontents
  obtain ⟨hchecked, _⟩ := except_bind_unit_ok_iff.mp hcontents
  obtain ⟨value, hvalue, hiterate⟩ := except_bind_ok_iff.mp hartifacts
  cases hfound.symm.trans (Json.getOr_of_item hvalue _)
  cases hitems.symm.trans hiterate
  exact (checkEach_ok_iff_forall (P := fun artifact => checkArtifactPaths host artifact = .ok ())
    fun _ _ => Iff.rfl).mp hchecked

/-- Whatever the manifest says, what is restored stays where the policy allows it, and blobs are read
from the package. -/
theorem restoreArtifacts_confined {graph manifest : Json P} {targetRuntime : String}
    {report : SecurityReport P} (h : validateSecurityPolicy host graph manifest targetRuntime = .ok report)
    (package workspace : Directory) :
    Keeps (Extends (Confined package workspace)) (restoreArtifacts host package manifest workspace) := by
  apply Keeps.liftExcept_bind
  intro artifacts hartifacts
  apply Keeps.mapM
  intro artifact hmem
  exact keeps_restoreArtifact (validateSecurityPolicy_artifacts h hartifacts artifact hmem)

theorem plainRestore_confined : ∃ report,
    validateSecurityPolicy decimalHost (draftGraph decimalHost (plainDraft []))
      (draftManifest decimalHost (plainDraft [])) runtimeId = .ok report ∧
    Keeps (Extends (Confined draftPackage plainWorkspace))
      (restoreArtifacts decimalHost draftPackage (draftManifest decimalHost (plainDraft [])) plainWorkspace) := by
  have hpolicy := validateSecurityPolicy_draft decimalHost (plainDraft []) runtimeId (by decide)
    (by decide +kernel)
  exact ⟨_, hpolicy, restoreArtifacts_confined hpolicy draftPackage plainWorkspace⟩

end Confinement

section Targets

/-- The places that an entry of the manifest can be restored to. -/
inductive RestoresTo (host : AgentHost P) (workspace : Directory) (artifact : Json P) : Location → Prop
  | restored {policy : Json P} {source target : PurePath}
      (hpolicy : artifact.getOr "restore_policy" (.str "required") = .ok policy)
      (hpackaged : pyEq host policy (.str "external_rebind") = false)
      (hpaths : artifactPaths artifact = .ok (source, target)) :
    RestoresTo host workspace artifact (workspace.names ++ target.parts)
  | quarantined {policy : Json P} {source target : PurePath}
      (hpolicy : artifact.getOr "restore_policy" (.str "required") = .ok policy)
      (hquarantine : pyEq host policy (.str "quarantine_on_mismatch") = true)
      (hpaths : artifactPaths artifact = .ok (source, target)) :
    RestoresTo host workspace artifact (workspace.names ++ quarantineName :: target.parts)

/-- A write to a place that one of the entries can be restored to. -/
inductive WritesTarget (host : AgentHost P) (workspace : Directory) (artifacts : List (Json P)) :
    Access → Prop
  | read (location : Location) : WritesTarget host workspace artifacts (.read location)
  | write {artifact : Json P} {location : Location} (hmem : artifact ∈ artifacts)
      (h : RestoresTo host workspace artifact location) (content : List UInt8) :
    WritesTarget host workspace artifacts (.write location content)

theorem restoreStatus_ok {artifact policy : Json P} {actualHash : String} {status : RestoreStatus}
    (h : restoreStatus host artifact policy actualHash = .ok status) :
    (status = .restored ∧ artifact.item "sha256" = .ok (.str actualHash)) ∨
      (status = .quarantined ∧ pyEq host policy (.str "quarantine_on_mismatch") = true) := by
  obtain ⟨sha256, hsha256, h⟩ := except_bind_ok_iff.mp h
  split at h
  next heq =>
    cases h
    rw [(pyEq_str_left_iff host).mp heq] at hsha256
    exact Or.inl ⟨rfl, hsha256⟩
  next =>
    split at h
    next hquarantine =>
      cases h
      exact Or.inr ⟨rfl, hquarantine⟩
    next =>
      obtain ⟨path, _, h⟩ := except_bind_ok_iff.mp h
      cases h

variable (workspace : Directory)

theorem restoresTo_of_status {artifact policy : Json P} {source target : PurePath} {actualHash : String}
    {status : RestoreStatus} (hpolicy : artifact.getOr "restore_policy" (.str "required") = .ok policy)
    (hpackaged : pyEq host policy (.str "external_rebind") = false)
    (hpaths : artifactPaths artifact = .ok (source, target))
    (hstatus : restoreStatus host artifact policy actualHash = .ok status) :
    RestoresTo host workspace artifact (restoreTarget workspace target status) := by
  rcases restoreStatus_ok hstatus with ⟨rfl, _⟩ | ⟨rfl, hquarantine⟩
  · exact .restored hpolicy hpackaged hpaths
  · exact .quarantined hpolicy hquarantine hpaths

theorem restoreTarget_dots {target : PurePath} (h : ".." ∉ target.parts) (status : RestoreStatus) :
    ".." ∉ restoreTarget workspace target status := by
  cases status with
  | quarantined =>
    apply workspace.not_mem_append
    rw [List.mem_cons, not_or]
    exact ⟨by decide, h⟩
  | restored | rebindRequired => exact workspace.not_mem_append h

variable {workspace}

/-- One artifact of a restore, copied from its blob to its target. -/
structure CopiedBlob (host : AgentHost P) (package workspace : Directory) (artifact policy : Json P)
    (world world' : World) (entry : RestoreEntry P) (source target : PurePath) (blob content : List UInt8) :
    Prop where
  paths : artifactPaths artifact = .ok (source, target)
  found : world.disk (package.names ++ source.parts) = some (.file blob)
  checked : restoreStatus host artifact policy (sha256Bytes host blob) = .ok entry.status
  copied : content =
    if package.names ++ source.parts = restoreTarget workspace target entry.status then [] else blob
  path : artifact.item "path" = .ok entry.path
  targetPath : entry.targetPath = some (reportedTarget workspace target entry.status)
  sha256 : entry.sha256 = .str (sha256Bytes host content)
  sizeBytes : entry.sizeBytes = some content.length
  named : hasNull (restoreTarget workspace target entry.status) = false
  files : SameFiles (Function.update world.disk (restoreTarget workspace target entry.status)
    (some (.file content))) world'.disk
  logged : ∃ log, world'.log = world.log ++ log ∧
    .write (restoreTarget workspace target entry.status) content ∈ log

/-- An artifact that is restored is left to be bound again, with the world as it was, or it is copied. -/
theorem run_restoreArtifact_ok {artifact : Json P} {entry : RestoreEntry P} {world world' : World}
    (h : (restoreArtifact host package workspace artifact).run world = .ok entry world') :
    ∃ policy, artifact.getOr "restore_policy" (.str "required") = .ok policy ∧
      ((pyEq host policy (.str "external_rebind") = true ∧ entry.status = .rebindRequired ∧ world' = world) ∨
        (pyEq host policy (.str "external_rebind") = false ∧ ∃ source target blob content,
          CopiedBlob host package workspace artifact policy world world' entry source target blob content)) := by
  unfold restoreArtifact at h
  obtain ⟨policy, hpolicy, h⟩ := run_liftExcept_bind_ok_iff.mp h
  refine ⟨policy, hpolicy, ?_⟩
  split at h
  next hexternal =>
    obtain ⟨path, _, h⟩ := run_liftExcept_bind_ok_iff.mp h
    obtain ⟨sha256, _, h⟩ := run_liftExcept_bind_ok_iff.mp h
    cases h
    exact Or.inl ⟨hexternal, rfl, rfl⟩
  next hpackaged =>
    obtain ⟨⟨source, target⟩, hpaths, h⟩ := run_liftExcept_bind_ok_iff.mp h
    obtain ⟨actual, first, hread, h⟩ := run_bind_ok_iff.mp h
    obtain ⟨status, hstatus, h⟩ := run_liftExcept_bind_ok_iff.mp h
    obtain ⟨copied, second, hcopy, h⟩ := run_bind_ok_iff.mp h
    obtain ⟨path, hpath, h⟩ := run_liftExcept_bind_ok_iff.mp h
    cases h
    obtain ⟨hsource, htarget⟩ := artifactPaths_dots hpaths
    obtain ⟨blob, middle, hopen, hread⟩ := run_bind_ok_iff.mp hread
    cases hread
    obtain ⟨location, hresolve, hfile, rfl⟩ := run_openRead_ok_iff.mp hopen
    cases resolve_of_not_mem (package.not_mem_append hsource) hresolve
    obtain ⟨made, origin, place, found, content, hdirs, horigin, hfound, hplace, _, hcontent, rfl, rfl⟩ :=
      (run_copyFile_ok_iff host).mp hcopy
    have hnamed := hasNull_of_resolve hplace
    cases resolve_of_not_mem (package.not_mem_append hsource) horigin
    cases resolve_of_not_mem (restoreTarget_dots workspace htarget status) hplace
    have hsame := makeDirs_sameFiles hdirs
    cases hfound.symm.trans ((hsame.file_iff _ _).mpr hfile)
    exact Or.inr ⟨Bool.eq_false_of_not_eq_true hpackaged, source, target, blob, content, hpaths, hfile, hstatus,
      hcontent, hpath, rfl, rfl, rfl, hnamed, hsame.applyAccess (.write _ content), _,
      List.append_assoc .., by simp⟩

theorem writesTarget_restoreArtifact (host : AgentHost P) (package workspace : Directory)
    {artifacts : List (Json P)} {artifact : Json P} (hmem : artifact ∈ artifacts) :
    Keeps (Extends (WritesTarget host workspace artifacts))
      (restoreArtifact host package workspace artifact) := by
  unfold restoreArtifact
  apply Keeps.liftExcept_bind
  intro policy hpolicy
  split
  next =>
    refine Keeps.bind (Keeps.liftExcept _) ?_
    intro path
    refine Keeps.bind (Keeps.liftExcept _) ?_
    intro sha256
    exact Keeps.pure _
  next hpackaged =>
    apply Keeps.liftExcept_bind
    intro paths hpaths
    apply Keeps.bind (keeps_fileSha256AndSize fun _ location _ => .read location)
    intro found
    apply Keeps.liftExcept_bind
    intro status hstatus
    have hto := restoresTo_of_status workspace hpolicy (Bool.eq_false_of_not_eq_true hpackaged) hpaths
      hstatus
    have hdots := restoreTarget_dots workspace (artifactPaths_dots hpaths).2 status
    apply Keeps.bind (keeps_copyFileStreamingWithHash (fun _ location _ => .read location) ?_)
    · intro copied
      refine Keeps.bind (Keeps.liftExcept _) ?_
      intro path
      exact Keeps.pure _
    · intro disk location content hresolve
      rw [resolve_of_not_mem hdots hresolve]
      exact .write hmem hto content

end Targets

end PermeantOS
