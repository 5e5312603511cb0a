import PermeantOS.AgentRestore
import PermeantOS.LastWriter

namespace PermeantOS

variable {P : Type} {host : AgentHost P} {package workspace : Directory}

section Deliveries

/-- Bytes on their way to the target of an artifact, or to its place in the quarantine. -/
structure Delivery where
  target : PurePath
  status : RestoreStatus
  content : List UInt8

def Delivery.place (workspace : Directory) (brought : Delivery) : Location :=
  restoreTarget workspace brought.target brought.status

/-- The write that a delivery comes down to. -/
def Delivery.write (workspace : Directory) (brought : Delivery) : Location × FileNode :=
  (brought.place workspace, .file brought.content)

/-- What an entry of the manifest brings, going by what its blob holds. A blob at its own target is emptied
before it is copied. -/
def delivery (host : AgentHost P) (package workspace : Directory) (disk : Disk) (artifact : Json P) :
    Except PyException (Option Delivery) := do
  let policy ← artifact.getOr "restore_policy" (.str "required")
  if pyEq host policy (.str "external_rebind") = true then pure none
  else do
    let (relative, target) ← artifactPaths artifact
    let source := package.names ++ relative.parts
    let blob ← liftFile (fileContent (disk source))
    let status ← restoreStatus host artifact policy (sha256Bytes host blob)
    pure (some ⟨target, status, if source = restoreTarget workspace target status then [] else blob⟩)

/-- What the entries of a manifest bring, one after the other. A blob holds what it held at first, unless an
earlier delivery went there. -/
def deliveries (host : AgentHost P) (package workspace : Directory) : Disk → List (Json P) → List Delivery
  | _, [] => []
  | disk, artifact :: artifacts =>
    match delivery host package workspace disk artifact with
    | .ok (some brought) =>
      brought :: deliveries host package workspace
        (Function.update disk (brought.place workspace) (some (.file brought.content))) artifacts
    | _ => deliveries host package workspace disk artifacts

/-- An entry of the report tells of a delivery. -/
structure Tells (host : AgentHost P) (workspace : Directory) (brought : Delivery) (entry : RestoreEntry P) :
    Prop where
  status : entry.status = brought.status
  targetPath : entry.targetPath = some (reportedTarget workspace brought.target brought.status)
  sha256 : entry.sha256 = .str (sha256Bytes host brought.content)
  sizeBytes : entry.sizeBytes = some brought.content.length

variable {disk : Disk} {world world' : World}

/-- A restored artifact is one delivery, and its entry tells of it. -/
theorem run_restoreArtifact_delivers {artifact : Json P} {entry : RestoreEntry P} (hdisk : SameFiles disk world.disk)
    (h : (restoreArtifact host package workspace artifact).run world = .ok entry world') :
    (delivery host package workspace disk artifact = .ok none ∧ entry.status = .rebindRequired ∧ world' = world) ∨
      ∃ brought, delivery host package workspace disk artifact = .ok (some brought) ∧
        Tells host workspace brought entry ∧
        SameFiles (Function.update disk (brought.place workspace) (some (.file brought.content))) world'.disk := by
  obtain ⟨policy, hpolicy, ⟨hexternal, hrebind, rfl⟩ | ⟨hpackaged, source, target, blob, content, hcopied⟩⟩ :=
    run_restoreArtifact_ok h
  · left
    rw [delivery, except_bind_of_ok hpolicy]
    exact ⟨if_pos hexternal, hrebind, rfl⟩
  · right
    have hblob : liftFile (fileContent (disk (package.names ++ source.parts))) = .ok blob :=
      liftFile_ok_iff.mpr (fileContent_ok_iff.mpr ((hdisk.file_iff _ _).mp hcopied.found))
    refine ⟨⟨target, entry.status, content⟩, ?_, ⟨rfl, hcopied.targetPath, hcopied.sha256, hcopied.sizeBytes⟩, ?_⟩
    · rw [delivery, except_bind_of_ok hpolicy, if_neg (Bool.eq_false_iff.mp hpackaged),
        except_bind_of_ok hcopied.paths]
      dsimp only
      rw [except_bind_of_ok hblob, except_bind_of_ok hcopied.checked, hcopied.copied]
      rfl
    · exact (hdisk.applyAccess (.write _ content)).trans hcopied.files

/-- What a delivery says about the entry of the manifest that it is for. -/
theorem delivery_some {artifact : Json P} {brought : Delivery}
    (h : delivery host package workspace disk artifact = .ok (some brought)) :
    ∃ policy relative blob, artifact.getOr "restore_policy" (.str "required") = .ok policy ∧
      pyEq host policy (.str "external_rebind") = false ∧ artifactPaths artifact = .ok (relative, brought.target) ∧
      disk (package.names ++ relative.parts) = some (.file blob) ∧
      restoreStatus host artifact policy (sha256Bytes host blob) = .ok brought.status ∧
      brought.content = if package.names ++ relative.parts = brought.place workspace then [] else blob := by
  obtain ⟨policy, hpolicy, h⟩ := except_bind_ok_iff.mp h
  split at h
  next => cases h
  next hpackaged =>
    obtain ⟨⟨relative, target⟩, hpaths, h⟩ := except_bind_ok_iff.mp h
    obtain ⟨blob, hblob, h⟩ := except_bind_ok_iff.mp h
    obtain ⟨status, hstatus, h⟩ := except_bind_ok_iff.mp h
    cases h
    exact ⟨policy, relative, blob, hpolicy, Bool.eq_false_of_not_eq_true hpackaged, hpaths,
      fileContent_ok_iff.mp (liftFile_ok_iff.mp hblob), hstatus, rfl⟩

theorem delivery_status {artifact : Json P} {brought : Delivery}
    (h : delivery host package workspace disk artifact = .ok (some brought)) :
    brought.status = .restored ∨ brought.status = .quarantined := by
  obtain ⟨policy, relative, blob, _, _, _, _, hstatus, _⟩ := delivery_some h
  exact (restoreStatus_ok hstatus).imp And.left And.left

/-- A restore is its deliveries: the files are what they leave, and the report tells of each of them. -/
theorem run_restoreEach_delivers {artifacts : List (Json P)} {report : List (RestoreEntry P)}
    (hdisk : SameFiles disk world.disk)
    (h : (artifacts.mapM (restoreArtifact host package workspace)).run world = .ok report world') :
    SameFiles (writeAll disk ((deliveries host package workspace disk artifacts).map (Delivery.write workspace)))
        world'.disk ∧
      List.Forall₂ (Tells host workspace) (deliveries host package workspace disk artifacts)
        (report.filter fun entry => entry.status ≠ .rebindRequired) := by
  induction artifacts generalizing disk world report with
  | nil =>
    cases h
    exact ⟨hdisk, .nil⟩
  | cons artifact artifacts ih =>
    rw [List.mapM_cons] at h
    obtain ⟨entry, middle, hentry, h⟩ := run_bind_ok_iff.mp h
    obtain ⟨rest, last, hrest, h⟩ := run_bind_ok_iff.mp h
    cases h
    rcases run_restoreArtifact_delivers hdisk hentry with ⟨hnone, hrebind, rfl⟩ | ⟨brought, hbrought, htells, hdisk'⟩
    · simp only [deliveries, hnone]
      rw [List.filter_cons_of_neg (by simpa using hrebind)]
      exact ih hdisk hrest
    · simp only [deliveries, hbrought]
      have hpackaged : entry.status ≠ .rebindRequired := by
        rw [htells.status]
        rcases delivery_status hbrought with hstatus | hstatus <;> simp [hstatus]
      rw [List.filter_cons_of_pos (by simpa using hpackaged)]
      obtain ⟨hfiles, hall⟩ := ih hdisk' hrest
      exact ⟨hfiles, .cons htells hall⟩

end Deliveries

section Places

/-- Make the directories on the way to a place, and write a file there. -/
def placeFile (disk : Disk) (place : Location) (content : List UInt8) : Except FileError Disk := do
  let made ← makeDirs disk place.dropLast
  writeBytes made place content

/-- Place what some deliveries bring, one after the other. -/
def placeEach (workspace : Directory) (disk : Disk) (brought : List Delivery) : Except FileError Disk :=
  brought.foldlM (fun disk brought => placeFile disk (brought.place workspace) brought.content) disk

variable {disk disk' : Disk} {place path : Location} {content bytes : List UInt8}

theorem placeFile_ok_iff : placeFile disk place content = .ok disk' ↔ ∃ made location,
    makeDirs disk place.dropLast = .ok made ∧ resolve made place = .ok location ∧ made location ≠ some .dir ∧
      disk' = Function.update made location (some (.file content)) := by
  rw [placeFile, except_bind_ok_iff]
  constructor
  · intro h
    obtain ⟨made, hmade, hwrite⟩ := h
    obtain ⟨location, hresolve, hdir, hdisk⟩ := writeBytes_ok_iff.mp hwrite
    exact ⟨made, location, hmade, hresolve, hdir, hdisk⟩
  · intro h
    obtain ⟨made, location, hmade, hresolve, hdir, hdisk⟩ := h
    exact ⟨made, hmade, writeBytes_ok_iff.mpr ⟨location, hresolve, hdir, hdisk⟩⟩

theorem placeFile_files (hdots : ".." ∉ place) (h : placeFile disk place content = .ok disk') :
    SameFiles (Function.update disk place (some (.file content))) disk' := by
  obtain ⟨made, location, hmade, hresolve, _, rfl⟩ := placeFile_ok_iff.mp h
  cases resolve_of_not_mem hdots hresolve
  exact (makeDirs_sameFiles hmade).applyAccess (.write place content)

/-- What could be read can still be read, also where it is the file that was written. -/
theorem placeFile_readable (h : placeFile disk place content = .ok disk') (hread : readBytes disk path = .ok bytes) :
    ∃ found, readBytes disk' path = .ok found := by
  obtain ⟨made, location, hmade, _, hdir, rfl⟩ := placeFile_ok_iff.mp h
  have hmoved := (makeDirs_sameFiles hmade).readBytes hread
  obtain ⟨origin, horigin, _⟩ := readBytes_ok_iff.mp hmoved
  by_cases heq : origin = location
  · subst heq
    exact ⟨content, readBytes_written horigin hdir⟩
  · exact ⟨bytes, readBytes_update hmoved horigin hdir heq⟩

/-- A file is as it was afterwards, unless other bytes were placed there. -/
theorem placeFile_reads (hplace : ".." ∉ place) (hpath : ".." ∉ path)
    (h : placeFile disk place content = .ok disk') (hread : readBytes disk path = .ok bytes)
    (hsame : place = path → content = bytes) : readBytes disk' path = .ok bytes := by
  obtain ⟨made, location, hmade, hresolve, hdir, rfl⟩ := placeFile_ok_iff.mp h
  cases resolve_of_not_mem hplace hresolve
  have hmoved := (makeDirs_sameFiles hmade).readBytes hread
  obtain ⟨origin, horigin, _⟩ := readBytes_ok_iff.mp hmoved
  cases resolve_of_not_mem hpath horigin
  by_cases heq : place = path
  · subst heq
    rw [← hsame rfl]
    exact readBytes_written hresolve hdir
  · exact readBytes_update hmoved horigin hdir (Ne.symm heq)

/-- Whether a file can be written is up to its place. -/
theorem writeBytes_error_congr {e : FileError} (h : writeBytes disk path content = .error e) (other : List UInt8) :
    writeBytes disk path other = .error e := by
  rw [writeBytes] at h
  cases hresolve : resolve disk path with
  | error found =>
    rw [hresolve] at h
    cases h
    rw [writeBytes, hresolve]
    rfl
  | ok location =>
    rw [except_bind_of_ok hresolve] at h
    rw [writeBytes, except_bind_of_ok hresolve]
    split at h
    next hdir =>
      cases h
      exact if_pos hdir
    next => cases h

variable {world : World} {e : FileError}

theorem run_makeDirectory_of_error (h : makeDirs world.disk path = .error e) :
    (makeDirectory path).run world = .error (.ofFileError e) world := by
  rw [makeDirectory, run_get_bind, h]
  rfl

theorem run_openWrite_of_error (h : writeBytes world.disk path content = .error e) :
    (openWrite path content).run world = .error (.ofFileError e) world := by
  rw [openWrite, run_get_bind]
  cases hresolve : resolve world.disk path with
  | error found =>
    rw [writeBytes, hresolve] at h
    cases h
    rfl
  | ok location =>
    rw [run_liftExcept_bind_of_ok (liftFile_ok_iff.mpr rfl), h]
    rfl

variable (host) {source target : Location} {blob : List UInt8} (log : List Access)

/-- A copy places what its source holds, or nothing where source and target are one file. -/
theorem run_copyFile_of_place (hsource : ".." ∉ source) (htarget : ".." ∉ target)
    (hread : readBytes disk source = .ok blob)
    (h : placeFile disk target (if source = target then [] else blob) = .ok disk') :
    ∃ copied log', (copyFileStreamingWithHash host source target).run ⟨disk, log⟩ = .ok copied ⟨disk', log'⟩ := by
  obtain ⟨made, location, hmade, hresolve, hdir, rfl⟩ := placeFile_ok_iff.mp h
  cases resolve_of_not_mem htarget hresolve
  obtain ⟨origin, horigin, hfile⟩ := readBytes_ok_iff.mp ((makeDirs_sameFiles hmade).readBytes hread)
  cases resolve_of_not_mem hsource horigin
  exact ⟨_, _, (run_copyFile_ok_iff host).mpr
    ⟨made, source, target, blob, _, hmade, horigin, hfile, hresolve, hdir, rfl, rfl, rfl⟩⟩

theorem run_copyFile_of_refused (hread : readBytes disk source = .ok blob)
    (h : placeFile disk target content = .error e) :
    ∃ world', (copyFileStreamingWithHash host source target).run ⟨disk, log⟩ = .error (.ofFileError e) world' ∧
      SameFiles disk world'.disk := by
  cases hmade : makeDirs disk target.dropLast with
  | error found =>
    rw [placeFile, hmade] at h
    cases h
    exact ⟨⟨disk, log⟩, run_bind_of_error (run_makeDirectory_of_error hmade), SameFiles.refl _⟩
  | ok made =>
    rw [placeFile, except_bind_of_ok hmade] at h
    have hsame := makeDirs_sameFiles hmade
    obtain ⟨origin, horigin, hfile⟩ := readBytes_ok_iff.mp (hsame.readBytes hread)
    refine ⟨⟨made, log ++ [.read origin]⟩, ?_, hsame⟩
    rw [copyFileStreamingWithHash, run_bind_of_ok (run_makeDirectory_ok_iff.mpr ⟨made, hmade, rfl⟩),
      run_bind_of_ok (run_openRead_ok_iff.mpr ⟨origin, horigin, hfile, rfl⟩)]
    exact run_bind_of_error (run_openWrite_of_error (writeBytes_error_congr h []))

end Places

section Plan

/-- How far a restore comes from a disk: what it has brought by then, and the disk that it leaves, or why it
stops. -/
def restorePlan (host : AgentHost P) (package workspace : Directory) :
    Disk → List (Json P) → List Delivery × Except PyException Disk
  | disk, [] => ([], .ok disk)
  | disk, artifact :: artifacts =>
    match delivery host package workspace disk artifact with
    | .error e => ([], .error e)
    | .ok none => restorePlan host package workspace disk artifacts
    | .ok (some brought) =>
      match placeFile disk (brought.place workspace) brought.content with
      | .error e => ([], .error (.ofFileError e))
      | .ok placed =>
        let rest := restorePlan host package workspace placed artifacts
        (brought :: rest.1, rest.2)

/-- An entry of the manifest has a path, and unless it is to be bound again elsewhere, its blob can be read. -/
structure Fetchable (host : AgentHost P) (package : Directory) (disk : Disk) (artifact : Json P) : Prop where
  path : ∃ path, artifact.item "path" = .ok path
  blob : ∀ policy relative target, artifact.getOr "restore_policy" (.str "required") = .ok policy →
    pyEq host policy (.str "external_rebind") = false → artifactPaths artifact = .ok (relative, target) →
      ∃ blob, readBytes disk (package.names ++ relative.parts) = .ok blob

variable {disk disk' files : Disk} {world : World} {artifact : Json P} {artifacts : List (Json P)}
  {brought : Delivery}

theorem Fetchable.mono (h : Fetchable host package disk artifact) (hread : ∀ path bytes,
      readBytes disk path = .ok bytes → ∃ found, readBytes disk' path = .ok found) :
    Fetchable host package disk' artifact := by
  refine ⟨h.path, ?_⟩
  intro policy relative target hpolicy hpackaged hpaths
  obtain ⟨blob, hblob⟩ := h.blob policy relative target hpolicy hpackaged hpaths
  exact hread _ blob hblob

theorem delivery_place_dots (h : delivery host package workspace disk artifact = .ok (some brought)) :
    ".." ∉ brought.place workspace := by
  obtain ⟨_, _, _, _, _, hpaths, _⟩ := delivery_some h
  exact restoreTarget_dots workspace (artifactPaths_dots hpaths).2 brought.status

theorem run_restoreArtifact_of_none (h : Fetchable host package disk artifact)
    (hnone : delivery host package workspace disk artifact = .ok none) :
    ∃ entry, (restoreArtifact host package workspace artifact).run world = .ok entry world := by
  obtain ⟨policy, hpolicy, hnone⟩ := except_bind_ok_iff.mp hnone
  split at hnone
  next hexternal =>
    obtain ⟨path, hpath⟩ := h.path
    obtain ⟨fields, rfl, _⟩ := Json.item_ok_iff.mp hpath
    rw [restoreArtifact, run_liftExcept_bind_of_ok hpolicy, if_pos hexternal, run_liftExcept_bind_of_ok hpath,
      run_liftExcept_bind_of_ok (Json.get_ok_iff.mpr ⟨fields, rfl, rfl⟩)]
    exact ⟨_, rfl⟩
  next =>
    obtain ⟨_, _, hnone⟩ := except_bind_ok_iff.mp hnone
    obtain ⟨_, _, hnone⟩ := except_bind_ok_iff.mp hnone
    obtain ⟨_, _, hnone⟩ := except_bind_ok_iff.mp hnone
    cases hnone

/-- Why nothing is brought is why the restore stops. -/
theorem run_restoreArtifact_of_error {e : PyException} (h : Fetchable host package world.disk artifact)
    (herror : delivery host package workspace world.disk artifact = .error e) :
    ∃ world', (restoreArtifact host package workspace artifact).run world = .error e world' ∧
      world'.disk = world.disk := by
  rw [delivery] at herror
  cases hpolicy : artifact.getOr "restore_policy" (.str "required") with
  | error found =>
    rw [hpolicy] at herror
    cases herror
    rw [restoreArtifact, hpolicy]
    exact ⟨world, rfl, rfl⟩
  | ok policy =>
    rw [except_bind_of_ok hpolicy] at herror
    split at herror
    next => cases herror
    next hpackaged =>
      rw [restoreArtifact, run_liftExcept_bind_of_ok hpolicy, if_neg hpackaged]
      cases hpaths : artifactPaths artifact with
      | error found =>
        rw [hpaths] at herror
        cases herror
        exact ⟨world, rfl, rfl⟩
      | ok paths =>
        obtain ⟨relative, target⟩ := paths
        obtain ⟨blob, hblob⟩ := h.blob policy relative target hpolicy (Bool.eq_false_of_not_eq_true hpackaged) hpaths
        have hdots := package.not_mem_append (artifactPaths_dots hpaths).1
        have hread := run_fileSha256AndSize_of_readBytes host world.log hdots hblob
        obtain ⟨location, hresolve, hfile⟩ := readBytes_ok_iff.mp hblob
        cases resolve_of_not_mem hdots hresolve
        rw [except_bind_of_ok hpaths] at herror
        dsimp only at herror
        rw [except_bind_of_ok (liftFile_ok_iff.mpr (fileContent_ok_iff.mpr hfile))] at herror
        cases hstatus : restoreStatus host artifact policy (sha256Bytes host blob) with
        | ok status =>
          rw [hstatus] at herror
          cases herror
        | error found =>
          rw [hstatus] at herror
          cases herror
          refine ⟨⟨world.disk, world.log ++ [.read (package.names ++ relative.parts)]⟩, ?_, rfl⟩
          rw [run_liftExcept_bind_of_ok rfl]
          dsimp only
          rw [run_bind_of_ok hread]
          dsimp only
          rw [hstatus]
          rfl

/-- A delivery is made where its file can be placed. -/
theorem run_restoreArtifact_of_some (h : Fetchable host package world.disk artifact)
    (hsome : delivery host package workspace world.disk artifact = .ok (some brought)) :
    (∀ placed, placeFile world.disk (brought.place workspace) brought.content = .ok placed →
      ∃ entry log, (restoreArtifact host package workspace artifact).run world = .ok entry ⟨placed, log⟩) ∧
    ∀ e, placeFile world.disk (brought.place workspace) brought.content = .error e →
      ∃ world', (restoreArtifact host package workspace artifact).run world = .error (.ofFileError e) world' ∧
        SameFiles world.disk world'.disk := by
  obtain ⟨policy, relative, blob, hpolicy, hpackaged, hpaths, hfile, hstatus, hcontent⟩ := delivery_some hsome
  obtain ⟨found, hblob⟩ := h.blob policy relative brought.target hpolicy hpackaged hpaths
  obtain ⟨path, hpath⟩ := h.path
  have hdots := package.not_mem_append (artifactPaths_dots hpaths).1
  obtain ⟨location, hresolve, hlocation⟩ := readBytes_ok_iff.mp hblob
  cases resolve_of_not_mem hdots hresolve
  cases hfile.symm.trans hlocation
  have hread := run_fileSha256AndSize_of_readBytes host world.log hdots hblob
  rw [restoreArtifact, run_liftExcept_bind_of_ok hpolicy, hpackaged, if_neg Bool.false_ne_true,
    run_liftExcept_bind_of_ok hpaths]
  dsimp only
  rw [run_bind_of_ok hread]
  dsimp only
  rw [run_liftExcept_bind_of_ok hstatus,
    show restoreTarget workspace brought.target brought.status = brought.place workspace from rfl]
  constructor
  · intro placed hplaced
    rw [hcontent] at hplaced
    obtain ⟨copied, log, hcopy⟩ := run_copyFile_of_place host (world.log ++ [.read (package.names ++ relative.parts)])
      hdots (delivery_place_dots hsome) hblob hplaced
    rw [run_bind_of_ok hcopy, run_liftExcept_bind_of_ok hpath]
    exact ⟨_, log, rfl⟩
  · intro e hrefused
    obtain ⟨world', hcopy, hsame⟩ := run_copyFile_of_refused host
      (world.log ++ [.read (package.names ++ relative.parts)]) hblob hrefused
    exact ⟨world', run_bind_of_error hcopy, hsame⟩

/-- What is delivered to two disks with the same files leaves two disks with the same files. -/
theorem SameFiles.delivered (h : SameFiles disk disk') (brought : List Delivery) :
    SameFiles (writeAll disk (brought.map (Delivery.write workspace)))
      (writeAll disk' (brought.map (Delivery.write workspace))) := by
  induction brought generalizing disk disk' with
  | nil => exact h
  | cons first brought ih => exact ih (h.applyAccess (.write (first.place workspace) first.content))

/-- A plan that comes to its end leaves what its deliveries write. -/
theorem restorePlan_files (h : (restorePlan host package workspace disk artifacts).2 = .ok disk') :
    SameFiles (writeAll disk ((restorePlan host package workspace disk artifacts).1.map (Delivery.write workspace)))
      disk' := by
  induction artifacts generalizing disk with
  | nil =>
    cases h
    exact SameFiles.refl _
  | cons artifact artifacts ih =>
    rw [restorePlan] at h ⊢
    cases hdelivery : delivery host package workspace disk artifact with
    | error e =>
      rw [hdelivery] at h
      cases h
    | ok found =>
      rw [hdelivery] at h
      cases found with
      | none => exact ih h
      | some brought =>
        dsimp only at h ⊢
        cases hplaced : placeFile disk (brought.place workspace) brought.content with
        | error e =>
          rw [hplaced] at h
          cases h
        | ok placed =>
          rw [hplaced] at h
          exact ((placeFile_files (delivery_place_dots hdelivery) hplaced).delivered _).trans (ih h)

/-- A restore comes as far as its plan. -/
theorem run_restoreEach_plan (h : ∀ artifact ∈ artifacts, Fetchable host package world.disk artifact) :
    (∀ disk', (restorePlan host package workspace world.disk artifacts).2 = .ok disk' → ∃ report log,
      (artifacts.mapM (restoreArtifact host package workspace)).run world = .ok report ⟨disk', log⟩) ∧
    ∀ e, (restorePlan host package workspace world.disk artifacts).2 = .error e → ∃ world',
      (artifacts.mapM (restoreArtifact host package workspace)).run world = .error e world' ∧
        SameFiles (writeAll world.disk
          ((restorePlan host package workspace world.disk artifacts).1.map (Delivery.write workspace)))
          world'.disk := by
  induction artifacts generalizing world with
  | nil =>
    refine ⟨?_, by simp [restorePlan]⟩
    intro disk' hplan
    cases hplan
    exact ⟨[], world.log, rfl⟩
  | cons artifact artifacts ih =>
    obtain ⟨hfirst, hrest⟩ := List.forall_mem_cons.mp h
    rw [restorePlan, List.mapM_cons]
    cases hdelivery : delivery host package workspace world.disk artifact with
    | error e =>
      obtain ⟨world', hrun, hsame⟩ := run_restoreArtifact_of_error hfirst hdelivery
      refine ⟨by simp, ?_⟩
      intro e' heq
      cases heq
      exact ⟨world', run_bind_of_error hrun, hsame ▸ SameFiles.refl _⟩
    | ok found =>
      cases found with
      | none =>
        obtain ⟨entry, hrun⟩ := run_restoreArtifact_of_none hfirst hdelivery
        obtain ⟨hok, herror⟩ := ih hrest
        constructor
        · intro disk' hplan
          obtain ⟨report, log, hreport⟩ := hok disk' hplan
          rw [run_bind_of_ok hrun, run_bind_of_ok hreport]
          exact ⟨_, log, rfl⟩
        · intro e hplan
          obtain ⟨world', hreport, hsame⟩ := herror e hplan
          rw [run_bind_of_ok hrun, run_bind_of_error hreport]
          exact ⟨world', rfl, hsame⟩
      | some brought =>
        obtain ⟨hmade, hrefused⟩ := run_restoreArtifact_of_some hfirst hdelivery
        dsimp only
        cases hplaced : placeFile world.disk (brought.place workspace) brought.content with
        | error e =>
          obtain ⟨world', hrun, hsame⟩ := hrefused e hplaced
          refine ⟨by simp, ?_⟩
          intro e' heq
          cases heq
          exact ⟨world', run_bind_of_error hrun, hsame⟩
        | ok placed =>
          obtain ⟨entry, log, hrun⟩ := hmade placed hplaced
          have hfetch : ∀ other ∈ artifacts, Fetchable host package (World.mk placed log).disk other :=
            fun other hmem => (hrest other hmem).mono fun _ _ => placeFile_readable hplaced
          obtain ⟨hok, herror⟩ := ih hfetch
          have hfiles := placeFile_files (delivery_place_dots hdelivery) hplaced
          constructor
          · intro disk' hplan
            obtain ⟨report, log', hreport⟩ := hok disk' hplan
            rw [run_bind_of_ok hrun, run_bind_of_ok hreport]
            exact ⟨_, log', rfl⟩
          · intro e hplan
            obtain ⟨world', hreport, hsame⟩ := herror e hplan
            rw [run_bind_of_ok hrun, run_bind_of_error hreport]
            exact ⟨world', rfl, (hfiles.delivered _).trans hsame⟩

/-- What an entry brings is up to the files of the package. -/
theorem delivery_of_files {found : Option Delivery} (h : ∀ location, package.names <+: location →
      ∀ content, disk location = some (.file content) → disk' location = some (.file content))
    (hfound : delivery host package workspace disk artifact = .ok found) :
    delivery host package workspace disk' artifact = .ok found := by
  obtain ⟨policy, hpolicy, hfound⟩ := except_bind_ok_iff.mp hfound
  rw [delivery, except_bind_of_ok hpolicy]
  split at hfound
  next hexternal => rw [if_pos hexternal, hfound]
  next hpackaged =>
    obtain ⟨⟨relative, target⟩, hpaths, hfound⟩ := except_bind_ok_iff.mp hfound
    obtain ⟨blob, hblob, hfound⟩ := except_bind_ok_iff.mp hfound
    have hfile := h _ (List.prefix_append _ _) blob (fileContent_ok_iff.mp (liftFile_ok_iff.mp hblob))
    rw [if_neg hpackaged, except_bind_of_ok hpaths]
    dsimp only
    rw [except_bind_of_ok (liftFile_ok_iff.mpr (fileContent_ok_iff.mpr hfile)), hfound]

/-- A plan that comes to its end has made every delivery. -/
theorem restorePlan_deliveries (hfiles : SameFiles files disk)
    (h : (restorePlan host package workspace disk artifacts).2 = .ok disk') :
    (restorePlan host package workspace disk artifacts).1 = deliveries host package workspace files artifacts := by
  induction artifacts generalizing disk files with
  | nil => rfl
  | cons artifact artifacts ih =>
    rw [restorePlan] at h ⊢
    cases hdelivery : delivery host package workspace disk artifact with
    | error e =>
      rw [hdelivery] at h
      cases h
    | ok found =>
      have hsame := delivery_of_files (fun location _ content => (hfiles.file_iff location content).mp) hdelivery
      rw [hdelivery] at h
      rw [deliveries, hsame]
      cases found with
      | none => exact ih hfiles h
      | some brought =>
        dsimp only at h ⊢
        cases hplaced : placeFile disk (brought.place workspace) brought.content with
        | error e =>
          rw [hplaced] at h
          cases h
        | ok placed =>
          rw [hplaced] at h
          have hlater := (hfiles.applyAccess (.write (brought.place workspace) brought.content)).trans
            (placeFile_files (delivery_place_dots hdelivery) hplaced)
          exact congrArg (brought :: ·) (ih hlater h)

/-- A file is as it was after a plan that came to its end, unless other bytes were delivered there. -/
theorem restorePlan_reads {path : Location} {bytes : List UInt8} (hpath : ".." ∉ path)
    (h : (restorePlan host package workspace disk artifacts).2 = .ok disk')
    (hsame : ∀ brought ∈ (restorePlan host package workspace disk artifacts).1,
      brought.place workspace = path → brought.content = bytes)
    (hread : readBytes disk path = .ok bytes) : readBytes disk' path = .ok bytes := by
  induction artifacts generalizing disk with
  | nil =>
    cases h
    exact hread
  | cons artifact artifacts ih =>
    rw [restorePlan] at h hsame
    cases hdelivery : delivery host package workspace disk artifact with
    | error e =>
      rw [hdelivery] at h
      cases h
    | ok found =>
      rw [hdelivery] at h hsame
      cases found with
      | none => exact ih h hsame hread
      | some brought =>
        dsimp only at h hsame
        cases hplaced : placeFile disk (brought.place workspace) brought.content with
        | error e =>
          rw [hplaced] at h
          cases h
        | ok placed =>
          rw [hplaced] at h hsame
          obtain ⟨hfirst, hrest⟩ := List.forall_mem_cons.mp hsame
          exact ih h hrest (placeFile_reads (delivery_place_dots hdelivery) hpath hplaced hread hfirst)

theorem Delivery.place_begins (workspace : Directory) (brought : Delivery) :
    workspace.names <+: brought.place workspace := by
  rw [Delivery.place]
  cases brought.status <;> exact List.prefix_append _ _

/-- Two directories, neither of which holds the other. -/
structure ApartFrom (a b : Directory) : Prop where
  left : ¬a.names <+: b.names
  right : ¬b.names <+: a.names

theorem ApartFrom.not_begins {a b : Directory} (h : ApartFrom a b) {location : Location} (ha : a.names <+: location) :
    ¬b.names <+: location := by
  intro hb
  rcases List.prefix_or_prefix_of_prefix ha hb with hbegins | hbegins
  · exact h.left hbegins
  · exact h.right hbegins

theorem ApartFrom.child {a b : Directory} (h : ApartFrom a b) {name : String} (hname : name ≠ "..") :
    ApartFrom a (b.child name hname) := by
  have hbegins : b.names <+: (b.child name hname).names := List.prefix_append _ _
  refine ⟨?_, fun hright => h.right (hbegins.trans hright)⟩
  intro hleft
  rcases List.prefix_or_prefix_of_prefix hleft hbegins with hbefore | hbefore
  · exact h.left hbefore
  · exact h.right hbefore

/-- Where the workspace is outside the package, no delivery changes what a later one brings, and nothing but a
file that cannot be placed stops the restore. -/
theorem restorePlan_of_apart (hapart : ApartFrom package workspace)
    (hdeliver : ∀ artifact ∈ artifacts, ∃ found, delivery host package workspace files artifact = .ok found)
    (hkept : ∀ location, package.names <+: location →
      ∀ content, files location = some (.file content) → disk location = some (.file content)) :
    (restorePlan host package workspace disk artifacts).2 =
      liftFile (placeEach workspace disk (deliveries host package workspace files artifacts)) := by
  induction artifacts generalizing disk files with
  | nil => rfl
  | cons artifact artifacts ih =>
    obtain ⟨⟨found, hfound⟩, hrest⟩ := List.forall_mem_cons.mp hdeliver
    rw [restorePlan, deliveries, hfound, delivery_of_files hkept hfound]
    cases found with
    | none => exact ih hrest hkept
    | some brought =>
      have houtside (location : Location) (h : package.names <+: location) : location ≠ brought.place workspace := by
        rintro rfl
        exact hapart.not_begins h (brought.place_begins workspace)
      dsimp only
      rw [placeEach, List.foldlM_cons]
      cases hplaced : placeFile disk (brought.place workspace) brought.content with
      | error e => rfl
      | ok placed =>
        have hfiles := placeFile_files (delivery_place_dots hfound) hplaced
        apply ih
        · intro other hmem
          obtain ⟨later, hlater⟩ := hrest other hmem
          refine ⟨later, delivery_of_files ?_ hlater⟩
          intro location hinside content hfile
          rwa [Function.update_of_ne (houtside location hinside)]
        · intro location hinside content hfile
          rw [Function.update_of_ne (houtside location hinside)] at hfile
          apply (hfiles.file_iff location content).mpr
          rw [Function.update_of_ne (houtside location hinside)]
          exact hkept location hinside content hfile

end Plan

end PermeantOS
