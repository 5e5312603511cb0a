import PermeantOS.AgentValues

namespace PermeantOS

/-- A file that a program opened and read, or wrote. -/
inductive Access
  | read (location : Location)
  | write (location : Location) (content : List UInt8)
  deriving DecidableEq, Repr

/-- The disk, and the files that were opened so far. -/
structure World where
  disk : Disk
  log : List Access

abbrev AgentIO (α : Type) := EStateM PyException World α

section Replay

def applyAccess (disk : Disk) : Access → Disk
  | .read _ => disk
  | .write location content => Function.update disk location (some (.file content))

def replay (log : List Access) (disk : Disk) : Disk := log.foldl applyAccess disk

theorem replay_append (a b : List Access) (disk : Disk) :
    replay (a ++ b) disk = replay b (replay a disk) := List.foldl_append ..

theorem SameFiles.applyAccess {disk disk' : Disk} (h : SameFiles disk disk') (access : Access) :
    SameFiles (applyAccess disk access) (applyAccess disk' access) := by
  cases access with
  | read location => exact h
  | write location content =>
    refine ⟨?_, ?_⟩
    · intro other bytes
      by_cases heq : other = location
      · subst heq
        simp [PermeantOS.applyAccess]
      · simp only [PermeantOS.applyAccess, Function.update_of_ne heq]
        exact h.file_iff other bytes
    · intro other hdir
      by_cases heq : other = location
      · subst heq
        simp [PermeantOS.applyAccess] at hdir
      · simp only [PermeantOS.applyAccess, Function.update_of_ne heq] at hdir ⊢
        exact h.dir other hdir

theorem SameFiles.replay {disk disk' : Disk} (h : SameFiles disk disk') (log : List Access) :
    SameFiles (replay log disk) (replay log disk') := by
  induction log generalizing disk disk' with
  | nil => exact h
  | cons access log ih => exact ih (h.applyAccess access)

/-- The second world comes from the first by the accesses of the log, all of one kind, and by making
directories. -/
structure Extension (A : Access → Prop) (world world' : World) (log : List Access) : Prop where
  log_eq : world'.log = world.log ++ log
  files : SameFiles (replay log world.disk) world'.disk
  dirs : ∀ location, world.disk location = some .dir → world'.disk location = some .dir
  all : ∀ access ∈ log, A access

def Extends (A : Access → Prop) (world world' : World) : Prop := ∃ log, Extension A world world' log

variable {A : Access → Prop}

instance : Std.Refl (Extends A) where
  refl world := ⟨[], by simp, SameFiles.refl _, fun _ h => h, by simp⟩

instance : IsTrans World (Extends A) where
  trans a b c hab hbc := by
    obtain ⟨first, hfirst⟩ := hab
    obtain ⟨second, hsecond⟩ := hbc
    refine ⟨first ++ second, ?_, ?_, ?_, ?_⟩
    · rw [hsecond.log_eq, hfirst.log_eq, List.append_assoc]
    · rw [replay_append]
      exact (hfirst.files.replay second).trans hsecond.files
    · exact fun location h => hsecond.dirs location (hfirst.dirs location h)
    · intro access hmem
      rcases List.mem_append.mp hmem with hmem | hmem
      · exact hfirst.all access hmem
      · exact hsecond.all access hmem

/-- Files were read between the two worlds, and nothing was written. -/
structure SameDisk (world world' : World) : Prop where
  disk : world'.disk = world.disk
  log : ∃ reads : List Location, world'.log = world.log ++ reads.map .read

instance : Std.Refl SameDisk where
  refl _ := ⟨rfl, [], by simp⟩

instance : IsTrans World SameDisk where
  trans _ _ _ hab hbc := by
    obtain ⟨first, hfirst⟩ := hab.log
    obtain ⟨second, hsecond⟩ := hbc.log
    exact ⟨hbc.disk.trans hab.disk, first ++ second, by rw [hsecond, hfirst, List.map_append, List.append_assoc]⟩

theorem replay_reads (reads : List Location) (disk : Disk) : replay (reads.map .read) disk = disk := by
  induction reads with
  | nil => rfl
  | cons location reads ih => exact ih

theorem SameDisk.extends {world world' : World} (h : SameDisk world world')
    (hread : ∀ location, A (.read location)) : Extends A world world' := by
  obtain ⟨reads, hreads⟩ := h.log
  refine ⟨reads.map .read, hreads, ?_, ?_, ?_⟩
  · rw [replay_reads, h.disk]
    exact SameFiles.refl _
  · rw [h.disk]
    exact fun _ hdir => hdir
  · intro access hmem
    obtain ⟨location, _, rfl⟩ := List.mem_map.mp hmem
    exact hread location

end Replay

section Primitives

variable {α : Type}

def liftDisk (f : Disk → Except PyException α) : AgentIO α := do
  let world ← get
  liftExcept (f world.disk)

/-- Open a file and read all of it. -/
def openRead (path : List String) : AgentIO (List UInt8) := do
  let world ← get
  let location ← liftExcept (liftFile (resolve world.disk path))
  let content ← liftExcept (liftFile (fileContent (world.disk location)))
  set ({ world with log := world.log ++ [.read location] } : World)
  pure content

/-- Open a file for writing, and write all of it. -/
def openWrite (path : List String) (content : List UInt8) : AgentIO Unit := do
  let world ← get
  let location ← liftExcept (liftFile (resolve world.disk path))
  let disk ← liftExcept (liftFile (writeBytes world.disk path content))
  set (⟨disk, world.log ++ [.write location content]⟩ : World)

/-- `path.mkdir(parents=True, exist_ok=True)` -/
def makeDirectory (path : List String) : AgentIO Unit := do
  let world ← get
  let disk ← liftExcept (liftFile (makeDirs world.disk path))
  set ({ world with disk := disk } : World)

variable {A : Access → Prop}

theorem run_openRead_ok_iff {path : List String} {world world' : World} {content : List UInt8} :
    (openRead path).run world = .ok content world' ↔ ∃ location,
      resolve world.disk path = .ok location ∧ world.disk location = some (.file content) ∧
        world' = { world with log := world.log ++ [.read location] } := by
  rw [openRead, run_get_bind, run_liftExcept_bind_ok_iff]
  constructor
  · intro h
    obtain ⟨location, hresolve, h⟩ := h
    obtain ⟨found, hfound, h⟩ := run_liftExcept_bind_ok_iff.mp h
    cases h
    exact ⟨location, liftFile_ok_iff.mp hresolve, fileContent_ok_iff.mp (liftFile_ok_iff.mp hfound), rfl⟩
  · intro h
    obtain ⟨location, hresolve, hfile, rfl⟩ := h
    refine ⟨location, liftFile_ok_iff.mpr hresolve, ?_⟩
    rw [run_liftExcept_bind_of_ok (liftFile_ok_iff.mpr (fileContent_ok_iff.mpr hfile))]
    rfl

theorem run_openWrite_ok_iff {path : List String} {world world' : World} {content : List UInt8} :
    (openWrite path content).run world = .ok () world' ↔ ∃ location,
      resolve world.disk path = .ok location ∧ world.disk location ≠ some .dir ∧
        world' = ⟨Function.update world.disk location (some (.file content)),
          world.log ++ [.write location content]⟩ := by
  rw [openWrite, run_get_bind, run_liftExcept_bind_ok_iff]
  constructor
  · intro h
    obtain ⟨location, hresolve, h⟩ := h
    obtain ⟨disk, hwrite, h⟩ := run_liftExcept_bind_ok_iff.mp h
    cases h
    have hlocation := liftFile_ok_iff.mp hresolve
    obtain ⟨found, hfound, hdir, rfl⟩ := writeBytes_ok_iff.mp (liftFile_ok_iff.mp hwrite)
    cases hlocation.symm.trans hfound
    exact ⟨location, hlocation, hdir, rfl⟩
  · intro h
    obtain ⟨location, hresolve, hdir, rfl⟩ := h
    refine ⟨location, liftFile_ok_iff.mpr hresolve, ?_⟩
    rw [run_liftExcept_bind_of_ok (liftFile_ok_iff.mpr (writeBytes_ok_iff.mpr ⟨location, hresolve, hdir, rfl⟩))]
    rfl

theorem run_makeDirectory_ok_iff {path : List String} {world world' : World} :
    (makeDirectory path).run world = .ok () world' ↔
      ∃ disk, makeDirs world.disk path = .ok disk ∧ world' = { world with disk := disk } := by
  rw [makeDirectory, run_get_bind, run_liftExcept_bind_ok_iff]
  constructor
  · intro h
    obtain ⟨disk, hdirs, h⟩ := h
    cases h
    exact ⟨disk, liftFile_ok_iff.mp hdirs, rfl⟩
  · intro h
    obtain ⟨disk, hdirs, rfl⟩ := h
    exact ⟨disk, liftFile_ok_iff.mpr hdirs, rfl⟩

/-- A program that ends in an error where it does not end well, without a trace. -/
theorem keeps_of_ok {x : AgentIO α} (herror : ∀ world e world', x.run world = .error e world' → world' = world)
    (hok : ∀ world a world', x.run world = .ok a world' → Extends A world world') :
    Keeps (Extends A) x := by
  intro world
  cases h : x.run world with
  | ok a world' => exact hok world a world' h
  | error e world' =>
    rw [leftState_error, herror world e world' h]
    exact refl_of _ _

theorem run_openRead_error {path : List String} {world world' : World} {e : PyException}
    (h : (openRead path).run world = .error e world') : world' = world := by
  rw [openRead, run_get_bind] at h
  cases hresolve : liftFile (resolve world.disk path) with
  | error e' =>
    rw [hresolve] at h
    cases h
    rfl
  | ok location =>
    rw [run_liftExcept_bind_of_ok hresolve] at h
    cases hfile : liftFile (fileContent (world.disk location)) with
    | error e' =>
      rw [hfile] at h
      cases h
      rfl
    | ok content =>
      rw [run_liftExcept_bind_of_ok hfile] at h
      cases h

theorem run_openWrite_error {path : List String} {content : List UInt8} {world world' : World}
    {e : PyException} (h : (openWrite path content).run world = .error e world') : world' = world := by
  rw [openWrite, run_get_bind] at h
  cases hresolve : liftFile (resolve world.disk path) with
  | error e' =>
    rw [hresolve] at h
    cases h
    rfl
  | ok location =>
    rw [run_liftExcept_bind_of_ok hresolve] at h
    cases hwrite : liftFile (writeBytes world.disk path content) with
    | error e' =>
      rw [hwrite] at h
      cases h
      rfl
    | ok disk =>
      rw [run_liftExcept_bind_of_ok hwrite] at h
      cases h

theorem run_makeDirectory_error {path : List String} {world world' : World} {e : PyException}
    (h : (makeDirectory path).run world = .error e world') : world' = world := by
  rw [makeDirectory, run_get_bind] at h
  cases hdirs : liftFile (makeDirs world.disk path) with
  | error e' =>
    rw [hdirs] at h
    cases h
    rfl
  | ok disk =>
    rw [run_liftExcept_bind_of_ok hdirs] at h
    cases h

theorem keeps_openRead {path : List String}
    (h : ∀ disk location, resolve disk path = .ok location → A (.read location)) :
    Keeps (Extends A) (openRead path) := by
  refine keeps_of_ok (fun _ _ _ => run_openRead_error) ?_
  intro world content world' hrun
  obtain ⟨location, hresolve, _, rfl⟩ := run_openRead_ok_iff.mp hrun
  exact ⟨[.read location], rfl, SameFiles.refl _, fun _ hdir => hdir,
    by simpa using h world.disk location hresolve⟩

theorem sameDisk_liftDisk (f : Disk → Except PyException α) : Keeps SameDisk (liftDisk f) := by
  intro world
  rw [liftDisk, run_get_bind]
  exact Keeps.liftExcept (f world.disk) world

theorem sameDisk_openRead (path : List String) : Keeps SameDisk (openRead path) := by
  intro world
  cases h : (openRead path).run world with
  | ok content world' =>
    obtain ⟨location, _, _, rfl⟩ := run_openRead_ok_iff.mp h
    exact ⟨rfl, [location], rfl⟩
  | error e world' =>
    rw [leftState_error, run_openRead_error h]
    exact refl_of _ _

theorem keeps_openWrite {path : List String} {content : List UInt8}
    (h : ∀ disk location, resolve disk path = .ok location → A (.write location content)) :
    Keeps (Extends A) (openWrite path content) := by
  refine keeps_of_ok (fun _ _ _ => run_openWrite_error) ?_
  intro world _ world' hrun
  obtain ⟨location, hresolve, hdir, rfl⟩ := run_openWrite_ok_iff.mp hrun
  exact ⟨[.write location content], rfl, SameFiles.refl _, dir_update hdir _,
    by simpa using h world.disk location hresolve⟩

theorem keeps_makeDirectory (path : List String) : Keeps (Extends A) (makeDirectory path) := by
  refine keeps_of_ok (fun _ _ _ => run_makeDirectory_error) ?_
  intro world _ world' hrun
  obtain ⟨disk, hdirs, rfl⟩ := run_makeDirectory_ok_iff.mp hrun
  have hsame := makeDirs_sameFiles hdirs
  exact ⟨[], by simp, hsame, hsame.dir, by simp⟩

end Primitives

section Helpers

variable {P : Type} (host : AgentHost P)

def fileSha256AndSize (path : List String) : AgentIO (String × Nat) := do
  let content ← openRead path
  pure (sha256Bytes host content, content.length)

/-- `copy_file_streaming_with_hash`. The target is emptied before the first chunk of the source is read. -/
def copyFileStreamingWithHash (source target : List String) : AgentIO (String × Nat) := do
  makeDirectory target.dropLast
  let _ ← openRead source
  openWrite target []
  let content ← openRead source
  openWrite target content
  pure (sha256Bytes host content, content.length)

/-- A copy: the directories are made, and the bytes of the source go to the target. A file that is copied
onto itself is emptied. -/
theorem run_copyFile_ok_iff {source target : List String} {world world' : World} {copied : String × Nat} :
    (copyFileStreamingWithHash host source target).run world = .ok copied world' ↔
      ∃ disk origin place bytes content, makeDirs world.disk target.dropLast = .ok disk ∧
        resolve disk source = .ok origin ∧ disk origin = some (.file bytes) ∧
        resolve disk target = .ok place ∧ disk place ≠ some .dir ∧
        content = (if origin = place then [] else bytes) ∧
        copied = (sha256Bytes host content, content.length) ∧
        world' = ⟨Function.update disk place (some (.file content)),
          world.log ++ [.read origin, .write place [], .read origin, .write place content]⟩ := by
  constructor
  · intro h
    obtain ⟨_, first, hmake, h⟩ := run_bind_ok_iff.mp h
    obtain ⟨disk, hdirs, rfl⟩ := run_makeDirectory_ok_iff.mp hmake
    obtain ⟨bytes, second, hread, h⟩ := run_bind_ok_iff.mp h
    obtain ⟨origin, hsource, hfile, rfl⟩ := run_openRead_ok_iff.mp hread
    obtain ⟨_, third, hempty, h⟩ := run_bind_ok_iff.mp h
    obtain ⟨place, htarget, hdir, rfl⟩ := run_openWrite_ok_iff.mp hempty
    obtain ⟨content, fourth, hagain, h⟩ := run_bind_ok_iff.mp h
    obtain ⟨found, hfound, hcontent, rfl⟩ := run_openRead_ok_iff.mp hagain
    obtain ⟨_, fifth, hwrite, h⟩ := run_bind_ok_iff.mp h
    obtain ⟨last, hlast, _, rfl⟩ := run_openWrite_ok_iff.mp hwrite
    cases h
    cases (resolve_mono (dir_update hdir (.file [])) hsource).symm.trans hfound
    cases (resolve_mono (dir_update hdir (.file [])) htarget).symm.trans hlast
    refine ⟨disk, origin, place, bytes, content, hdirs, hsource, hfile, htarget, hdir, ?_, rfl, ?_⟩
    · dsimp only at hcontent hfile
      by_cases heq : origin = place
      · subst heq
        rw [Function.update_self] at hcontent
        cases hcontent
        rw [if_pos rfl]
      · rw [Function.update_of_ne heq, hfile] at hcontent
        cases hcontent
        rw [if_neg heq]
    · simp [Function.update_idem]
  · intro h
    obtain ⟨disk, origin, place, bytes, content, hdirs, hsource, hfile, htarget, hdir, hcontent, rfl, rfl⟩ := h
    have hsource' := resolve_mono (dir_update hdir (.file [])) hsource
    have htarget' := resolve_mono (dir_update hdir (.file [])) htarget
    have hfile' : Function.update disk place (some (.file [])) origin = some (.file content) := by
      by_cases heq : origin = place
      · rw [hcontent, if_pos heq, heq, Function.update_self]
      · rw [hcontent, if_neg heq, Function.update_of_ne heq, hfile]
    rw [copyFileStreamingWithHash, run_bind_of_ok (run_makeDirectory_ok_iff.mpr ⟨disk, hdirs, rfl⟩),
      run_bind_of_ok (run_openRead_ok_iff.mpr ⟨origin, hsource, hfile, rfl⟩),
      run_bind_of_ok (run_openWrite_ok_iff.mpr ⟨place, htarget, hdir, rfl⟩),
      run_bind_of_ok (run_openRead_ok_iff.mpr ⟨origin, hsource', hfile', rfl⟩),
      run_bind_of_ok (run_openWrite_ok_iff.mpr ⟨place, htarget', by simp, rfl⟩)]
    simp [Function.update_idem]

theorem run_copyFile_of_readBytes {source target : List String} {disk disk' : Disk} {content : List UInt8}
    (log : List Access) (hread : readBytes disk source = .ok content) (hdots : ".." ∉ source)
    (hdirs : makeDirs disk target.dropLast = .ok disk') (htarget : resolve disk' target = .ok target)
    (hdir : disk' target ≠ some .dir) (hne : source ≠ target) :
    (copyFileStreamingWithHash host source target).run ⟨disk, log⟩ =
      .ok (sha256Bytes host content, content.length) ⟨Function.update disk' target (some (.file content)),
        log ++ [.read source, .write target [], .read source, .write target content]⟩ := by
  obtain ⟨location, hresolve, hfile⟩ := readBytes_ok_iff.mp ((makeDirs_sameFiles hdirs).readBytes hread)
  cases resolve_of_not_mem hdots hresolve
  exact (run_copyFile_ok_iff host).mpr ⟨disk', source, target, content, content, hdirs, hresolve, hfile,
    htarget, hdir, (if_neg hne).symm, rfl, rfl⟩

/-- `json.dumps(value, indent=2, sort_keys=True) + "\n"` -/
def jsonFileBytes (value : Json P) : List UInt8 :=
  asBytes (String.ofList (indentChars host.floatRepr 0 (sortKeys value) ++ ['\n']))

def writeJson (path : List String) (value : Json P) : AgentIO Unit := do
  makeDirectory path.dropLast
  openWrite path (jsonFileBytes host value)

def parseJson (content : List UInt8) : Except PyException (Json P) := do
  let text ← decodeText content
  jsonLoads host.parseFloat text

def readJson (path : List String) : AgentIO (Json P) := do
  let content ← openRead path
  liftExcept (parseJson host content)

def safeRelativePath (label : String) : Json P → Except PyException PurePath
  | .str path =>
    let relative := PurePath.parse path
    if relative.isAbsolute = true ∨ ".." ∈ relative.parts then
      .error (.importVerificationError s!"unsafe {label}: {path}")
    else if relative.parts = [] then .error (.importVerificationError s!"empty {label}")
    else .ok relative
  | _ => .error .typeError

def safeWorkspaceRelativePath (path : Json P) : Except PyException PurePath :=
  safeRelativePath "artifact restore path" path

def safePackageRelativePath (path : Json P) : Except PyException PurePath :=
  safeRelativePath "package path" path

def allowedArtifactPathPrefixes : List String := ["reports/"]

def pathAllowedByPrefix (path : Json P) : Except PyException Bool := do
  let normalized ← safeWorkspaceRelativePath path
  pure (allowedArtifactPathPrefixes.any fun start => start.toList.isPrefixOf normalized.asPosix.toList)

/-- A relative path that leads down from where it starts. -/
structure Descends (path : PurePath) : Prop where
  relative : path.isAbsolute = false
  no_dots : ".." ∉ path.parts
  not_empty : path.parts ≠ []

variable {host}

theorem sortKeys_of_sorted {fields : Fields P} (hvalues : sortFields fields = fields)
    (hsorted : fields.Pairwise fun a b => decide (a.1 ≤ b.1) = true) :
    sortKeys (.dict fields) = .dict fields := by
  rw [sortKeys, hvalues, List.mergeSort_of_pairwise hsorted]

/-- A value printed to a file as it stands. -/
def jsonBytes (host : AgentHost P) (value : Json P) : List UInt8 :=
  asBytes (String.ofList (indentChars host.floatRepr 0 value ++ ['\n']))

theorem jsonFileBytes_eq (value : Json P) : jsonFileBytes host value = jsonBytes host (sortKeys value) := rfl

theorem parseJson_jsonBytes {value : Json P} (h : Printable host.floatRepr host.parseFloat value) :
    parseJson host (jsonBytes host value) = .ok value := by
  have hreturn : '\r' ∉ (String.ofList (indentChars host.floatRepr 0 value ++ ['\n'])).toList := by
    rw [String.toList_ofList, List.mem_append, not_or]
    exact ⟨return_not_mem_indentChars 0 value h, by decide⟩
  rw [parseJson, jsonBytes, except_bind_of_ok (decodeText_asBytes hreturn)]
  exact jsonLoads_indented h ['\n'] (by simp [isJsonWhitespace])

/-- What a disk holds at a path, as JSON. -/
def jsonAt (host : AgentHost P) (disk : Disk) (path : List String) : Except PyException (Json P) := do
  let content ← liftFile (readBytes disk path)
  parseJson host content

theorem jsonAt_ok_iff {disk : Disk} {path : List String} {value : Json P} :
    jsonAt host disk path = .ok value ↔
      ∃ content, readBytes disk path = .ok content ∧ parseJson host content = .ok value := by
  rw [jsonAt, except_bind_ok_iff]
  exact exists_congr fun content => and_congr_left fun _ => liftFile_ok_iff

theorem run_readJson_ok_iff {path : List String} {world world' : World} {value : Json P} :
    (readJson host path).run world = .ok value world' ↔ jsonAt host world.disk path = .ok value ∧
      ∃ location, resolve world.disk path = .ok location ∧
        world' = { world with log := world.log ++ [.read location] } := by
  rw [readJson, run_bind_ok_iff, jsonAt_ok_iff]
  constructor
  · intro h
    obtain ⟨content, middle, hread, h⟩ := h
    obtain ⟨location, hresolve, hfile, rfl⟩ := run_openRead_ok_iff.mp hread
    obtain ⟨hparse, rfl⟩ := run_liftExcept_ok_iff.mp h
    exact ⟨⟨content, readBytes_ok_iff.mpr ⟨location, hresolve, hfile⟩, hparse⟩, location, hresolve, rfl⟩
  · intro h
    obtain ⟨⟨content, hread, hparse⟩, location, hresolve, rfl⟩ := h
    obtain ⟨found, hfound, hfile⟩ := readBytes_ok_iff.mp hread
    cases hfound.symm.trans hresolve
    exact ⟨content, _, run_openRead_ok_iff.mpr ⟨location, hresolve, hfile, rfl⟩,
      run_liftExcept_ok_iff.mpr ⟨hparse, rfl⟩⟩

theorem sameDisk_readJson (path : List String) : Keeps SameDisk (readJson host path) :=
  Keeps.bind (sameDisk_openRead path) fun _ => Keeps.liftExcept _

theorem run_readJson_of_jsonAt {path : List String} (world : World) (hdots : ".." ∉ path) {value : Json P}
    (h : jsonAt host world.disk path = .ok value) :
    (readJson host path).run world = .ok value ⟨world.disk, world.log ++ [.read path]⟩ := by
  obtain ⟨content, hread, _⟩ := jsonAt_ok_iff.mp h
  obtain ⟨location, hresolve, _⟩ := readBytes_ok_iff.mp hread
  cases resolve_of_not_mem hdots hresolve
  exact run_readJson_ok_iff.mpr ⟨h, path, hresolve, rfl⟩

theorem safeRelativePath_ok {label : String} {value : Json P} {relative : PurePath}
    (h : safeRelativePath label value = .ok relative) :
    Descends relative ∧ ∃ path, value = .str path ∧ relative = PurePath.parse path := by
  cases value with
  | str path =>
    unfold safeRelativePath at h
    dsimp only at h
    split at h
    next => cases h
    next hsafe =>
      split at h
      next => cases h
      next hempty =>
        cases h
        rw [not_or] at hsafe
        exact ⟨⟨by simpa using hsafe.1, hsafe.2, hempty⟩, path, rfl, rfl⟩
  | null | bool _ | int _ | float _ | list _ | dict _ => cases h

end Helpers

end PermeantOS
