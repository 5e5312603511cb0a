import PermeantOS.Fallible
import Mathlib.Data.List.Basic
import Mathlib.Logic.Function.Basic

namespace PermeantOS

/-- What there is at a place of a file system without symbolic links. -/
inductive FileNode
  | dir
  | file (content : List UInt8)
  deriving DecidableEq, Repr

/-- The names from the root down to a place. -/
abbrev Location := List String

abbrev Disk := Location → Option FileNode

inductive FileError
  | notFound
  | notADirectory
  | isADirectory
  | fileExists
  | embeddedNull
  deriving DecidableEq, Repr

section Paths

/-- `pathlib.PurePosixPath`. The root is empty, `/` or `//`. -/
structure PurePath where
  root : String
  parts : List String
  deriving DecidableEq, Repr

/-- `PurePosixPath(text)`: empty parts and single dots are dropped. -/
def PurePath.parse (text : String) : PurePath where
  root :=
    match (text.toList.takeWhile (· = '/')).length with
    | 0 => ""
    | 2 => "//"
    | _ => "/"
  parts := ((text.toList.splitOn '/').filter fun part => part ≠ [] ∧ part ≠ ['.']).map String.ofList

def PurePath.isAbsolute (path : PurePath) : Bool := path.root ≠ ""

def PurePath.asPosix (path : PurePath) : String :=
  if path.root = "" ∧ path.parts = [] then "."
  else path.root ++ String.intercalate "/" path.parts

/-- The parts of `directory / path` from the root on. -/
def PurePath.under (directory : Location) (path : PurePath) : List String :=
  if path.isAbsolute then path.parts else directory ++ path.parts

theorem not_mem_of_mem_splitOn {c : Char} {text part : List Char} (h : part ∈ text.splitOn c) : c ∉ part := by
  induction text generalizing part with
  | nil =>
    rw [List.splitOn_eq_singleton List.not_mem_nil, List.mem_singleton] at h
    rw [h]
    exact List.not_mem_nil
  | cons first text ih =>
    rw [List.splitOn_cons_eq_if_modifyHead] at h
    split at h
    next =>
      obtain rfl | h := List.mem_cons.mp h
      · exact List.not_mem_nil
      · exact ih h
    next hfirst =>
      obtain ⟨head, rest, hsplit⟩ := List.exists_cons_of_ne_nil (List.splitOn_ne_nil c text)
      rw [hsplit] at h ih
      rw [List.modifyHead_cons, List.mem_cons] at h
      obtain rfl | h := h
      · rw [List.mem_cons, not_or]
        exact ⟨fun heq => hfirst (by simp [heq]), ih List.mem_cons_self⟩
      · exact ih (List.mem_cons_of_mem _ h)

theorem PurePath.slash_not_mem {text part : String} (h : part ∈ (PurePath.parse text).parts) :
    '/' ∉ part.toList := by
  obtain ⟨chars, hchars, rfl⟩ := List.mem_map.mp h
  rw [String.toList_ofList]
  exact not_mem_of_mem_splitOn (List.mem_of_mem_filter hchars)

/-- The parts of a path do not care where it is cut at a slash. -/
theorem PurePath.parts_slash (front back : String) :
    (PurePath.parse (front ++ "/" ++ back)).parts = (PurePath.parse front).parts ++ (PurePath.parse back).parts := by
  have htext : (front ++ "/" ++ back).toList = front.toList ++ '/' :: back.toList := by
    rw [String.toList_append, String.toList_append, List.append_assoc]
    rfl
  simp only [PurePath.parse, htext, List.splitOn_append_cons_self, List.filter_append, List.map_append]

theorem PurePath.isAbsolute_of_head {text : String} {c : Char} {rest : List Char} (h : text.toList = c :: rest)
    (hc : c ≠ '/') : (PurePath.parse text).isAbsolute = false := by
  simp [PurePath.isAbsolute, PurePath.parse, h, hc]

theorem PurePath.eq_of_mem_parts {text part : String} (hslash : '/' ∉ text.toList)
    (h : part ∈ (PurePath.parse text).parts) : part = text := by
  obtain ⟨chars, hchars, rfl⟩ := List.mem_map.mp h
  have hmem := List.mem_of_mem_filter hchars
  rw [List.splitOn_eq_singleton hslash, List.mem_singleton] at hmem
  rw [hmem, String.ofList_toList]

end Paths

/-- A directory, named from the root on. -/
structure Directory where
  names : Location
  no_dots : ".." ∉ names

theorem Directory.not_mem_append (directory : Directory) {parts : List String} (h : ".." ∉ parts) :
    ".." ∉ directory.names ++ parts := by
  rw [List.mem_append, not_or]
  exact ⟨directory.no_dots, h⟩

section Lookup

variable (disk : Disk)

/-- The place that a path leads to from `here`. A step to a name or to the parent needs a directory to
step from. -/
def walk : Location → List String → Except FileError Location
  | here, [] => .ok here
  | here, part :: parts =>
    match disk here with
    | some .dir => walk (if part = ".." then here.dropLast else here ++ [part]) parts
    | some (.file _) => .error .notADirectory
    | none => .error .notFound

def hasNull (path : List String) : Bool := path.any fun part => part.toList.contains '\x00'

def resolve (path : List String) : Except FileError Location :=
  if hasNull path = true then .error .embeddedNull else walk disk [] path

def fileContent : Option FileNode → Except FileError (List UInt8)
  | some (.file content) => .ok content
  | some .dir => .error .isADirectory
  | none => .error .notFound

def readBytes (path : List String) : Except FileError (List UInt8) := do
  let location ← resolve disk path
  fileContent (disk location)

/-- `Path.exists`, which takes every error for an answer. -/
def fileExists (path : List String) : Bool :=
  match resolve disk path with
  | .ok location => (disk location).isSome
  | .error _ => false

/-- Open for writing, and write. -/
def writeBytes (path : List String) (content : List UInt8) : Except FileError Disk := do
  let location ← resolve disk path
  if disk location = some .dir then .error .isADirectory
  else .ok (Function.update disk location (some (.file content)))

/-- Make the directories that are missing on the way from `here`. -/
def makeDirsFrom (disk : Disk) (here : Location) : List String → Except FileError Disk
  | [] => .ok disk
  | name :: names =>
    match disk (here ++ [name]) with
    | some .dir => makeDirsFrom disk (here ++ [name]) names
    | none =>
      makeDirsFrom (Function.update disk (here ++ [name]) (some .dir)) (here ++ [name]) names
    | some (.file _) => .error (if names = [] then .fileExists else .notADirectory)

/-- `Path.mkdir(parents=True, exist_ok=True)` for a path without dots. -/
def makeDirs (path : List String) : Except FileError Disk :=
  if hasNull path = true then .error .embeddedNull else makeDirsFrom disk [] path

end Lookup

section Resolving

variable {disk : Disk}

/-- A path without dots leads where it says. -/
theorem walk_of_not_mem {here location : Location} {parts : List String} (hdots : ".." ∉ parts)
    (h : walk disk here parts = .ok location) : location = here ++ parts := by
  induction parts generalizing here with
  | nil =>
    cases h
    simp
  | cons part parts ih =>
    rw [List.mem_cons, not_or] at hdots
    rw [walk] at h
    cases hnode : disk here with
    | none =>
      rw [hnode] at h
      cases h
    | some node =>
      rw [hnode] at h
      cases node with
      | file content => cases h
      | dir =>
        have hnext := ih hdots.2 h
        rw [if_neg (fun heq => hdots.1 heq.symm)] at hnext
        rw [hnext, List.append_assoc]
        rfl

theorem resolve_of_not_mem {path : List String} {location : Location} (hdots : ".." ∉ path)
    (h : resolve disk path = .ok location) : location = path := by
  unfold resolve at h
  split at h
  next => cases h
  next => exact walk_of_not_mem hdots h

theorem fileContent_ok_iff {node : Option FileNode} {content : List UInt8} :
    fileContent node = .ok content ↔ node = some (.file content) := by
  cases node with
  | none => simp [fileContent]
  | some node => cases node <;> simp [fileContent]

theorem readBytes_ok_iff {path : List String} {content : List UInt8} :
    readBytes disk path = .ok content ↔
      ∃ location, resolve disk path = .ok location ∧ disk location = some (.file content) := by
  rw [readBytes, except_bind_ok_iff]
  exact exists_congr fun location => and_congr_right fun _ => fileContent_ok_iff

theorem writeBytes_ok_iff {path : List String} {content : List UInt8} {disk' : Disk} :
    writeBytes disk path content = .ok disk' ↔ ∃ location, resolve disk path = .ok location ∧
      disk location ≠ some .dir ∧ disk' = Function.update disk location (some (.file content)) := by
  rw [writeBytes, except_bind_ok_iff]
  apply exists_congr
  intro location
  apply and_congr_right
  intro _
  by_cases hdir : disk location = some .dir
  · simp [hdir]
  · rw [if_neg hdir, Except.ok.injEq, eq_comm]
    exact (and_iff_right hdir).symm

/-- Two disks with the same files, on which the second has all directories of the first. -/
structure SameFiles (disk disk' : Disk) : Prop where
  file_iff : ∀ location content, disk' location = some (.file content) ↔ disk location = some (.file content)
  dir : ∀ location, disk location = some .dir → disk' location = some .dir

theorem SameFiles.refl (disk : Disk) : SameFiles disk disk := ⟨fun _ _ => Iff.rfl, fun _ h => h⟩

theorem SameFiles.trans {a b c : Disk} (hab : SameFiles a b) (hbc : SameFiles b c) : SameFiles a c :=
  ⟨fun location content => (hbc.file_iff location content).trans (hab.file_iff location content),
    fun location h => hbc.dir location (hab.dir location h)⟩

theorem sameFiles_update_dir {location : Location} (h : disk location = none) :
    SameFiles disk (Function.update disk location (some .dir)) := by
  refine ⟨?_, ?_⟩
  · intro other content
    by_cases heq : other = location
    · subst heq
      simp [h]
    · rw [Function.update_of_ne heq]
  · intro other hdir
    by_cases heq : other = location
    · subst heq
      simp
    · rwa [Function.update_of_ne heq]

theorem makeDirsFrom_sameFiles {here : Location} {names : List String} {disk' : Disk}
    (h : makeDirsFrom disk here names = .ok disk') : SameFiles disk disk' := by
  induction names generalizing disk here with
  | nil =>
    cases h
    exact SameFiles.refl _
  | cons name names ih =>
    rw [makeDirsFrom] at h
    cases hnode : disk (here ++ [name]) with
    | none =>
      rw [hnode] at h
      exact (sameFiles_update_dir hnode).trans (ih h)
    | some node =>
      rw [hnode] at h
      cases node with
      | dir => exact ih h
      | file content => cases h

theorem makeDirs_sameFiles {path : List String} {disk' : Disk} (h : makeDirs disk path = .ok disk') :
    SameFiles disk disk' := by
  unfold makeDirs at h
  split at h
  next => cases h
  next => exact makeDirsFrom_sameFiles h

/-- A path leads to the same place where no directory has gone. -/
theorem walk_mono {disk' : Disk} (h : ∀ location, disk location = some .dir → disk' location = some .dir)
    {here location : Location} {parts : List String} (hwalk : walk disk here parts = .ok location) :
    walk disk' here parts = .ok location := by
  induction parts generalizing here with
  | nil => exact hwalk
  | cons part parts ih =>
    rw [walk] at hwalk ⊢
    cases hnode : disk here with
    | none =>
      rw [hnode] at hwalk
      cases hwalk
    | some node =>
      rw [hnode] at hwalk
      cases node with
      | file content => cases hwalk
      | dir =>
        rw [h here hnode]
        exact ih hwalk

theorem resolve_mono {disk' : Disk} (h : ∀ location, disk location = some .dir → disk' location = some .dir)
    {path : List String} {location : Location} (hresolve : resolve disk path = .ok location) :
    resolve disk' path = .ok location := by
  unfold resolve at hresolve ⊢
  split at hresolve
  next => cases hresolve
  next hnull =>
    rw [if_neg hnull]
    exact walk_mono h hresolve

theorem dir_update {location : Location} (h : disk location ≠ some .dir) (node : FileNode) :
    ∀ other, disk other = some .dir → Function.update disk location (some node) other = some .dir := by
  intro other hdir
  rw [Function.update_of_ne, hdir]
  rintro rfl
  exact h hdir

/-- A file that is written somewhere else leaves the others as they are. -/
theorem readBytes_update {path : List String} {location other : Location} {content bytes : List UInt8}
    (hread : readBytes disk path = .ok content) (hresolve : resolve disk path = .ok location)
    (hother : disk other ≠ some .dir) (hne : location ≠ other) :
    readBytes (Function.update disk other (some (.file bytes))) path = .ok content := by
  obtain ⟨found, hfound, hfile⟩ := readBytes_ok_iff.mp hread
  cases hresolve.symm.trans hfound
  apply readBytes_ok_iff.mpr
  refine ⟨location, resolve_mono (dir_update hother _) hresolve, ?_⟩
  rw [Function.update_of_ne hne, hfile]

theorem readBytes_written {path : List String} {location : Location} {bytes : List UInt8}
    (hresolve : resolve disk path = .ok location) (h : disk location ≠ some .dir) :
    readBytes (Function.update disk location (some (.file bytes))) path = .ok bytes := by
  apply readBytes_ok_iff.mpr
  exact ⟨location, resolve_mono (dir_update h _) hresolve, by rw [Function.update_self]⟩

/-- What a disk with more directories still reads as before. -/
theorem SameFiles.readBytes {disk' : Disk} (h : SameFiles disk disk') {path : List String}
    {content : List UInt8} (hread : readBytes disk path = .ok content) :
    readBytes disk' path = .ok content := by
  obtain ⟨location, hresolve, hfile⟩ := readBytes_ok_iff.mp hread
  apply readBytes_ok_iff.mpr
  exact ⟨location, resolve_mono h.dir hresolve, (h.file_iff location content).mpr hfile⟩

theorem fileExists_of_readBytes {path : List String} {content : List UInt8}
    (h : readBytes disk path = .ok content) : fileExists disk path = true := by
  obtain ⟨location, hresolve, hfile⟩ := readBytes_ok_iff.mp h
  rw [fileExists, hresolve]
  simp [hfile]

end Resolving

section Making

variable {disk : Disk}

theorem prefix_append_cons {location here : Location} {name : String} {names : List String} :
    location <+: here ++ name :: names ↔ location <+: (here ++ [name]) ++ names := by
  rw [List.append_assoc, List.singleton_append]

/-- Directories are made on the way only. -/
theorem makeDirsFrom_other {here location : Location} {names : List String} {disk' : Disk}
    (h : makeDirsFrom disk here names = .ok disk') (hother : ¬location <+: here ++ names) :
    disk' location = disk location := by
  induction names generalizing disk here with
  | nil =>
    cases h
    rfl
  | cons name names ih =>
    rw [prefix_append_cons] at hother
    have hne : location ≠ here ++ [name] := by
      rintro rfl
      exact hother (List.prefix_append _ _)
    rw [makeDirsFrom] at h
    cases hnode : disk (here ++ [name]) with
    | none =>
      rw [hnode] at h
      rw [ih h hother, Function.update_of_ne hne]
    | some node =>
      rw [hnode] at h
      cases node with
      | dir => exact ih h hother
      | file content => cases h

theorem makeDirs_other {location path : Location} {disk' : Disk} (h : makeDirs disk path = .ok disk')
    (hother : ¬location <+: path) : disk' location = disk location := by
  unfold makeDirs at h
  split at h
  next => cases h
  next => exact makeDirsFrom_other h hother

/-- Nothing but a file can be in the way. -/
theorem exists_makeDirsFrom {here : Location} {names : List String}
    (h : ∀ location, location <+: here ++ names → ∀ content, disk location ≠ some (.file content)) :
    ∃ disk', makeDirsFrom disk here names = .ok disk' := by
  induction names generalizing disk here with
  | nil => exact ⟨disk, rfl⟩
  | cons name names ih =>
    have hnext : here ++ [name] <+: here ++ name :: names := prefix_append_cons.mpr (List.prefix_append _ _)
    have hrest : ∀ location, location <+: (here ++ [name]) ++ names →
        ∀ content, disk location ≠ some (.file content) := by
      intro location hlocation
      exact h location (prefix_append_cons.mpr hlocation)
    rw [makeDirsFrom]
    cases hnode : disk (here ++ [name]) with
    | none =>
      apply ih
      intro location hlocation content
      by_cases heq : location = here ++ [name]
      · subst heq
        simp
      · rw [Function.update_of_ne heq]
        exact hrest location hlocation content
    | some node =>
      cases node with
      | dir => exact ih hrest
      | file content => exact absurd hnode (h _ hnext content)

theorem exists_makeDirs {path : Location} (hnull : hasNull path = false)
    (h : ∀ location, location <+: path → ∀ content, disk location ≠ some (.file content)) :
    ∃ disk', makeDirs disk path = .ok disk' := by
  rw [makeDirs, if_neg (by simp [hnull])]
  exact exists_makeDirsFrom h

/-- What is on the way is a directory afterwards. -/
theorem makeDirsFrom_dirs {here : Location} {names : List String} {disk' : Disk}
    (h : makeDirsFrom disk here names = .ok disk') (hhere : disk here = some .dir) {front : List String}
    (hfront : front <+: names) : disk' (here ++ front) = some .dir := by
  induction names generalizing disk here front with
  | nil =>
    cases h
    rw [List.prefix_nil.mp hfront, List.append_nil, hhere]
  | cons name names ih =>
    obtain rfl | ⟨rest, rfl, hrest⟩ := List.prefix_cons_iff.mp hfront
    · rw [List.append_nil]
      exact (makeDirsFrom_sameFiles h).dir here hhere
    · rw [← List.singleton_append, ← List.append_assoc]
      rw [makeDirsFrom] at h
      cases hnode : disk (here ++ [name]) with
      | none =>
        rw [hnode] at h
        exact ih h (by rw [Function.update_self]) hrest
      | some node =>
        rw [hnode] at h
        cases node with
        | dir => exact ih h hnode hrest
        | file content => cases h

theorem walk_of_dirs {here : Location} {parts : List String} (hdots : ".." ∉ parts)
    (hdirs : ∀ front, front <+: parts → front ≠ parts → disk (here ++ front) = some .dir) :
    walk disk here parts = .ok (here ++ parts) := by
  induction parts generalizing here with
  | nil => simp [walk]
  | cons part parts ih =>
    rw [List.mem_cons, not_or] at hdots
    have hhere : disk here = some .dir := by
      have hnil := hdirs [] List.nil_prefix (by simp)
      rwa [List.append_nil] at hnil
    have hrest : walk disk (here ++ [part]) parts = .ok (here ++ [part] ++ parts) := by
      apply ih hdots.2
      intro front hfront hne
      have hnext := hdirs (part :: front) (List.cons_prefix_cons.mpr ⟨rfl, hfront⟩) (by simpa using hne)
      rwa [List.append_assoc, List.singleton_append]
    rw [walk, hhere]
    dsimp only
    rw [if_neg (fun heq => hdots.1 heq.symm), hrest, List.append_assoc, List.singleton_append]

/-- A path leads where it says once its directories are made. -/
theorem resolve_of_makeDirs {path : Location} {disk' : Disk} (hroot : disk [] = some .dir)
    (hdots : ".." ∉ path) (hnull : hasNull path = false) (h : makeDirs disk path.dropLast = .ok disk') :
    resolve disk' path = .ok path := by
  rw [resolve, if_neg (by simp [hnull])]
  unfold makeDirs at h
  split at h
  next => cases h
  next =>
    have hwalk : walk disk' [] path = .ok ([] ++ path) := by
      apply walk_of_dirs hdots
      intro front hfront hne
      obtain ⟨rest, rfl⟩ := hfront
      have hrest : rest ≠ [] := by
        rintro rfl
        simp at hne
      rw [List.dropLast_append_of_ne_nil hrest] at h
      exact makeDirsFrom_dirs h hroot (List.prefix_append _ _)
    exact hwalk

theorem not_prefix_dropLast {path : Location} (h : path ≠ []) : ¬path <+: path.dropLast := by
  intro hprefix
  have hlength := hprefix.length_le
  rw [List.length_dropLast] at hlength
  have hpos := List.length_pos_iff.mpr h
  omega

theorem dirs_of_walk {here location : Location} {parts : List String} (hdots : ".." ∉ parts)
    (h : walk disk here parts = .ok location) {front : List String} (hfront : front <+: parts)
    (hne : front ≠ parts) : disk (here ++ front) = some .dir := by
  induction parts generalizing here front with
  | nil => exact absurd (List.prefix_nil.mp hfront) hne
  | cons part parts ih =>
    rw [List.mem_cons, not_or] at hdots
    rw [walk] at h
    cases hnode : disk here with
    | none =>
      rw [hnode] at h
      cases h
    | some node =>
      rw [hnode] at h
      cases node with
      | file content => cases h
      | dir =>
        obtain rfl | ⟨rest, rfl, hrest⟩ := List.prefix_cons_iff.mp hfront
        · rw [List.append_nil, hnode]
        · have hnext := ih hdots.2 h hrest (by simpa using hne)
          rwa [if_neg (fun heq => hdots.1 heq.symm), List.append_assoc, List.singleton_append] at hnext

/-- What a path leads through are directories. -/
theorem dirs_of_resolve {path location : Location} (hdots : ".." ∉ path)
    (h : resolve disk path = .ok location) {front : List String} (hfront : front <+: path) (hne : front ≠ path) :
    disk front = some .dir := by
  unfold resolve at h
  split at h
  next => cases h
  next =>
    have hdir := dirs_of_walk hdots h hfront hne
    rwa [List.nil_append] at hdir

theorem hasNull_append (front back : List String) : hasNull (front ++ back) = (hasNull front || hasNull back) :=
  List.any_append

theorem hasNull_of_resolve {path location : Location} (h : resolve disk path = .ok location) :
    hasNull path = false := by
  unfold resolve at h
  split at h
  next => cases h
  next hnull => simpa using hnull

end Making

end PermeantOS
