import PermeantOS.JsonText

namespace PermeantOS

def PyException.ofFileError : FileError → PyException
  | .embeddedNull => .valueError "embedded null byte"
  | error => .osError error

def liftFile {α : Type} : Except FileError α → Except PyException α
  | .ok a => .ok a
  | .error e => .error (.ofFileError e)

theorem liftFile_ok_iff {α : Type} {x : Except FileError α} {a : α} : liftFile x = .ok a ↔ x = .ok a := by
  cases x with
  | ok b => simp [liftFile]
  | error e => simp [liftFile]

/-- What reading in text mode makes of line ends. -/
def universalNewlines : List Char → List Char
  | [] => []
  | '\r' :: '\n' :: rest => '\n' :: universalNewlines rest
  | '\r' :: rest => '\n' :: universalNewlines rest
  | c :: rest => c :: universalNewlines rest

theorem universalNewlines_of_not_mem {text : List Char} (h : '\r' ∉ text) : universalNewlines text = text := by
  induction text with
  | nil => rfl
  | cons c text ih =>
    rw [List.mem_cons, not_or] at h
    rw [universalNewlines, ih h.2]
    · intro rest heq
      exact absurd heq.symm h.1
    · intro heq
      exact absurd heq.symm h.1

/-- Bytes read in text mode. -/
def decodeText (bytes : List UInt8) : Except PyException String :=
  match fromUtf8 bytes with
  | none => .error .unicodeDecodeError
  | some text => .ok (String.ofList (universalNewlines text.toList))

theorem decodeText_asBytes {text : String} (h : '\r' ∉ text.toList) : decodeText (asBytes text) = .ok text := by
  rw [decodeText, fromUtf8_asBytes]
  dsimp only
  rw [universalNewlines_of_not_mem h, String.ofList_toList]

def readText (disk : Disk) (path : List String) : Except PyException String := do
  let bytes ← liftFile (readBytes disk path)
  decodeText bytes

theorem readText_of_readBytes {disk : Disk} {path : List String} {text : String}
    (h : readBytes disk path = .ok (asBytes text)) (hreturn : '\r' ∉ text.toList) :
    readText disk path = .ok text := by
  rw [readText, except_bind_of_ok (liftFile_ok_iff.mpr h), decodeText_asBytes hreturn]

section Actions

variable {α : Type}

/-- A program that works on the disk; what it has written stays when it raises. -/
abbrev PyIO (α : Type) := EStateM PyException Disk α

def inspect (f : Disk → Except PyException α) : PyIO α := do
  let disk ← get
  liftExcept (f disk)

def update (f : Disk → Except FileError Disk) : PyIO Unit := do
  let disk ← get
  let disk ← liftExcept (liftFile (f disk))
  set disk

theorem run_inspect_ok_iff {f : Disk → Except PyException α} {disk disk' : Disk} {a : α} :
    (inspect f).run disk = .ok a disk' ↔ f disk = .ok a ∧ disk' = disk := by
  rw [inspect, run_get_bind, run_liftExcept_ok_iff]

theorem run_inspect_of_ok {f : Disk → Except PyException α} {disk : Disk} {a : α} (h : f disk = .ok a) :
    (inspect f).run disk = .ok a disk := run_inspect_ok_iff.mpr ⟨h, rfl⟩

theorem run_inspect_of_error {f : Disk → Except PyException α} {disk : Disk} {e : PyException}
    (h : f disk = .error e) : (inspect f).run disk = .error e disk := by
  rw [inspect, run_get_bind, h, run_liftExcept_error]

theorem run_update_of_ok {f : Disk → Except FileError Disk} {disk disk' : Disk} (h : f disk = .ok disk') :
    (update f).run disk = .ok () disk' := by
  rw [update, run_get_bind, run_liftExcept_bind_of_ok (liftFile_ok_iff.mpr h)]
  rfl

theorem run_update_of_error {f : Disk → Except FileError Disk} {disk : Disk} {e : FileError}
    (h : f disk = .error e) : (update f).run disk = .error (.ofFileError e) disk := by
  rw [update, run_get_bind, h]
  rfl

end Actions

end PermeantOS
