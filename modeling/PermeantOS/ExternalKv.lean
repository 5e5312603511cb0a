import PermeantOS.AsciiText
import PermeantOS.Delimited
import PermeantOS.LlamaRawKv
import PermeantOS.PyFiles

namespace PermeantOS

/-- What the loader throws, with its `what()`. -/
inductive ManifestError
  | runtimeError (what : List UInt8)
  | invalidArgument (what : List UInt8)
  | outOfRange (what : List UInt8)
  | lengthError (what : List UInt8)
  deriving DecidableEq, Repr

section Numbers

/-- `isspace` of the C locale. -/
def isSpaceByte (b : UInt8) : Bool := b = 32 || (9 ≤ b && b ≤ 13)

def isDigitByte (b : UInt8) : Bool := 48 ≤ b && b ≤ 57

/-- The decimal number at the start of a text. -/
def leadingDigits (text : List UInt8) : Option Nat :=
  let digits := text.takeWhile isDigitByte
  if digits = [] then none else some (digits.foldl (fun n b => 10 * n + (b.toNat - 48)) 0)

/-- What `strtol` and its siblings find at the start of a text: blanks, a sign and digits. -/
def leadingInteger (text : List UInt8) : Option Int :=
  match text.dropWhile isSpaceByte with
  | [] => none
  | first :: rest =>
    if first = 45 then (leadingDigits rest).map fun n => -(n : Int)
    else if first = 43 then (leadingDigits rest).map Int.ofNat
    else (leadingDigits (first :: rest)).map Int.ofNat

/-- A conversion that throws where there is no number, or none within bounds. -/
def convert (name : String) (low high : Int) (text : List UInt8) : Except ManifestError Int :=
  match leadingInteger text with
  | none => .error (.invalidArgument (asBytes name))
  | some n => if low ≤ n ∧ n < high then .ok n else .error (.outOfRange (asBytes name))

def stoi : List UInt8 → Except ManifestError Int := convert "stoi" (-2 ^ 31) (2 ^ 31)

def stoll : List UInt8 → Except ManifestError Int := convert "stoll" (-2 ^ 63) (2 ^ 63)

/-- A negative number is taken modulo `2^64`. -/
def stoul (text : List UInt8) : Except ManifestError Nat := do
  let n ← convert "stoul" (-2 ^ 64 + 1) (2 ^ 64) text
  pure (n % 2 ^ 64).toNat

end Numbers

section Loader

variable (disk : Disk) (workingDirectory : Directory)

/-- The contents of the file that a C string names. A name that is not UTF-8 is on no disk. -/
def openFile (path : List UInt8) : Option (List UInt8) :=
  (fromUtf8 (path.takeWhile (· ≠ 0))).bind fun text =>
    (readBytes disk (PurePath.under workingDirectory.names (PurePath.parse text))).toOption

def readTextFile (path : List UInt8) : Except ManifestError (List UInt8) :=
  match openFile disk workingDirectory path with
  | none => .error (.runtimeError (asBytes "failed to open text file: " ++ path))
  | some content => .ok content

/-- `read_f32le_file`; `expectedValues` is a `size_t`, and a vector holds less than `2^61` floats. -/
def readF32leFile (path : List UInt8) (expectedValues : Nat) : Except ManifestError (List F32) :=
  match openFile disk workingDirectory path with
  | none => .error (.runtimeError (asBytes "failed to open f32le tensor: " ++ path))
  | some content =>
    if content.length ≠ expectedValues * 4 % 2 ^ 64 then
      .error (.runtimeError (asBytes "f32le tensor size mismatch: " ++ path))
    else if 2 ^ 61 ≤ expectedValues then
      .error (.lengthError (asBytes "cannot create std::vector larger than max_size()"))
    else .ok ((chunksExactFour content).map f32FromLeBytes)

def splitTabs (line : List UInt8) : List (List UInt8) := getlines 9 line

def parseTokenCsv (value : List UInt8) : Except ManifestError (List Int) :=
  ((getlines 44 value).filter (· ≠ [])).mapM stoi

/-- A `CanonicalLayer` as a manifest gives it, with sizes of any sign. -/
structure ExternalLayer where
  il : UInt32
  seqLen : Int
  kWidth : Int
  vWidth : Int
  key : List F32
  value : List F32
  deriving DecidableEq, Repr

structure ExternalManifest where
  schemaVersion : List UInt8
  sourceRuntime : List UInt8
  sourceModel : List UInt8
  promptPath : List UInt8
  promptTokens : List Int
  sourceContinuation : List Int
  layers : List ExternalLayer
  deriving DecidableEq, Repr

def ExternalManifest.empty : ExternalManifest := ⟨[], [], [], [], [], [], []⟩

/-- `static_cast<size_t>` of a product of two `int64_t`. -/
def sizeOfProduct (a b : Int) : Nat := (a * b % 2 ^ 64).toNat

def loadLayer (il seqLen kWidth vWidth keyPath valuePath : List UInt8) : Except ManifestError ExternalLayer := do
  let il ← stoul il
  let seqLen ← stoll seqLen
  let kWidth ← stoll kWidth
  let vWidth ← stoll vWidth
  let key ← readF32leFile disk workingDirectory keyPath (sizeOfProduct seqLen kWidth)
  let value ← readF32leFile disk workingDirectory valuePath (sizeOfProduct seqLen vWidth)
  pure ⟨UInt32.ofNat il, seqLen, kWidth, vWidth, key, value⟩

/-- One round of the loop of `load_external_manifest`. -/
def loadLine (manifest : ExternalManifest) (line : List UInt8) : Except ManifestError ExternalManifest :=
  let invalid : Except ManifestError ExternalManifest :=
    .error (.runtimeError (asBytes "invalid external KV manifest line: " ++ line))
  if line.head? = none ∨ line.head? = some 35 then .ok manifest
  else
    match splitTabs line with
    | [] => .ok manifest
    | [field, value] =>
      if field = asBytes "schema_version" then .ok { manifest with schemaVersion := value }
      else if field = asBytes "source_runtime" then .ok { manifest with sourceRuntime := value }
      else if field = asBytes "source_model" then .ok { manifest with sourceModel := value }
      else if field = asBytes "prompt_path" then .ok { manifest with promptPath := value }
      else if field = asBytes "prompt_tokens" then do
        let tokens ← parseTokenCsv value
        pure { manifest with promptTokens := tokens }
      else if field = asBytes "source_token_ids" then do
        let tokens ← parseTokenCsv value
        pure { manifest with sourceContinuation := tokens }
      else invalid
    | [field, il, seqLen, kWidth, vWidth, keyPath, valuePath, _] =>
      if field = asBytes "layer" then do
        let layer ← loadLayer disk workingDirectory il seqLen kWidth vWidth keyPath valuePath
        pure { manifest with layers := manifest.layers ++ [layer] }
      else invalid
    | _ => invalid

def checkManifest (manifest : ExternalManifest) : Except ManifestError ExternalManifest :=
  if manifest.schemaVersion ≠ asBytes "permeantos-cross-runtime-canonical-kv-v0" then
    .error (.runtimeError (asBytes "unsupported external KV manifest schema"))
  else if manifest.promptPath = [] ∨ manifest.promptTokens = [] ∨ manifest.layers = [] then
    .error (.runtimeError (asBytes "external KV manifest is missing prompt/tokens/layers"))
  else .ok manifest

def loadExternalManifest (path : List UInt8) : Except ManifestError ExternalManifest :=
  match openFile disk workingDirectory path with
  | none => .error (.runtimeError (asBytes "failed to open external KV manifest: " ++ path))
  | some content => do
    let manifest ← (getlines 10 content).foldlM (loadLine disk workingDirectory) ExternalManifest.empty
    checkManifest manifest

end Loader

section Printed

def asciiBytes (text : List Char) : List UInt8 := text.map fun c => UInt8.ofNat c.toNat

theorem asciiByte_toNat {c : Char} (h : isDigit c = true) :
    (UInt8.ofNat c.toNat).toNat = c.toNat ∧ 48 ≤ c.toNat ∧ c.toNat ≤ 57 := by
  have hbounds := isDigit_toNat h
  refine ⟨?_, hbounds⟩
  rw [UInt8.toNat_ofNat', Nat.mod_eq_of_lt (by omega)]

theorem leadingDigits_toDigits (n : Nat) : leadingDigits (asciiBytes (Nat.toDigits 10 n)) = some n := by
  have hdigits : (asciiBytes (Nat.toDigits 10 n)).takeWhile isDigitByte = asciiBytes (Nat.toDigits 10 n) := by
    rw [List.takeWhile_eq_self_iff]
    intro b hb
    obtain ⟨c, hc, rfl⟩ := List.mem_map.mp hb
    obtain ⟨hbyte, hlow, hhigh⟩ := asciiByte_toNat (isDigit_of_mem_toDigits hc)
    simp only [isDigitByte, UInt8.le_iff_toNat_le, hbyte, Bool.and_eq_true, decide_eq_true_eq]
    exact ⟨hlow, hhigh⟩
  have hne : asciiBytes (Nat.toDigits 10 n) ≠ [] := by
    intro hnil
    exact Nat.toDigits_ne_nil (List.map_eq_nil_iff.mp hnil)
  rw [leadingDigits, hdigits, if_neg hne, asciiBytes, List.foldl_map]
  congr 1
  calc (Nat.toDigits 10 n).foldl (fun m c => 10 * m + ((UInt8.ofNat c.toNat).toNat - 48)) 0
      = (Nat.toDigits 10 n).foldl (fun m c => 10 * m + (c.toNat - '0'.toNat)) 0 := by
        apply List.foldl_ext
        intro m c hc
        rw [(asciiByte_toNat (isDigit_of_mem_toDigits hc)).1]
        rfl
    _ = Nat.ofDigitChars 10 (Nat.toDigits 10 n) 0 := Nat.ofDigitChars_eq_foldl.symm
    _ = n := Nat.ofDigitChars_ten_toDigits

theorem asBytes_toString_ofNat (n : Nat) : asBytes (toString (Int.ofNat n)) = asciiBytes (Nat.toDigits 10 n) := by
  have htext : (toString (Int.ofNat n)).toList = Nat.toDigits 10 n := Nat.toList_repr
  rw [asBytes_of_ascii, htext, asciiBytes]
  intro c hc
  rw [htext] at hc
  have hbounds := isDigit_toNat (isDigit_of_mem_toDigits hc)
  omega

theorem asBytes_toString_negSucc (n : Nat) :
    asBytes (toString (Int.negSucc n)) = 45 :: asciiBytes (Nat.toDigits 10 (n + 1)) := by
  rw [asBytes_of_ascii, toList_toString_negSucc, List.map_cons, asciiBytes]
  · rfl
  · intro c hc
    rw [toList_toString_negSucc, List.mem_cons] at hc
    obtain rfl | hc := hc
    · decide
    · have hbounds := isDigit_toNat (isDigit_of_mem_toDigits hc)
      omega

/-- A number that Python has printed is read back. -/
theorem leadingInteger_toString (n : Int) : leadingInteger (asBytes (toString n)) = some n := by
  cases n with
  | ofNat n =>
    obtain ⟨c, cs, hcs, hc⟩ := toDigits_append_head n []
    rw [List.append_nil] at hcs
    obtain ⟨hbyte, hlow, hhigh⟩ := asciiByte_toNat hc
    have hspace : ¬isSpaceByte (UInt8.ofNat c.toNat) = true := by
      simp only [isSpaceByte, UInt8.le_iff_toNat_le, ← UInt8.toNat_inj, hbyte, Bool.or_eq_true, Bool.and_eq_true,
        decide_eq_true_eq, UInt8.reduceToNat]
      omega
    have hminus : UInt8.ofNat c.toNat ≠ 45 := by
      rw [← UInt8.toNat_inj.ne, hbyte]
      show c.toNat ≠ 45
      omega
    have hplus : UInt8.ofNat c.toNat ≠ 43 := by
      rw [← UInt8.toNat_inj.ne, hbyte]
      show c.toNat ≠ 43
      omega
    have hdigits := leadingDigits_toDigits n
    rw [asBytes_toString_ofNat, leadingInteger]
    rw [hcs, asciiBytes, List.map_cons] at hdigits ⊢
    rw [List.dropWhile_cons_of_neg hspace]
    dsimp only
    rw [if_neg hminus, if_neg hplus, hdigits]
    rfl
  | negSucc n =>
    have hspace : ¬isSpaceByte 45 = true := by decide
    rw [asBytes_toString_negSucc, leadingInteger, List.dropWhile_cons_of_neg hspace]
    dsimp only
    rw [if_pos rfl, leadingDigits_toDigits]
    rfl

theorem convert_toString {name : String} {low high n : Int} (hlow : low ≤ n) (hhigh : n < high) :
    convert name low high (asBytes (toString n)) = .ok n := by
  rw [convert, leadingInteger_toString]
  exact if_pos ⟨hlow, hhigh⟩

/-- A printed number has neither blanks nor commas. -/
theorem toString_chars (n : Int) : ∀ c ∈ (toString n).toList, c = '-' ∨ isDigit c = true := by
  intro c hc
  cases n with
  | ofNat n =>
    have htext : (toString (Int.ofNat n)).toList = Nat.toDigits 10 n := Nat.toList_repr
    rw [htext] at hc
    exact .inr (isDigit_of_mem_toDigits hc)
  | negSucc n =>
    rw [toList_toString_negSucc, List.mem_cons] at hc
    exact hc.imp id isDigit_of_mem_toDigits

end Printed

end PermeantOS
