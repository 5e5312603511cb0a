import PermeantOS.Files
import PermeantOS.Message
import PermeantOS.Sha256

namespace PermeantOS

inductive PyException
  | connectionError (message : String)
  | structError (message : String)
  | unicodeDecodeError
  | jsonDecodeError
  | adapterError (message : String)
  | attributeError
  | overflowError
  | valueError (message : String)
  | runtimeError (message : String)
  | indexError
  | keyError (key : String)
  | zeroDivisionError
  | typeError
  | osError (error : FileError)
  | importVerificationError (message : String)
  | spanMetadataError (message : String)
  | eofError (message : String)
  | memoryError
  deriving DecidableEq, Repr

/-- The values `json` reads and writes, with floats in `F`. The keys of a `dict` are in insertion
order. -/
inductive Json (F : Type)
  | null
  | bool (value : Bool)
  | int (value : Int)
  | float (value : F)
  | str (value : String)
  | list (items : List (Json F))
  | dict (fields : List (String × Json F))

/-- `hashlib.sha256(data).hexdigest()` -/
def hashlibSha256 (data : List UInt8) : String := lowerHex (Sha256.digest data)

theorem forall_mem_hashlibSha256 {p : Char → Prop} (hdigit : ∀ n < 16, p (hexDigit n)) (data : List UInt8) :
    ∀ c ∈ (hashlibSha256 data).toList, p c := by
  intro c hc
  rw [hashlibSha256, lowerHex, String.toList_ofList] at hc
  obtain ⟨byte, _, hmem⟩ := List.mem_flatMap.mp hc
  have hbyte := byte.toNat_lt
  rw [List.mem_cons, List.mem_singleton] at hmem
  obtain rfl | rfl := hmem
  · exact hdigit _ (by omega)
  · exact hdigit _ (by omega)

variable {F : Type}

section Dumps

def unicodeEscape (n : Nat) : List Char :=
  ['\x5c', 'u', hexDigit (n / 4096), hexDigit (n / 256 % 16), hexDigit (n / 16 % 16),
    hexDigit (n % 16)]

/-- What stands for a character in an ASCII string literal; those beyond the first plane become a
surrogate pair. -/
def escapeChar (c : Char) : List Char :=
  if c = '\x22' then ['\x5c', '\x22']
  else if c = '\x5c' then ['\x5c', '\x5c']
  else if c = '\n' then ['\x5c', 'n']
  else if c = '\r' then ['\x5c', 'r']
  else if c = '\t' then ['\x5c', 't']
  else if c = '\x0c' then ['\x5c', 'f']
  else if c = '\x08' then ['\x5c', 'b']
  else if 0x20 ≤ c.toNat ∧ c.toNat ≤ 0x7e then [c]
  else if c.toNat < 0x10000 then unicodeEscape c.toNat
  else unicodeEscape (0xd800 + (c.toNat - 0x10000) / 0x400) ++
    unicodeEscape (0xdc00 + (c.toNat - 0x10000) % 0x400)

def dumpsString (s : String) : List Char :=
  '\x22' :: (s.toList.flatMap escapeChar ++ ['\x22'])

/-- What `json.dumps` puts between items and after keys. -/
structure Separators where
  item : List Char
  key : List Char

def Separators.default : Separators := ⟨[',', ' '], [':', ' ']⟩

def Separators.compact : Separators := ⟨[','], [':']⟩

variable (floatRepr : F → String) (separators : Separators)

mutual

def dumpsChars : Json F → List Char
  | .null => "null".toList
  | .bool true => "true".toList
  | .bool false => "false".toList
  | .int value => (toString value).toList
  | .float value => (floatRepr value).toList
  | .str value => dumpsString value
  | .list items => '[' :: (dumpsItems items ++ [']'])
  | .dict fields => '\x7b' :: (dumpsFields fields ++ ['\x7d'])

def dumpsItems : List (Json F) → List Char
  | [] => []
  | [item] => dumpsChars item
  | item :: items => dumpsChars item ++ separators.item ++ dumpsItems items

def dumpsFields : List (String × Json F) → List Char
  | [] => []
  | [(key, value)] => dumpsString key ++ separators.key ++ dumpsChars value
  | (key, value) :: fields =>
    dumpsString key ++ separators.key ++ dumpsChars value ++ separators.item ++ dumpsFields fields

end

theorem dumpsChars_list (items : List (Json F)) :
    dumpsChars floatRepr separators (.list items) = '[' :: (dumpsItems floatRepr separators items ++ [']']) := rfl

theorem dumpsChars_dict (fields : List (String × Json F)) :
    dumpsChars floatRepr separators (.dict fields) =
      '\x7b' :: (dumpsFields floatRepr separators fields ++ ['\x7d']) := rfl

/-- `json.dumps`; `floatRepr` is `float.__repr__`. -/
def jsonDumps (value : Json F) : String :=
  String.ofList (dumpsChars floatRepr .default value)

mutual

/-- The value with the keys of every dictionary in ascending order. -/
def sortKeys : Json F → Json F
  | .list items => .list (sortItems items)
  | .dict fields => .dict ((sortFields fields).mergeSort fun a b => decide (a.1 ≤ b.1))
  | value => value

def sortItems : List (Json F) → List (Json F)
  | [] => []
  | item :: items => sortKeys item :: sortItems items

def sortFields : List (String × Json F) → List (String × Json F)
  | [] => []
  | (key, value) :: fields => (key, sortKeys value) :: sortFields fields

end

/-- `json.dumps(value, sort_keys=True, separators=(",", ":"))` -/
def jsonDumpsSorted (value : Json F) : String :=
  String.ofList (dumpsChars floatRepr .compact (sortKeys value))

end Dumps

section Loads

def isJsonWhitespace (c : Char) : Bool := c = ' ' || c = '\t' || c = '\n' || c = '\r'

def skipWhitespace (text : List Char) : List Char := text.dropWhile isJsonWhitespace

def hexValue (c : Char) : Option Nat :=
  if '0' ≤ c ∧ c ≤ '9' then some (c.toNat - '0'.toNat)
  else if 'a' ≤ c ∧ c ≤ 'f' then some (c.toNat - 'a'.toNat + 10)
  else if 'A' ≤ c ∧ c ≤ 'F' then some (c.toNat - 'A'.toNat + 10)
  else none

def hexValue4 (a b c d : Char) : Option Nat := do
  let a ← hexValue a
  let b ← hexValue b
  let c ← hexValue c
  let d ← hexValue d
  pure (a * 4096 + b * 256 + c * 16 + d)

def simpleEscape (c : Char) : Option Char :=
  if c = '\x22' ∨ c = '\x5c' ∨ c = '/' then some c
  else if c = 'b' then some '\x08'
  else if c = 'f' then some '\x0c'
  else if c = 'n' then some '\n'
  else if c = 'r' then some '\r'
  else if c = 't' then some '\t'
  else none

def scalarOf (n : Nat) : Option Char :=
  if h : n.isValidChar then some (Char.ofNatAux n h) else none

/-- The code units of a string up to its closing quote, and what follows that. -/
def scanUnits : List Char → Option (List Nat × List Char)
  | [] => none
  | '\x22' :: rest => some ([], rest)
  | '\x5c' :: 'u' :: a :: b :: c :: d :: rest => do
    let unit ← hexValue4 a b c d
    let (units, after) ← scanUnits rest
    pure (unit :: units, after)
  | '\x5c' :: c :: rest => do
    let escaped ← simpleEscape c
    let (units, after) ← scanUnits rest
    pure (escaped.toNat :: units, after)
  | c :: rest =>
    if c.toNat < 0x20 then none
    else do
      let (units, after) ← scanUnits rest
      pure (c.toNat :: units, after)

/-- A surrogate pair, which only escapes can spell, is one character. A lone surrogate, which Python
would keep, has no place in a `String`. -/
def joinUnits : List Nat → Option (List Char)
  | [] => some []
  | [unit] => do
    let c ← scalarOf unit
    pure [c]
  | high :: low :: units =>
    if 0xd800 ≤ high ∧ high ≤ 0xdbff ∧ 0xdc00 ≤ low ∧ low ≤ 0xdfff then do
      let c ← scalarOf (0x10000 + (high - 0xd800) * 0x400 + (low - 0xdc00))
      let cs ← joinUnits units
      pure (c :: cs)
    else do
      let c ← scalarOf high
      let cs ← joinUnits (low :: units)
      pure (c :: cs)

def scanString (text : List Char) : Option (String × List Char) := do
  let (units, after) ← scanUnits text
  let cs ← joinUnits units
  pure (String.ofList cs, after)

def isDigit (c : Char) : Bool := '0' ≤ c && c ≤ '9'

def scanFraction : List Char → List Char × List Char
  | '.' :: rest =>
    if rest.takeWhile isDigit = [] then ([], '.' :: rest)
    else ('.' :: rest.takeWhile isDigit, rest.dropWhile isDigit)
  | rest => ([], rest)

def scanExponent (text : List Char) : List Char × List Char :=
  match text with
  | e :: rest =>
    if e = 'e' ∨ e = 'E' then
      let sign := match rest with
        | '+' :: _ => ['+']
        | '-' :: _ => ['-']
        | _ => []
      let rest := rest.drop sign.length
      if rest.takeWhile isDigit = [] then ([], text)
      else (e :: (sign ++ rest.takeWhile isDigit), rest.dropWhile isDigit)
    else ([], text)
  | [] => ([], [])

variable (parseFloat : List Char → F)

/-- `NUMBER_RE`: an integer part without leading zeros, a fraction, an exponent. Without the last two
the number is an `int`. -/
def scanNumber (text : List Char) : Option (Json F × List Char) := do
  let sign := match text with
    | '-' :: _ => ['-']
    | _ => []
  let body := text.drop sign.length
  let digits ← match body with
    | '0' :: _ => some ['0']
    | c :: _ => if isDigit c then some (body.takeWhile isDigit) else none
    | [] => none
  let (fraction, rest) := scanFraction (body.drop digits.length)
  let (exponent, rest) := scanExponent rest
  if fraction = [] ∧ exponent = [] then
    let magnitude : Int := Nat.ofDigitChars 10 digits 0
    pure (.int (if sign = [] then magnitude else -magnitude), rest)
  else pure (.float (parseFloat (sign ++ digits ++ fraction ++ exponent)), rest)

def scanWord (word : String) (value : Json F) (text : List Char) : Option (Json F × List Char) :=
  if word.toList <+: text then some (value, text.drop word.length) else none

/-- `dict(pairs)`: a key that comes again keeps its place and takes the later value. -/
def dictInsert (fields : List (String × Json F)) (key : String) (value : Json F) :
    List (String × Json F) :=
  if fields.any (·.1 = key) then
    fields.map fun field => if field.1 = key then (key, value) else field
  else fields ++ [(key, value)]

theorem lookup_map_replace (fields : List (String × Json F)) (key : String) (value : Json F) (other : String) :
    (fields.map fun field => if field.1 = key then (key, value) else field).lookup other =
      if other = key then (fields.lookup other).map fun _ => value else fields.lookup other := by
  induction fields with
  | nil => simp
  | cons field fields ih =>
    obtain ⟨name, child⟩ := field
    rw [List.map_cons]
    by_cases hname : name = key
    · subst hname
      by_cases hother : other = name
      · subst hother
        simp
      · have hne : (other == name) = false := by simpa using hother
        simp only [if_true, List.lookup_cons, hne, ih, if_neg hother]
    · simp only [if_neg hname, List.lookup_cons, ih]
      by_cases hsame : other = name
      · subst hsame
        simp [hname]
      · have hne : (other == name) = false := by simpa using hsame
        simp only [hne]

/-- A value that `dict.get` did not put in for a missing one. -/
theorem getD_null_eq_iff {entry : Option (Json F)} (value : Json F) (hne : value ≠ .null) :
    entry.getD .null = value ↔ entry = some value := by
  cases entry with
  | none => simp [hne.symm]
  | some found => simp

theorem lookup_dictInsert (fields : List (String × Json F)) (key : String) (value : Json F) (other : String) :
    (dictInsert fields key value).lookup other = if other = key then some value else fields.lookup other := by
  unfold dictInsert
  split
  next hany =>
    rw [lookup_map_replace]
    split
    next hother =>
      subst hother
      obtain ⟨field, hfield, hname⟩ := List.any_eq_true.mp hany
      have hsome : (fields.lookup other).isSome :=
        List.lookup_isSome_iff.mpr ⟨field, hfield, beq_iff_eq.mpr (beq_iff_eq.mp hname).symm⟩
      obtain ⟨found, hfound⟩ := Option.isSome_iff_exists.mp hsome
      rw [hfound, Option.map_some]
    next => rfl
  next hany =>
    rw [List.lookup_append]
    by_cases hother : other = key
    · subst hother
      have hnone : fields.lookup other = none := by
        rw [List.lookup_eq_none_iff]
        intro field hfield
        rw [List.any_eq_true] at hany
        rw [bne_iff_ne]
        intro heq
        exact hany ⟨field, hfield, by simp [heq]⟩
      simp [hnone]
    · have hlast : List.lookup other [(key, value)] = none := by simp [hother]
      rw [if_neg hother, hlast, Option.or_none]

mutual

/-- The scanner gives up when its fuel is spent; each call reads at least one character, so the
length of the text is enough. -/
def scanOnce : Nat → List Char → Option (Json F × List Char)
  | 0, _ => none
  | fuel + 1, text =>
    match text with
    | '\x22' :: rest => do
      let (value, after) ← scanString rest
      pure (.str value, after)
    | '\x7b' :: rest =>
      match skipWhitespace rest with
      | '\x7d' :: after => some (.dict [], after)
      | rest => do
        let (pairs, after) ← scanPairs fuel rest
        pure (.dict (pairs.foldl (fun fields pair => dictInsert fields pair.1 pair.2) []), after)
    | '[' :: rest =>
      match skipWhitespace rest with
      | ']' :: after => some (.list [], after)
      | rest => do
        let (items, after) ← scanItems fuel rest
        pure (.list items, after)
    | _ =>
      scanWord "null" .null text <|> scanWord "true" (.bool true) text <|>
        scanWord "false" (.bool false) text <|> scanNumber parseFloat text <|>
        scanWord "NaN" (.float (parseFloat "NaN".toList)) text <|>
        scanWord "Infinity" (.float (parseFloat "Infinity".toList)) text <|>
        scanWord "-Infinity" (.float (parseFloat "-Infinity".toList)) text

def scanPairs : Nat → List Char → Option (List (String × Json F) × List Char)
  | 0, _ => none
  | fuel + 1, text =>
    match text with
    | '\x22' :: rest => do
      let (key, rest) ← scanString rest
      match skipWhitespace rest with
      | ':' :: rest => do
        let (value, rest) ← scanOnce fuel (skipWhitespace rest)
        match skipWhitespace rest with
        | '\x7d' :: after => some ([(key, value)], after)
        | ',' :: rest => do
          let (pairs, after) ← scanPairs fuel (skipWhitespace rest)
          pure ((key, value) :: pairs, after)
        | _ => none
      | _ => none
    | _ => none

def scanItems : Nat → List Char → Option (List (Json F) × List Char)
  | 0, _ => none
  | fuel + 1, text => do
    let (value, rest) ← scanOnce fuel text
    match skipWhitespace rest with
    | ']' :: after => some ([value], after)
    | ',' :: rest => do
      let (items, after) ← scanItems fuel (skipWhitespace rest)
      pure (value :: items, after)
    | _ => none

end

/-- `json.loads` of a `str`; `parseFloat` is `float` of a text. -/
def jsonLoads (text : String) : Except PyException (Json F) :=
  let chars := text.toList
  -- a byte order mark is refused
  if chars.head? = some '\ufeff' then .error .jsonDecodeError
  else
    match scanOnce parseFloat (chars.length + 1) (skipWhitespace chars) with
    | none => .error .jsonDecodeError
    | some (value, rest) =>
      if skipWhitespace rest = [] then .ok value else .error .jsonDecodeError

end Loads

end PermeantOS
