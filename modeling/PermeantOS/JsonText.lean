import PermeantOS.PyJson
import Mathlib.Data.List.TakeWhile

namespace PermeantOS

variable {F : Type}

section Digits

theorem isDigit_of_mem_toDigits {n : Nat} {c : Char} (h : c ∈ Nat.toDigits 10 n) :
    isDigit c = true := by
  have hc : c.isDigit = true := Nat.isDigit_of_mem_toDigits (by omega) (by omega) h
  simpa [isDigit, Char.isDigit, Char.le_def] using hc

theorem isDigit_toNat {c : Char} (h : isDigit c = true) : 48 ≤ c.toNat ∧ c.toNat ≤ 57 := by
  simp only [isDigit, Bool.and_eq_true, decide_eq_true_eq, Char.le_def,
    UInt32.le_iff_toNat_le] at h
  exact h

theorem ne_of_isDigit {c d : Char} (h : isDigit c = true) (hd : isDigit d = false) : c ≠ d := by
  rintro rfl
  rw [h] at hd
  cases hd

/-- Only zero is spelled with a zero in front. -/
theorem toDigits_head {n : Nat} {c : Char} {cs : List Char} (h : Nat.toDigits 10 n = c :: cs)
    (hc : c = '0') : n = 0 := by
  induction n using Nat.strongRecOn generalizing cs with
  | ind n ih =>
    by_cases hn : n < 10
    · rw [Nat.toDigits_of_lt_base hn] at h
      have hdigit : ∀ k < 10, Nat.digitChar k = '0' → k = 0 := by decide
      exact hdigit n hn ((List.cons.inj h).1.trans hc)
    · rw [Nat.toDigits_of_base_le (by omega) (by omega)] at h
      obtain ⟨d, ds, hds⟩ := List.exists_cons_of_ne_nil (Nat.toDigits_ne_nil (n := n / 10) (b := 10))
      rw [hds, List.cons_append] at h
      have hfront := ih (n / 10) (by omega) (hds.trans (by rw [(List.cons.inj h).1]))
      omega

/-- What follows a number does not read on. -/
def EndsNumber (rest : List Char) : Prop :=
  ∀ c, rest.head? = some c → isDigit c = false ∧ c ≠ '.' ∧ c ≠ 'e' ∧ c ≠ 'E'

theorem endsNumber_cons {c : Char} {cs : List Char} (hdigit : isDigit c = false)
    (hc : c ≠ '.' ∧ c ≠ 'e' ∧ c ≠ 'E') : EndsNumber (c :: cs) := by
  intro d hd
  cases hd
  exact ⟨hdigit, hc⟩

theorem takeWhile_append_of_ends {digits rest : List Char} (h : ∀ c ∈ digits, isDigit c = true)
    (hrest : EndsNumber rest) : (digits ++ rest).takeWhile isDigit = digits := by
  rw [List.takeWhile_append_of_pos h]
  cases rest with
  | nil => simp
  | cons c cs =>
    rw [List.takeWhile_cons_of_neg (by simp [(hrest c rfl).1]), List.append_nil]

theorem scanFraction_of_ends {rest : List Char} (h : EndsNumber rest) :
    scanFraction rest = ([], rest) := by
  unfold scanFraction
  split
  next => exact absurd rfl (h '.' rfl).2.1
  next => rfl

theorem scanExponent_of_ends {rest : List Char} (h : EndsNumber rest) :
    scanExponent rest = ([], rest) := by
  cases rest with
  | nil => rfl
  | cons c cs =>
    have hc := (h c rfl).2
    have hexp : ¬(c = 'e' ∨ c = 'E') := by simp [hc.2.1, hc.2.2]
    unfold scanExponent
    dsimp only
    rw [if_neg hexp]

variable (parseFloat : List Char → F)

/-- The integer part that a number starts with, after its sign. -/
def integerPart (body : List Char) : Option (List Char) :=
  match body with
  | '0' :: _ => some ['0']
  | c :: _ => if isDigit c then some (body.takeWhile isDigit) else none
  | [] => none

theorem integerPart_append {digits rest : List Char} (hdigits : ∀ c ∈ digits, isDigit c = true)
    (hne : digits ≠ []) (hzero : digits.head? = some '0' → digits = ['0']) (hrest : EndsNumber rest) :
    integerPart (digits ++ rest) = some digits := by
  obtain ⟨c, cs, rfl⟩ := List.exists_cons_of_ne_nil hne
  by_cases h0 : c = '0'
  · subst h0
    rw [hzero rfl]
    rfl
  · unfold integerPart
    rw [List.cons_append]
    split
    next heq => exact absurd (List.cons.inj heq).1 h0
    next d ds _ heq =>
      rw [← (List.cons.inj heq).1, hdigits c List.mem_cons_self, if_pos rfl]
      exact congrArg some (takeWhile_append_of_ends hdigits hrest)
    next heq => cases heq

/-- What there is to read of a number after its integer part. -/
def numberRest (sign body digits : List Char) : Option (Json F × List Char) :=
  let (fraction, rest) := scanFraction (body.drop digits.length)
  let (exponent, rest) := scanExponent rest
  if fraction = [] ∧ exponent = [] then
    let magnitude : Int := Nat.ofDigitChars 10 digits 0
    some (.int (if sign = [] then magnitude else -magnitude), rest)
  else some (.float (parseFloat (sign ++ digits ++ fraction ++ exponent)), rest)

theorem numberRest_of_ends {sign body digits : List Char} (hrest : EndsNumber (body.drop digits.length)) :
    numberRest parseFloat sign body digits =
      some (.int (if sign = [] then (Nat.ofDigitChars 10 digits 0 : Int) else -(Nat.ofDigitChars 10 digits 0 : Int)),
        body.drop digits.length) := by
  rw [numberRest, scanFraction_of_ends hrest]
  dsimp only
  rw [scanExponent_of_ends hrest]
  rfl

theorem integerPart_bind {β : Type} (body : List Char) (next : List Char → Option β) :
    (integerPart body).bind next = match body with
      | '0' :: _ => next ['0']
      | c :: _ => if isDigit c then next (body.takeWhile isDigit) else none
      | [] => none := by
  unfold integerPart
  split
  next => rfl
  next c cs _ =>
    by_cases hdigit : isDigit c = true
    · rw [if_pos hdigit, if_pos hdigit]
      rfl
    · rw [if_neg hdigit, if_neg hdigit]
      rfl
  next => rfl

theorem scanNumber_minus (body : List Char) :
    scanNumber parseFloat ('-' :: body) = (integerPart body).bind (numberRest parseFloat ['-'] body) :=
  (integerPart_bind body (numberRest parseFloat ['-'] body)).symm

theorem scanNumber_unsigned {text : List Char} (hsign : text.head? ≠ some '-') :
    scanNumber parseFloat text = (integerPart text).bind (numberRest parseFloat [] text) := by
  unfold scanNumber
  split
  next => exact absurd rfl hsign
  next => exact (integerPart_bind text (numberRest parseFloat [] text)).symm

theorem scanNumber_of_integerPart {text digits : List Char} (hsign : text.head? ≠ some '-')
    (hdigits : integerPart text = some digits) (hrest : EndsNumber (text.drop digits.length)) :
    scanNumber parseFloat text =
      some (.int (Nat.ofDigitChars 10 digits 0 : Nat), text.drop digits.length) := by
  rw [scanNumber_unsigned parseFloat hsign, hdigits]
  exact numberRest_of_ends parseFloat hrest

theorem scanNumber_minus_of_integerPart {text digits : List Char}
    (hdigits : integerPart text = some digits) (hrest : EndsNumber (text.drop digits.length)) :
    scanNumber parseFloat ('-' :: text) =
      some (.int (-(Nat.ofDigitChars 10 digits 0 : Nat)), text.drop digits.length) := by
  rw [scanNumber_minus, hdigits]
  exact numberRest_of_ends parseFloat hrest

theorem integerPart_toDigits (n : Nat) {rest : List Char} (hrest : EndsNumber rest) :
    integerPart (Nat.toDigits 10 n ++ rest) = some (Nat.toDigits 10 n) := by
  apply integerPart_append (fun c hc => isDigit_of_mem_toDigits hc) Nat.toDigits_ne_nil _ hrest
  intro hzero
  obtain ⟨c, cs, hcs⟩ := List.exists_cons_of_ne_nil (Nat.toDigits_ne_nil (n := n) (b := 10))
  rw [hcs] at hzero
  rw [toDigits_head hcs (Option.some.inj hzero), Nat.toDigits_zero]

theorem toDigits_append_head (n : Nat) (rest : List Char) :
    ∃ c cs, Nat.toDigits 10 n ++ rest = c :: cs ∧ isDigit c = true := by
  obtain ⟨c, cs, hcs⟩ := List.exists_cons_of_ne_nil (Nat.toDigits_ne_nil (n := n) (b := 10))
  exact ⟨c, cs ++ rest, by rw [hcs, List.cons_append], isDigit_of_mem_toDigits (hcs ▸ List.mem_cons_self)⟩

theorem toList_toString_negSucc (n : Nat) :
    (toString (Int.negSucc n)).toList = '-' :: Nat.toDigits 10 (n + 1) := by
  show ("-" ++ Nat.repr (n + 1)).toList = _
  rw [String.toList_append, Nat.toList_repr]
  rfl

theorem scanNumber_toString (value : Int) {rest : List Char} (hrest : EndsNumber rest) :
    scanNumber parseFloat ((toString value).toList ++ rest) = some (.int value, rest) := by
  cases value with
  | ofNat n =>
    have htext : (toString (Int.ofNat n)).toList = Nat.toDigits 10 n := Nat.toList_repr
    obtain ⟨c, cs, hcs, hc⟩ := toDigits_append_head n rest
    have hsign : (Nat.toDigits 10 n ++ rest).head? ≠ some '-' := by
      rw [hcs]
      intro heq
      exact ne_of_isDigit hc rfl (Option.some.inj heq)
    rw [htext, scanNumber_of_integerPart parseFloat hsign (integerPart_toDigits n hrest)
      (by rwa [List.drop_left]), List.drop_left, Nat.ofDigitChars_ten_toDigits]
    rfl
  | negSucc n =>
    rw [toList_toString_negSucc, List.cons_append, scanNumber_minus_of_integerPart parseFloat
      (integerPart_toDigits _ hrest) (by rwa [List.drop_left]), List.drop_left,
      Nat.ofDigitChars_ten_toDigits]
    rfl

/-- No other text of a value starts like a number. -/
theorem toString_head (value : Int) :
    ∃ c cs, (toString value).toList = c :: cs ∧ (c = '-' ∨ isDigit c = true) := by
  cases value with
  | ofNat n =>
    have htext : (toString (Int.ofNat n)).toList = Nat.toDigits 10 n := Nat.toList_repr
    obtain ⟨c, cs, hcs, hc⟩ := toDigits_append_head n []
    rw [List.append_nil] at hcs
    exact ⟨c, cs, htext.trans hcs, .inr hc⟩
  | negSucc n => exact ⟨_, _, toList_toString_negSucc n, .inl rfl⟩

end Digits

section Strings

theorem hexValue_hexDigit : ∀ n < 16, hexValue (hexDigit n) = some n := by decide

theorem hexValue4_unicodeEscape {n : Nat} (h : n < 0x10000) :
    hexValue4 (hexDigit (n / 4096)) (hexDigit (n / 256 % 16)) (hexDigit (n / 16 % 16))
      (hexDigit (n % 16)) = some n := by
  unfold hexValue4
  rw [hexValue_hexDigit _ (by omega), hexValue_hexDigit _ (by omega), hexValue_hexDigit _ (by omega),
    hexValue_hexDigit _ (by omega)]
  show some _ = some n
  congr 1
  omega

/-- The code units of a character. -/
def charUnits (c : Char) : List Nat :=
  if c.toNat < 0x10000 then [c.toNat]
  else [0xd800 + (c.toNat - 0x10000) / 0x400, 0xdc00 + (c.toNat - 0x10000) % 0x400]

theorem scanUnits_unicodeEscape {n : Nat} (h : n < 0x10000) (text : List Char) :
    scanUnits (unicodeEscape n ++ text) =
      (scanUnits text).map fun found => (n :: found.1, found.2) := by
  rw [unicodeEscape]
  simp only [List.cons_append, List.nil_append]
  rw [scanUnits, hexValue4_unicodeEscape h]
  cases scanUnits text with
  | none => rfl
  | some found => rfl

theorem scanUnits_simpleEscape {c e : Char} (hu : e ≠ 'u') (he : simpleEscape e = some c)
    (hc : c.toNat < 0x10000) (text : List Char) :
    scanUnits ('\x5c' :: e :: text) =
      (scanUnits text).map fun found => (charUnits c ++ found.1, found.2) := by
  have hunits : charUnits c = [c.toNat] := if_pos hc
  rw [scanUnits, he, hunits]
  · cases scanUnits text with
    | none => rfl
    | some found => rfl
  · intro a b c' d rest heq
    exact absurd heq hu

theorem scanUnits_plain {c : Char} (hquote : c ≠ '\x22') (hslash : c ≠ '\x5c') (hlow : 0x20 ≤ c.toNat)
    (hhigh : c.toNat < 0x10000) (text : List Char) :
    scanUnits (c :: text) = (scanUnits text).map fun found => (charUnits c ++ found.1, found.2) := by
  have hunits : charUnits c = [c.toNat] := if_pos hhigh
  rw [scanUnits, if_neg (by omega), hunits]
  · cases scanUnits text with
    | none => rfl
    | some found => rfl
  · exact hquote
  · intro a b d e rest heq
    exact absurd heq hslash
  · intro d rest heq
    exact absurd heq hslash

theorem char_toNat_lt (c : Char) : c.toNat < 0x110000 := by
  have h := c.valid
  simp only [UInt32.isValidChar, Nat.isValidChar] at h
  show c.val.toNat < 0x110000
  omega

/-- A character is written with a short escape, as it is, or by its code units. -/
theorem escapeChar_cases (c : Char) :
    (∃ e, e ≠ 'u' ∧ e ≠ '\r' ∧ simpleEscape e = some c ∧ c.toNat < 0x10000 ∧ escapeChar c = ['\x5c', e]) ∨
    (c ≠ '\x22' ∧ c ≠ '\x5c' ∧ c ≠ '\r' ∧ 0x20 ≤ c.toNat ∧ c.toNat < 0x10000 ∧ escapeChar c = [c]) ∨
    (c.toNat < 0x10000 ∧ escapeChar c = unicodeEscape c.toNat) ∨
    (0x10000 ≤ c.toNat ∧ escapeChar c = unicodeEscape (0xd800 + (c.toNat - 0x10000) / 0x400) ++
      unicodeEscape (0xdc00 + (c.toNat - 0x10000) % 0x400)) := by
  unfold escapeChar
  by_cases hquote : c = '\x22'
  · rw [if_pos hquote, hquote]
    exact .inl ⟨'\x22', by decide⟩
  rw [if_neg hquote]
  by_cases hslash : c = '\x5c'
  · rw [if_pos hslash, hslash]
    exact .inl ⟨'\x5c', by decide⟩
  rw [if_neg hslash]
  by_cases hn : c = '\n'
  · rw [if_pos hn, hn]
    exact .inl ⟨'n', by decide⟩
  rw [if_neg hn]
  by_cases hr : c = '\r'
  · rw [if_pos hr, hr]
    exact .inl ⟨'r', by decide⟩
  rw [if_neg hr]
  by_cases ht : c = '\t'
  · rw [if_pos ht, ht]
    exact .inl ⟨'t', by decide⟩
  rw [if_neg ht]
  by_cases hf : c = '\x0c'
  · rw [if_pos hf, hf]
    exact .inl ⟨'f', by decide⟩
  rw [if_neg hf]
  by_cases hb : c = '\x08'
  · rw [if_pos hb, hb]
    exact .inl ⟨'b', by decide⟩
  rw [if_neg hb]
  by_cases hplain : 0x20 ≤ c.toNat ∧ c.toNat ≤ 0x7e
  · rw [if_pos hplain]
    exact .inr (.inl ⟨hquote, hslash, hr, hplain.1, by omega, rfl⟩)
  rw [if_neg hplain]
  by_cases hwide : c.toNat < 0x10000
  · rw [if_pos hwide]
    exact .inr (.inr (.inl ⟨hwide, rfl⟩))
  · rw [if_neg hwide]
    exact .inr (.inr (.inr ⟨by omega, rfl⟩))

theorem scanUnits_escapeChar (c : Char) (text : List Char) :
    scanUnits (escapeChar c ++ text) =
      (scanUnits text).map fun found => (charUnits c ++ found.1, found.2) := by
  rcases escapeChar_cases c with ⟨e, hu, _, he, hc, heq⟩ | ⟨hquote, hslash, _, hlow, hhigh, heq⟩ | ⟨hwide, heq⟩ |
    ⟨hwide, heq⟩
  · rw [heq]
    exact scanUnits_simpleEscape hu he hc text
  · rw [heq]
    exact scanUnits_plain hquote hslash hlow hhigh text
  · rw [heq, scanUnits_unicodeEscape hwide, charUnits, if_pos hwide]
    rfl
  · have hlt := char_toNat_lt c
    rw [heq, List.append_assoc, scanUnits_unicodeEscape (by omega), scanUnits_unicodeEscape (by omega), charUnits,
      if_neg (by omega), Option.map_map]
    rfl

theorem scanUnits_dumps (s rest : List Char) :
    scanUnits (s.flatMap escapeChar ++ '\x22' :: rest) = some (s.flatMap charUnits, rest) := by
  induction s with
  | nil => rfl
  | cons c s ih =>
    rw [List.flatMap_cons, List.append_assoc, scanUnits_escapeChar, ih]
    rfl

theorem scalarOf_toNat (c : Char) : scalarOf c.toNat = some c := by
  have hvalid : c.toNat.isValidChar := c.valid
  rw [scalarOf, dif_pos hvalid]
  congr 1

/-- A character is not a surrogate. -/
theorem char_not_surrogate (c : Char) : c.toNat < 0xd800 ∨ 0xdfff < c.toNat := by
  have h := c.valid
  simp only [UInt32.isValidChar, Nat.isValidChar] at h
  show c.val.toNat < 0xd800 ∨ 0xdfff < c.val.toNat
  omega

theorem joinUnits_cons {n : Nat} {c : Char} (hscalar : scalarOf n = some c)
    (hn : n < 0xd800 ∨ 0xdfff < n) {units : List Nat} {cs : List Char}
    (h : joinUnits units = some cs) : joinUnits (n :: units) = some (c :: cs) := by
  cases units with
  | nil =>
    cases h
    rw [joinUnits, hscalar]
    rfl
  | cons low units =>
    rw [joinUnits, if_neg (by omega), hscalar, h]
    rfl

theorem joinUnits_pair {n : Nat} {c : Char} (hscalar : scalarOf (0x10000 + n) = some c)
    (hn : n < 0x100000) {units : List Nat} {cs : List Char} (h : joinUnits units = some cs) :
    joinUnits ((0xd800 + n / 0x400) :: (0xdc00 + n % 0x400) :: units) = some (c :: cs) := by
  have hpair : 0x10000 + (0xd800 + n / 0x400 - 0xd800) * 0x400 + (0xdc00 + n % 0x400 - 0xdc00) =
      0x10000 + n := by omega
  rw [joinUnits, if_pos (by omega), hpair, hscalar, h]
  rfl

theorem joinUnits_charUnits (s : List Char) : joinUnits (s.flatMap charUnits) = some s := by
  induction s with
  | nil => rfl
  | cons c s ih =>
    rw [List.flatMap_cons, charUnits]
    by_cases hwide : c.toNat < 0x10000
    · rw [if_pos hwide]
      exact joinUnits_cons (scalarOf_toNat c) (char_not_surrogate c) ih
    · have hlt := char_toNat_lt c
      rw [if_neg hwide]
      apply joinUnits_pair _ (by omega) ih
      rw [Nat.add_sub_cancel' (by omega), scalarOf_toNat]

/-- A string literal is read back as the string that it was written for. -/
theorem scanString_dumpsString (s : String) (rest : List Char) :
    ∃ text, dumpsString s ++ rest = '\x22' :: text ∧ scanString text = some (s, rest) := by
  refine ⟨s.toList.flatMap escapeChar ++ '\x22' :: rest, ?_, ?_⟩
  · rw [dumpsString, List.cons_append, List.append_assoc]
    rfl
  · unfold scanString
    rw [scanUnits_dumps]
    show (joinUnits (s.toList.flatMap charUnits)).bind _ = _
    rw [joinUnits_charUnits]
    show some (String.ofList s.toList, rest) = _
    rw [String.ofList_toList]

end Strings

section Indented

variable (floatRepr : F → String)

/-- A line break, and two spaces for each level. -/
def newline (level : Nat) : List Char := '\n' :: List.replicate (2 * level) ' '

mutual

/-- The text of a value with `indent=2`; what follows a line break is indented by `level`. -/
def indentChars (level : Nat) : Json F → List Char
  | .list [] => ['[', ']']
  | .list (item :: items) =>
    '[' :: (newline (level + 1) ++ (indentItems (level + 1) (item :: items) ++ (newline level ++ [']'])))
  | .dict [] => ['\x7b', '\x7d']
  | .dict (field :: fields) =>
    '\x7b' :: (newline (level + 1) ++
      (indentFields (level + 1) (field :: fields) ++ (newline level ++ ['\x7d'])))
  | value => dumpsChars floatRepr .default value

def indentItems (level : Nat) : List (Json F) → List Char
  | [] => []
  | [item] => indentChars level item
  | item :: items => indentChars level item ++ (',' :: (newline level ++ indentItems level items))

def indentFields (level : Nat) : List (String × Json F) → List Char
  | [] => []
  | [(key, value)] => dumpsString key ++ (':' :: ' ' :: indentChars level value)
  | (key, value) :: fields =>
    dumpsString key ++
      (':' :: ' ' :: (indentChars level value ++ (',' :: (newline level ++ indentFields level fields))))

end

/-- `json.dumps(value, indent=2)` -/
def jsonDumpsIndented (value : Json F) : String := String.ofList (indentChars floatRepr 0 value)

variable (parseFloat : List Char → F)

/-- The text of a float is read back as that float, whatever follows it. -/
structure ReadsBack (x : F) : Prop where
  scans : ∀ rest, EndsNumber rest → ∀ fuel,
    scanOnce parseFloat (fuel + 1) ((floatRepr x).toList ++ rest) = some (.float x, rest)
  no_return : '\r' ∉ (floatRepr x).toList

mutual

/-- Every dictionary has each key once, and every float can be read back. -/
def Printable : Json F → Prop
  | .float x => ReadsBack floatRepr parseFloat x
  | .list items => PrintableItems items
  | .dict fields => (fields.map (·.1)).Nodup ∧ PrintableFields fields
  | _ => True

def PrintableItems : List (Json F) → Prop
  | [] => True
  | item :: items => Printable item ∧ PrintableItems items

def PrintableFields : List (String × Json F) → Prop
  | [] => True
  | (_, value) :: fields => Printable value ∧ PrintableFields fields

end

/-- White space, which the scanner skips in front of any text. -/
def Blank (gap : List Char) : Prop := ∀ text, skipWhitespace (gap ++ text) = skipWhitespace text

theorem skipWhitespace_newline (level : Nat) : Blank (newline level) := by
  intro text
  have hspaces : ∀ n : Nat, skipWhitespace (List.replicate n ' ' ++ text) = skipWhitespace text := by
    intro n
    induction n with
    | zero => rfl
    | succ n ih => exact ih
  exact hspaces (2 * level)

theorem blank_space : Blank [' '] := fun _ => rfl

theorem skipWhitespace_cons {c : Char} (h : isJsonWhitespace c = false) (text : List Char) :
    skipWhitespace (c :: text) = c :: text := by
  rw [skipWhitespace, List.dropWhile_cons_of_neg (by simp [h])]

theorem foldl_dictInsert {fields front : List (String × Json F)}
    (h : ((front ++ fields).map (·.1)).Nodup) :
    fields.foldl (fun fields pair => dictInsert fields pair.1 pair.2) front = front ++ fields := by
  induction fields generalizing front with
  | nil => simp
  | cons field fields ih =>
    have hnew : front.any (fun other => decide (other.1 = field.1)) = false := by
      rw [List.any_eq_false]
      intro other hmem heq
      rw [List.map_append, List.nodup_append] at h
      exact h.2.2 other.1 (List.mem_map_of_mem hmem) field.1 (by simp) (by simpa using heq)
    rw [List.foldl_cons, dictInsert, hnew, if_neg (by simp), ih (by simpa using h)]
    simp

variable {floatRepr parseFloat}

theorem scanWord_of_head_ne {word : String} {w c : Char} {ws : List Char} (hword : word.toList = w :: ws)
    (h : w ≠ c) (value : Json F) (cs : List Char) : scanWord word value (c :: cs) = none := by
  rw [scanWord, if_neg]
  intro hprefix
  rw [hword] at hprefix
  exact h (List.cons_prefix_cons.mp hprefix).1

theorem scanNumber_of_head {c : Char} (hminus : c ≠ '-') (hdigit : isDigit c = false) (cs : List Char) :
    scanNumber parseFloat (c :: cs) = none := by
  have hnone : integerPart (c :: cs) = none := by
    unfold integerPart
    split
    next heq =>
      rw [(List.cons.inj heq).1] at hdigit
      cases hdigit
    next d ds _ heq =>
      rw [← (List.cons.inj heq).1, hdigit]
      rfl
    next heq => cases heq
  have hsign : (c :: cs).head? ≠ some '-' := fun heq => hminus (Option.some.inj heq)
  rw [scanNumber_unsigned parseFloat hsign, hnone]
  rfl

/-- A text that starts like no string, dictionary or list is a word or a number. -/
theorem scanOnce_of_ne {c : Char} (hquote : c ≠ '\x22') (hbrace : c ≠ '\x7b') (hbracket : c ≠ '[') (fuel : Nat)
    (cs : List Char) : scanOnce parseFloat (fuel + 1) (c :: cs) =
      (scanWord "null" .null (c :: cs) <|> scanWord "true" (.bool true) (c :: cs) <|>
        scanWord "false" (.bool false) (c :: cs) <|> scanNumber parseFloat (c :: cs) <|>
        scanWord "NaN" (.float (parseFloat "NaN".toList)) (c :: cs) <|>
        scanWord "Infinity" (.float (parseFloat "Infinity".toList)) (c :: cs) <|>
        scanWord "-Infinity" (.float (parseFloat "-Infinity".toList)) (c :: cs)) := by
  rw [scanOnce]
  · intro rest heq
    exact hquote (List.cons.inj heq).1
  · intro rest heq
    exact hbrace (List.cons.inj heq).1
  · intro rest heq
    exact hbracket (List.cons.inj heq).1

theorem scanOnce_of_scanNumber {c : Char} {cs : List Char} {found : Json F × List Char}
    (hc : c = '-' ∨ isDigit c = true) (h : scanNumber parseFloat (c :: cs) = some found) (fuel : Nat) :
    scanOnce parseFloat (fuel + 1) (c :: cs) = some found := by
  have hne : ∀ d : Char, d ≠ '-' → isDigit d = false → d ≠ c := by
    intro d hminus hdigit heq
    rw [← heq, hdigit] at hc
    exact hc.elim hminus (by simp)
  rw [scanOnce_of_ne (hne '\x22' (by decide) rfl).symm (hne '\x7b' (by decide) rfl).symm
    (hne '[' (by decide) rfl).symm, scanWord_of_head_ne rfl (hne 'n' (by decide) rfl),
    scanWord_of_head_ne rfl (hne 't' (by decide) rfl), scanWord_of_head_ne rfl (hne 'f' (by decide) rfl), h]
  rfl

/-- A text that starts with a space, a closing bracket or a byte order mark is no value. -/
theorem scanOnce_of_head {c : Char} (h : isJsonWhitespace c = true ∨ c = ']' ∨ c = '\ufeff') (fuel : Nat)
    (cs : List Char) : scanOnce parseFloat fuel (c :: cs) = none := by
  have hcases : c = ' ' ∨ c = '\t' ∨ c = '\n' ∨ c = '\r' ∨ c = ']' ∨ c = '\ufeff' := by
    simpa [isJsonWhitespace, or_assoc] using h
  have hstarts : c ∉ ['\x22', '\x7b', '[', 'n', 't', 'f', 'N', 'I', '-'] := by
    rcases hcases with rfl | rfl | rfl | rfl | rfl | rfl <;> decide
  have hne : ∀ d ∈ ['\x22', '\x7b', '[', 'n', 't', 'f', 'N', 'I', '-'], d ≠ c :=
    fun d hmem heq => hstarts (heq ▸ hmem)
  have hdigit : isDigit c = false := by
    rcases hcases with rfl | rfl | rfl | rfl | rfl | rfl <;> rfl
  cases fuel with
  | zero => rfl
  | succ fuel =>
    rw [scanOnce_of_ne (hne '\x22' (by decide)).symm (hne '\x7b' (by decide)).symm (hne '[' (by decide)).symm,
      scanWord_of_head_ne rfl (hne 'n' (by decide)), scanWord_of_head_ne rfl (hne 't' (by decide)),
      scanWord_of_head_ne rfl (hne 'f' (by decide)), scanNumber_of_head (hne '-' (by decide)).symm hdigit,
      scanWord_of_head_ne rfl (hne 'N' (by decide)), scanWord_of_head_ne rfl (hne 'I' (by decide)),
      scanWord_of_head_ne rfl (hne '-' (by decide))]
    rfl

theorem skipWhitespace_of_scanOnce {fuel : Nat} {text : List Char} {found : Json F × List Char}
    (h : scanOnce parseFloat fuel text = some found) : skipWhitespace text = text := by
  cases text with
  | nil => rfl
  | cons c cs =>
    apply skipWhitespace_cons
    by_contra hspace
    rw [scanOnce_of_head (.inl (by simpa using hspace))] at h
    cases h

theorem endsNumber_newline (level : Nat) (rest : List Char) : EndsNumber (newline level ++ rest) :=
  endsNumber_cons rfl (by decide)

theorem indentItems_cons {level : Nat} {item next : Json F} {items : List (Json F)} :
    indentItems floatRepr level (item :: next :: items) = indentChars floatRepr level item ++
      (',' :: (newline level ++ indentItems floatRepr level (next :: items))) := rfl

theorem indentFields_cons {level : Nat} {key : String} {value : Json F} {next : String × Json F}
    {fields : List (String × Json F)} :
    indentFields floatRepr level ((key, value) :: next :: fields) = dumpsString key ++
      (':' :: ' ' :: (indentChars floatRepr level value ++
        (',' :: (newline level ++ indentFields floatRepr level (next :: fields))))) := rfl

theorem indentFields_head (floatRepr : F → String) (level : Nat) (field : String × Json F)
    (fields : List (String × Json F)) (rest : List Char) :
    ∃ text, indentFields floatRepr level (field :: fields) ++ rest = '\x22' :: text := by
  cases fields with
  | nil => exact ⟨_, rfl⟩
  | cons next fields => exact ⟨_, rfl⟩

theorem scanOnce_of_scanItems {fuel : Nat} {text : List Char} {found : List (Json F) × List Char}
    (h : scanItems parseFloat fuel text = some found) :
    ∃ fuel first, scanOnce parseFloat fuel text = some first := by
  cases fuel with
  | zero => cases h
  | succ fuel =>
    rw [scanItems] at h
    cases hfirst : scanOnce parseFloat fuel text with
    | none =>
      rw [hfirst] at h
      cases h
    | some first => exact ⟨fuel, first, hfirst⟩

/-- A list is read once its items are. -/
theorem scanOnce_list {fuel : Nat} {text gap rest : List Char} {items : List (Json F)}
    (hitems : scanItems parseFloat fuel text = some (items, rest)) (hgap : Blank gap) :
    scanOnce parseFloat (fuel + 1) ('[' :: (gap ++ text)) = some (.list items, rest) := by
  obtain ⟨fuel', first, hfirst⟩ := scanOnce_of_scanItems hitems
  have hskip : skipWhitespace (gap ++ text) = text := by
    rw [hgap, skipWhitespace_of_scanOnce hfirst]
  rw [scanOnce, hskip]
  split
  next =>
    rw [scanOnce_of_head (.inr (.inl rfl))] at hfirst
    cases hfirst
  next =>
    rw [hitems]
    rfl

theorem scanOnce_dict {fuel : Nat} {text gap rest : List Char} {fields : List (String × Json F)}
    (hnodup : (fields.map (·.1)).Nodup)
    (hfields : scanPairs parseFloat fuel ('\x22' :: text) = some (fields, rest)) (hgap : Blank gap) :
    scanOnce parseFloat (fuel + 1) ('\x7b' :: (gap ++ '\x22' :: text)) =
      some (.dict fields, rest) := by
  rw [scanOnce, hgap, skipWhitespace_cons rfl]
  show (scanPairs parseFloat fuel ('\x22' :: text)).bind _ = _
  rw [hfields]
  show some (Json.dict (fields.foldl _ []), rest) = _
  rw [foldl_dictInsert (by simpa using hnodup)]
  rfl

theorem scanItems_last {fuel : Nat} {text gap rest : List Char} {item : Json F}
    (hgap : Blank gap) (h : scanOnce parseFloat fuel text = some (item, gap ++ ']' :: rest)) :
    scanItems parseFloat (fuel + 1) text = some ([item], rest) := by
  have hskip : skipWhitespace (gap ++ ']' :: rest) = ']' :: rest := by
    rw [hgap, skipWhitespace_cons rfl]
  rw [scanItems, h]
  simp only [Option.bind_eq_bind, Option.bind_some, hskip]

theorem scanItems_more {fuel : Nat} {text gap more rest : List Char} {item : Json F} {items : List (Json F)}
    (h : scanOnce parseFloat fuel text = some (item, ',' :: (gap ++ more)))
    (hmore : scanItems parseFloat fuel more = some (items, rest)) (hgap : Blank gap) :
    scanItems parseFloat (fuel + 1) text = some (item :: items, rest) := by
  obtain ⟨fuel', first, hfirst⟩ := scanOnce_of_scanItems hmore
  have hskip : skipWhitespace (gap ++ more) = more := by
    rw [hgap, skipWhitespace_of_scanOnce hfirst]
  rw [scanItems, h]
  show (scanItems parseFloat fuel (skipWhitespace (gap ++ more))).bind _ = _
  rw [hskip, hmore]
  rfl

/-- What `scanPairs` does after a key. -/
theorem scanPairs_key (key : String) {fuel : Nat} {value : Json F} {text gap rest : List Char}
    (h : scanOnce parseFloat fuel text = some (value, rest)) (hgap : Blank gap) :
    scanPairs parseFloat (fuel + 1) (dumpsString key ++ (':' :: (gap ++ text))) =
      match skipWhitespace rest with
      | '\x7d' :: after => some ([(key, value)], after)
      | ',' :: rest => (scanPairs parseFloat fuel (skipWhitespace rest)).bind fun found =>
        some ((key, value) :: found.1, found.2)
      | _ => none := by
  obtain ⟨cs, hcs, hscan⟩ := scanString_dumpsString key (':' :: (gap ++ text))
  have hskip : skipWhitespace (gap ++ text) = text := by
    rw [hgap, skipWhitespace_of_scanOnce h]
  rw [hcs, scanPairs, hscan]
  show (scanOnce parseFloat fuel (skipWhitespace (gap ++ text))).bind _ = _
  rw [hskip, h]
  rfl

mutual

/-- A text with line breaks is read back as the value that it was written for. -/
theorem scanOnce_indentChars (level : Nat) :
    (value : Json F) → Printable floatRepr parseFloat value → (rest : List Char) → EndsNumber rest →
      (fuel : Nat) → (indentChars floatRepr level value).length < fuel →
        scanOnce parseFloat fuel (indentChars floatRepr level value ++ rest) = some (value, rest)
  | .null, _, _, _, _ + 1, _ => rfl
  | .bool true, _, _, _, _ + 1, _ => rfl
  | .bool false, _, _, _, _ + 1, _ => rfl
  | .int n, _, rest, hrest, fuel + 1, _ => by
    obtain ⟨c, cs, hcs, hc⟩ := toString_head n
    have hnumber := scanNumber_toString parseFloat n hrest
    show scanOnce parseFloat (fuel + 1) ((toString n).toList ++ rest) = _
    rw [hcs, List.cons_append] at hnumber ⊢
    exact scanOnce_of_scanNumber hc hnumber fuel
  | .float x, h, rest, hrest, fuel + 1, _ => h.scans rest hrest fuel
  | .str text, _, rest, _, fuel + 1, _ => by
    obtain ⟨cs, hcs, hscan⟩ := scanString_dumpsString text rest
    show scanOnce parseFloat (fuel + 1) (dumpsString text ++ rest) = _
    rw [hcs, scanOnce, hscan]
    rfl
  | .list [], _, _, _, _ + 1, _ => rfl
  | .list (item :: items), h, rest, hrest, fuel + 1, hfuel => by
    simp only [indentChars, List.length_cons, List.length_append] at hfuel
    have hitems := scanItems_indentItems (level + 1) item items h level rest fuel (by omega)
    have hlist := scanOnce_list hitems (skipWhitespace_newline (level + 1))
    simpa only [indentChars, List.cons_append, List.append_assoc, List.nil_append] using hlist
  | .dict [], _, _, _, _ + 1, _ => rfl
  | .dict (field :: fields), h, rest, hrest, fuel + 1, hfuel => by
    simp only [indentChars, List.length_cons, List.length_append] at hfuel
    have hfields := scanPairs_indentFields (level + 1) field fields h.2 level rest fuel (by omega)
    obtain ⟨text, htext⟩ := indentFields_head floatRepr (level + 1) field fields
      (newline level ++ '\x7d' :: rest)
    rw [htext] at hfields
    have hdict := scanOnce_dict h.1 hfields (skipWhitespace_newline (level + 1))
    rw [← htext] at hdict
    simpa only [indentChars, List.cons_append, List.append_assoc, List.nil_append] using hdict
termination_by structural _ _ _ _ fuel => fuel

theorem scanItems_indentItems (level : Nat) :
    (item : Json F) → (items : List (Json F)) → PrintableItems floatRepr parseFloat (item :: items) →
      (outer : Nat) → (rest : List Char) →
      (fuel : Nat) → (indentItems floatRepr level (item :: items)).length + 1 < fuel →
        scanItems parseFloat fuel (indentItems floatRepr level (item :: items) ++
          (newline outer ++ ']' :: rest)) = some (item :: items, rest)
  | item, [], h, outer, rest, fuel + 1, hfuel => by
    have hlength : (indentChars floatRepr level item).length + 1 < fuel + 1 := hfuel
    exact scanItems_last (skipWhitespace_newline outer)
      (scanOnce_indentChars level item h.1 _ (endsNumber_newline _ _) fuel (by omega))
  | item, next :: items, h, outer, rest, fuel + 1, hfuel => by
    rw [indentItems_cons] at hfuel ⊢
    simp only [List.length_cons, List.length_append] at hfuel
    have hmore := scanItems_indentItems level next items h.2 outer rest fuel (by omega)
    have hfirst := scanOnce_indentChars level item h.1
      (',' :: (newline level ++ (indentItems floatRepr level (next :: items) ++
        (newline outer ++ ']' :: rest)))) (endsNumber_cons rfl (by decide)) fuel (by omega)
    have hall := scanItems_more hfirst hmore (skipWhitespace_newline level)
    simpa only [List.cons_append, List.append_assoc] using hall
termination_by structural _ _ _ _ _ fuel => fuel

theorem scanPairs_indentFields (level : Nat) :
    (field : String × Json F) → (fields : List (String × Json F)) →
      PrintableFields floatRepr parseFloat (field :: fields) → (outer : Nat) → (rest : List Char) →
      (fuel : Nat) → (indentFields floatRepr level (field :: fields)).length + 1 < fuel →
        scanPairs parseFloat fuel (indentFields floatRepr level (field :: fields) ++
          (newline outer ++ '\x7d' :: rest)) = some (field :: fields, rest)
  | (key, value), [], h, outer, rest, fuel + 1, hfuel => by
    simp only [indentFields, List.length_cons, List.length_append] at hfuel
    have hvalue := scanOnce_indentChars level value h.1 (newline outer ++ '\x7d' :: rest)
      (endsNumber_newline _ _) fuel (by omega)
    have hpair := scanPairs_key key hvalue blank_space
    rw [skipWhitespace_newline, skipWhitespace_cons rfl] at hpair
    simpa only [indentFields, List.cons_append, List.append_assoc, List.nil_append] using hpair
  | (key, value), next :: fields, h, outer, rest, fuel + 1, hfuel => by
    rw [indentFields_cons] at hfuel ⊢
    simp only [List.length_cons, List.length_append] at hfuel
    have hmore := scanPairs_indentFields level next fields h.2 outer rest fuel (by omega)
    have hvalue := scanOnce_indentChars level value h.1
      (',' :: (newline level ++ (indentFields floatRepr level (next :: fields) ++
        (newline outer ++ '\x7d' :: rest)))) (endsNumber_cons rfl (by decide)) fuel (by omega)
    obtain ⟨text, htext⟩ := indentFields_head floatRepr level next fields
      (newline outer ++ '\x7d' :: rest)
    have hpair := scanPairs_key key hvalue blank_space
    have hrest : skipWhitespace (newline level ++ (indentFields floatRepr level (next :: fields) ++
        (newline outer ++ '\x7d' :: rest))) = indentFields floatRepr level (next :: fields) ++
        (newline outer ++ '\x7d' :: rest) := by
      rw [skipWhitespace_newline, htext, skipWhitespace_cons rfl]
    simp only [skipWhitespace_cons (c := ',') rfl, hrest, hmore, Option.bind_some] at hpair
    simpa only [List.cons_append, List.append_assoc, List.nil_append] using hpair
termination_by structural _ _ _ _ _ fuel => fuel

end

theorem endsNumber_of_whitespace {rest : List Char} (h : ∀ c ∈ rest, isJsonWhitespace c = true) :
    EndsNumber rest := by
  intro c hc
  have hspace : c = ' ' ∨ c = '\t' ∨ c = '\n' ∨ c = '\r' := by
    simpa [isJsonWhitespace, or_assoc] using h c (List.mem_of_mem_head? hc)
  rcases hspace with rfl | rfl | rfl | rfl <;> decide

/-- `json.loads` of the text of a value, with any white space behind it. -/
theorem jsonLoads_indented {value : Json F} (h : Printable floatRepr parseFloat value) (rest : List Char)
    (hrest : ∀ c ∈ rest, isJsonWhitespace c = true) :
    jsonLoads parseFloat (String.ofList (indentChars floatRepr 0 value ++ rest)) = .ok value := by
  have hends := endsNumber_of_whitespace hrest
  have hscan := scanOnce_indentChars 0 value h rest hends
    ((indentChars floatRepr 0 value ++ rest).length + 1) (by rw [List.length_append]; omega)
  have hskip := skipWhitespace_of_scanOnce hscan
  have hbom : (indentChars floatRepr 0 value ++ rest).head? ≠ some '\ufeff' := by
    intro hhead
    obtain ⟨cs, hcs⟩ := List.head?_eq_some_iff.mp hhead
    rw [hcs, scanOnce_of_head (.inr (.inr rfl))] at hscan
    cases hscan
  have hend : skipWhitespace rest = [] := by
    rw [skipWhitespace, List.dropWhile_eq_nil_iff]
    exact hrest
  unfold jsonLoads
  rw [String.toList_ofList]
  dsimp only
  rw [if_neg hbom, hskip, hscan]
  dsimp only
  rw [if_pos hend]

theorem return_not_mem_unicodeEscape {n : Nat} (hn : n < 0x10000) : '\r' ∉ unicodeEscape n := by
  have hhex : ∀ k < 16, hexDigit k ≠ '\r' := by decide
  intro hmem
  simp only [unicodeEscape, List.mem_cons, List.not_mem_nil, or_false] at hmem
  rcases hmem with hmem | hmem | hmem | hmem | hmem | hmem
  · exact absurd hmem (by decide)
  · exact absurd hmem (by decide)
  · exact hhex (n / 4096) (by omega) hmem.symm
  · exact hhex (n / 256 % 16) (by omega) hmem.symm
  · exact hhex (n / 16 % 16) (by omega) hmem.symm
  · exact hhex (n % 16) (by omega) hmem.symm

theorem return_not_mem_escapeChar (c : Char) : '\r' ∉ escapeChar c := by
  intro hmem
  rcases escapeChar_cases c with ⟨e, _, hr, _, _, heq⟩ | ⟨_, _, hr, _, _, heq⟩ | ⟨hwide, heq⟩ | ⟨hwide, heq⟩
  · rw [heq, List.mem_cons, List.mem_singleton] at hmem
    rcases hmem with hmem | hmem
    · exact absurd hmem (by decide)
    · exact hr hmem.symm
  · rw [heq, List.mem_singleton] at hmem
    exact hr hmem.symm
  · rw [heq] at hmem
    exact return_not_mem_unicodeEscape hwide hmem
  · have hlt := char_toNat_lt c
    rw [heq, List.mem_append] at hmem
    rcases hmem with hmem | hmem
    · exact return_not_mem_unicodeEscape (by omega) hmem
    · exact return_not_mem_unicodeEscape (by omega) hmem

theorem return_not_mem_dumpsString (s : String) : '\r' ∉ dumpsString s := by
  intro hmem
  rw [dumpsString, List.mem_cons, List.mem_append, List.mem_flatMap] at hmem
  rcases hmem with hmem | ⟨c, _, hmem⟩ | hmem
  · exact absurd hmem (by decide)
  · exact return_not_mem_escapeChar c hmem
  · exact absurd (List.mem_singleton.mp hmem) (by decide)

theorem return_not_mem_newline (level : Nat) : '\r' ∉ newline level := by
  intro hmem
  rcases List.mem_cons.mp hmem with hmem | hmem
  · exact absurd hmem (by decide)
  · exact absurd (List.eq_of_mem_replicate hmem) (by decide)

theorem return_not_mem_toString (value : Int) : '\r' ∉ (toString value).toList := by
  have hdigits : ∀ n : Nat, '\r' ∉ Nat.toDigits 10 n := by
    intro n hmem
    exact ne_of_isDigit (isDigit_of_mem_toDigits hmem) (d := '\r') rfl rfl
  cases value with
  | ofNat n =>
    have htext : (toString (Int.ofNat n)).toList = Nat.toDigits 10 n := Nat.toList_repr
    rw [htext]
    exact hdigits n
  | negSucc n =>
    rw [toList_toString_negSucc, List.mem_cons, not_or]
    exact ⟨by decide, hdigits _⟩

mutual

theorem return_not_mem_indentChars (level : Nat) :
    (value : Json F) → Printable floatRepr parseFloat value → '\r' ∉ indentChars floatRepr level value
  | .null, _ => show '\r' ∉ "null".toList by decide
  | .bool true, _ => show '\r' ∉ "true".toList by decide
  | .bool false, _ => show '\r' ∉ "false".toList by decide
  | .int n, _ => return_not_mem_toString n
  | .float _, h => h.no_return
  | .str text, _ => return_not_mem_dumpsString text
  | .list [], _ => by simp [indentChars]
  | .list (item :: items), h => by
    have hitems := return_not_mem_indentItems (level + 1) (item :: items) h
    simp [indentChars, return_not_mem_newline, hitems]
  | .dict [], _ => by simp [indentChars]
  | .dict (field :: fields), h => by
    have hfields := return_not_mem_indentFields (level + 1) (field :: fields) h.2
    simp [indentChars, return_not_mem_newline, hfields]

theorem return_not_mem_indentItems (level : Nat) :
    (items : List (Json F)) → PrintableItems floatRepr parseFloat items →
      '\r' ∉ indentItems floatRepr level items
  | [], _ => by simp [indentItems]
  | [item], h => return_not_mem_indentChars level item h.1
  | item :: next :: items, h => by
    have hitem := return_not_mem_indentChars level item h.1
    have hitems := return_not_mem_indentItems level (next :: items) h.2
    simp [indentItems, return_not_mem_newline, hitem, hitems]

theorem return_not_mem_indentFields (level : Nat) :
    (fields : List (String × Json F)) → PrintableFields floatRepr parseFloat fields →
      '\r' ∉ indentFields floatRepr level fields
  | [], _ => by simp [indentFields]
  | [(key, value)], h => by
    have hvalue := return_not_mem_indentChars level value h.1
    simp [indentFields, return_not_mem_dumpsString, hvalue]
  | (key, value) :: next :: fields, h => by
    have hvalue := return_not_mem_indentChars level value h.1
    have hfields := return_not_mem_indentFields level (next :: fields) h.2
    simp [indentFields, return_not_mem_newline, return_not_mem_dumpsString, hvalue, hfields]

end

end Indented

section Decimals

variable {F : Type} (parseFloat : List Char → F)

/-- A digit, a point, and digits. -/
def isDecimalText : List Char → Bool
  | c :: '.' :: digits => isDigit c && (!digits.isEmpty && digits.all isDigit)
  | _ => false

theorem scanFraction_digits {digits rest : List Char} (hne : digits ≠ []) (hdigits : ∀ c ∈ digits, isDigit c = true)
    (hrest : EndsNumber rest) : scanFraction ('.' :: (digits ++ rest)) = ('.' :: digits, rest) := by
  have htake := takeWhile_append_of_ends hdigits hrest
  have hdrop : (digits ++ rest).dropWhile isDigit = rest := by
    have hall := List.takeWhile_append_dropWhile (p := isDigit) (l := digits ++ rest)
    rw [htake] at hall
    exact List.append_cancel_left hall
  rw [scanFraction, htake, hdrop, if_neg hne]

theorem scanNumber_decimal {c : Char} {digits rest : List Char} (hc : isDigit c = true) (hne : digits ≠ [])
    (hdigits : ∀ d ∈ digits, isDigit d = true) (hrest : EndsNumber rest) :
    scanNumber parseFloat (c :: '.' :: (digits ++ rest)) = some (.float (parseFloat (c :: '.' :: digits)), rest) := by
  have hfraction := scanFraction_digits hne hdigits hrest
  have hexponent := scanExponent_of_ends hrest
  have hsign : (c :: '.' :: (digits ++ rest)).head? ≠ some '-' :=
    fun heq => ne_of_isDigit hc rfl (Option.some.inj heq)
  have hint : integerPart (c :: '.' :: (digits ++ rest)) = some [c] := by
    unfold integerPart
    split
    next heq => rw [(List.cons.inj heq).1]
    next d ds _ heq =>
      rw [← (List.cons.inj heq).1, if_pos hc, List.takeWhile_cons_of_pos hc, List.takeWhile_cons_of_neg (by decide)]
    next heq => cases heq
  have hdrop : (c :: '.' :: (digits ++ rest)).drop [c].length = '.' :: (digits ++ rest) := rfl
  rw [scanNumber_unsigned parseFloat hsign, hint, Option.bind_some, numberRest, hdrop, hfraction]
  dsimp only
  rw [hexponent]
  simp

theorem readsBack_of_decimal {floatRepr : F → String} {x : F} (htext : isDecimalText (floatRepr x).toList = true)
    (hparse : parseFloat (floatRepr x).toList = x) : ReadsBack floatRepr parseFloat x := by
  unfold isDecimalText at htext
  split at htext
  next c digits heq =>
    rw [Bool.and_eq_true, Bool.and_eq_true, List.all_eq_true] at htext
    obtain ⟨hc, hne, hdigits⟩ := htext
    have hne : digits ≠ [] := by simpa using hne
    rw [heq] at hparse
    refine ⟨?_, ?_⟩
    · intro rest hrest fuel
      rw [heq, List.cons_append, List.cons_append]
      apply scanOnce_of_scanNumber (Or.inr hc)
      rw [scanNumber_decimal parseFloat hc hne hdigits hrest, hparse]
    · rw [heq, List.mem_cons, List.mem_cons, not_or, not_or]
      exact ⟨(ne_of_isDigit hc rfl).symm, by decide, fun hmem => absurd (hdigits _ hmem) (by decide)⟩
  next => cases htext

end Decimals

end PermeantOS
