import PermeantOS.JsonText
import PermeantOS.RustText

namespace PermeantOS

/-- The zeros of the decimal digits of Unicode 14, which Python 3.11 has. Nine more digits follow
each. -/
def decimalZeros : List Nat :=
  [0x30, 0x660, 0x6f0, 0x7c0, 0x966, 0x9e6, 0xa66, 0xae6, 0xb66, 0xbe6, 0xc66, 0xce6, 0xd66, 0xde6,
    0xe50, 0xed0, 0xf20, 0x1040, 0x1090, 0x17e0, 0x1810, 0x1946, 0x19d0, 0x1a80, 0x1a90, 0x1b50,
    0x1bb0, 0x1c40, 0x1c50, 0xa620, 0xa8d0, 0xa900, 0xa9d0, 0xa9f0, 0xaa50, 0xabf0, 0xff10, 0x104a0,
    0x10d30, 0x11066, 0x110f0, 0x11136, 0x111d0, 0x112f0, 0x11450, 0x114d0, 0x11650, 0x116c0,
    0x11730, 0x118e0, 0x11950, 0x11c50, 0x11d50, 0x11da0, 0x16a60, 0x16ac0, 0x16b50, 0x1d7ce,
    0x1d7d8, 0x1d7e2, 0x1d7ec, 0x1d7f6, 0x1e140, 0x1e2f0, 0x1e950, 0x1fbf0]

/-- A decimal digit of any script as the ASCII digit of its value, another character as it is. -/
def decimalToAscii (c : Char) : Char :=
  match decimalZeros.find? fun first => first ≤ c.toNat && c.toNat < first + 10 with
  | some first => Char.ofNat (0x30 + (c.toNat - first))
  | none => c

def pySign : List Char → Int × List Char
  | '-' :: digits => (-1, digits)
  | '+' :: digits => (1, digits)
  | digits => (1, digits)

/-- `int(text)`: at most 4300 digits, which single underscores may separate, behind a sign and
between blanks. -/
def pyInt (text : String) : Option Int :=
  let stripped := ((text.toList.dropWhile isWhitespace).reverse.dropWhile isWhitespace).reverse
  let groups := ((pySign stripped).2.map decimalToAscii).splitOn '_'
  if (groups.all fun group => !group.isEmpty && group.all isDigit) ∧ groups.flatten.length ≤ 4300 then
    some ((pySign stripped).1 * (Nat.ofDigitChars 10 groups.flatten 0 : Nat))
  else none

theorem isWhitespace_of_isDigit {c : Char} (h : isDigit c = true) : isWhitespace c = false := by
  have hc := isDigit_toNat h
  unfold isWhitespace
  simp
  omega

theorem decimalToAscii_of_isDigit {c : Char} (h : isDigit c = true) : decimalToAscii c = c := by
  obtain ⟨hlow, hhigh⟩ := isDigit_toNat h
  have hfind : decimalZeros.find? (fun first => first ≤ c.toNat && c.toNat < first + 10) = some 0x30 := by
    refine List.find?_cons_of_pos ?_
    simp only [Bool.and_eq_true, decide_eq_true_eq]
    omega
  rw [decimalToAscii, hfind]
  show Char.ofNat (0x30 + (c.toNat - 0x30)) = c
  rw [Nat.add_sub_cancel' hlow, Char.ofNat_toNat]

theorem strip_of_forall {p : Char → Bool} {text : List Char} (h : ∀ c ∈ text, p c = false) :
    ((text.dropWhile p).reverse.dropWhile p).reverse = text := by
  have hdrop : ∀ cs : List Char, (∀ c ∈ cs, p c = false) → cs.dropWhile p = cs := by
    intro cs hcs
    cases cs with
    | nil => rfl
    | cons c cs => rw [List.dropWhile_cons_of_neg (by simp [hcs c List.mem_cons_self])]
  rw [hdrop text h, hdrop text.reverse (by simpa using h), List.reverse_reverse]

theorem pyInt_toDigits {n : Nat} (h : (Nat.toDigits 10 n).length ≤ 4300) :
    pyInt (String.ofList (Nat.toDigits 10 n)) = some (n : Int) := by
  have hdigit : ∀ c ∈ Nat.toDigits 10 n, isDigit c = true := fun c hc => isDigit_of_mem_toDigits hc
  have hstrip := strip_of_forall fun c hc => isWhitespace_of_isDigit (hdigit c hc)
  have hascii : (Nat.toDigits 10 n).map decimalToAscii = Nat.toDigits 10 n :=
    (List.map_congr_left fun c hc => decimalToAscii_of_isDigit (hdigit c hc)).trans (List.map_id _)
  have hsplit : (Nat.toDigits 10 n).splitOn '_' = [Nat.toDigits 10 n] :=
    List.splitOn_eq_singleton fun hmem => ne_of_isDigit (hdigit _ hmem) rfl rfl
  have hall : (Nat.toDigits 10 n).all isDigit = true := List.all_eq_true.mpr hdigit
  obtain ⟨c, cs, hcs⟩ := List.exists_cons_of_ne_nil (Nat.toDigits_ne_nil (n := n) (b := 10))
  have hminus : c ≠ '-' := ne_of_isDigit (hdigit c (hcs ▸ List.mem_cons_self)) rfl
  have hplus : c ≠ '+' := ne_of_isDigit (hdigit c (hcs ▸ List.mem_cons_self)) rfl
  have hsign : pySign (Nat.toDigits 10 n) = (1, Nat.toDigits 10 n) := by
    rw [hcs]
    unfold pySign
    split
    next h => exact absurd (List.cons.inj h).1 hminus
    next h => exact absurd (List.cons.inj h).1 hplus
    next => rfl
  unfold pyInt
  simp [hstrip, hsign, hascii, hsplit, hall, h, Nat.toDigits_ne_nil, Nat.ofDigitChars_ten_toDigits]

example : pyInt " -\u0661\u0662_3\u3000" = some (-123) := by decide

end PermeantOS
