import Mathlib.Data.Finset.Sort
import Mathlib.Data.String.Basic

namespace PermeantOS

section Order

instance stringLe_trans : IsTrans String (· ≤ ·) := inferInstance

instance stringLe_antisymm : Std.Antisymm fun a b : String => a ≤ b := inferInstance

instance stringLe_total : Std.Total fun a b : String => a ≤ b := inferInstance

end Order

def isWhitespace (c : Char) : Bool :=
  let n := c.toNat
  (9 ≤ n && n ≤ 13) || n == 0x20 || n == 0x85 || n == 0xA0 || n == 0x1680 ||
    (0x2000 ≤ n && n ≤ 0x200A) || n == 0x2028 || n == 0x2029 || n == 0x202F || n == 0x205F ||
    n == 0x3000

/-- `s.trim().is_empty()` -/
def trimIsEmpty (s : String) : Bool := s.toList.all isWhitespace

def trimText (s : String) : String :=
  String.ofList ((s.toList.dropWhile isWhitespace).reverse.dropWhile isWhitespace).reverse

def isAsciiHexdigit (c : Char) : Bool :=
  let n := c.toNat
  (48 ≤ n && n ≤ 57) || (65 ≤ n && n ≤ 70) || (97 ≤ n && n ≤ 102)

/-- The length of a string slice is that of its UTF-8 encoding. -/
def utf8Len : List Char → Nat
  | [] => 0
  | c :: cs => c.utf8Size + utf8Len cs

theorem utf8Len_replicate (n : Nat) (c : Char) : utf8Len (List.replicate n c) = n * c.utf8Size := by
  induction n with
  | zero => simp [utf8Len]
  | succ n ih => rw [List.replicate_succ, utf8Len, ih, Nat.succ_mul, Nat.add_comm]

/-- One character of the `{:?}` rendering, exact on ASCII. -/
def debugChar (c : Char) : List Char :=
  if c = '"' then ['\\', '"']
  else if c = '\\' then ['\\', '\\']
  else if c = '\t' then ['\\', 't']
  else if c = '\r' then ['\\', 'r']
  else if c = '\n' then ['\\', 'n']
  else if c.toNat = 0 then ['\\', '0']
  else if c.toNat < 32 ∨ c.toNat = 127 then
    ['\\', 'u', '\x7b'] ++ Nat.toDigits 16 c.toNat ++ ['\x7d']
  else [c]

/-- The `{:?}` rendering of a string. -/
def debugText (s : String) : String :=
  "\"" ++ String.ofList (s.toList.flatMap debugChar) ++ "\""

/-- The `{:?}` rendering of a vector whose items are rendered already. -/
def debugList (items : List String) : String := "[" ++ String.intercalate ", " items ++ "]"

def debugStrings (items : List String) : String := debugList (items.map debugText)

example : debugStrings ["a", "b\"c"] = "[\"a\", \"b\\\"c\"]" := by decide

def debugOption : Option String → String
  | none => "None"
  | some s => "Some(" ++ debugText s ++ ")"

end PermeantOS
