import PermeantOS.RuntimeAdapters
import PermeantOS.PyFiles
import Mathlib.Data.List.DropRight

namespace PermeantOS

/-- What the agent takes from Python beyond what the adapters take: `==` and `<` on floats, the text of a
value in an f-string, and the arithmetic of the embeddings. -/
structure AgentHost (P : Type) extends AdapterHost P where
  parseFloat : List Char → P
  floatEq : P → P → Bool
  floatLt : P → P → Bool
  intEqFloat : Int → P → Bool
  /-- `str(value)` of anything but a string -/
  repr : Json P → String
  /-- `n / 31.0` -/
  thirtyFirsts : Nat → P
  add : P → P → P
  mul : P → P → P
  div : P → P → P
  neg : P → P
  /-- `sum` of a list of floats -/
  sum : List P → P
  /-- `x ** 0.5` -/
  sqrt : P → P
  /-- `round(x, 8)` -/
  round8 : P → P

variable {P : Type}

section Access

/-- `value[key]` -/
def Json.item (key : String) : Json P → Except PyException (Json P)
  | .dict fields =>
    match fields.lookup key with
    | some value => .ok value
    | none => .error (.keyError key)
  | _ => .error .typeError

/-- `value.get(key, default)` -/
def Json.getOr (value : Json P) (key : String) (default : Json P) : Except PyException (Json P) :=
  match value with
  | .dict fields => .ok ((fields.lookup key).getD default)
  | _ => .error .attributeError

theorem Json.item_ok_iff {value found : Json P} {key : String} :
    value.item key = .ok found ↔ ∃ fields, value = .dict fields ∧ fields.lookup key = some found := by
  cases value with
  | dict fields =>
    rw [Json.item]
    cases hlookup : fields.lookup key with
    | none => simp [hlookup]
    | some entry => simp [hlookup]
  | null | bool _ | int _ | float _ | str _ | list _ => simp [Json.item]

theorem Json.getOr_ok_iff {value default found : Json P} {key : String} :
    value.getOr key default = .ok found ↔
      ∃ fields, value = .dict fields ∧ (fields.lookup key).getD default = found := by
  cases value with
  | dict fields => simp [Json.getOr]
  | null | bool _ | int _ | float _ | str _ | list _ => simp [Json.getOr]

theorem Json.get_ok_iff {value found : Json P} {key : String} :
    value.get key = .ok found ↔
      ∃ fields, value = .dict fields ∧ (fields.lookup key).getD .null = found := by
  cases value with
  | dict fields => simp [Json.get]
  | null | bool _ | int _ | float _ | str _ | list _ => simp [Json.get]

/-- A default does not matter where the key is there. -/
theorem Json.getOr_of_item {value found : Json P} {key : String} (h : value.item key = .ok found)
    (default : Json P) : value.getOr key default = .ok found := by
  obtain ⟨fields, rfl, hlookup⟩ := Json.item_ok_iff.mp h
  exact Json.getOr_ok_iff.mpr ⟨fields, rfl, by rw [hlookup, Option.getD_some]⟩

theorem Json.get_of_item {value found : Json P} {key : String} (h : value.item key = .ok found) :
    value.get key = .ok found := by
  obtain ⟨fields, rfl, hlookup⟩ := Json.item_ok_iff.mp h
  rw [Json.get, hlookup, Option.getD_some]

/-- `for item in value` -/
def Json.iterate : Json P → Except PyException (List (Json P))
  | .list items => .ok items
  | .dict fields => .ok (fields.map fun field => .str field.1)
  | .str text => .ok (text.toList.map fun c => .str (String.ofList [c]))
  | _ => .error .typeError

def Json.hashable : Json P → Bool
  | .list _ => false
  | .dict _ => false
  | _ => true

/-- `value in {...}`, a set of strings. -/
def Json.inStrings (names : List String) : Json P → Except PyException Bool
  | .str text => .ok (decide (text ∈ names))
  | .list _ => .error .typeError
  | .dict _ => .error .typeError
  | _ => .ok false

def Json.isTrue : Json P → Bool
  | .bool value => value
  | _ => false

end Access

section Compare

variable (host : AgentHost P)

def numbersEq : Json P → Json P → Bool
  | .float a, .float b => host.floatEq a b
  | .float a, b => (b.asInt.map fun n => host.intEqFloat n a).getD false
  | a, .float b => (a.asInt.map fun n => host.intEqFloat n b).getD false
  | a, b => a.asInt.isSome && a.asInt = b.asInt

mutual

/-- `a == b` -/
def pyEq : Json P → Json P → Bool
  | .null, .null => true
  | .str a, .str b => decide (a = b)
  | .list a, .list b => pyEqItems a b
  | .dict a, .dict b => decide (a.length = b.length) && pyEqFields a b
  | a, b => numbersEq host a b

def pyEqItems : List (Json P) → List (Json P) → Bool
  | [], [] => true
  | a :: as, b :: bs => pyEq a b && pyEqItems as bs
  | _, _ => false

def pyEqFields : List (String × Json P) → List (String × Json P) → Bool
  | [], _ => true
  | (key, value) :: fields, others =>
    (match others.lookup key with
    | some other => pyEq value other
    | none => false) && pyEqFields fields others

end

theorem pyEq_str_iff {value : Json P} {text : String} :
    pyEq host value (.str text) = true ↔ value = .str text := by
  cases value with
  | str a => simp [pyEq]
  | null => simp [pyEq, numbersEq, Json.asInt]
  | bool b => simp [pyEq, numbersEq, Json.asInt]
  | int n => simp [pyEq, numbersEq, Json.asInt]
  | float x => simp [pyEq, numbersEq, Json.asInt]
  | list items => simp [pyEq, numbersEq, Json.asInt]
  | dict fields => simp [pyEq, numbersEq, Json.asInt]

theorem pyEq_str_left_iff {value : Json P} {text : String} :
    pyEq host (.str text) value = true ↔ value = .str text := by
  cases value with
  | str a => simp [pyEq, eq_comm]
  | null => simp [pyEq, numbersEq, Json.asInt]
  | bool b => simp [pyEq, numbersEq, Json.asInt]
  | int n => simp [pyEq, numbersEq, Json.asInt]
  | float x => simp [pyEq, numbersEq, Json.asInt]
  | list items => simp [pyEq, numbersEq, Json.asInt]
  | dict fields => simp [pyEq, numbersEq, Json.asInt]

/-- `value in set(values)` -/
def inSet (value values : Json P) : Except PyException Bool := do
  let items ← values.iterate
  if items.all Json.hashable && value.hashable then pure (items.any fun item => pyEq host item value)
  else .error .typeError

/-- The text of a value in an f-string. -/
def pyStr : Json P → String
  | .str text => text
  | value => host.repr value

end Compare

section Hashes

variable (host : AgentHost P)

def sha256Bytes (data : List UInt8) : String := "sha256:" ++ host.sha256Hex data

def sha256Json (value : Json P) : String :=
  sha256Bytes host (asBytes (jsonDumpsSorted host.floatRepr value))

/-- `raise ImportVerificationError(message)` where `c` holds. -/
def refuseIf (c : Bool) (message : String) : Except PyException Unit :=
  if c = true then .error (.importVerificationError message) else .ok ()

@[simp] theorem refuseIf_ok_iff {c : Bool} {message : String} : refuseIf c message = .ok () ↔ c = false := by
  cases c <;> simp [refuseIf]

end Hashes

section Decimals

/-- The digits of `n` units of `10⁻²⁰`, `n < 10²⁰`, behind the point. -/
def fractionDigits (n : Nat) : List Char :=
  (List.range 20).map fun i => Nat.digitChar (n / 10 ^ (19 - i) % 10)

def trimZeros (digits : List Char) : List Char :=
  match digits.rdropWhile (· = '0') with
  | [] => ['0']
  | kept => kept

def decimalRepr (x : Int) : String :=
  String.ofList ((if x < 0 then ['-'] else []) ++ Nat.toDigits 10 (x.natAbs / 10 ^ 20) ++
    '.' :: trimZeros (fractionDigits (x.natAbs % 10 ^ 20)))

def parseDecimal (text : List Char) : Int :=
  let body := if text.head? = some '-' then text.tail else text
  let fraction := (body.dropWhile isDigit).tail.takeWhile isDigit
  let magnitude : Nat := Nat.ofDigitChars 10 (body.takeWhile isDigit) 0 * 10 ^ 20 +
    Nat.ofDigitChars 10 ((fraction ++ List.replicate 20 '0').take 20) 0
  if text.head? = some '-' then -magnitude else magnitude

/-- Python, as it answers for short decimals, which are counted in units of `10⁻²⁰`. -/
def decimalHost : AgentHost Int where
  ofInt n := some (n * 10 ^ 20)
  isZero x := decide (x = 0)
  packF32 _ := none
  floatRepr := decimalRepr
  sha256Hex := hashlibSha256
  parseFloat := parseDecimal
  floatEq a b := decide (a = b)
  floatLt a b := decide (a < b)
  intEqFloat n x := decide (n * 10 ^ 20 = x)
  repr
    | .null => "None"
    | .bool true => "True"
    | .bool false => "False"
    | value => jsonDumps decimalRepr value
  thirtyFirsts n := n * 10 ^ 20 / 31
  add a b := a + b
  mul a b := a * b / 10 ^ 20
  div a b := a * 10 ^ 20 / b
  neg a := -a
  sum values := values.sum
  sqrt x := Nat.sqrt (x.toNat * 10 ^ 20)
  round8 x := (x + 5 * 10 ^ 11) / 10 ^ 12 * 10 ^ 12

end Decimals

end PermeantOS
