import Mathlib.Data.Int.Log
import Mathlib.Data.Rat.Floor
import Mathlib.Tactic.NormNum
import PermeantOS.ByteWords

namespace PermeantOS

/-- `f32::from_bits` and `f32::to_bits`, through which every byte conversion goes. -/
class F32Bits (F : Type) where
  fromBits : UInt32 → F
  toBits : F → UInt32

/-- The arithmetic of `f32` that the quantizers use. `lit` is a literal or an exact constant,
`floorLog2` is `x.log2().floor() as i32` and `roundI32` is `x.round() as i32`. -/
class F32Arith (F : Type) where
  lit : ℚ → F
  nan : F
  add : F → F → F
  sub : F → F → F
  mul : F → F → F
  div : F → F → F
  abs : F → F
  signum : F → F
  eq : F → F → Bool
  lt : F → F → Bool
  isNan : F → Bool
  isInfinite : F → Bool
  isSignNegative : F → Bool
  floorLog2 : F → Int
  roundI32 : F → Int

def isFinite {F : Type} [F32Arith F] (x : F) : Bool := !F32Arith.isNan x && !F32Arith.isInfinite x

def saturateI32 (n : Int) : Int := max (-2 ^ 31) (min n (2 ^ 31 - 1))

/-- Rounding to the nearest integer, halves away from zero. -/
def roundHalfAway (q : ℚ) : Int :=
  if 0 ≤ q then ⌊q + 1 / 2⌋ else -⌊-q + 1 / 2⌋

/-- `f32` with exact arithmetic: every finite value is a rational number. -/
inductive ExactF32
  | nan
  | inf (negative : Bool)
  | fin (value : ℚ)
  deriving DecidableEq

namespace ExactF32

def isNegative : ExactF32 → Bool
  | nan => false
  | inf negative => negative
  | fin q => decide (q < 0)

def add : ExactF32 → ExactF32 → ExactF32
  | fin a, fin b => fin (a + b)
  | inf s, fin _ => inf s
  | fin _, inf t => inf t
  | inf s, inf t => if s = t then inf s else nan
  | _, _ => nan

def neg : ExactF32 → ExactF32
  | nan => nan
  | inf s => inf (!s)
  | fin q => fin (-q)

def mul : ExactF32 → ExactF32 → ExactF32
  | fin a, fin b => fin (a * b)
  | inf s, fin b => if b = 0 then nan else inf (s != decide (b < 0))
  | fin a, inf t => if a = 0 then nan else inf (t != decide (a < 0))
  | inf s, inf t => inf (s != t)
  | _, _ => nan

def div : ExactF32 → ExactF32 → ExactF32
  | fin a, fin b => if b = 0 then (if a = 0 then nan else inf (decide (a < 0))) else fin (a / b)
  | inf s, fin b => inf (s != decide (b < 0))
  | fin _, inf _ => fin 0
  | _, _ => nan

def lt : ExactF32 → ExactF32 → Bool
  | fin a, fin b => decide (a < b)
  | inf s, fin _ => s
  | fin _, inf t => !t
  | inf s, inf t => s && !t
  | _, _ => false

def eq : ExactF32 → ExactF32 → Bool
  | fin a, fin b => decide (a = b)
  | inf s, inf t => s == t
  | _, _ => false

def abs : ExactF32 → ExactF32
  | nan => nan
  | inf _ => inf false
  | fin q => fin |q|

def signum : ExactF32 → ExactF32
  | nan => nan
  | x => fin (if x.isNegative then -1 else 1)

def floorLog2 : ExactF32 → Int
  | fin q => if q = 0 then -2 ^ 31 else if q < 0 then 0 else saturateI32 (Int.log 2 q)
  | inf false => 2 ^ 31 - 1
  | _ => 0

def roundI32 : ExactF32 → Int
  | fin q => saturateI32 (roundHalfAway q)
  | inf s => if s then -2 ^ 31 else 2 ^ 31 - 1
  | nan => 0

end ExactF32

instance : F32Arith ExactF32 where
  lit := .fin
  nan := .nan
  add := ExactF32.add
  sub x y := x.add y.neg
  mul := ExactF32.mul
  div := ExactF32.div
  abs := ExactF32.abs
  signum := ExactF32.signum
  eq := ExactF32.eq
  lt := ExactF32.lt
  isNan x := decide (x = .nan)
  isInfinite x := decide (x = .inf true ∨ x = .inf false)
  isSignNegative := ExactF32.isNegative
  floorLog2 := ExactF32.floorLog2
  roundI32 := ExactF32.roundI32

section ExactValues

variable (a b : ℚ)

@[simp] theorem exact_lit : (F32Arith.lit a : ExactF32) = .fin a := rfl

@[simp] theorem exact_sub : F32Arith.sub (ExactF32.fin a) (.fin b) = .fin (a - b) := by
  rw [sub_eq_add_neg]
  rfl

@[simp] theorem exact_mul : F32Arith.mul (ExactF32.fin a) (.fin b) = .fin (a * b) := rfl

@[simp] theorem exact_abs : F32Arith.abs (ExactF32.fin a) = .fin |a| := rfl

@[simp] theorem exact_eq : F32Arith.eq (ExactF32.fin a) (.fin b) = decide (a = b) := rfl

@[simp] theorem exact_lt : F32Arith.lt (ExactF32.fin a) (.fin b) = decide (a < b) := rfl

@[simp] theorem exact_isNan : F32Arith.isNan (ExactF32.fin a) = false := rfl

@[simp] theorem exact_isInfinite : F32Arith.isInfinite (ExactF32.fin a) = false := rfl

@[simp] theorem exact_isSignNegative :
    F32Arith.isSignNegative (ExactF32.fin a) = decide (a < 0) := rfl

@[simp] theorem exact_signum :
    F32Arith.signum (ExactF32.fin a) = .fin (if a < 0 then -1 else 1) := by
  simp only [F32Arith.signum, ExactF32.signum, ExactF32.isNegative, decide_eq_true_eq]

variable {a b}

theorem exact_div (h : b ≠ 0) : F32Arith.div (ExactF32.fin a) (.fin b) = .fin (a / b) :=
  if_neg h

theorem exact_mul_comm (x y : ExactF32) : F32Arith.mul x y = F32Arith.mul y x := by
  cases x with
  | nan => cases y <;> rfl
  | inf s =>
    cases y with
    | nan => rfl
    | inf t => simp [F32Arith.mul, ExactF32.mul, bne_comm]
    | fin b => rfl
  | fin a =>
    cases y with
    | nan => rfl
    | inf t => rfl
    | fin b => simp [mul_comm]

theorem log_two_zpow (k : Int) : Int.log 2 ((2 : ℚ) ^ k) = k := by
  have h := Int.log_zpow (R := ℚ) (b := 2) (by norm_num) k
  exact_mod_cast h

theorem exact_floorLog2_zpow {k : Int} (hl : -2 ^ 31 ≤ k) (hu : k < 2 ^ 31) :
    F32Arith.floorLog2 (ExactF32.fin (2 ^ k)) = k := by
  have hpos : (0 : ℚ) < 2 ^ k := zpow_pos (by norm_num) k
  simp only [F32Arith.floorLog2, ExactF32.floorLog2, if_neg hpos.ne', if_neg hpos.not_gt, log_two_zpow,
    saturateI32]
  omega

end ExactValues

/-- Rounding to the nearest integer, halves to the even one. -/
def roundHalfEven (q : ℚ) : Int :=
  let below := ⌊q⌋
  if q - below < 1 / 2 then below
  else if 1 / 2 < q - below then below + 1
  else if below % 2 = 0 then below else below + 1

/-- The bit pattern of the nearest binary32 number. A significand of `2 ^ 24` carries into the
exponent, and one past the largest exponent is an infinity. -/
def ExactF32.toBits : ExactF32 → UInt32
  | nan => 0x7fc00000
  | inf negative => if negative then 0xff800000 else 0x7f800000
  | fin q =>
    let exponent := if q = 0 then -126 else max (Int.log 2 |q|) (-126)
    let significand := roundHalfEven (|q| / 2 ^ (exponent - 23))
    let magnitude := min ((exponent + 126) * 2 ^ 23 + significand) 0x7f800000
    (if q < 0 then 0x80000000 else 0) ||| UInt32.ofNat magnitude.toNat

/-- `f32` as its bit pattern. -/
structure F32 where
  bits : UInt32
  deriving DecidableEq, Repr

instance : F32Bits F32 where
  fromBits := F32.mk
  toBits := F32.bits

namespace F32

def asFloat (x : F32) : Float32 := Float32.ofBits x.bits

def ofFloat (f : Float32) : F32 := ⟨f.toBits⟩

def isNegative (x : F32) : Bool := decide (0x80000000 ≤ x.bits)

def toExact (x : F32) : ExactF32 :=
  let sign : ℚ := if x.isNegative then -1 else 1
  let exponent : Nat := x.bits.toNat / 2 ^ 23 % 256
  let fraction : Nat := x.bits.toNat % 2 ^ 23
  if exponent = 255 then (if fraction = 0 then .inf x.isNegative else .nan)
  else if exponent = 0 then .fin (sign * fraction * 2 ^ (-149 : Int))
  else .fin (sign * (2 ^ 23 + fraction) * 2 ^ ((exponent : Int) - 150))

def ofLit (q : ℚ) : F32 := ⟨(ExactF32.fin q).toBits⟩

end F32

instance : F32Bits ExactF32 where
  fromBits bits := (F32.mk bits).toExact
  toBits := ExactF32.toBits

/-- The rounded operations are those of IEEE binary32. Logarithms and integer rounding are taken of
the exact value. -/
instance : F32Arith F32 where
  lit := F32.ofLit
  nan := ⟨0x7fc00000⟩
  add x y := F32.ofFloat (x.asFloat + y.asFloat)
  sub x y := F32.ofFloat (x.asFloat - y.asFloat)
  mul x y := F32.ofFloat (x.asFloat * y.asFloat)
  div x y := F32.ofFloat (x.asFloat / y.asFloat)
  abs x := ⟨x.bits &&& 0x7fffffff⟩
  signum x := if x.toExact = .nan then ⟨0x7fc00000⟩ else F32.ofLit (if x.isNegative then -1 else 1)
  eq x y := x.toExact.eq y.toExact
  lt x y := x.toExact.lt y.toExact
  isNan x := decide (x.toExact = .nan)
  isInfinite x := decide (x.toExact = .inf true ∨ x.toExact = .inf false)
  isSignNegative := F32.isNegative
  floorLog2 x := x.toExact.floorLog2
  roundI32 x := x.toExact.roundI32

section ByteConversions

variable {F : Type} [F32Bits F]

def f32ToBeBytes (x : F) : List UInt8 := u32ToBeBytes (F32Bits.toBits x)

def f32FromBeBytes (bytes : List UInt8) : F := F32Bits.fromBits (u32FromBeBytes bytes)

def f32ToLeBytes (x : F) : List UInt8 := (u32ToBeBytes (F32Bits.toBits x)).reverse

def f32FromLeBytes (bytes : List UInt8) : F := F32Bits.fromBits (u32FromBeBytes bytes.reverse)

/-- `slice::chunks_exact(4)` -/
def chunksExactFour : List UInt8 → List (List UInt8)
  | a :: b :: c :: d :: rest => [a, b, c, d] :: chunksExactFour rest
  | _ => []

end ByteConversions

end PermeantOS
