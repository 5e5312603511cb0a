import Mathlib.Data.Nat.Basic
import Mathlib.Data.List.Basic
import Mathlib.Tactic.Ring

namespace PermeantOS

/-- The big-endian bytes of the low `w` bytes of `n`. -/
def bigEndian : Nat → Nat → List UInt8
  | 0, _ => []
  | w + 1, n => UInt8.ofNat (n / 256 ^ w) :: bigEndian w n

def ofBigEndianFrom (acc : Nat) : List UInt8 → Nat
  | [] => acc
  | b :: bs => ofBigEndianFrom (acc * 256 + b.toNat) bs

/-- The number a big-endian byte list spells. -/
def ofBigEndian (bs : List UInt8) : Nat := ofBigEndianFrom 0 bs

@[simp] theorem bigEndian_length (w n : Nat) : (bigEndian w n).length = w := by
  induction w with
  | zero => rfl
  | succ w ih => simp [bigEndian, ih]

theorem ofBigEndianFrom_eq (acc : Nat) (bs : List UInt8) :
    ofBigEndianFrom acc bs = acc * 256 ^ bs.length + ofBigEndian bs := by
  induction bs generalizing acc with
  | nil => simp [ofBigEndianFrom, ofBigEndian]
  | cons b bs ih =>
    have hz := ih b.toNat
    simp only [ofBigEndianFrom, ofBigEndian, Nat.zero_mul, Nat.zero_add, List.length_cons, pow_succ]
    rw [ih, hz]
    ring

theorem ofBigEndian_cons (b : UInt8) (bs : List UInt8) :
    ofBigEndian (b :: bs) = b.toNat * 256 ^ bs.length + ofBigEndian bs := by
  simpa [ofBigEndian, ofBigEndianFrom] using ofBigEndianFrom_eq b.toNat bs

theorem ofBigEndian_bigEndian_mod (w n : Nat) : ofBigEndian (bigEndian w n) = n % 256 ^ w := by
  induction w with
  | zero => simp [bigEndian, ofBigEndian, ofBigEndianFrom, Nat.mod_one]
  | succ w ih =>
    rw [bigEndian, ofBigEndian_cons, ih, bigEndian_length]
    have hb : (UInt8.ofNat (n / 256 ^ w)).toNat = n / 256 ^ w % 256 := by simp
    rw [hb, pow_succ, Nat.mod_mul]
    ring

theorem ofBigEndian_bigEndian {w n : Nat} (h : n < 256 ^ w) : ofBigEndian (bigEndian w n) = n := by
  rw [ofBigEndian_bigEndian_mod, Nat.mod_eq_of_lt h]

def u32ToBeBytes (x : UInt32) : List UInt8 := bigEndian 4 x.toNat

def u32FromBeBytes (bs : List UInt8) : UInt32 := UInt32.ofNat (ofBigEndian bs)

@[simp] theorem u32ToBeBytes_length (x : UInt32) : (u32ToBeBytes x).length = 4 := bigEndian_length _ _

theorem u32FromBeBytes_toBeBytes (x : UInt32) : u32FromBeBytes (u32ToBeBytes x) = x := by
  have hx : x.toNat < 256 ^ 4 := by simpa using x.toNat_lt
  simp [u32FromBeBytes, u32ToBeBytes, ofBigEndian_bigEndian hx]

end PermeantOS
