import PermeantOS.Fallible
import PermeantOS.RustFloat
import PermeantOS.Usxf

namespace PermeantOS

section Fp8

variable {F : Type} [F32Arith F]

open F32Arith

/-- `f32_to_e4m3` calls itself when a mantissa rounds up to the next power of two. The recursion
budget is a parameter; `none` is an exhausted budget. -/
def f32ToE4m3Fuel : Nat → F → Option UInt8
  | 0, _ => none
  | fuel + 1, val =>
    if eq val (lit 0) then some 0
    else if isNan val then some 0x7f
    else
      let sign : UInt8 := if isSignNegative val then 0x80 else 0x00
      let absVal := abs val
      if lt (lit 448) absVal || eq absVal (lit 448) then some (sign ||| 0x7e)
      else
        let exp := floorLog2 absVal + 7
        if exp < 0 then
          let mantissa := max 0 (min (roundI32 (mul absVal (lit 512))) 7)
          some (sign ||| UInt8.ofNat mantissa.toNat)
        else
          let exp := if 15 < exp then 15 else exp
          let scaleFactor : F := lit (2 ^ (exp - 7))
          let mantVal := mul (sub (div absVal scaleFactor) (lit 1)) (lit 8)
          let mantissa := max 0 (roundI32 mantVal)
          if 7 < mantissa then
            if exp = 15 then some (sign ||| (UInt8.ofNat exp.toNat <<< 3) ||| 6)
            else f32ToE4m3Fuel fuel (mul (signum val) (lit (2 ^ (exp - 6))))
          else some (sign ||| (UInt8.ofNat exp.toNat <<< 3) ||| UInt8.ofNat mantissa.toNat)

/-- The second call is made on a signed power of two, which rounds to itself. -/
def f32ToE4m3 (val : F) : Option UInt8 := f32ToE4m3Fuel 2 val

def e4m3ToF32 (byte : UInt8) : F :=
  let sign : F := if byte &&& 0x80 ≠ 0 then lit (-1) else lit 1
  let exp := (byte &&& 0x78) >>> 3
  let mant := byte &&& 0x07
  if exp = 0 then mul (mul sign (lit (2 ^ (-6 : Int)))) (div (lit mant.toNat) (lit 8))
  else if exp = 15 ∧ mant = 7 then nan
  else mul (mul sign (lit (2 ^ ((exp.toNat : Int) - 7))))
    (add (lit 1) (div (lit mant.toNat) (lit 8)))

def maxAbs (data : List F) : F :=
  data.foldl (fun acc val =>
    if lt acc (abs val) && !isNan val && !isInfinite val then abs val else acc) (lit 0)

def computeOptimalScale (data : List F) (maxRepresentable : F) : F :=
  if eq (maxAbs data) (lit 0) then lit 1 else div (maxAbs data) maxRepresentable

def quantizeE4m3Scaled (data : List F) (scale : F) : Option (List UInt8) :=
  data.mapM fun x => f32ToE4m3 (div x scale)

def dequantizeE4m3Scaled (data : List UInt8) (scale : F) : List F :=
  data.map fun x => mul (e4m3ToF32 x) scale

end Fp8

section Transfer

def qatqPhase2Storage : String := "qatq-phase2"

def qatqExactF32leStorage : String := "qatq-exact-f32le"

def rawF32lePassThroughStorage : String := "raw-f32le-pass-through"

inductive QatqTransferStorage
  | qatqPhase2 (strategy : String)
  | qatqExactF32Le
  | rawF32LePassThrough
  deriving DecidableEq, Repr

def QatqTransferStorage.name : QatqTransferStorage → String
  | .qatqPhase2 _ => qatqPhase2Storage
  | .qatqExactF32Le => qatqExactF32leStorage
  | .rawF32LePassThrough => rawF32lePassThroughStorage

def QatqTransferStorage.strategyName : QatqTransferStorage → Option String
  | .qatqPhase2 strategy => some strategy
  | .qatqExactF32Le => some "qatq-exact"
  | .rawF32LePassThrough => none

structure QatqPhase2Transfer where
  storage : QatqTransferStorage
  payload : List UInt8
  rawF32leLen : Usize

/-- What the `qatq` crate decodes an exact tensor to; other element types are one case here. -/
structure QatqTensor where
  isF32 : Bool
  bytesLe : List UInt8
  deriving DecidableEq, Repr

/-- The entry points of the `qatq` crate. The encoder is always asked for `f32` tensors. -/
structure Qatq (F : Type) where
  tryEncodeExactTensorLe : List UInt8 → Except String (List UInt8)
  decodeExactTensorLe : List UInt8 → Except String QatqTensor
  decode : List UInt8 → Except String (List F)

/-- The crate decodes what it encoded to the same tensor. -/
def Qatq.RoundTrips {F : Type} (qatq : Qatq F) : Prop :=
  ∀ bytes payload, qatq.tryEncodeExactTensorLe bytes = .ok payload →
    qatq.decodeExactTensorLe payload = .ok ⟨true, bytes⟩

/-- A codec that stores exact tensors verbatim and knows no phase-2 payload. -/
def Qatq.stored {F : Type} : Qatq F where
  tryEncodeExactTensorLe bytes := .ok bytes
  decodeExactTensorLe payload := .ok ⟨true, payload⟩
  decode _ := .error "unsupported payload"

def mapErr {α : Type} (text : String → String) : Except String α → Fallible α
  | .ok a => .ok a
  | .error e => bail (text e)

@[simp] theorem mapErr_ok_iff {α : Type} {text : String → String} {x : Except String α} {a : α} :
    mapErr text x = .ok a ↔ x = .ok a := by
  cases x <;> simp [mapErr, bail]

variable {F : Type} [F32Bits F]

def encodeQatqExactF32leTransfer (qatq : Qatq F) (data : List F) : Fallible QatqPhase2Transfer := do
  let bytes := data.flatMap f32ToLeBytes
  let payload ← mapErr (fun err => s!"QATQ exact f32le encode failed: {err}")
    (qatq.tryEncodeExactTensorLe bytes)
  pure ⟨.qatqExactF32Le, payload, UInt64.ofNat (data.length * 4)⟩

def decodeQatqPhase2Transfer (qatq : Qatq F) (storage : String) (payload : List UInt8)
    (expectedLen : Usize) : Fallible (List F) :=
  if storage = qatqExactF32leStorage then do
    let decoded ← mapErr (fun err => s!"QATQ exact f32le decode failed: {err}")
      (qatq.decodeExactTensorLe payload)
    bailIf (decoded.isF32 = false) "QATQ exact payload dtype mismatch: expected f32"
    bailIf (decoded.bytesLe.length ≠ (expectedLen * 4).toNat)
      s!"QATQ exact f32le payload length mismatch: expected {expectedLen * 4} bytes, got {decoded.bytesLe.length}"
    pure ((chunksExactFour decoded.bytesLe).map f32FromLeBytes)
  else if storage = qatqPhase2Storage then do
    let values ← mapErr (fun err => s!"QATQ phase2 decode failed: {err}") (qatq.decode payload)
    bailIf (values.length ≠ expectedLen.toNat)
      s!"{storage} decoded payload length mismatch: expected {expectedLen}, got {values.length}"
    pure values
  else if storage = rawF32lePassThroughStorage then do
    bailIf (payload.length ≠ (expectedLen * 4).toNat)
      s!"raw f32le pass-through payload length mismatch: expected {expectedLen * 4} bytes, got {payload.length}"
    pure ((chunksExactFour payload).map f32FromLeBytes)
  else bail s!"Unsupported QATQ transfer storage: {storage}"

end Transfer

end PermeantOS
