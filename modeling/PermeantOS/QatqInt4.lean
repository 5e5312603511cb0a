import PermeantOS.MiniFloat
import PermeantOS.PayloadScale

namespace PermeantOS

section Codec

variable {F : Type} [F32Arith F]

open F32Arith

/-- `f32::to_be_bytes`, `f32::from_be_bytes`, and the text of a float. -/
structure ScaleBytes (F : Type) where
  toBeBytes : F → List UInt8
  fromBeBytes : List UInt8 → F
  display : F → String
  length_eq : ∀ x, (toBeBytes x).length = 4

/-- The four bytes of a bit pattern. -/
def ScaleBytes.ofBits [F32Bits F] (display : F → String) : ScaleBytes F where
  toBeBytes x := u32ToBeBytes (F32Bits.toBits x)
  fromBeBytes bytes := F32Bits.fromBits (u32FromBeBytes bytes)
  display := display
  length_eq _ := u32ToBeBytes_length _

def quantizeI4Nibble (value scale : F) : UInt8 :=
  let scaled := if isFinite value then roundI32 (div value scale) else 0
  let quantized := max (-7) (min scaled 7)
  UInt8.ofNat (quantized + 8).toNat &&& 0x0f

def dequantizeI4Nibble (nibble : UInt8) (scale : F) : F :=
  mul (lit (((nibble &&& 0x0f).toNat : Int) - 8 : Int)) scale

/-- Two values to a byte; a last one alone has a zero nibble beside it. -/
def packI4 (scale : F) : List F → List UInt8
  | [] => []
  | [first] => [(quantizeI4Nibble first scale <<< 4) ||| 0]
  | first :: second :: rest =>
    ((quantizeI4Nibble first scale <<< 4) ||| quantizeI4Nibble second scale) :: packI4 scale rest

variable (bytes : ScaleBytes F)

def quantizeQatqI4 (data : List F) : List UInt8 :=
  let scale := computeOptimalScale data (lit 7)
  let scale := if isFinite scale && lt (lit 0) scale then scale else lit 1
  u32ToBeBytes (UInt32.ofNat data.length) ++ (bytes.toBeBytes scale ++ packI4 scale data)

/-- One round of the unpack loop. The low nibble of a byte is left out once there are enough values. -/
def unpackI4 (scale : F) (expectedLen : Nat) (out : List F) (byte : UInt8) : List F :=
  let out := out ++ [dequantizeI4Nibble (byte >>> 4) scale]
  if out.length < expectedLen then out ++ [dequantizeI4Nibble (byte &&& 0x0f) scale] else out

def dequantizeQatqI4 (data : List UInt8) (expectedLen : Usize) : Fallible (List F) := do
  bailIf (data.length < 8) s!"QATQ payload is too short: {data.length} bytes"
  let encodedLen := (u32FromBeBytes (data.take 4)).toNat
  bailIf (encodedLen ≠ expectedLen.toNat)
    s!"QATQ payload length mismatch: expected {expectedLen}, encoded {encodedLen}"
  let scale := bytes.fromBeBytes ((data.drop 4).take 4)
  bailIf (!isFinite scale || lt scale (lit 0) || eq scale (lit 0))
    s!"QATQ payload scale is invalid: {bytes.display scale}"
  let packed := data.drop 8
  let needed := divCeil expectedLen 2
  bailIf (packed.length ≠ needed.toNat)
    s!"QATQ packed payload length mismatch: expected {needed}, got {packed.length}"
  pure (packed.foldl (unpackI4 scale expectedLen.toNat) [])

end Codec

section Nibbles

variable {value scale : ℚ}

/-- The value that comes back for one that was packed. -/
def restoredI4 (scale value : ℚ) : ℚ := roundHalfAway (value / scale) * scale

theorem nibble_mask : ∀ nibble : Fin 16, UInt8.ofNat nibble &&& 0x0f = UInt8.ofNat nibble := by decide

theorem quantizeI4Nibble_exact (hscale : scale ≠ 0) (h : |value / scale| ≤ 7) :
    ∃ nibble : Fin 16, quantizeI4Nibble (ExactF32.fin value) (.fin scale) = UInt8.ofNat nibble ∧
      (nibble : Int) = roundHalfAway (value / scale) + 8 := by
  have hbound := abs_le.mp (abs_roundHalfAway_le (by exact_mod_cast h : |value / scale| ≤ (7 : Int)))
  have hround : F32Arith.roundI32 (ExactF32.fin (value / scale)) = roundHalfAway (value / scale) := by
    show saturateI32 _ = _
    rw [saturateI32]
    omega
  have hclamp : max (-7) (min (roundHalfAway (value / scale)) 7) = roundHalfAway (value / scale) := by omega
  have hsmall : (roundHalfAway (value / scale) + 8).toNat < 16 := by omega
  refine ⟨⟨_, hsmall⟩, ?_, by simp; omega⟩
  simp only [quantizeI4Nibble, isFinite, exact_isNan, exact_isInfinite, exact_div hscale, hround, hclamp,
    Bool.not_false, Bool.and_self, if_true]
  exact nibble_mask ⟨_, hsmall⟩

theorem nibbles_of_byte : ∀ a b : Fin 16,
    (((UInt8.ofNat a <<< 4) ||| UInt8.ofNat b) >>> 4 &&& 0x0f).toNat = a ∧
      (((UInt8.ofNat a <<< 4) ||| UInt8.ofNat b) &&& 0x0f &&& 0x0f).toNat = b := by
  decide +kernel

theorem dequantizeI4Nibble_exact {byte : UInt8} {nibble : Fin 16} (hbyte : (byte &&& 0x0f).toNat = nibble)
    (h : (nibble : Int) = roundHalfAway (value / scale) + 8) :
    dequantizeI4Nibble byte (ExactF32.fin scale) = .fin (restoredI4 scale value) := by
  have hsigned : (((byte &&& 0x0f).toNat : Int) - 8 : Int) = roundHalfAway (value / scale) := by
    rw [hbyte]
    omega
  rw [dequantizeI4Nibble, hsigned]
  rfl

theorem abs_restoredI4_sub (hscale : 0 < scale) : |restoredI4 scale value - value| ≤ scale / 2 := by
  have hvalue : value = value / scale * scale := (div_mul_cancel₀ value hscale.ne').symm
  have hdiff : restoredI4 scale value - value = (roundHalfAway (value / scale) - value / scale) * scale := by
    rw [sub_mul, ← hvalue]
    rfl
  rw [hdiff, abs_mul, abs_of_pos hscale]
  calc |(roundHalfAway (value / scale) : ℚ) - value / scale| * scale
      ≤ 1 / 2 * scale := mul_le_mul_of_nonneg_right (abs_roundHalfAway_sub _) hscale.le
    _ = scale / 2 := by ring

end Nibbles

section RoundTrip

/-- The scale of a block: its largest magnitude is sent to 7. -/
def i4Scale (xs : List ℚ) : ℚ := if blockMax xs = 0 then 1 else blockMax xs / 7

theorem i4Scale_pos (xs : List ℚ) : 0 < i4Scale xs := by
  unfold i4Scale
  split
  next => norm_num
  next h =>
    have := lt_of_le_of_ne (blockMax_nonneg xs) (Ne.symm h)
    positivity

/-- The clamp of the quantizer never bites. -/
theorem abs_div_i4Scale_le {xs : List ℚ} {x : ℚ} (h : x ∈ xs) : |x / i4Scale xs| ≤ 7 := by
  have hpos := i4Scale_pos xs
  have hmax := abs_le_blockMax h
  rw [abs_div, abs_of_pos hpos, div_le_iff₀ hpos]
  unfold i4Scale
  split
  next hzero => linarith
  next => linarith

theorem length_packI4 {F : Type} [F32Arith F] (scale : F) (xs : List F) :
    (packI4 scale xs).length = (xs.length + 1) / 2 := by
  induction xs using packI4.induct with
  | case1 => simp [packI4]
  | case2 first => simp [packI4]
  | case3 first second rest ih =>
    rw [packI4, List.length_cons, ih, List.length_cons, List.length_cons]
    omega

/-- The unpack loop, on what was packed: `out` holds the values so far. -/
theorem unpackI4_packI4 {scale : ℚ} (hscale : scale ≠ 0) {xs : List ℚ} (h : ∀ x ∈ xs, |x / scale| ≤ 7)
    {out : List ExactF32} {expectedLen : Nat} (hlen : out.length + xs.length = expectedLen) :
    (packI4 (ExactF32.fin scale) (xs.map ExactF32.fin)).foldl (unpackI4 (.fin scale) expectedLen) out =
      out ++ xs.map fun x => ExactF32.fin (restoredI4 scale x) := by
  induction xs using List.twoStepInduction generalizing out with
  | nil => simp [packI4]
  | singleton x =>
    obtain ⟨nibble, hnibble, hround⟩ := quantizeI4Nibble_exact hscale (h x (by simp))
    have hbyte := (nibbles_of_byte nibble 0).1
    have hfull : ¬out.length + 1 < expectedLen := by simp at hlen; omega
    have hvalue := dequantizeI4Nibble_exact hbyte hround
    simp only [List.map_cons, List.map_nil, packI4, List.foldl_cons, List.foldl_nil, unpackI4, hnibble,
      List.length_append, List.length_singleton, hfull, if_false]
    exact congrArg (fun value => out ++ [value]) hvalue
  | cons_cons x y xs ih _ =>
    obtain ⟨first, hfirst, hround⟩ := quantizeI4Nibble_exact hscale (h x (by simp))
    obtain ⟨second, hsecond, hround'⟩ := quantizeI4Nibble_exact hscale (h y (by simp))
    obtain ⟨hhigh, hlow⟩ := nibbles_of_byte first second
    have hroom : out.length + 1 < expectedLen := by simp at hlen; omega
    have hlen' : (out ++ [ExactF32.fin (restoredI4 scale x)] ++ [ExactF32.fin (restoredI4 scale y)]).length +
        xs.length = expectedLen := by simp at hlen ⊢; omega
    simp only [List.map_cons, packI4, List.foldl_cons, unpackI4, hfirst, hsecond, List.length_append,
      List.length_singleton, hroom, if_true, dequantizeI4Nibble_exact hhigh hround,
      dequantizeI4Nibble_exact hlow hround']
    rw [ih (fun z hz => h z (by simp [hz])) hlen']
    simp

variable {bytes : ScaleBytes ExactF32} {xs : List ℚ}

theorem quantizeQatqI4_exact (bytes : ScaleBytes ExactF32) (xs : List ℚ) :
    quantizeQatqI4 bytes (xs.map ExactF32.fin) = u32ToBeBytes (UInt32.ofNat xs.length) ++
      (bytes.toBeBytes (.fin (i4Scale xs)) ++ packI4 (ExactF32.fin (i4Scale xs)) (xs.map ExactF32.fin)) := by
  have hscale : computeOptimalScale (xs.map ExactF32.fin) (F32Arith.lit 7) = .fin (i4Scale xs) :=
    computeOptimalScale_exact_div xs (by norm_num)
  have hfinite : (isFinite (ExactF32.fin (i4Scale xs)) &&
      F32Arith.lt (F32Arith.lit 0) (ExactF32.fin (i4Scale xs))) = true := by
    simp [isFinite, i4Scale_pos]
  rw [quantizeQatqI4, hscale, hfinite, if_pos rfl, List.length_map]

/-- What is read of a payload: the length, the scale and the packed bytes. -/
theorem dequantizeQatqI4_quantized (hlen : xs.length < 2 ^ 32)
    (hstored : bytes.fromBeBytes (bytes.toBeBytes (.fin (i4Scale xs))) = .fin (i4Scale xs))
    (expectedLen : Usize) :
    dequantizeQatqI4 bytes (quantizeQatqI4 bytes (xs.map ExactF32.fin)) expectedLen =
      if expectedLen.toNat = xs.length then .ok (xs.map fun x => .fin (restoredI4 (i4Scale xs) x))
      else bail s!"QATQ payload length mismatch: expected {expectedLen}, encoded {xs.length}" := by
  have hlength := bytes.length_eq (.fin (i4Scale xs))
  have hfirst : (u32ToBeBytes (UInt32.ofNat xs.length)).length = 4 := u32ToBeBytes_length _
  have hcount : (UInt32.ofNat xs.length).toNat = xs.length := by
    rw [UInt32.toNat_ofNat']
    exact Nat.mod_eq_of_lt hlen
  have hpos := i4Scale_pos xs
  rw [quantizeQatqI4_exact, dequantizeQatqI4]
  rw [except_bind_of_ok (bailIf_ok_iff.mpr (by simp [hlength]; omega))]
  rw [List.take_left' hfirst, List.drop_left' hfirst, List.take_left' hlength, u32FromBeBytes_toBeBytes,
    hcount, hstored]
  by_cases hexpected : expectedLen.toNat = xs.length
  · rw [if_pos hexpected]
    have hdrop : (u32ToBeBytes (UInt32.ofNat xs.length) ++ (bytes.toBeBytes (.fin (i4Scale xs)) ++
        packI4 (ExactF32.fin (i4Scale xs)) (xs.map ExactF32.fin))).drop 8 = packI4 (ExactF32.fin (i4Scale xs)) (xs.map ExactF32.fin) := by
      rw [← List.append_assoc]
      exact List.drop_left' (by simp [hlength])
    have hneeded : (divCeil expectedLen 2).toNat = (xs.length + 1) / 2 := by
      rw [divCeil_toNat (by decide), Nat.ceilDiv_eq_add_pred_div, hexpected]
      rfl
    rw [except_bind_of_ok (bailIf_ok_iff.mpr (by simp [hexpected])),
      except_bind_of_ok (bailIf_ok_iff.mpr (by simp [isFinite, hpos.le, hpos.ne'])), hdrop,
      except_bind_of_ok (bailIf_ok_iff.mpr (by simp [length_packI4, hneeded])), hexpected,
      unpackI4_packI4 hpos.ne' (fun x hx => abs_div_i4Scale_le hx) (by simp)]
    rfl
  · have hbail : bailIf (xs.length ≠ expectedLen.toNat)
        s!"QATQ payload length mismatch: expected {expectedLen}, encoded {xs.length}" =
          bail s!"QATQ payload length mismatch: expected {expectedLen}, encoded {xs.length}" :=
      if_pos (Ne.symm hexpected)
    rw [if_neg hexpected]
    dsimp only
    rw [hbail]
    rfl

/-- A payload gives back as many values as it was made from, each within half a scale, and nothing for
any other length. -/
theorem qatqI4_roundTrip (hlen : xs.length < 2 ^ 32)
    (hstored : bytes.fromBeBytes (bytes.toBeBytes (.fin (i4Scale xs))) = .fin (i4Scale xs)) :
    (∃ ys : List ℚ, dequantizeQatqI4 bytes (quantizeQatqI4 bytes (xs.map ExactF32.fin))
        (UInt64.ofNat xs.length) = .ok (ys.map ExactF32.fin) ∧ ys.length = xs.length ∧
      ∀ (i : Nat) (x y : ℚ), xs[i]? = some x → ys[i]? = some y → |y - x| ≤ i4Scale xs / 2) ∧
    ∀ expectedLen : Usize, expectedLen.toNat ≠ xs.length → ∃ message,
      dequantizeQatqI4 bytes (quantizeQatqI4 bytes (xs.map ExactF32.fin)) expectedLen = bail message := by
  have hcount : (UInt64.ofNat xs.length).toNat = xs.length := by
    rw [UInt64.toNat_ofNat']
    exact Nat.mod_eq_of_lt (by omega)
  refine ⟨⟨xs.map (restoredI4 (i4Scale xs)), ?_, List.length_map .., ?_⟩, ?_⟩
  · rw [dequantizeQatqI4_quantized hlen hstored, if_pos hcount, List.map_map]
    rfl
  · intro i x y hx hy
    rw [List.getElem?_map, hx] at hy
    cases hy
    exact abs_restoredI4_sub (i4Scale_pos xs)
  · intro expectedLen hne
    rw [dequantizeQatqI4_quantized hlen hstored, if_neg hne]
    exact ⟨_, rfl⟩

def threeValues : List ℚ := [7, -3, 1 / 2]

/-- `f32` as it prints 1. -/
def unitBytes : ScaleBytes ExactF32 := ScaleBytes.ofBits fun _ => "1"

theorem threeValues_roundTrip : ∃ ys : List ℚ,
    dequantizeQatqI4 unitBytes (quantizeQatqI4 unitBytes (threeValues.map ExactF32.fin)) 3 =
      .ok (ys.map ExactF32.fin) ∧ ys.length = 3 := by
  have hscale : i4Scale threeValues = 1 := by
    norm_num [i4Scale, blockMax, threeValues]
  have hone : F32Bits.fromBits (F32Bits.toBits (ExactF32.fin 1)) = ExactF32.fin 1 := by decide +kernel
  have hstored : unitBytes.fromBeBytes (unitBytes.toBeBytes (.fin (i4Scale threeValues))) =
      .fin (i4Scale threeValues) := by
    rw [hscale]
    simp only [unitBytes, ScaleBytes.ofBits, u32FromBeBytes_toBeBytes, hone]
  have hlen : threeValues.length < 2 ^ 32 := by decide
  obtain ⟨⟨ys, hys, hlength, _⟩, _⟩ := qatqI4_roundTrip hlen hstored
  exact ⟨ys, hys, hlength⟩

end RoundTrip

end PermeantOS
