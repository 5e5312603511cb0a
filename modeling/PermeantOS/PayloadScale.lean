import Mathlib.Data.List.MinMax
import Mathlib.Tactic.Linarith
import Mathlib.Tactic.FieldSimp
import PermeantOS.Payload

namespace PermeantOS

/-- The largest magnitude of a block, `0` for an empty one. -/
def blockMax (xs : List ℚ) : ℚ := xs.foldl (fun acc x => max acc |x|) 0

/-- The scale a block calls for: its largest magnitude is sent to the largest E4M3 value. -/
def blockScale (xs : List ℚ) : ℚ := if blockMax xs = 0 then 1 else blockMax xs / 448

theorem maxAbs_exact (xs : List ℚ) : maxAbs (xs.map ExactF32.fin) = ExactF32.fin (blockMax xs) := by
  have h : ∀ acc, (xs.map ExactF32.fin).foldl (fun acc val =>
      if F32Arith.lt acc (F32Arith.abs val) && !F32Arith.isNan val && !F32Arith.isInfinite val
      then F32Arith.abs val else acc) (ExactF32.fin acc) =
        ExactF32.fin (xs.foldl (fun acc x => max acc |x|) acc) := by
    induction xs with
    | nil => intro acc; rfl
    | cons x xs ih =>
      intro acc
      rw [List.map_cons, List.foldl_cons, List.foldl_cons, ← ih]
      congr 1
      by_cases hx : acc < |x|
      · simp [hx, max_eq_right hx.le]
      · simp [hx, max_eq_left (not_lt.mp hx)]
  exact h 0

theorem computeOptimalScale_exact_div (xs : List ℚ) {top : ℚ} (htop : top ≠ 0) :
    computeOptimalScale (xs.map ExactF32.fin) (F32Arith.lit top) =
      ExactF32.fin (if blockMax xs = 0 then 1 else blockMax xs / top) := by
  unfold computeOptimalScale
  rw [maxAbs_exact]
  by_cases h : blockMax xs = 0
  · simp [h]
  · simp [h, exact_div htop]

theorem computeOptimalScale_exact (xs : List ℚ) :
    computeOptimalScale (xs.map ExactF32.fin) (F32Arith.lit 448) = ExactF32.fin (blockScale xs) :=
  computeOptimalScale_exact_div xs (by norm_num)

theorem le_foldl_max (xs : List ℚ) (acc : ℚ) :
    acc ≤ xs.foldl (fun acc x => max acc |x|) acc ∧
      ∀ x ∈ xs, |x| ≤ xs.foldl (fun acc x => max acc |x|) acc := by
  induction xs generalizing acc with
  | nil => simp
  | cons y ys ih =>
    obtain ⟨hacc, hmem⟩ := ih (max acc |y|)
    refine ⟨le_trans (le_max_left _ _) hacc, ?_⟩
    intro x hx
    rcases List.mem_cons.mp hx with rfl | hx
    · exact le_trans (le_max_right _ _) hacc
    · exact hmem x hx

theorem foldl_max_mem (xs : List ℚ) (acc : ℚ) :
    xs.foldl (fun acc x => max acc |x|) acc = acc ∨
      ∃ x ∈ xs, |x| = xs.foldl (fun acc x => max acc |x|) acc := by
  induction xs generalizing acc with
  | nil => simp
  | cons y ys ih =>
    rw [List.foldl_cons]
    rcases ih (max acc |y|) with heq | ⟨x, hx, hv⟩
    · rcases max_choice acc |y| with hm | hm
      · exact Or.inl (heq.trans hm)
      · exact Or.inr ⟨y, by simp, (heq.trans hm).symm⟩
    · exact Or.inr ⟨x, List.mem_cons_of_mem y hx, hv⟩

theorem blockMax_nonneg (xs : List ℚ) : 0 ≤ blockMax xs := (le_foldl_max xs 0).1

theorem abs_le_blockMax {xs : List ℚ} {x : ℚ} (h : x ∈ xs) : |x| ≤ blockMax xs :=
  (le_foldl_max xs 0).2 x h

theorem blockMax_attained {xs : List ℚ} (h : blockMax xs ≠ 0) : ∃ x ∈ xs, |x| = blockMax xs :=
  (foldl_max_mem xs 0).resolve_left h

theorem blockScale_pos (xs : List ℚ) : 0 < blockScale xs := by
  unfold blockScale
  split
  next => norm_num
  next h =>
    have := lt_of_le_of_ne (blockMax_nonneg xs) (Ne.symm h)
    positivity

/-- One call suffices on a signed power of two in the E4M3 range. -/
theorem f32ToE4m3Fuel_power {q : ℚ} {k : Int} (fuel : Nat) (hl : -6 ≤ k) (hu : k ≤ 8)
    (hq : |q| = 2 ^ k) : ∃ byte, f32ToE4m3Fuel (fuel + 1) (ExactF32.fin q) = some byte := by
  have hpos : (0 : ℚ) < 2 ^ k := zpow_pos (by norm_num) k
  have hne : q ≠ 0 := by
    intro hz
    rw [hz, abs_zero] at hq
    exact hpos.ne hq
  have hbig : (2 : ℚ) ^ k ≤ 2 ^ (8 : Int) := zpow_le_zpow_right₀ (by norm_num) hu
  have hsmall : ¬(448 : ℚ) < 2 ^ k := by norm_num at hbig; linarith
  have hneq : ¬(2 : ℚ) ^ k = 448 := by norm_num at hbig; intro h; linarith
  have hexp : ¬15 < k + 7 := by omega
  have hlog := exact_floorLog2_zpow (k := k) (by omega) (by omega)
  have hround : F32Arith.roundI32 (ExactF32.fin 0) = 0 := by
    have hz : roundHalfAway 0 = 0 := by norm_num [roundHalfAway]
    simp [F32Arith.roundI32, ExactF32.roundI32, hz, saturateI32]
  rw [f32ToE4m3Fuel]
  simp only [exact_lit, exact_eq, exact_isNan, exact_abs, hq, exact_lt, hne, hsmall,
    hneq, hlog, show ¬k + 7 < 0 by omega, hexp, add_sub_cancel_right, exact_div hpos.ne',
    div_self hpos.ne', exact_sub, sub_self, exact_mul, zero_mul, hround, max_self,
    decide_false, Bool.or_self, Bool.false_eq_true, if_false, show ¬(7 : Int) < 0 by omega]
  exact ⟨_, rfl⟩

/-- The encoder's recursion ends after one repetition. -/
theorem f32ToE4m3_total (q : ℚ) : ∃ byte, f32ToE4m3 (ExactF32.fin q) = some byte := by
  unfold f32ToE4m3
  rw [f32ToE4m3Fuel]
  dsimp only
  split
  next => exact ⟨_, rfl⟩
  split
  next => exact ⟨_, rfl⟩
  split
  next => exact ⟨_, rfl⟩
  generalize F32Arith.floorLog2 (F32Arith.abs (ExactF32.fin q)) + 7 = e
  by_cases he : e < 0
  · rw [if_pos he]
    exact ⟨_, rfl⟩
  rw [if_neg he]
  obtain ⟨exp, hexp⟩ : ∃ exp, exp = if 15 < e then 15 else e := ⟨_, rfl⟩
  have hrange : 0 ≤ exp ∧ exp ≤ 15 := by
    rw [hexp]
    split <;> omega
  rw [← hexp]
  split
  next =>
    by_cases h15 : exp = 15
    · rw [if_pos h15]
      exact ⟨_, rfl⟩
    · rw [if_neg h15, exact_signum, exact_lit, exact_mul]
      apply f32ToE4m3Fuel_power (k := exp - 6) 0 (by omega) (by omega)
      rw [abs_mul, abs_of_pos (zpow_pos (two_pos : (0 : ℚ) < 2) _)]
      split <;> simp
  next => exact ⟨_, rfl⟩

theorem quantizeE4m3Scaled_exact (xs : List ℚ) {s : ℚ} (hs : s ≠ 0) :
    ∃ bytes, quantizeE4m3Scaled (xs.map ExactF32.fin) (.fin s) = some bytes ∧
      bytes.length = xs.length ∧ ∀ (i : Nat) (v : ℚ), xs[i]? = some v →
        ∃ byte, bytes[i]? = some byte ∧ f32ToE4m3 (ExactF32.fin (v / s)) = some byte := by
  induction xs with
  | nil => exact ⟨[], rfl, rfl, by simp⟩
  | cons x xs ih =>
    obtain ⟨byte, hb⟩ := f32ToE4m3_total (x / s)
    obtain ⟨bytes, hq, hlen, hget⟩ := ih
    refine ⟨byte :: bytes, ?_, by simp [hlen], ?_⟩
    · unfold quantizeE4m3Scaled at hq ⊢
      rw [List.map_cons, List.mapM_cons, exact_div hs, hb, hq]
      rfl
    · intro i v hv
      cases i with
      | zero =>
        cases Option.some.inj hv
        exact ⟨byte, rfl, hb⟩
      | succ i => exact hget i v (by simpa using hv)

theorem f32ToE4m3_zero : f32ToE4m3 (ExactF32.fin 0) = some 0 := by
  simp [f32ToE4m3, f32ToE4m3Fuel]

theorem e4m3ToF32_zero : (e4m3ToF32 0 : ExactF32) = .fin 0 := by
  simp [e4m3ToF32, exact_div]

/-- The largest magnitude of a block lands on the largest E4M3 value, of either sign. -/
theorem e4m3ToF32_of_abs_448 {q : ℚ} (h : |q| = 448) :
    ∃ byte, f32ToE4m3 (ExactF32.fin q) = some byte ∧ (e4m3ToF32 byte : ExactF32) = .fin q := by
  rcases eq_or_eq_neg_of_abs_eq h with rfl | rfl
  · exact ⟨0x7e, by norm_num [f32ToE4m3, f32ToE4m3Fuel], by decide +kernel⟩
  · exact ⟨0xfe, by decide +kernel, by decide +kernel⟩

/-- The receiver's values are the block at the sender's own scale: each is the scale times the code
of the scaled source value, and an element of the largest magnitude is reproduced. -/
structure ReconstructedAtScale (xs : List ℚ) (values : List ExactF32) : Prop where
  scaled : ∀ (i : Nat) (v : ℚ), xs[i]? = some v →
    ∃ byte, f32ToE4m3 (ExactF32.fin (v / blockScale xs)) = some byte ∧
      values[i]? = some (F32Arith.mul (.fin (blockScale xs)) (e4m3ToF32 byte))
  largest : ∀ (i : Nat) (v : ℚ), xs[i]? = some v → |v| = blockMax xs → values[i]? = some (.fin v)

/-- What the target decodes from the source's fp8 payload: the codes of the block at the source's
scale, rescaled by the target's constant. -/
theorem decodePayload_encodePayload_fp8 (qatq : Qatq ExactF32) (xs : List ℚ) (n : Usize) :
    ∃ payload values, encodePayload qatq (xs.map ExactF32.fin) .fp8 = .ok payload ∧
      decodePayload qatq TransferCodec.fp8.headerScheme payload.codec payload.data n = .ok values ∧
      values.length = xs.length ∧ ∀ (i : Nat) (v : ℚ), xs[i]? = some v →
        ∃ byte, f32ToE4m3 (ExactF32.fin (v / blockScale xs)) = some byte ∧
          values[i]? = some (F32Arith.mul (e4m3ToF32 byte) (.fin (1 / 10))) := by
  obtain ⟨bytes, hq, hlen, hget⟩ := quantizeE4m3Scaled_exact xs (blockScale_pos xs).ne'
  refine ⟨⟨bytes, none⟩, dequantizeE4m3Scaled bytes (F32Arith.lit (1 / 10)), ?_, rfl, ?_, ?_⟩
  · simp only [encodePayload, computeOptimalScale_exact, hq]
  · simp [dequantizeE4m3Scaled, hlen]
  · intro i v hv
    obtain ⟨byte, hb, he⟩ := hget i v hv
    exact ⟨byte, he, by simp [dequantizeE4m3Scaled, hb]⟩

theorem abs_div_blockScale {v : ℚ} {xs : List ℚ} (hv : |v| = blockMax xs) (hm : blockMax xs ≠ 0) :
    |v / blockScale xs| = 448 := by
  rw [abs_div, abs_of_pos (blockScale_pos xs), hv, blockScale, if_neg hm]
  field_simp

/-- The code of an element of the largest magnitude stands for exactly the scaled element. -/
theorem e4m3ToF32_of_largest {v : ℚ} {xs : List ℚ} {byte : UInt8} (hv : |v| = blockMax xs)
    (hm : blockMax xs ≠ 0) (hb : f32ToE4m3 (ExactF32.fin (v / blockScale xs)) = some byte) :
    (e4m3ToF32 byte : ExactF32) = .fin (v / blockScale xs) := by
  obtain ⟨byte', hb', he⟩ := e4m3ToF32_of_abs_448 (abs_div_blockScale hv hm)
  cases Option.some.inj (hb.symm.trans hb')
  exact he

theorem reconstructedAtScale_of_zero {xs : List ℚ} {values : List ExactF32}
    (hget : ∀ (i : Nat) (v : ℚ), xs[i]? = some v →
      ∃ byte, f32ToE4m3 (ExactF32.fin (v / blockScale xs)) = some byte ∧
        values[i]? = some (F32Arith.mul (e4m3ToF32 byte) (.fin (1 / 10))))
    (hm : blockMax xs = 0) : ReconstructedAtScale xs values := by
  have hzero : ∀ (i : Nat) (v : ℚ), xs[i]? = some v → v = 0 := by
    intro i v hv
    have hle := abs_le_blockMax (List.mem_of_getElem? hv)
    rw [hm] at hle
    exact abs_nonpos_iff.mp hle
  have hval : ∀ (i : Nat) (v : ℚ), xs[i]? = some v → values[i]? = some (.fin 0) := by
    intro i v hv
    obtain ⟨byte, hb, hval⟩ := hget i v hv
    rw [hzero i v hv, zero_div, f32ToE4m3_zero] at hb
    cases hb
    rw [hval, e4m3ToF32_zero, exact_mul, zero_mul]
  refine ⟨?_, ?_⟩
  · intro i v hv
    refine ⟨0, ?_, ?_⟩
    · rw [hzero i v hv, zero_div, f32ToE4m3_zero]
    · rw [hval i v hv, e4m3ToF32_zero, exact_mul, mul_zero]
  · intro i v hv _
    rw [hval i v hv, hzero i v hv]

theorem reconstructedAtScale_of_agreeing {xs : List ℚ} {values : List ExactF32}
    (hget : ∀ (i : Nat) (v : ℚ), xs[i]? = some v →
      ∃ byte, f32ToE4m3 (ExactF32.fin (v / blockScale xs)) = some byte ∧
        values[i]? = some (F32Arith.mul (e4m3ToF32 byte) (.fin (1 / 10))))
    (hm : blockMax xs = 448 / 10) : ReconstructedAtScale xs values := by
  have hne : blockMax xs ≠ 0 := by
    rw [hm]
    norm_num
  have hs : blockScale xs = 1 / 10 := by
    rw [blockScale, if_neg hne, hm]
    norm_num
  refine ⟨?_, ?_⟩
  · intro i v hv
    obtain ⟨byte, hb, hval⟩ := hget i v hv
    refine ⟨byte, hb, ?_⟩
    rw [hval, hs, exact_mul_comm]
  · intro i v hv hmax
    obtain ⟨byte, hb, hval⟩ := hget i v hv
    rw [hval, e4m3ToF32_of_largest hmax hne hb, exact_mul, hs, div_mul_cancel₀ _ (by norm_num)]

/-- Source and target agree on the scale exactly when the block is all zero or its largest magnitude
happens to be `44.8`. -/
theorem decodePayload_fp8_scale_iff (qatq : Qatq ExactF32) (xs : List ℚ) (n : Usize) :
    ∃ payload values, encodePayload qatq (xs.map ExactF32.fin) .fp8 = .ok payload ∧
      decodePayload qatq TransferCodec.fp8.headerScheme payload.codec payload.data n = .ok values ∧
      values.length = xs.length ∧
      (ReconstructedAtScale xs values ↔ blockMax xs = 0 ∨ blockMax xs = 448 / 10) := by
  obtain ⟨payload, values, he, hd, hlen, hget⟩ := decodePayload_encodePayload_fp8 qatq xs n
  refine ⟨payload, values, he, hd, hlen, ?_⟩
  constructor
  · intro h
    by_cases hm : blockMax xs = 0
    · exact Or.inl hm
    · right
      obtain ⟨v, hmem, hv⟩ := blockMax_attained hm
      obtain ⟨i, hi⟩ := List.mem_iff_getElem?.mp hmem
      obtain ⟨byte, hb, hval⟩ := hget i v hi
      have hsame := Option.some.inj (hval.symm.trans (h.largest i v hi hv))
      rw [e4m3ToF32_of_largest hv hm hb, exact_mul] at hsame
      have hscaled : v / blockScale xs * (1 / 10) = v := ExactF32.fin.inj hsame
      rw [← hv, ← congrArg abs hscaled, abs_mul, abs_div_blockScale hv hm]
      norm_num [abs_of_pos]
  · rintro (hm | hm)
    · exact reconstructedAtScale_of_zero hget hm
    · exact reconstructedAtScale_of_agreeing hget hm

/-- The block `[1]` is sent at scale `1 / 448` and comes back as `44.8`. -/
theorem decodePayload_fp8_rescales_one :
    encodePayload Qatq.stored ([1].map ExactF32.fin) .fp8 = .ok ⟨[0x7e], none⟩ ∧
      decodePayload Qatq.stored TransferCodec.fp8.headerScheme none [0x7e] 1 =
        .ok [ExactF32.fin (448 / 10)] ∧
      ¬ReconstructedAtScale [1] [ExactF32.fin (448 / 10)] := by
  refine ⟨by decide +kernel, by decide +kernel, ?_⟩
  intro h
  have hone := h.largest 0 1 rfl (by norm_num [blockMax])
  norm_num at hone

end PermeantOS
