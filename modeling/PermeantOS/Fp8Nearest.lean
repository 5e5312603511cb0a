import PermeantOS.MiniFloat
import PermeantOS.Quant

namespace PermeantOS

section E5m2

variable {F : Type} [F32Arith F]

open F32Arith

/-- `f32_to_e5m2`, with a recursion budget as for `f32_to_e4m3`. From the largest finite number on it
answers with an infinity. -/
def f32ToE5m2Fuel : Nat → F → Option UInt8
  | 0, _ => none
  | fuel + 1, val =>
    if eq val (lit 0) then some 0
    else if isNan val then some 0x7f
    else
      let sign : UInt8 := if isSignNegative val then 0x80 else 0x00
      let absVal := abs val
      if isInfinite absVal then some (sign ||| 0x7c)
      else if lt (lit 57344) absVal || eq absVal (lit 57344) then some (sign ||| 0x7c)
      else
        let exp := floorLog2 absVal + 15
        if exp < 0 then
          let mantissa := max 0 (min (roundI32 (mul absVal (lit 65536))) 3)
          some (sign ||| UInt8.ofNat mantissa.toNat)
        else
          let exp := if 30 < exp then 30 else exp
          let scaleFactor : F := lit (2 ^ (exp - 15))
          let mantVal := mul (sub (div absVal scaleFactor) (lit 1)) (lit 4)
          let mantissa := max 0 (roundI32 mantVal)
          if 3 < mantissa then
            if exp = 30 then some (sign ||| (UInt8.ofNat exp.toNat <<< 2) ||| 3)
            else f32ToE5m2Fuel fuel (mul (signum val) (lit (2 ^ (exp - 14))))
          else some (sign ||| (UInt8.ofNat exp.toNat <<< 2) ||| UInt8.ofNat mantissa.toNat)

def f32ToE5m2 (val : F) : Option UInt8 := f32ToE5m2Fuel 2 val

/-- `f32::INFINITY` is one over zero. -/
def e5m2ToF32 (byte : UInt8) : F :=
  let sign : F := if byte &&& 0x80 ≠ 0 then lit (-1) else lit 1
  let exp := (byte &&& 0x7c) >>> 2
  let mant := byte &&& 0x03
  if exp = 0 then mul (mul sign (lit (2 ^ (-14 : Int)))) (div (lit mant.toNat) (lit 4))
  else if exp = 31 then
    if mant = 0 then mul sign (div (lit 1) (lit 0)) else nan
  else mul (mul sign (lit (2 ^ ((exp.toNat : Int) - 15))))
    (add (lit 1) (div (lit mant.toNat) (lit 4)))

end E5m2

section Formats

def e4m3 : MiniFormat := ⟨8, 7, by decide⟩

def e5m2 : MiniFormat := ⟨4, 15, by decide⟩

theorem e4m3_step : e4m3.step = 1 / 512 := by norm_num [MiniFormat.step, e4m3]

theorem e5m2_step : e5m2.step = 1 / 65536 := by norm_num [MiniFormat.step, e5m2]

/-- The finite numbers that the bytes of a format stand for. -/
def e4m3Values : Set ℚ := { q | ∃ byte, e4m3ToF32 byte = ExactF32.fin q }

def e5m2Values : Set ℚ := { q | ∃ byte, e5m2ToF32 byte = ExactF32.fin q }

def signed (negative : Bool) (q : ℚ) : ℚ := if negative then -q else q

def signBit (negative : Bool) : UInt8 := if negative then 0x80 else 0x00

theorem e4m3_fields : ∀ (negative : Bool) (exponent : Fin 16) (significand : Fin 8),
    ((signBit negative ||| (UInt8.ofNat exponent <<< 3) ||| UInt8.ofNat significand) &&& 0x80 ≠ 0 ↔
      negative = true) ∧
    ((signBit negative ||| (UInt8.ofNat exponent <<< 3) ||| UInt8.ofNat significand) &&& 0x78) >>> 3 =
      UInt8.ofNat exponent ∧
    (signBit negative ||| (UInt8.ofNat exponent <<< 3) ||| UInt8.ofNat significand) &&& 0x07 =
      UInt8.ofNat significand := by
  decide +kernel

theorem e5m2_fields : ∀ (negative : Bool) (exponent : Fin 32) (significand : Fin 4),
    ((signBit negative ||| (UInt8.ofNat exponent <<< 2) ||| UInt8.ofNat significand) &&& 0x80 ≠ 0 ↔
      negative = true) ∧
    ((signBit negative ||| (UInt8.ofNat exponent <<< 2) ||| UInt8.ofNat significand) &&& 0x7c) >>> 2 =
      UInt8.ofNat exponent ∧
    (signBit negative ||| (UInt8.ofNat exponent <<< 2) ||| UInt8.ofNat significand) &&& 0x03 =
      UInt8.ofNat significand := by
  decide +kernel

@[simp] theorem exact_add (a b : ℚ) : F32Arith.add (ExactF32.fin a) (.fin b) = .fin (a + b) := rfl

theorem uint8_toNat_ne_zero {x : UInt8} (h : x ≠ 0) : x.toNat ≠ 0 :=
  fun hz => h (UInt8.toNat_inj.mp hz)

/-- A byte that is not a NaN stands for the value of its fields. -/
theorem e4m3ToF32_exact (byte : UInt8) (h : ¬((byte &&& 0x78) >>> 3 = 15 ∧ byte &&& 0x07 = 7)) :
    e4m3ToF32 byte = ExactF32.fin (signed (byte &&& 0x80 ≠ 0)
      (e4m3.value ((byte &&& 0x78) >>> 3).toNat (byte &&& 0x07).toNat)) := by
  unfold e4m3ToF32
  dsimp only
  rw [if_neg h]
  generalize (byte &&& 0x78) >>> 3 = exponent
  generalize byte &&& 0x07 = significand
  by_cases hexponent : exponent = 0
  · subst hexponent
    by_cases hsign : byte &&& 0x80 ≠ 0
    · simp [hsign, signed, MiniFormat.value, e4m3, exact_div]
    · simp [hsign, signed, MiniFormat.value, e4m3, exact_div]
  · have hne := uint8_toNat_ne_zero hexponent
    by_cases hsign : byte &&& 0x80 ≠ 0
    · simp [hexponent, hne, hsign, signed, MiniFormat.value, e4m3, exact_div]
    · simp [hexponent, hne, hsign, signed, MiniFormat.value, e4m3, exact_div]

theorem e5m2ToF32_exact (byte : UInt8) (h : (byte &&& 0x7c) >>> 2 ≠ 31) :
    e5m2ToF32 byte = ExactF32.fin (signed (byte &&& 0x80 ≠ 0)
      (e5m2.value ((byte &&& 0x7c) >>> 2).toNat (byte &&& 0x03).toNat)) := by
  unfold e5m2ToF32
  dsimp only
  rw [if_neg h]
  generalize (byte &&& 0x7c) >>> 2 = exponent
  generalize byte &&& 0x03 = significand
  by_cases hexponent : exponent = 0
  · subst hexponent
    by_cases hsign : byte &&& 0x80 ≠ 0
    · simp [hsign, signed, MiniFormat.value, e5m2, exact_div]
    · simp [hsign, signed, MiniFormat.value, e5m2, exact_div]
  · have hne := uint8_toNat_ne_zero hexponent
    by_cases hsign : byte &&& 0x80 ≠ 0
    · simp [hexponent, hne, hsign, signed, MiniFormat.value, e5m2, exact_div]
    · simp [hexponent, hne, hsign, signed, MiniFormat.value, e5m2, exact_div]

theorem signed_value_mem_grid (format : MiniFormat) (negative : Bool) (exponent : Nat) {significand : Nat}
    (h : significand < format.count) : signed negative (format.value exponent significand) ∈ format.grid := by
  cases negative with
  | false => exact ⟨exponent, significand, h, Or.inl rfl⟩
  | true => exact ⟨exponent, significand, h, Or.inr rfl⟩

theorem uint8_fields_lt (byte : UInt8) :
    (byte &&& 0x07).toNat < 8 ∧ (byte &&& 0x03).toNat < 4 ∧ ((byte &&& 0x78) >>> 3).toNat < 16 ∧
      ((byte &&& 0x7c) >>> 2).toNat < 32 := by
  have h₁ : byte.toNat &&& 7 ≤ 7 := Nat.and_le_right
  have h₂ : byte.toNat &&& 3 ≤ 3 := Nat.and_le_right
  have h₃ : byte.toNat &&& 120 ≤ 120 := Nat.and_le_right
  have h₄ : byte.toNat &&& 124 ≤ 124 := Nat.and_le_right
  simp only [UInt8.toNat_shiftRight, UInt8.toNat_and, UInt8.reduceToNat, Nat.shiftRight_eq_div_pow,
    Nat.reduceMod, Nat.reducePow]
  omega

/-- A finite number of the format comes from fields in range. -/
theorem mem_e4m3Values {q : ℚ} (h : q ∈ e4m3Values) : ∃ negative exponent significand, exponent < 16 ∧
    significand < 8 ∧ ¬(exponent = 15 ∧ significand = 7) ∧ q = signed negative (e4m3.value exponent significand) := by
  obtain ⟨byte, hbyte⟩ := h
  obtain ⟨hsignificand, _, hexponent, _⟩ := uint8_fields_lt byte
  by_cases hnan : (byte &&& 0x78) >>> 3 = 15 ∧ byte &&& 0x07 = 7
  · have hnot : (e4m3ToF32 byte : ExactF32) = .nan := by
      unfold e4m3ToF32
      dsimp only
      rw [if_neg (by rw [hnan.1]; decide), if_pos hnan]
      rfl
    cases hnot.symm.trans hbyte
  · cases (e4m3ToF32_exact byte hnan).symm.trans hbyte
    refine ⟨_, _, _, hexponent, hsignificand, ?_, rfl⟩
    intro hboth
    exact hnan ⟨UInt8.toNat_inj.mp hboth.1, UInt8.toNat_inj.mp hboth.2⟩

theorem mem_e5m2Values {q : ℚ} (h : q ∈ e5m2Values) : ∃ negative exponent significand, exponent < 31 ∧
    significand < 4 ∧ q = signed negative (e5m2.value exponent significand) := by
  obtain ⟨byte, hbyte⟩ := h
  obtain ⟨_, hsignificand, _, hexponent⟩ := uint8_fields_lt byte
  by_cases hinf : (byte &&& 0x7c) >>> 2 = 31
  · have hnot : (e5m2ToF32 byte : ExactF32) ≠ .fin q := by
      have hbelow : F32Arith.mul (F32Arith.lit (-1)) (F32Arith.div (F32Arith.lit 1) (F32Arith.lit 0)) =
        ExactF32.inf true := by decide
      have habove : F32Arith.mul (F32Arith.lit 1) (F32Arith.div (F32Arith.lit 1) (F32Arith.lit 0)) =
        ExactF32.inf false := by decide
      unfold e5m2ToF32
      dsimp only
      rw [if_neg (by rw [hinf]; decide), if_pos hinf]
      by_cases hmant : byte &&& 0x03 = 0
      · rw [if_pos hmant]
        by_cases hsign : byte &&& 0x80 ≠ 0
        · rw [if_pos hsign, hbelow]
          nofun
        · rw [if_neg hsign, habove]
          nofun
      · rw [if_neg hmant]
        nofun
    exact absurd hbyte hnot
  · cases (e5m2ToF32_exact byte hinf).symm.trans hbyte
    refine ⟨_, _, _, ?_, hsignificand, rfl⟩
    have hne : ((byte &&& 0x7c) >>> 2).toNat ≠ 31 := fun heq => hinf (UInt8.toNat_inj.mp heq)
    omega

theorem e4m3Values_subset : e4m3Values ⊆ e4m3.grid := by
  intro q hq
  obtain ⟨negative, exponent, significand, _, hsignificand, _, rfl⟩ := mem_e4m3Values hq
  exact signed_value_mem_grid e4m3 negative exponent hsignificand

theorem e5m2Values_subset : e5m2Values ⊆ e5m2.grid := by
  intro q hq
  obtain ⟨negative, exponent, significand, _, hsignificand, rfl⟩ := mem_e5m2Values hq
  exact signed_value_mem_grid e5m2 negative exponent hsignificand

/-- The byte of a sign and of fields in range. -/
theorem e4m3ToF32_fields (negative : Bool) {exponent significand : Nat} (hexponent : exponent < 16)
    (hsignificand : significand < 8) (hfinite : ¬(exponent = 15 ∧ significand = 7)) :
    e4m3ToF32 (signBit negative ||| (UInt8.ofNat exponent <<< 3) ||| UInt8.ofNat significand) =
      ExactF32.fin (signed negative (e4m3.value exponent significand)) := by
  obtain ⟨hsign, hfirst, hsecond⟩ := e4m3_fields negative ⟨exponent, hexponent⟩ ⟨significand, hsignificand⟩
  have hexp : (UInt8.ofNat exponent).toNat = exponent := by
    rw [UInt8.toNat_ofNat']
    exact Nat.mod_eq_of_lt (by omega)
  have hmant : (UInt8.ofNat significand).toNat = significand := by
    rw [UInt8.toNat_ofNat']
    exact Nat.mod_eq_of_lt (by omega)
  rw [e4m3ToF32_exact _ ?_, hfirst, hsecond, hexp, hmant]
  · congr 2
    cases negative with
    | false => exact decide_eq_false (by simpa using hsign)
    | true => exact decide_eq_true (by simpa using hsign)
  · rw [hfirst, hsecond]
    intro hboth
    apply hfinite
    exact ⟨by simpa [hexp] using congrArg UInt8.toNat hboth.1, by simpa [hmant] using congrArg UInt8.toNat hboth.2⟩

theorem e5m2ToF32_fields (negative : Bool) {exponent significand : Nat} (hexponent : exponent < 31)
    (hsignificand : significand < 4) :
    e5m2ToF32 (signBit negative ||| (UInt8.ofNat exponent <<< 2) ||| UInt8.ofNat significand) =
      ExactF32.fin (signed negative (e5m2.value exponent significand)) := by
  obtain ⟨hsign, hfirst, hsecond⟩ := e5m2_fields negative ⟨exponent, by omega⟩ ⟨significand, hsignificand⟩
  have hexp : (UInt8.ofNat exponent).toNat = exponent := by
    rw [UInt8.toNat_ofNat']
    exact Nat.mod_eq_of_lt (by omega)
  have hmant : (UInt8.ofNat significand).toNat = significand := by
    rw [UInt8.toNat_ofNat']
    exact Nat.mod_eq_of_lt (by omega)
  rw [e5m2ToF32_exact _ ?_, hfirst, hsecond, hexp, hmant]
  · congr 2
    cases negative with
    | false => exact decide_eq_false (by simpa using hsign)
    | true => exact decide_eq_true (by simpa using hsign)
  · rw [hfirst]
    intro hboth
    have := congrArg UInt8.toNat hboth
    rw [hexp] at this
    simp at this
    omega

end Formats

section Encoders

variable {v : ℚ}

theorem exact_floorLog2_of_le {a : ℚ} (ha : 0 < a) (hlow : -2 ^ 31 ≤ Int.log 2 a) (hhigh : Int.log 2 a < 2 ^ 31) :
    F32Arith.floorLog2 (ExactF32.fin a) = Int.log 2 a := by
  simp only [F32Arith.floorLog2, ExactF32.floorLog2, if_neg ha.ne', if_neg ha.not_gt, saturateI32]
  omega

theorem exact_floorLog2_lt {a : ℚ} (ha : 0 < a) (bound : Int) (hbound : -2 ^ 31 < bound)
    (h : Int.log 2 a < bound) : F32Arith.floorLog2 (ExactF32.fin a) < bound := by
  simp only [F32Arith.floorLog2, ExactF32.floorLog2, if_neg ha.ne', if_neg ha.not_gt, saturateI32]
  omega

theorem exact_roundI32 {q : ℚ} {n : Int} (h : roundHalfAway q = n) (hlow : -2 ^ 31 ≤ n) (hhigh : n < 2 ^ 31) :
    F32Arith.roundI32 (ExactF32.fin q) = n := by
  show saturateI32 _ = _
  rw [h, saturateI32]
  omega

theorem log_lt_of_lt {a : ℚ} (ha : 0 < a) {n : Int} (h : a < 2 ^ n) : Int.log 2 a < n := by
  have hpow := lt_of_le_of_lt (MiniFormat.zpow_log_le ha) h
  exact (zpow_lt_zpow_iff_right₀ (by norm_num : (1 : ℚ) < 2)).mp hpow

theorem abs_signed_zpow (negative : Bool) (k : Int) : |signed negative (2 ^ k)| = 2 ^ k := by
  have hpos : (0 : ℚ) < 2 ^ k := zpow_pos (by norm_num) k
  cases negative with
  | false => exact abs_of_pos hpos
  | true => rw [signed, if_pos rfl, abs_neg, abs_of_pos hpos]

theorem signed_zpow_ne_zero (negative : Bool) (k : Int) : signed negative ((2 : ℚ) ^ k) ≠ 0 := by
  have hpos : (0 : ℚ) < 2 ^ k := zpow_pos (by norm_num) k
  have habs := abs_signed_zpow negative k
  intro hzero
  rw [hzero, abs_zero] at habs
  linarith

theorem signed_zpow_neg (negative : Bool) (k : Int) : decide (signed negative ((2 : ℚ) ^ k) < 0) = negative := by
  have hpos : (0 : ℚ) < 2 ^ k := zpow_pos (by norm_num) k
  cases negative with
  | false => simp [signed, hpos.le]
  | true => simp [signed, hpos]

theorem f32ToE4m3Fuel_subnormal (fuel : Nat) (hne : v ≠ 0) (he : Int.log 2 |v| + 7 < 0) :
    ∃ m : Int, m = roundHalfAway (|v| * 512) ∧ 0 ≤ m ∧ m ≤ 7 ∧
      f32ToE4m3Fuel (fuel + 1) (ExactF32.fin v) = some (signBit (v < 0) ||| UInt8.ofNat m.toNat) := by
  have hpos := abs_pos.mpr hne
  have hsmall : |v| < 2 ^ (-7 : Int) :=
    lt_of_lt_of_le (MiniFormat.lt_zpow_log _) (zpow_le_zpow_right₀ (by norm_num) (by omega))
  norm_num at hsmall
  have hlow : 0 ≤ |v| * 512 := by linarith
  have hm0 := roundHalfAway_nonneg hlow
  have hm : roundHalfAway (|v| * 512) ≤ 7 := roundHalfAway_le_of_lt hlow (by push_cast; linarith)
  refine ⟨_, rfl, hm0, hm, ?_⟩
  have hlog := exact_floorLog2_lt hpos (-7) (by norm_num) (by omega)
  have hround := exact_roundI32 (q := |v| * 512) rfl (by omega) (by omega)
  rw [f32ToE4m3Fuel]
  simp only [exact_lit, exact_eq, exact_isNan, exact_abs, exact_lt, hne, show ¬448 < |v| by linarith,
    show ¬|v| = 448 by linarith, exact_mul, hround, decide_false, Bool.or_self, Bool.false_eq_true,
    if_false, exact_isSignNegative, show F32Arith.floorLog2 (ExactF32.fin |v|) + 7 < 0 by omega, if_true,
    signBit, min_eq_left hm, max_eq_right hm0]
  rfl

theorem f32ToE4m3Fuel_normal (fuel : Nat) (hne : v ≠ 0) (hv : |v| < 448) (he : 0 ≤ Int.log 2 |v| + 7) :
    ∃ m : Int, m = roundHalfAway ((|v| / 2 ^ Int.log 2 |v| - 1) * 8) ∧ 0 ≤ m ∧ m ≤ 8 ∧
      (Int.log 2 |v| = 8 → m ≤ 6) ∧ Int.log 2 |v| ≤ 8 ∧
      f32ToE4m3Fuel (fuel + 1) (ExactF32.fin v) =
        if 7 < m then f32ToE4m3Fuel fuel (ExactF32.fin (signed (v < 0) (2 ^ (Int.log 2 |v| + 1))))
        else some (signBit (v < 0) ||| (UInt8.ofNat (Int.log 2 |v| + 7).toNat <<< 3) ||| UInt8.ofNat m.toNat) := by
  have hpos := abs_pos.mpr hne
  have hlog : Int.log 2 |v| < 9 := log_lt_of_lt hpos (by norm_num; linarith)
  obtain ⟨hlow, hhigh⟩ := e4m3.significand_bounds hpos
  change 0 ≤ (|v| / 2 ^ Int.log 2 |v| - 1) * 8 at hlow
  change (|v| / 2 ^ Int.log 2 |v| - 1) * 8 < 8 at hhigh
  have hm0 := roundHalfAway_nonneg hlow
  have hm : roundHalfAway ((|v| / 2 ^ Int.log 2 |v| - 1) * 8) ≤ 8 :=
    roundHalfAway_le_of_lt hlow (by push_cast; linarith)
  have htop : Int.log 2 |v| = 8 → roundHalfAway ((|v| / 2 ^ Int.log 2 |v| - 1) * 8) ≤ 6 := by
    intro heq
    apply roundHalfAway_le_of_lt hlow
    rw [heq]
    norm_num
    linarith
  refine ⟨_, rfl, hm0, hm, htop, by omega, ?_⟩
  have hexp := exact_floorLog2_of_le hpos (by omega) (by omega)
  have hround := exact_roundI32 (q := (|v| / 2 ^ Int.log 2 |v| - 1) * 8) rfl (by omega) (by omega)
  have hpow : (2 : ℚ) ^ Int.log 2 |v| ≠ 0 := (zpow_pos (by norm_num) _).ne'
  rw [f32ToE4m3Fuel]
  simp only [exact_lit, exact_eq, exact_isNan, exact_abs, exact_lt, hne, show ¬448 < |v| by linarith,
    show ¬|v| = 448 by linarith, decide_false, Bool.or_self, Bool.false_eq_true, if_false,
    exact_isSignNegative, hexp, show ¬Int.log 2 |v| + 7 < 0 by omega, show ¬15 < Int.log 2 |v| + 7 by omega,
    add_sub_cancel_right, exact_div hpow, exact_sub, exact_mul, hround, max_eq_right hm0, exact_signum]
  by_cases hcarry : 7 < roundHalfAway ((|v| / 2 ^ Int.log 2 |v| - 1) * 8)
  · have hne15 : ¬Int.log 2 |v| + 7 = 15 := fun heq => by have := htop (by omega); omega
    have hnext : Int.log 2 |v| + 7 - 6 = Int.log 2 |v| + 1 := by omega
    rw [if_pos hcarry, if_pos hcarry, if_neg hne15, hnext]
    by_cases hneg : v < 0
    · simp [hneg, signed]
    · simp [hneg, signed]
  · rw [if_neg hcarry, if_neg hcarry]
    rfl

/-- The encoder computes the fields of the format. -/
theorem f32ToE4m3_fields (hne : v ≠ 0) (hv : |v| < 448) :
    f32ToE4m3 (ExactF32.fin v) = some (signBit (v < 0) ||| (UInt8.ofNat (e4m3.fields |v|).1 <<< 3) |||
        UInt8.ofNat (e4m3.fields |v|).2) ∧
      (e4m3.fields |v|).1 < 16 ∧ (e4m3.fields |v|).2 < 8 ∧
      ¬((e4m3.fields |v|).1 = 15 ∧ (e4m3.fields |v|).2 = 7) := by
  have hstep : |v| / e4m3.step = |v| * 512 := by rw [e4m3_step, div_div_eq_mul_div, div_one]
  have hbias : e4m3.bias = 7 := rfl
  have hcount : ((e4m3.count : Nat) : ℚ) = 8 := by norm_num [e4m3]
  have hcount' : ((e4m3.count : Nat) : Int) = 8 := rfl
  rw [f32ToE4m3, MiniFormat.fields]
  dsimp only
  rw [hbias, hcount, hcount', hstep]
  by_cases he : Int.log 2 |v| + 7 < 0
  · obtain ⟨m, hm, hm0, hm7, hencode⟩ := f32ToE4m3Fuel_subnormal 1 hne he
    rw [if_pos he, hencode, ← hm]
    exact ⟨by simp, by omega, by omega, by omega⟩
  obtain ⟨m, hm, hm0, hm8, htop, hlog, hencode⟩ := f32ToE4m3Fuel_normal 1 hne hv (by omega)
  rw [if_neg he, hencode, ← hm]
  by_cases hcarry : 7 < m
  · -- the second call is made on the next power of two
    have hlog' : Int.log 2 |v| ≤ 7 := by
      by_contra hgt
      have := htop (by omega)
      omega
    have hpower := abs_signed_zpow (decide (v < 0)) (Int.log 2 |v| + 1)
    have hpos : (0 : ℚ) < 2 ^ (Int.log 2 |v| + 1) := zpow_pos (by norm_num) _
    have hnext := log_two_zpow (Int.log 2 |v| + 1)
    have hbound : (2 : ℚ) ^ (Int.log 2 |v| + 1) < 448 := by
      have : (2 : ℚ) ^ (Int.log 2 |v| + 1) ≤ 2 ^ (8 : Int) := zpow_le_zpow_right₀ (by norm_num) (by omega)
      norm_num at this
      linarith
    have hne' := signed_zpow_ne_zero (decide (v < 0)) (Int.log 2 |v| + 1)
    obtain ⟨n, hn, _, _, _, _, hagain⟩ := f32ToE4m3Fuel_normal 0 hne' (by rw [hpower]; exact hbound)
      (by rw [hpower, hnext]; omega)
    rw [hpower, hnext, div_self hpos.ne', sub_self, zero_mul] at hn
    have hzero : n = 0 := by rw [hn]; norm_num [roundHalfAway]
    rw [hpower, hnext, hzero, if_neg (by omega), signed_zpow_neg] at hagain
    rw [if_pos hcarry, if_neg (by omega), hagain]
    exact ⟨rfl, by omega, by omega, by omega⟩
  · rw [if_neg hcarry, if_pos (by omega)]
    refine ⟨rfl, by omega, by omega, ?_⟩
    intro hboth
    have := htop (by omega)
    omega

/-- What comes back for a number below the largest one. -/
theorem f32ToE4m3_encoded (hne : v ≠ 0) (hv : |v| < 448) : ∃ byte,
    f32ToE4m3 (ExactF32.fin v) = some byte ∧
      e4m3ToF32 byte = ExactF32.fin (signed (v < 0) (e4m3.encoded |v|)) := by
  obtain ⟨hencode, hexponent, hsignificand, hfinite⟩ := f32ToE4m3_fields hne hv
  refine ⟨_, hencode, ?_⟩
  rw [e4m3ToF32_fields _ hexponent hsignificand hfinite, MiniFormat.value_fields _ (abs_pos.mpr hne)]

theorem f32ToE5m2Fuel_subnormal (fuel : Nat) (hne : v ≠ 0) (he : Int.log 2 |v| + 15 < 0) :
    ∃ m : Int, m = roundHalfAway (|v| * 65536) ∧ 0 ≤ m ∧ m ≤ 3 ∧
      f32ToE5m2Fuel (fuel + 1) (ExactF32.fin v) = some (signBit (v < 0) ||| UInt8.ofNat m.toNat) := by
  have hpos := abs_pos.mpr hne
  have hsmall : |v| < 2 ^ (-15 : Int) :=
    lt_of_lt_of_le (MiniFormat.lt_zpow_log _) (zpow_le_zpow_right₀ (by norm_num) (by omega))
  norm_num at hsmall
  have hlow : 0 ≤ |v| * 65536 := by linarith
  have hm0 := roundHalfAway_nonneg hlow
  have hm : roundHalfAway (|v| * 65536) ≤ 3 := roundHalfAway_le_of_lt hlow (by push_cast; linarith)
  refine ⟨_, rfl, hm0, hm, ?_⟩
  have hlog := exact_floorLog2_lt hpos (-15) (by norm_num) (by omega)
  have hround := exact_roundI32 (q := |v| * 65536) rfl (by omega) (by omega)
  rw [f32ToE5m2Fuel]
  simp only [exact_lit, exact_eq, exact_isNan, exact_isInfinite, exact_abs, exact_lt, hne,
    show ¬57344 < |v| by linarith, show ¬|v| = 57344 by linarith, exact_mul, hround, decide_false,
    Bool.or_self, Bool.false_eq_true, if_false, exact_isSignNegative,
    show F32Arith.floorLog2 (ExactF32.fin |v|) + 15 < 0 by omega, if_true, signBit, min_eq_left hm,
    max_eq_right hm0]
  rfl

theorem f32ToE5m2Fuel_normal (fuel : Nat) (hne : v ≠ 0) (hv : |v| < 57344) (he : 0 ≤ Int.log 2 |v| + 15) :
    ∃ m : Int, m = roundHalfAway ((|v| / 2 ^ Int.log 2 |v| - 1) * 4) ∧ 0 ≤ m ∧ m ≤ 4 ∧
      (Int.log 2 |v| = 15 → m ≤ 3) ∧ Int.log 2 |v| ≤ 15 ∧
      f32ToE5m2Fuel (fuel + 1) (ExactF32.fin v) =
        if 3 < m then f32ToE5m2Fuel fuel (ExactF32.fin (signed (v < 0) (2 ^ (Int.log 2 |v| + 1))))
        else some (signBit (v < 0) ||| (UInt8.ofNat (Int.log 2 |v| + 15).toNat <<< 2) |||
          UInt8.ofNat m.toNat) := by
  have hpos := abs_pos.mpr hne
  have hlog : Int.log 2 |v| < 16 := log_lt_of_lt hpos (by norm_num; linarith)
  obtain ⟨hlow, hhigh⟩ := e5m2.significand_bounds hpos
  change 0 ≤ (|v| / 2 ^ Int.log 2 |v| - 1) * 4 at hlow
  change (|v| / 2 ^ Int.log 2 |v| - 1) * 4 < 4 at hhigh
  have hm0 := roundHalfAway_nonneg hlow
  have hm : roundHalfAway ((|v| / 2 ^ Int.log 2 |v| - 1) * 4) ≤ 4 :=
    roundHalfAway_le_of_lt hlow (by push_cast; linarith)
  have htop : Int.log 2 |v| = 15 → roundHalfAway ((|v| / 2 ^ Int.log 2 |v| - 1) * 4) ≤ 3 := by
    intro heq
    apply roundHalfAway_le_of_lt hlow
    rw [heq]
    norm_num
    linarith
  refine ⟨_, rfl, hm0, hm, htop, by omega, ?_⟩
  have hexp := exact_floorLog2_of_le hpos (by omega) (by omega)
  have hround := exact_roundI32 (q := (|v| / 2 ^ Int.log 2 |v| - 1) * 4) rfl (by omega) (by omega)
  have hpow : (2 : ℚ) ^ Int.log 2 |v| ≠ 0 := (zpow_pos (by norm_num) _).ne'
  rw [f32ToE5m2Fuel]
  simp only [exact_lit, exact_eq, exact_isNan, exact_isInfinite, exact_abs, exact_lt, hne,
    show ¬57344 < |v| by linarith, show ¬|v| = 57344 by linarith, decide_false, Bool.or_self,
    Bool.false_eq_true, if_false, exact_isSignNegative, hexp, show ¬Int.log 2 |v| + 15 < 0 by omega,
    show ¬30 < Int.log 2 |v| + 15 by omega, add_sub_cancel_right, exact_div hpow, exact_sub, exact_mul,
    hround, max_eq_right hm0, exact_signum]
  by_cases hcarry : 3 < roundHalfAway ((|v| / 2 ^ Int.log 2 |v| - 1) * 4)
  · have hne30 : ¬Int.log 2 |v| + 15 = 30 := fun heq => by have := htop (by omega); omega
    have hnext : Int.log 2 |v| + 15 - 14 = Int.log 2 |v| + 1 := by omega
    rw [if_pos hcarry, if_pos hcarry, if_neg hne30, hnext]
    by_cases hneg : v < 0
    · simp [hneg, signed]
    · simp [hneg, signed]
  · rw [if_neg hcarry, if_neg hcarry]
    rfl

theorem f32ToE5m2_fields (hne : v ≠ 0) (hv : |v| < 57344) :
    f32ToE5m2 (ExactF32.fin v) = some (signBit (v < 0) ||| (UInt8.ofNat (e5m2.fields |v|).1 <<< 2) |||
        UInt8.ofNat (e5m2.fields |v|).2) ∧
      (e5m2.fields |v|).1 < 31 ∧ (e5m2.fields |v|).2 < 4 := by
  have hstep : |v| / e5m2.step = |v| * 65536 := by rw [e5m2_step, div_div_eq_mul_div, div_one]
  have hbias : e5m2.bias = 15 := rfl
  have hcount : ((e5m2.count : Nat) : ℚ) = 4 := by norm_num [e5m2]
  have hcount' : ((e5m2.count : Nat) : Int) = 4 := rfl
  rw [f32ToE5m2, MiniFormat.fields]
  dsimp only
  rw [hbias, hcount, hcount', hstep]
  by_cases he : Int.log 2 |v| + 15 < 0
  · obtain ⟨m, hm, hm0, hm3, hencode⟩ := f32ToE5m2Fuel_subnormal 1 hne he
    rw [if_pos he, hencode, ← hm]
    exact ⟨by simp, by omega, by omega⟩
  obtain ⟨m, hm, hm0, hm4, htop, hlog, hencode⟩ := f32ToE5m2Fuel_normal 1 hne hv (by omega)
  rw [if_neg he, hencode, ← hm]
  by_cases hcarry : 3 < m
  · have hlog' : Int.log 2 |v| ≤ 14 := by
      by_contra hgt
      have := htop (by omega)
      omega
    have hpower := abs_signed_zpow (decide (v < 0)) (Int.log 2 |v| + 1)
    have hpos : (0 : ℚ) < 2 ^ (Int.log 2 |v| + 1) := zpow_pos (by norm_num) _
    have hnext := log_two_zpow (Int.log 2 |v| + 1)
    have hbound : (2 : ℚ) ^ (Int.log 2 |v| + 1) < 57344 := by
      have : (2 : ℚ) ^ (Int.log 2 |v| + 1) ≤ 2 ^ (15 : Int) := zpow_le_zpow_right₀ (by norm_num) (by omega)
      norm_num at this
      linarith
    have hne' := signed_zpow_ne_zero (decide (v < 0)) (Int.log 2 |v| + 1)
    obtain ⟨n, hn, _, _, _, _, hagain⟩ := f32ToE5m2Fuel_normal 0 hne' (by rw [hpower]; exact hbound)
      (by rw [hpower, hnext]; omega)
    rw [hpower, hnext, div_self hpos.ne', sub_self, zero_mul] at hn
    have hzero : n = 0 := by rw [hn]; norm_num [roundHalfAway]
    rw [hpower, hnext, hzero, if_neg (by omega), signed_zpow_neg] at hagain
    rw [if_pos hcarry, if_neg (by omega), hagain]
    exact ⟨rfl, by omega, by omega⟩
  · rw [if_neg hcarry, if_pos (by omega)]
    exact ⟨rfl, by omega, by omega⟩

theorem f32ToE5m2_encoded (hne : v ≠ 0) (hv : |v| < 57344) : ∃ byte,
    f32ToE5m2 (ExactF32.fin v) = some byte ∧
      e5m2ToF32 byte = ExactF32.fin (signed (v < 0) (e5m2.encoded |v|)) := by
  obtain ⟨hencode, hexponent, hsignificand⟩ := f32ToE5m2_fields hne hv
  refine ⟨_, hencode, ?_⟩
  rw [e5m2ToF32_fields _ hexponent hsignificand, MiniFormat.value_fields _ (abs_pos.mpr hne)]

end Encoders

section Nearest

theorem signed_not (negative : Bool) (q : ℚ) : signed (!negative) q = -signed negative q := by
  cases negative <;> simp [signed]

theorem e4m3Values_neg : ∀ q ∈ e4m3Values, -q ∈ e4m3Values := by
  intro q hq
  obtain ⟨negative, exponent, significand, hexponent, hsignificand, hfinite, rfl⟩ := mem_e4m3Values hq
  rw [← signed_not]
  exact ⟨_, e4m3ToF32_fields (!negative) hexponent hsignificand hfinite⟩

theorem e5m2Values_neg : ∀ q ∈ e5m2Values, -q ∈ e5m2Values := by
  intro q hq
  obtain ⟨negative, exponent, significand, hexponent, hsignificand, rfl⟩ := mem_e5m2Values hq
  rw [← signed_not]
  exact ⟨_, e5m2ToF32_fields (!negative) hexponent hsignificand⟩

/-- The multiples of the step up to the smallest normal number. -/
theorem e4m3Values_steps (k : Nat) (h : k ≤ e4m3.count) : k * e4m3.step ∈ e4m3Values := by
  change k ≤ 8 at h
  by_cases hk : k < 8
  · rw [← MiniFormat.value_subnormal]
    exact ⟨_, e4m3ToF32_fields false (by decide : 0 < 16) hk (by omega)⟩
  · have heq : k = 8 := by omega
    have hvalue : ((8 : Nat) : ℚ) * e4m3.step = e4m3.value 1 0 := by norm_num [MiniFormat.step, MiniFormat.value, e4m3]
    rw [heq, hvalue]
    exact ⟨_, e4m3ToF32_fields false (by decide : 1 < 16) (by decide : 0 < 8) (by decide)⟩

theorem e5m2Values_steps (k : Nat) (h : k ≤ e5m2.count) : k * e5m2.step ∈ e5m2Values := by
  change k ≤ 4 at h
  by_cases hk : k < 4
  · rw [← MiniFormat.value_subnormal]
    exact ⟨_, e5m2ToF32_fields false (by decide : 0 < 31) hk⟩
  · have heq : k = 4 := by omega
    have hvalue : ((4 : Nat) : ℚ) * e5m2.step = e5m2.value 1 0 := by norm_num [MiniFormat.step, MiniFormat.value, e5m2]
    rw [heq, hvalue]
    exact ⟨_, e5m2ToF32_fields false (by decide : 1 < 31) (by decide : 0 < 4)⟩

/-- What an encoder makes of `v` is decoded to a finite number that is nearest to `v`. -/
def EncodesNearest (encode : ExactF32 → Option UInt8) (decode : UInt8 → ExactF32) (v : ℚ) : Prop :=
  ∃ byte q, encode (.fin v) = some byte ∧ decode byte = .fin q ∧
    Nearest { r | ∃ other, decode other = .fin r } v q

theorem encodesNearest_iff {encode : ExactF32 → Option UInt8} {decode : UInt8 → ExactF32} {v q : ℚ} {byte : UInt8}
    (hencode : encode (.fin v) = some byte) (hdecode : decode byte = .fin q) :
    EncodesNearest encode decode v ↔ Nearest { r | ∃ other, decode other = .fin r } v q := by
  constructor
  · intro h
    obtain ⟨byte', q', hbyte, hq, hnear⟩ := h
    cases hencode.symm.trans hbyte
    cases hdecode.symm.trans hq
    exact hnear
  · intro h
    exact ⟨byte, q, hencode, hdecode, h⟩

theorem nearest_self {S : Set ℚ} {x : ℚ} (h : x ∈ S) : Nearest S x x := by
  refine ⟨h, ?_⟩
  intro r _
  rw [sub_self, abs_zero]
  exact abs_nonneg _

/-- An encoder that computes the fields of its format is right exactly where the seam does no harm. -/
theorem nearest_signed_encoded_iff {format : MiniFormat} {S : Set ℚ} (hsub : S ⊆ format.grid)
    (hneg : ∀ q ∈ S, -q ∈ S) (hsteps : ∀ k : Nat, k ≤ format.count → k * format.step ∈ S) {v : ℚ} (hne : v ≠ 0)
    (hmem : signed (v < 0) (format.encoded |v|) ∈ S) :
    Nearest S v (signed (v < 0) (format.encoded |v|)) ↔ format.SeamExact |v| := by
  have hpos := abs_pos.mpr hne
  by_cases hv : v < 0
  · simp only [hv, decide_true, signed, if_true] at hmem ⊢
    have hmem' : format.encoded |v| ∈ S := by
      have := hneg _ hmem
      rwa [neg_neg] at this
    rw [← format.nearest_encoded_iff hpos hsub hsteps hmem', ← nearest_neg_iff hneg, abs_of_neg hv, neg_neg]
  · have habs : |v| = v := abs_of_nonneg (not_lt.mp hv)
    simp only [hv, decide_false, signed, Bool.false_eq_true, if_false] at hmem ⊢
    rw [← format.nearest_encoded_iff hpos hsub hsteps hmem, habs]

theorem e4m3_seamExact_iff (a : ℚ) : e4m3.SeamExact a ↔
    a < 1 / 128 ∨ (29 / 2048 ≤ a ∧ a ≤ 15 / 1024) ∨ 31 / 2048 ≤ a := by
  have hpow : (2 : ℚ) ^ (-7 : Int) = 1 / 128 := by norm_num
  have hpow' : (2 : ℚ) ^ (7 : Int) = 128 := by norm_num
  simp only [MiniFormat.SeamExact, e4m3, hpow, hpow', Nat.cast_ofNat]
  refine or_congr Iff.rfl (or_congr (and_congr ?_ ?_) ?_)
  all_goals constructor <;> intro h <;> linarith

theorem e5m2_seamExact_iff (a : ℚ) : e5m2.SeamExact a ↔
    a < 1 / 32768 ∨ (13 / 262144 ≤ a ∧ a ≤ 7 / 131072) ∨ 15 / 262144 ≤ a := by
  have hpow : (2 : ℚ) ^ (-15 : Int) = 1 / 32768 := by norm_num
  have hpow' : (2 : ℚ) ^ (15 : Int) = 32768 := by norm_num
  simp only [MiniFormat.SeamExact, e5m2, hpow, hpow', Nat.cast_ofNat]
  refine or_congr Iff.rfl (or_congr (and_congr ?_ ?_) ?_)
  all_goals constructor <;> intro h <;> linarith

theorem signed_abs (v : ℚ) : signed (v < 0) |v| = v := by
  by_cases hv : v < 0
  · simp [signed, hv, abs_of_neg hv]
  · simp [signed, hv, abs_of_nonneg (not_lt.mp hv)]

theorem e4m3_encodesNearest_iff {v : ℚ} (h : |v| ≤ 448) :
    EncodesNearest f32ToE4m3 e4m3ToF32 v ↔ e4m3.SeamExact |v| := by
  by_cases hne : v = 0
  · have hencode : f32ToE4m3 (ExactF32.fin v) = some 0 := by
      rw [f32ToE4m3, f32ToE4m3Fuel, hne]
      rfl
    have hdecode : e4m3ToF32 0 = ExactF32.fin v := by
      have hfields := e4m3ToF32_fields false (by decide : 0 < 16) (by decide : 0 < 8) (by decide)
      rw [MiniFormat.value_subnormal] at hfields
      simpa [signBit, signed, hne] using hfields
    rw [encodesNearest_iff hencode hdecode, e4m3_seamExact_iff, hne, abs_zero]
    exact iff_of_true (nearest_self ⟨_, hne ▸ hdecode⟩) (Or.inl (by norm_num))
  by_cases htop : |v| = 448
  · have hencode : f32ToE4m3 (ExactF32.fin v) = some (signBit (v < 0) ||| 0x7e) := by
      rw [f32ToE4m3, f32ToE4m3Fuel]
      simp [hne, htop, signBit]
    have hdecode : e4m3ToF32 (signBit (v < 0) ||| 0x7e) = ExactF32.fin v := by
      have hfields := e4m3ToF32_fields (v < 0) (by decide : 15 < 16) (by decide : 6 < 8) (by decide)
      have hvalue : e4m3.value 15 6 = |v| := by rw [htop]; norm_num [MiniFormat.value, e4m3]
      have hbyte : signBit (v < 0) ||| (UInt8.ofNat 15 <<< 3) ||| UInt8.ofNat 6 = signBit (v < 0) ||| 0x7e := by
        rw [UInt8.or_assoc]
        rfl
      rwa [hvalue, signed_abs, hbyte] at hfields
    rw [encodesNearest_iff hencode hdecode, e4m3_seamExact_iff, htop]
    exact iff_of_true (nearest_self ⟨_, hdecode⟩) (Or.inr (Or.inr (by norm_num)))
  obtain ⟨byte, hencode, hdecode⟩ := f32ToE4m3_encoded hne (lt_of_le_of_ne h htop)
  rw [encodesNearest_iff hencode hdecode]
  exact nearest_signed_encoded_iff e4m3Values_subset e4m3Values_neg e4m3Values_steps hne ⟨_, hdecode⟩

/-- The largest number is decoded as an infinity. -/
theorem e5m2_encodesNearest_iff {v : ℚ} (h : |v| ≤ 57344) :
    EncodesNearest f32ToE5m2 e5m2ToF32 v ↔ |v| ≠ 57344 ∧ e5m2.SeamExact |v| := by
  by_cases hne : v = 0
  · have hencode : f32ToE5m2 (ExactF32.fin v) = some 0 := by
      rw [f32ToE5m2, f32ToE5m2Fuel, hne]
      rfl
    have hdecode : e5m2ToF32 0 = ExactF32.fin v := by
      have hfields := e5m2ToF32_fields false (by decide : 0 < 31) (by decide : 0 < 4)
      rw [MiniFormat.value_subnormal] at hfields
      simpa [signBit, signed, hne] using hfields
    rw [encodesNearest_iff hencode hdecode, e5m2_seamExact_iff, hne, abs_zero]
    exact iff_of_true (nearest_self ⟨_, hne ▸ hdecode⟩) ⟨by norm_num, Or.inl (by norm_num)⟩
  by_cases htop : |v| = 57344
  · refine iff_of_false ?_ (fun hparts => hparts.1 htop)
    intro hnear
    obtain ⟨byte, q, hencode, hdecode, _⟩ := hnear
    rw [f32ToE5m2, f32ToE5m2Fuel] at hencode
    simp [hne, htop] at hencode
    subst hencode
    by_cases hv : v < 0
    · have hinf : (e5m2ToF32 (0x80 ||| 0x7c) : ExactF32) = .inf true := by decide +kernel
      simp only [hv, if_true] at hdecode
      cases hinf.symm.trans hdecode
    · have hinf : (e5m2ToF32 (0 ||| 0x7c) : ExactF32) = .inf false := by decide +kernel
      simp only [hv, if_false] at hdecode
      cases hinf.symm.trans hdecode
  obtain ⟨byte, hencode, hdecode⟩ := f32ToE5m2_encoded hne (lt_of_le_of_ne h htop)
  rw [encodesNearest_iff hencode hdecode, and_iff_right htop]
  exact nearest_signed_encoded_iff e5m2Values_subset e5m2Values_neg e5m2Values_steps hne ⟨_, hdecode⟩

/-- Both encoders round to a nearest number outside of the binade below their smallest normal number, and at
its upper end; the second one not at its largest number. -/
theorem fp8_encodesNearest_iff (v : ℚ) :
    (|v| ≤ 448 → (EncodesNearest f32ToE4m3 e4m3ToF32 v ↔
      |v| < 1 / 128 ∨ (29 / 2048 ≤ |v| ∧ |v| ≤ 15 / 1024) ∨ 31 / 2048 ≤ |v|)) ∧
    (|v| ≤ 57344 → (EncodesNearest f32ToE5m2 e5m2ToF32 v ↔
      |v| ≠ 57344 ∧ (|v| < 1 / 32768 ∨ (13 / 262144 ≤ |v| ∧ |v| ≤ 7 / 131072) ∨ 15 / 262144 ≤ |v|))) := by
  refine ⟨?_, ?_⟩
  · intro h
    rw [e4m3_encodesNearest_iff h, e4m3_seamExact_iff]
  · intro h
    rw [e5m2_encodesNearest_iff h, e5m2_seamExact_iff]

theorem fp8_encodesNearest_one : EncodesNearest f32ToE4m3 e4m3ToF32 1 ∧ EncodesNearest f32ToE5m2 e5m2ToF32 1 :=
  ⟨((fp8_encodesNearest_iff 1).1 (by norm_num)).mpr (by norm_num),
    ((fp8_encodesNearest_iff 1).2 (by norm_num)).mpr (by norm_num)⟩

/-- The numbers `2⁻⁷` and 57344 can be represented, and are not encoded as themselves. -/
theorem fp8_misses_own_values :
    e4m3ToF32 4 = ExactF32.fin (1 / 128) ∧ ¬EncodesNearest f32ToE4m3 e4m3ToF32 (1 / 128) ∧
    e5m2ToF32 0x7b = ExactF32.fin 57344 ∧ ¬EncodesNearest f32ToE5m2 e5m2ToF32 57344 := by
  refine ⟨by decide +kernel, ?_, by decide +kernel, ?_⟩
  · rw [e4m3_encodesNearest_iff (by norm_num [abs_of_pos]), e4m3_seamExact_iff, abs_of_pos (by norm_num)]
    norm_num
  · rw [e5m2_encodesNearest_iff (by norm_num [abs_of_pos]), abs_of_pos (by norm_num)]
    norm_num

end Nearest

end PermeantOS
