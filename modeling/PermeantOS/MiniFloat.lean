import Mathlib.Data.Set.Basic
import Mathlib.Tactic.FieldSimp
import Mathlib.Tactic.Linarith
import PermeantOS.RustFloat

namespace PermeantOS

section Rounding

theorem abs_roundHalfAway_sub (q : ℚ) : |(roundHalfAway q : ℚ) - q| ≤ 1 / 2 := by
  unfold roundHalfAway
  rw [abs_le]
  split
  next =>
    have hle := Int.floor_le (q + 1 / 2)
    have hlt := Int.lt_floor_add_one (q + 1 / 2)
    exact ⟨by linarith, by linarith⟩
  next =>
    have hle := Int.floor_le (-q + 1 / 2)
    have hlt := Int.lt_floor_add_one (-q + 1 / 2)
    push_cast
    exact ⟨by linarith, by linarith⟩

/-- Rounding does not leave a range with integer ends. -/
theorem abs_roundHalfAway_le {q : ℚ} {n : Int} (h : |q| ≤ n) : |roundHalfAway q| ≤ n := by
  obtain ⟨hlower, hupper⟩ := abs_le.mp h
  have herror := abs_le.mp (abs_roundHalfAway_sub q)
  have hlt : (roundHalfAway q : ℚ) < (n + 1 : Int) := by push_cast; linarith
  have hgt : ((-(n + 1) : Int) : ℚ) < roundHalfAway q := by push_cast; linarith
  have hlt' := Int.cast_lt.mp hlt
  have hgt' := Int.cast_lt.mp hgt
  exact abs_le.mpr ⟨by omega, by omega⟩

theorem roundHalfAway_nonneg {q : ℚ} (h : 0 ≤ q) : 0 ≤ roundHalfAway q := by
  rw [roundHalfAway, if_pos h]
  exact Int.floor_nonneg.mpr (by linarith)

/-- Below the middle of two integers a number is not rounded up. -/
theorem roundHalfAway_le_of_lt {q : ℚ} {n : Int} (h0 : 0 ≤ q) (h : q < n + 1 / 2) : roundHalfAway q ≤ n := by
  rw [roundHalfAway, if_pos h0]
  apply Int.lt_add_one_iff.mp
  apply Int.floor_lt.mpr
  push_cast
  linarith

theorem le_roundHalfAway_of_le {q : ℚ} {n : Int} (h0 : 0 ≤ q) (h : n - 1 / 2 ≤ q) : n ≤ roundHalfAway q := by
  rw [roundHalfAway, if_pos h0]
  exact Int.le_floor.mpr (by linarith)

end Rounding

section Nearest

/-- A member of a set that no other member is nearer to `x` than. -/
def Nearest (S : Set ℚ) (x q : ℚ) : Prop := q ∈ S ∧ ∀ r ∈ S, |x - q| ≤ |x - r|

theorem Nearest.neg {S : Set ℚ} (hneg : ∀ q ∈ S, -q ∈ S) {x q : ℚ} (h : Nearest S x q) :
    Nearest S (-x) (-q) := by
  refine ⟨hneg q h.1, ?_⟩
  intro r hr
  have hnear := h.2 (-r) (hneg r hr)
  rw [← abs_neg, ← abs_neg (-x - r)]
  convert hnear using 2
  · ring
  · ring

theorem nearest_neg_iff {S : Set ℚ} (hneg : ∀ q ∈ S, -q ∈ S) {x q : ℚ} :
    Nearest S (-x) (-q) ↔ Nearest S x q := by
  constructor
  · intro h
    have hback := h.neg hneg
    rwa [neg_neg, neg_neg] at hback
  · exact Nearest.neg hneg

theorem abs_sub_mul {a u : ℚ} (hu : 0 < u) (q : ℚ) : |a - q * u| = |a / u - q| * u := by
  have hsplit : a - q * u = (a / u - q) * u := by
    rw [sub_mul, div_mul_cancel₀ a hu.ne']
  rw [hsplit, abs_mul, abs_of_pos hu]

/-- Of the multiples of `u`, one within half of `u` is nearest. -/
theorem abs_sub_le_of_multiple {a u : ℚ} {n : Int} (hu : 0 < u) (hn : |a / u - n| ≤ 1 / 2) (k : Int) :
    |a - n * u| ≤ |a - k * u| := by
  rw [abs_sub_mul hu, abs_sub_mul hu]
  apply mul_le_mul_of_nonneg_right _ hu.le
  by_cases hk : k = n
  · rw [hk]
  · have hone : (1 : ℚ) ≤ |(n : ℚ) - k| := by
      rw [← Int.cast_sub, ← Int.cast_abs]
      exact_mod_cast Int.one_le_abs (by omega)
    have htriangle : |(n : ℚ) - k| ≤ |a / u - n| + |a / u - k| := by
      have := abs_sub_le (n : ℚ) (a / u) k
      rwa [abs_sub_comm (n : ℚ) (a / u)] at this
    linarith

end Nearest

section Format

/-- A binary format: `count` significands to a binade, and its exponent bias. -/
structure MiniFormat where
  count : Nat
  bias : Int
  count_pos : 0 < count

namespace MiniFormat

variable (format : MiniFormat)

/-- The magnitude of an exponent field and a significand field. -/
def value (exponent significand : Nat) : ℚ :=
  if exponent = 0 then 2 ^ (1 - format.bias) * (significand / format.count)
  else 2 ^ ((exponent : Int) - format.bias) * (1 + significand / format.count)

/-- Every number that fields of any size can spell. -/
def grid : Set ℚ := { q | ∃ exponent significand, significand < format.count ∧
  (q = format.value exponent significand ∨ q = -format.value exponent significand) }

/-- The distance of two subnormal numbers. -/
def step : ℚ := 2 ^ (1 - format.bias) / format.count

theorem count_pos' : (0 : ℚ) < format.count := Nat.cast_pos.mpr format.count_pos

theorem step_pos : 0 < format.step := div_pos (zpow_pos (by norm_num) _) format.count_pos'

theorem value_subnormal (significand : Nat) : format.value 0 significand = significand * format.step := by
  rw [value, if_pos rfl, step]
  ring

/-- In the binade of `2 ^ e` and above, the grid has the multiples of a common unit. -/
theorem value_multiple {exponent significand : Nat} (hexponent : exponent ≠ 0) {e : Int}
    (he : e ≤ exponent - format.bias) :
    ∃ k : Int, format.value exponent significand = k * (2 ^ e / format.count) := by
  obtain ⟨d, hd⟩ := Int.le.dest he
  have hcount := format.count_pos'.ne'
  refine ⟨2 ^ d * (format.count + significand), ?_⟩
  rw [value, if_neg hexponent, ← hd, zpow_add₀ (by norm_num), zpow_natCast]
  push_cast
  field_simp

theorem value_multiple_step (exponent significand : Nat) :
    ∃ k : Int, format.value exponent significand = k * format.step := by
  by_cases hexponent : exponent = 0
  · subst hexponent
    exact ⟨significand, by rw [value_subnormal, Int.cast_natCast]⟩
  · exact format.value_multiple hexponent (by omega)

theorem grid_multiple_step {q : ℚ} (h : q ∈ format.grid) : ∃ k : Int, q = k * format.step := by
  obtain ⟨exponent, significand, _, hq⟩ := h
  obtain ⟨k, hk⟩ := format.value_multiple_step exponent significand
  rcases hq with rfl | rfl
  · exact ⟨k, hk⟩
  · exact ⟨-k, by rw [hk, Int.cast_neg, neg_mul]⟩

theorem value_nonneg (exponent significand : Nat) : 0 ≤ format.value exponent significand := by
  have hpow : ∀ e : Int, (0 : ℚ) ≤ 2 ^ e := fun e => (zpow_pos (by norm_num) e).le
  have hfraction : 0 ≤ (significand : ℚ) / format.count := div_nonneg (Nat.cast_nonneg _) (Nat.cast_nonneg _)
  unfold value
  split
  next => exact mul_nonneg (hpow _) hfraction
  next => exact mul_nonneg (hpow _) (by linarith)

/-- The values of an exponent field lie below the next power of two. -/
theorem value_lt {significand : Nat} (h : significand < format.count) (exponent : Nat) :
    format.value exponent significand < 2 ^ (max (exponent : Int) 0 - format.bias + 1) := by
  have hfraction : (significand : ℚ) / format.count < 1 := by
    rw [div_lt_one format.count_pos']
    exact_mod_cast h
  unfold value
  split
  next hzero =>
    subst hzero
    have hpow : (0 : ℚ) < 2 ^ (1 - format.bias) := zpow_pos (by norm_num) _
    rw [show max ((0 : Nat) : Int) 0 - format.bias + 1 = 1 - format.bias by omega]
    exact mul_lt_of_lt_one_right hpow hfraction
  next =>
    have hpow : (0 : ℚ) < 2 ^ ((exponent : Int) - format.bias) := zpow_pos (by norm_num) _
    rw [show max (exponent : Int) 0 - format.bias + 1 = (exponent - format.bias) + 1 by omega,
      zpow_add_one₀ (by norm_num)]
    exact mul_lt_mul_of_pos_left (by linarith) hpow

theorem grid_multiple_of_le {q : ℚ} (h : q ∈ format.grid) {e : Int} (he : 1 - format.bias ≤ e)
    (hq : 2 ^ e ≤ q) : ∃ k : Int, q = k * (2 ^ e / format.count) := by
  have hpos : (0 : ℚ) < 2 ^ e := zpow_pos (by norm_num) e
  obtain ⟨exponent, significand, hsmall, hvalue⟩ := h
  have hsign : q = format.value exponent significand := by
    refine hvalue.resolve_right fun hneg => ?_
    have := format.value_nonneg exponent significand
    linarith
  have hlt := lt_of_le_of_lt hq (hsign ▸ format.value_lt hsmall exponent)
  have hexponent := (zpow_lt_zpow_iff_right₀ (by norm_num : (1 : ℚ) < 2)).mp hlt
  rw [hsign]
  exact format.value_multiple (by omega) (by omega)

/-- The magnitude that an encoder computes which takes the exponent of `a` for its field: below the smallest
field it counts in steps, and the significand of field zero is read back in steps as well. -/
def encoded (a : ℚ) : ℚ :=
  let e := Int.log 2 a
  if e + format.bias < 0 then roundHalfAway (a / format.step) * format.step
  else
    let significand := roundHalfAway ((a / 2 ^ e - 1) * format.count)
    if e + format.bias = 0 ∧ significand < format.count then significand * format.step
    else 2 ^ e * (1 + significand / format.count)

/-- The fields of what is encoded; a significand that is rounded up to the next binade is carried. -/
def fields (a : ℚ) : Nat × Nat :=
  let e := Int.log 2 a
  if e + format.bias < 0 then (0, (roundHalfAway (a / format.step)).toNat)
  else
    let significand := roundHalfAway ((a / 2 ^ e - 1) * format.count)
    if significand < format.count then ((e + format.bias).toNat, significand.toNat)
    else ((e + 1 + format.bias).toNat, 0)

/-- Where in the binade below the smallest normal number that is right nevertheless: near its upper end. -/
def SeamExact (a : ℚ) : Prop :=
  a < 2 ^ (-format.bias) ∨
    (format.count - 3 / 2 ≤ (a * 2 ^ format.bias - 1) * format.count ∧
      (a * 2 ^ format.bias - 1) * format.count ≤ format.count - 1) ∨
    format.count - 1 / 2 ≤ (a * 2 ^ format.bias - 1) * format.count

section Encoded

theorem lt_zpow_log (a : ℚ) : a < (2 : ℚ) ^ (Int.log 2 a + 1) := by
  exact_mod_cast Int.lt_zpow_succ_log_self (by norm_num : 1 < 2) a

variable {a : ℚ}

theorem encoded_of_subnormal (he : Int.log 2 a + format.bias < 0) :
    ∃ n : Int, format.encoded a = n * format.step ∧ |a / format.step - n| ≤ 1 / 2 := by
  refine ⟨roundHalfAway (a / format.step), ?_, ?_⟩
  · rw [encoded]
    dsimp only
    rw [if_pos he]
  · rw [abs_sub_comm]
    exact abs_roundHalfAway_sub _

/-- In the binade of field zero the offset is counted twice as fine as the steps it is read back in. -/
theorem div_step_of_seam (he : Int.log 2 a + format.bias = 0) :
    a / format.step = (format.count + (a / 2 ^ Int.log 2 a - 1) * format.count) / 2 := by
  have hpow : (0 : ℚ) < 2 ^ Int.log 2 a := zpow_pos (by norm_num) _
  have hcount := format.count_pos'
  rw [step, show 1 - format.bias = Int.log 2 a + 1 by omega, zpow_add_one₀ (by norm_num)]
  field_simp
  ring

variable (ha : 0 < a)
include ha

theorem zpow_log_le : (2 : ℚ) ^ Int.log 2 a ≤ a := by
  exact_mod_cast Int.zpow_log_le_self (by norm_num) ha

/-- The offset of `a` in its binade, in significands. -/
theorem significand_bounds : 0 ≤ (a / 2 ^ Int.log 2 a - 1) * format.count ∧
    (a / 2 ^ Int.log 2 a - 1) * format.count < format.count := by
  have hpow : (0 : ℚ) < 2 ^ Int.log 2 a := zpow_pos (by norm_num) _
  have hlow : 1 ≤ a / 2 ^ Int.log 2 a := (one_le_div hpow).mpr (zpow_log_le ha)
  have hhigh : a / 2 ^ Int.log 2 a < 2 := by
    rw [div_lt_iff₀ hpow, mul_comm, ← zpow_add_one₀ (by norm_num)]
    exact lt_zpow_log a
  have hcount := format.count_pos'
  exact ⟨mul_nonneg (by linarith) hcount.le, mul_lt_of_lt_one_left hcount (by linarith)⟩

theorem value_fields : format.value (format.fields a).1 (format.fields a).2 = format.encoded a := by
  have hcount := format.count_pos'
  obtain ⟨hlow, hhigh⟩ := format.significand_bounds ha
  have hcast : ∀ n : Int, 0 ≤ n → ((n.toNat : Nat) : ℚ) = (n : ℚ) := fun n hn => by
    exact_mod_cast Int.toNat_of_nonneg hn
  rw [fields, encoded]
  dsimp only
  by_cases he : Int.log 2 a + format.bias < 0
  · rw [if_pos he, if_pos he, value_subnormal, hcast _ (roundHalfAway_nonneg (div_nonneg ha.le format.step_pos.le))]
  rw [if_neg he, if_neg he]
  by_cases hcarry : roundHalfAway ((a / 2 ^ Int.log 2 a - 1) * format.count) < format.count
  · rw [if_pos hcarry]
    by_cases hzero : Int.log 2 a + format.bias = 0
    · rw [if_pos ⟨hzero, hcarry⟩, hzero, ← hcast _ (roundHalfAway_nonneg hlow)]
      exact format.value_subnormal _
    · have hexponent : ((Int.log 2 a + format.bias).toNat : Int) - format.bias = Int.log 2 a := by omega
      rw [if_neg (by omega), value, if_neg (by omega), hexponent, hcast _ (roundHalfAway_nonneg hlow)]
  · have hle := roundHalfAway_le_of_lt hlow (by push_cast; linarith : _ < ((format.count : Int) : ℚ) + 1 / 2)
    have hfull : roundHalfAway ((a / 2 ^ Int.log 2 a - 1) * format.count) = format.count := by omega
    have hexponent : ((Int.log 2 a + 1 + format.bias).toNat : Int) - format.bias = Int.log 2 a + 1 := by omega
    rw [if_neg hcarry, if_neg (by omega), value, if_neg (by omega), hexponent, hfull, zpow_add_one₀ (by norm_num)]
    push_cast
    field_simp
    ring

/-- In the normal range an encoder rounds to the nearest number. -/
theorem encoded_le_of_normal (he : 1 ≤ Int.log 2 a + format.bias) {r : ℚ} (hr : r ∈ format.grid) :
    |a - format.encoded a| ≤ |a - r| := by
  have hpow : (0 : ℚ) < 2 ^ Int.log 2 a := zpow_pos (by norm_num) _
  have hcount := format.count_pos'
  have hunit : (0 : ℚ) < 2 ^ Int.log 2 a / format.count := div_pos hpow hcount
  have hround := abs_roundHalfAway_sub ((a / 2 ^ Int.log 2 a - 1) * format.count)
  have hencoded : format.encoded a = ((format.count + roundHalfAway ((a / 2 ^ Int.log 2 a - 1) *
      format.count) : Int) : ℚ) * (2 ^ Int.log 2 a / format.count) := by
    rw [encoded]
    dsimp only
    rw [if_neg (by omega), if_neg (by omega)]
    push_cast
    field_simp
  have hnear := abs_sub_le_of_multiple hunit (a := a) (n := format.count + roundHalfAway
    ((a / 2 ^ Int.log 2 a - 1) * format.count)) (by
      rw [abs_sub_comm]
      convert hround using 2
      push_cast
      field_simp
      ring)
  rw [hencoded]
  by_cases hle : 2 ^ Int.log 2 a ≤ r
  · obtain ⟨k, rfl⟩ := format.grid_multiple_of_le hr (by omega) hle
    exact hnear k
  · have hfirst := hnear format.count
    have hone : ((format.count : Int) : ℚ) * (2 ^ Int.log 2 a / format.count) = 2 ^ Int.log 2 a := by
      push_cast
      field_simp
    have hlow := zpow_log_le ha
    rw [hone, abs_of_nonneg (by linarith : 0 ≤ a - 2 ^ Int.log 2 a)] at hfirst
    rw [abs_of_nonneg (by linarith : 0 ≤ a - r)]
    linarith

theorem encoded_of_seam (he : Int.log 2 a + format.bias = 0) : ∃ n : Int,
    n = roundHalfAway ((a / 2 ^ Int.log 2 a - 1) * format.count) ∧ 0 ≤ n ∧ n ≤ format.count ∧
      format.encoded a = n * format.step := by
  obtain ⟨hlow, hhigh⟩ := format.significand_bounds ha
  have hle := roundHalfAway_le_of_lt hlow (by push_cast; linarith : _ < ((format.count : Int) : ℚ) + 1 / 2)
  refine ⟨_, rfl, roundHalfAway_nonneg hlow, hle, ?_⟩
  rw [encoded]
  dsimp only
  rw [if_neg (by omega)]
  split
  next => rfl
  next hfull =>
    have hcarry : roundHalfAway ((a / 2 ^ Int.log 2 a - 1) * format.count) = format.count := by omega
    have hcount := format.count_pos'
    rw [hcarry, step, show 1 - format.bias = Int.log 2 a + 1 by omega, zpow_add_one₀ (by norm_num)]
    push_cast
    field_simp
    ring

/-- The seam in terms of the offset in the binade. -/
theorem seamExact_iff (he : Int.log 2 a + format.bias = 0) :
    format.SeamExact a ↔ (format.count - 3 / 2 ≤ (a / 2 ^ Int.log 2 a - 1) * format.count ∧
      (a / 2 ^ Int.log 2 a - 1) * format.count ≤ format.count - 1) ∨
        format.count - 1 / 2 ≤ (a / 2 ^ Int.log 2 a - 1) * format.count := by
  have hexponent : Int.log 2 a = -format.bias := by omega
  have hlow := zpow_log_le ha
  rw [hexponent] at hlow ⊢
  have hdiv : a / 2 ^ (-format.bias) = a * 2 ^ format.bias := by
    rw [zpow_neg, div_inv_eq_mul]
  rw [SeamExact, hdiv]
  constructor
  · intro h
    exact h.resolve_left (not_lt.mpr hlow)
  · exact Or.inr

theorem encoded_near_of_seamExact (he : Int.log 2 a + format.bias = 0) (h : format.SeamExact a) :
    ∃ n : Int, format.encoded a = n * format.step ∧ |a / format.step - n| ≤ 1 / 2 := by
  obtain ⟨n, hn, hnonneg, hle, hencoded⟩ := format.encoded_of_seam ha he
  obtain ⟨hlow, hhigh⟩ := format.significand_bounds ha
  refine ⟨n, hencoded, ?_⟩
  have hcast : (n : ℚ) ≤ format.count := by exact_mod_cast hle
  rw [format.div_step_of_seam he, abs_le]
  rcases (format.seamExact_iff ha he).mp h with ⟨hbelow, habove⟩ | hupper
  · -- the significand before the last
    have hge : (format.count : Int) - 1 ≤ n := by
      rw [hn]
      apply le_roundHalfAway_of_le hlow
      push_cast
      linarith
    have hlt : n ≤ (format.count : Int) - 1 := by
      rw [hn]
      apply roundHalfAway_le_of_lt hlow
      push_cast
      linarith
    have heq : (n : ℚ) = format.count - 1 := by
      have : n = (format.count : Int) - 1 := by omega
      rw [this]
      push_cast
      ring
    rw [heq]
    exact ⟨by linarith, by linarith⟩
  · -- the carry to the smallest normal number
    have hge : (format.count : Int) ≤ n := by
      rw [hn]
      apply le_roundHalfAway_of_le hlow
      push_cast
      linarith
    have heq : (n : ℚ) = format.count := by
      have : n = (format.count : Int) := by omega
      rw [this]
      push_cast
      rfl
    rw [heq]
    exact ⟨by linarith, by linarith⟩

/-- Elsewhere in that binade what is encoded is more than half a step away. -/
theorem encoded_far_of_not_seamExact (he : Int.log 2 a + format.bias = 0) (h : ¬format.SeamExact a) :
    ∃ n : Int, format.encoded a = n * format.step ∧ 1 / 2 < |a / format.step - n| := by
  obtain ⟨n, hn, hnonneg, hle, hencoded⟩ := format.encoded_of_seam ha he
  obtain ⟨hlow, hhigh⟩ := format.significand_bounds ha
  refine ⟨n, hencoded, ?_⟩
  rw [format.seamExact_iff ha he, not_or, not_and_or, not_le, not_le, not_le] at h
  obtain ⟨hmiddle, hupper⟩ := h
  rw [format.div_step_of_seam he]
  refine lt_of_lt_of_le ?_ (le_abs_self _)
  rcases hmiddle with hbelow | habove
  · have hround := (abs_le.mp (abs_roundHalfAway_sub ((a / 2 ^ Int.log 2 a - 1) * format.count))).2
    rw [← hn] at hround
    have hcast : (n : ℚ) ≤ format.count - 2 := by
      have : n ≤ (format.count : Int) - 2 := by
        rw [hn]
        apply roundHalfAway_le_of_lt hlow
        push_cast
        linarith
      exact_mod_cast this
    linarith
  · have hcast : (n : ℚ) ≤ format.count - 1 := by
      have : n ≤ (format.count : Int) - 1 := by
        rw [hn]
        apply roundHalfAway_le_of_lt hlow
        push_cast
        linarith
      exact_mod_cast this
    linarith

/-- An encoder of this kind rounds to a nearest number exactly where its seam does no harm. -/
theorem nearest_encoded_iff {S : Set ℚ} (hsub : S ⊆ format.grid)
    (hsteps : ∀ k : Nat, k ≤ format.count → k * format.step ∈ S) (hmem : format.encoded a ∈ S) :
    Nearest S a (format.encoded a) ↔ format.SeamExact a := by
  have hstep := format.step_pos
  rcases lt_trichotomy (Int.log 2 a + format.bias) 0 with he | he | he
  · obtain ⟨n, hencoded, hnear⟩ := format.encoded_of_subnormal he
    refine iff_of_true ⟨hmem, ?_⟩ (Or.inl ?_)
    · intro r hr
      obtain ⟨k, rfl⟩ := format.grid_multiple_step (hsub hr)
      rw [hencoded]
      exact abs_sub_le_of_multiple hstep hnear k
    · refine lt_of_lt_of_le (lt_zpow_log a) ?_
      exact zpow_le_zpow_right₀ (by norm_num) (by omega)
  · constructor
    · intro h
      by_contra hseam
      obtain ⟨n, hencoded, hfar⟩ := format.encoded_far_of_not_seamExact ha he hseam
      obtain ⟨hlow, hhigh⟩ := format.significand_bounds ha
      have hdiv := format.div_step_of_seam he
      have hcount := format.count_pos'
      -- the nearest number of steps
      have hnonneg := roundHalfAway_nonneg (div_nonneg ha.le hstep.le)
      have hle : roundHalfAway (a / format.step) ≤ format.count :=
        roundHalfAway_le_of_lt (div_nonneg ha.le hstep.le) (by rw [hdiv]; push_cast; linarith)
      obtain ⟨k, hk⟩ := Int.eq_ofNat_of_zero_le hnonneg
      have hround := abs_roundHalfAway_sub (a / format.step)
      have hother := h.2 _ (hsteps k (by omega))
      rw [hencoded, abs_sub_mul hstep, abs_sub_mul hstep] at hother
      have hle' := le_of_mul_le_mul_right hother hstep
      rw [abs_sub_comm, hk, Int.cast_natCast] at hround
      linarith
    · intro h
      obtain ⟨n, hencoded, hnear⟩ := format.encoded_near_of_seamExact ha he h
      refine ⟨hmem, ?_⟩
      intro r hr
      obtain ⟨k, rfl⟩ := format.grid_multiple_step (hsub hr)
      rw [hencoded]
      exact abs_sub_le_of_multiple hstep hnear k
  · refine iff_of_true ⟨hmem, ?_⟩ (Or.inr (Or.inr ?_))
    · intro r hr
      exact format.encoded_le_of_normal ha (by omega) (hsub hr)
    · have hlow : (2 : ℚ) ^ (1 - format.bias) ≤ a :=
        le_trans (zpow_le_zpow_right₀ (by norm_num) (by omega)) (zpow_log_le ha)
      have htwo : 2 ≤ a * 2 ^ format.bias := by
        have := mul_le_mul_of_nonneg_right hlow (zpow_pos (by norm_num : (0 : ℚ) < 2) format.bias).le
        rwa [← zpow_add₀ (by norm_num), sub_add_cancel, zpow_one] at this
      have hcount := format.count_pos'
      nlinarith

end Encoded

end MiniFormat

end Format

end PermeantOS
