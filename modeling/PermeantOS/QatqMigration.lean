import PermeantOS.RustText
import PermeantOS.Usxf
import Mathlib.Algebra.BigOperators.Group.List.Basic
import Mathlib.Algebra.Order.BigOperators.Group.List

namespace PermeantOS

section Products

variable {limit : Nat}

/-- `acc.checked_mul(dim)` on integers below the limit. -/
def checkedMul (limit acc dim : Nat) : Option Nat := if acc * dim < limit then some (acc * dim) else none

theorem checkedMul_eq_some_iff {acc dim product : Nat} :
    checkedMul limit acc dim = some product ↔ acc * dim < limit ∧ acc * dim = product := by
  unfold checkedMul
  split
  next h => simp [h]
  next h => simp [h]

/-- A beginning of the dimensions has a product that does not fit. -/
def Overflows (limit : Nat) (dims : List Nat) : Prop := ∃ front, front <+: dims ∧ limit ≤ front.prod

theorem foldlM_checkedMul {dims : List Nat} {acc product : Nat} (hacc : acc < limit) :
    dims.foldlM (checkedMul limit) acc = some product ↔
      (∀ front, front <+: dims → acc * front.prod < limit) ∧ acc * dims.prod = product := by
  induction dims generalizing acc with
  | nil =>
    simp only [List.foldlM_nil, List.prefix_nil, forall_eq, List.prod_nil, Nat.mul_one, hacc, true_and]
    exact Option.some_inj
  | cons dim dims ih =>
    rw [List.foldlM_cons, Option.bind_eq_bind, Option.bind_eq_some_iff]
    simp only [checkedMul_eq_some_iff, List.prod_cons]
    constructor
    · rintro ⟨_, ⟨hfits, rfl⟩, hrest⟩
      obtain ⟨hfront, hproduct⟩ := (ih hfits).mp hrest
      refine ⟨?_, by rw [← hproduct, Nat.mul_assoc]⟩
      intro front hbegins
      obtain rfl | ⟨rest, rfl, hrest⟩ := List.prefix_cons_iff.mp hbegins
      · rwa [List.prod_nil, Nat.mul_one]
      · rw [List.prod_cons, ← Nat.mul_assoc]
        exact hfront rest hrest
    · rintro ⟨hfront, hproduct⟩
      have hstep : ∀ front, front <+: dims → acc * dim * front.prod < limit := by
        intro front hbegins
        rw [Nat.mul_assoc, ← List.prod_cons]
        exact hfront (dim :: front) (List.cons_prefix_cons.mpr ⟨rfl, hbegins⟩)
      have hfits : acc * dim < limit := by simpa using hstep [] List.nil_prefix
      exact ⟨acc * dim, ⟨hfits, rfl⟩, (ih hfits).mpr ⟨hstep, by rw [Nat.mul_assoc, hproduct]⟩⟩

/-- The fold gives the product, unless a beginning of it overflows. -/
theorem foldlM_checkedMul_one {dims : List Nat} {product : Nat} (hlimit : 1 < limit) :
    dims.foldlM (checkedMul limit) 1 = some product ↔ ¬Overflows limit dims ∧ dims.prod = product := by
  rw [foldlM_checkedMul hlimit]
  simp only [Nat.one_mul, Overflows, not_exists, not_and, Nat.not_le]

/-- Without a zero among the dimensions the whole product is the greatest. -/
theorem overflows_iff_of_prod_ne_zero {dims : List Nat} (h : dims.prod ≠ 0) :
    Overflows limit dims ↔ limit ≤ dims.prod := by
  constructor
  · rintro ⟨front, ⟨back, rfl⟩, hfront⟩
    rw [List.prod_append] at h ⊢
    exact hfront.trans (Nat.le_mul_of_pos_right _ (Nat.pos_of_ne_zero (right_ne_zero_of_mul h)))
  · intro hlarge
    exact ⟨dims, List.prefix_rfl, hlarge⟩

/-- When the checked product, multiplied once more without a check, tells whether it is the number given. -/
theorem wrappedProduct_exact_iff {dims : List Nat} {width given : Nat} (hwidth : 0 < width) (hgiven : given < limit) :
    (¬Overflows limit dims ∧ dims.prod * width % limit = given ↔ dims.prod * width = given) ↔
      ¬(given = 0 ∧ dims.prod = 0 ∧ Overflows limit dims) ∧
        ¬(dims.prod < limit ∧ limit ≤ dims.prod * width ∧ dims.prod * width % limit = given) := by
  by_cases hprod : dims.prod = 0
  · have hlarge : ¬limit ≤ dims.prod * width := by
      rw [hprod, Nat.zero_mul]
      omega
    by_cases hover : Overflows limit dims
    · simp [hprod, hover, eq_comm]
      omega
    · simp [hprod, hover]
      omega
  · rw [overflows_iff_of_prod_ne_zero hprod]
    have hgrows : dims.prod ≤ dims.prod * width := Nat.le_mul_of_pos_right _ hwidth
    by_cases hlarge : limit ≤ dims.prod * width
    · have hne : dims.prod * width ≠ given := by omega
      simp [hprod, hlarge, hne]
    · have hmod : dims.prod * width % limit = dims.prod * width := Nat.mod_eq_of_lt (by omega)
      rw [hmod]
      simp [hprod, hlarge]
      omega

end Products

inductive MigrationDType
  | f32
  | f16
  | bf16
  deriving DecidableEq, Repr

def MigrationDType.elementWidth : MigrationDType → Nat
  | .f32 => 4
  | .f16 => 2
  | .bf16 => 2

structure QatqMigrationLimits where
  maxArtifacts : Usize
  maxRawBytes : Usize
  maxEncodedBytes : Usize
  maxShapeDims : Usize
  deriving DecidableEq, Repr

/-- The limits of `Default`: `1 << 30` bytes. -/
def QatqMigrationLimits.default : QatqMigrationLimits := ⟨64, 1073741824, 1073741824, 8⟩

inductive QatqMigrationError
  | emptyField (field : String)
  | unsupportedByteOrder (name : String)
  | rawTooLarge (name : String) (actual limit : Usize)
  | encodedTooLarge (name : String) (actual limit : Usize)
  | tooManyShapeDims (name : String) (actual : Nat) (limit : Usize)
  | shapeByteCountMismatch (name : String) (shapeBytes : Nat) (rawBytes : UInt64)
  | encodedSizeMismatch (name : String) (manifest : UInt64) (payload : Usize)
  | encodedChecksumMismatch (name : String)
  | rawChecksumMismatch (name : String)
  | dTypeMismatch (name : String) (expected actual : MigrationDType)
  | codec (text : String)
  deriving DecidableEq, Repr

/-- The `BTreeMap` of a tensor's dimensions, in the order of its keys. -/
structure ShapeMap where
  entries : List (String × UInt64)
  sorted : entries.Pairwise fun a b => a.1 < b.1

def ShapeMap.values (shape : ShapeMap) : List UInt64 := shape.entries.map Prod.snd

def ShapeMap.dims (shape : ShapeMap) : List Nat := shape.values.map UInt64.toNat

structure QatqArtifactManifest where
  name : String
  tensorKind : String
  dtype : MigrationDType
  byteOrder : String
  layout : String
  shape : ShapeMap
  rawBytes : UInt64
  encodedBytes : UInt64
  rawSha256 : String
  encodedSha256 : String
  uri : String

section Validate

def validateNonEmpty (field value : String) : Except QatqMigrationError Unit :=
  if trimIsEmpty value then .error (.emptyField field) else .ok ()

/-- `u128` is a number below `2 ^ 128`; the last multiplication wraps, as it does in release builds. -/
def validateShape (name : String) (dtype : MigrationDType) (shape : ShapeMap) (rawBytes : Usize)
    (limits : QatqMigrationLimits) : Except QatqMigrationError Unit :=
  if shape.entries.isEmpty then .error (.emptyField "artifact.shape")
  else if limits.maxShapeDims.toNat < shape.entries.length then
    .error (.tooManyShapeDims name shape.entries.length limits.maxShapeDims)
  else
    match shape.dims.foldlM (checkedMul (2 ^ 128)) 1 with
    | none => .error (.shapeByteCountMismatch name (2 ^ 128 - 1) rawBytes)
    | some elements =>
      let shapeBytes := elements * dtype.elementWidth % 2 ^ 128
      if shapeBytes ≠ rawBytes.toNat then .error (.shapeByteCountMismatch name shapeBytes rawBytes)
      else .ok ()

def validateArtifactManifest (artifact : QatqArtifactManifest) (limits : QatqMigrationLimits) :
    Except QatqMigrationError Unit := do
  validateNonEmpty "artifact.name" artifact.name
  validateNonEmpty "artifact.tensor_kind" artifact.tensorKind
  validateNonEmpty "artifact.layout" artifact.layout
  validateNonEmpty "artifact.uri" artifact.uri
  if artifact.byteOrder ≠ "little" then .error (.unsupportedByteOrder artifact.name)
  if limits.maxRawBytes < artifact.rawBytes then
    .error (.rawTooLarge artifact.name artifact.rawBytes limits.maxRawBytes)
  if limits.maxEncodedBytes < artifact.encodedBytes then
    .error (.encodedTooLarge artifact.name artifact.encodedBytes limits.maxEncodedBytes)
  validateShape artifact.name artifact.dtype artifact.shape artifact.rawBytes limits

variable {name : String} {dtype : MigrationDType} {shape : ShapeMap} {rawBytes : Usize} {limits : QatqMigrationLimits}

theorem validateShape_ok_iff (hne : shape.entries ≠ []) (hdims : shape.entries.length ≤ limits.maxShapeDims.toNat) :
    validateShape name dtype shape rawBytes limits = .ok () ↔
      ¬Overflows (2 ^ 128) shape.dims ∧ shape.dims.prod * dtype.elementWidth % 2 ^ 128 = rawBytes.toNat := by
  have hnonempty : shape.entries.isEmpty = false := by simpa using hne
  rw [validateShape, if_neg (by rw [hnonempty]; simp), if_neg (Nat.not_lt.mpr hdims)]
  by_cases hover : Overflows (2 ^ 128) shape.dims
  · have hfold : shape.dims.foldlM (checkedMul (2 ^ 128)) 1 = none := by
      rw [Option.eq_none_iff_forall_ne_some]
      intro product hproduct
      exact (foldlM_checkedMul_one (by norm_num)).mp hproduct |>.1 hover
    rw [hfold]
    exact iff_of_false (fun h => by cases h) fun h => h.1 hover
  · have hfold : shape.dims.foldlM (checkedMul (2 ^ 128)) 1 = some shape.dims.prod :=
      (foldlM_checkedMul_one (by norm_num)).mpr ⟨hover, rfl⟩
    rw [hfold, and_iff_right hover]
    by_cases heq : shape.dims.prod * dtype.elementWidth % 2 ^ 128 = rawBytes.toNat
    · exact iff_of_true (if_neg (not_not.mpr heq)) heq
    · refine iff_of_false ?_ heq
      dsimp only
      rw [if_pos heq]
      intro h
      cases h

/-- The check is exact, but for a zero behind dimensions that overflow, which is refused, and for a byte count
that is a multiple of `2 ^ 128` too large, which is accepted. -/
theorem validateShape_exact_iff (name : String) (dtype : MigrationDType) (shape : ShapeMap) (rawBytes : Usize)
    (limits : QatqMigrationLimits) (hne : shape.entries ≠ [])
    (hdims : shape.entries.length ≤ limits.maxShapeDims.toNat) :
    (validateShape name dtype shape rawBytes limits = .ok () ↔
      shape.dims.prod * dtype.elementWidth = rawBytes.toNat) ↔
    ¬(rawBytes = 0 ∧ shape.dims.prod = 0 ∧ ∃ front, front <+: shape.dims ∧ 2 ^ 128 ≤ front.prod) ∧
      ¬(shape.dims.prod < 2 ^ 128 ∧ 2 ^ 128 ≤ shape.dims.prod * dtype.elementWidth ∧
        shape.dims.prod * dtype.elementWidth % 2 ^ 128 = rawBytes.toNat) := by
  have hraw : rawBytes.toNat < 2 ^ 64 := rawBytes.toNat_lt
  have hzero : rawBytes = 0 ↔ rawBytes.toNat = 0 := by
    rw [← UInt64.toNat_inj]
    rfl
  rw [validateShape_ok_iff hne hdims, hzero]
  have hwidth : 0 < dtype.elementWidth := by cases dtype <;> decide
  exact wrappedProduct_exact_iff hwidth (by omega)

def fourTokens : ShapeMap := ⟨[("heads", 8), ("tokens", 4)], by decide⟩

theorem fourTokens_exact : fourTokens.entries ≠ [] ∧ validateShape "k" .f16 fourTokens 64 .default = .ok () := by
  have hne : fourTokens.entries ≠ [] := by simp [fourTokens]
  have hexact := (validateShape_exact_iff "k" .f16 fourTokens 64 .default hne (by decide)).mpr
    ⟨fun h => absurd h.1 (by decide), fun h => absurd h.2.1 (by decide)⟩
  exact ⟨hne, hexact.mpr (by decide)⟩

/-- Two dimensions whose `2 ^ 128` bytes are taken for none. -/
def wrappingShape : ShapeMap := ⟨[("heads", 9223372036854775808), ("tokens", 9223372036854775808)], by decide⟩

theorem wrappingShape_accepted : validateShape "k" .f32 wrappingShape 0 .default = .ok () ∧
    wrappingShape.dims.prod * MigrationDType.f32.elementWidth ≠ (0 : Usize).toNat := by
  constructor
  · decide +kernel
  · decide +kernel

end Validate

end PermeantOS
