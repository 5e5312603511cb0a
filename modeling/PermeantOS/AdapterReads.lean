import PermeantOS.Fallible
import PermeantOS.RuntimeAdapters
import PermeantOS.Session
import Mathlib.Algebra.BigOperators.Ring.List
import Mathlib.Algebra.Order.BigOperators.GroupWithZero.List

namespace PermeantOS

section Names

theorem pyInt_layerIndex {n : Nat} (h : n < 2 ^ 64) :
    pyInt (String.ofList (Nat.toDigits 10 n)) = some (n : Int) := by
  have hlength : (Nat.toDigits 10 n).length ≤ 20 :=
    (Nat.length_toDigits_le_iff (by omega) (by omega)).mpr (by omega)
  exact pyInt_toDigits (by omega)

theorem splitName_eq {name : String} {n : Nat} {kind : List Char}
    (h : name.toList = "layer.".toList ++ (Nat.toDigits 10 n ++ '.' :: kind)) (hk : '.' ∉ kind) :
    splitName name = ["layer", String.ofList (Nat.toDigits 10 n), String.ofList kind] := by
  have hdigits : '.' ∉ Nat.toDigits 10 n := fun hmem =>
    ne_of_isDigit (isDigit_of_mem_toDigits hmem) rfl rfl
  have hfront : name.toList = "layer".toList ++ '.' :: (Nat.toDigits 10 n ++ '.' :: kind) := h
  rw [splitName, hfront, List.splitOn_append_cons_self_of_not_mem (by decide),
    List.splitOn_append_cons_self_of_not_mem hdigits, List.splitOn_eq_singleton hk]
  rfl

theorem splitName_keyName (n : Nat) :
    splitName (keyName n) = ["layer", String.ofList (Nat.toDigits 10 n), "key"] :=
  splitName_eq (keyName_toList n) (by decide)

theorem splitName_valueName (n : Nat) :
    splitName (valueName n) = ["layer", String.ofList (Nat.toDigits 10 n), "value"] :=
  splitName_eq (valueName_toList n) (by decide)

end Names

section Nesting

variable {P : Type} {host : AdapterHost P}

theorem strideStarts_mul {stride : Nat} (h : 0 < stride) (count : Nat) :
    strideStarts (count * stride) stride = .ok ((List.range count).map (· * stride)) := by
  have hcount : count * stride ⌈/⌉ stride = count := by
    rw [mul_comm, ← smul_eq_mul, smul_ceilDiv h]
  rw [strideStarts, if_neg h.ne', hcount]

theorem flattenItems_append {front back : List (Json P)} {xs ys : List P}
    (hfront : flattenItems host front = .ok xs) (hback : flattenItems host back = .ok ys) :
    flattenItems host (front ++ back) = .ok (xs ++ ys) := by
  induction front generalizing xs with
  | nil =>
    cases hfront
    exact hback
  | cons item items ih =>
    obtain ⟨first, hfirst, hrest⟩ := except_bind_ok_iff.mp hfront
    obtain ⟨more, hmore, heq⟩ := except_bind_ok_iff.mp hrest
    cases heq
    rw [List.cons_append, flattenItems, except_bind_of_ok hfirst, except_bind_of_ok (ih hmore), List.append_assoc]
    rfl

/-- Flat data of the right length is nested, and flattened back. -/
def Nests (host : AdapterHost P) (dims : List Int) : Prop :=
  ∀ values : List P, (values.length : Int) = dims.prod →
    ∃ nested, nestedFromFlat values dims = .ok nested ∧ flattenNumeric host nested = .ok values

/-- The pieces of a list, each of them nested, are flattened back in order. -/
theorem flattenItems_pieces (nest : List P → Except PyException (Json P)) (values : List P)
    (stride count : Nat) (hnest : ∀ k < count, ∃ nested, nest ((values.drop (k * stride)).take stride) = .ok nested ∧
      flattenNumeric host nested = .ok ((values.drop (k * stride)).take stride)) :
    ∃ items, ((List.range count).map (· * stride)).mapM
        (fun index => nest ((values.drop index).take stride)) = .ok items ∧
      flattenItems host items = .ok (values.take (count * stride)) := by
  induction count with
  | zero => exact ⟨[], rfl, by rw [Nat.zero_mul]; rfl⟩
  | succ count ih =>
    obtain ⟨items, hitems, hflat⟩ := ih fun k hk => hnest k (Nat.lt_succ_of_lt hk)
    obtain ⟨nested, hnested, hlast⟩ := hnest count (Nat.lt_succ_self count)
    refine ⟨items ++ [nested], ?_, ?_⟩
    · rw [List.range_succ, List.map_append, List.mapM_append, hitems]
      simp [hnested]
      rfl
    · have hsingle : flattenItems host [nested] = .ok ((values.drop (count * stride)).take stride) := by
        rw [flattenItems, except_bind_of_ok hlast]
        show Except.ok (_ ++ []) = _
        rw [List.append_nil]
      rw [flattenItems_append hflat hsingle, ← List.take_add, Nat.succ_mul]

theorem nests_nil : Nests host [] := by
  intro values hlength
  obtain ⟨x, rfl⟩ := List.length_eq_one_iff.mp (by simpa using hlength)
  exact ⟨.float x, rfl, rfl⟩

/-- One more dimension in front; the step of the range, the product of the others, must not be zero. -/
theorem nests_cons {dim : Int} {dims : List Int} (hdim : 0 ≤ dim) (hdims : ∀ d ∈ dims, 0 < d)
    (h : Nests host dims) : Nests host (dim :: dims) := by
  intro values hlength
  obtain ⟨stride, hstride⟩ := Int.eq_ofNat_of_zero_le (List.prod_pos hdims).le
  obtain ⟨count, rfl⟩ := Int.eq_ofNat_of_zero_le hdim
  have hpos : 0 < stride := by
    have hprod := List.prod_pos hdims
    omega
  have hnonneg : ¬((count : Int) < 0 ∨ dims.any (· < 0) = true) := by
    simp only [List.any_eq_true, decide_eq_true_eq, not_or, not_exists, not_and, not_lt]
    exact ⟨hdim, fun d hd => (hdims d hd).le⟩
  rw [List.prod_cons] at hlength
  have hvalues : values.length = count * stride := by
    rw [hstride] at hlength
    exact_mod_cast hlength
  have hpieces : ∀ k < count, ∃ nested,
      nestedFromFlat ((values.drop (k * stride)).take stride) dims = .ok nested ∧
        flattenNumeric host nested = .ok ((values.drop (k * stride)).take stride) := by
    intro k hk
    apply h
    have hroom : k * stride + stride ≤ count * stride := by
      rw [← Nat.succ_mul]
      exact Nat.mul_le_mul_right _ hk
    rw [hstride, List.length_take, List.length_drop, hvalues, Nat.cast_inj]
    omega
  obtain ⟨items, hitems, hflat⟩ := flattenItems_pieces (nestedFromFlat · dims) values stride count hpieces
  refine ⟨.list items, ?_, ?_⟩
  · rw [nestedFromFlat, if_neg hnonneg, if_neg (by simpa using hlength), hstride, Int.toNat_natCast,
      hvalues, except_bind_of_ok (strideStarts_mul hpos count), except_bind_of_ok hitems]
    rfl
  · rw [flattenNumeric, hflat, ← hvalues, List.take_length]

theorem nests_of_pos (host : AdapterHost P) {dims : List Int} (hpos : ∀ dim ∈ dims, 0 < dim) : Nests host dims := by
  induction dims with
  | nil => exact nests_nil
  | cons dim dims ih =>
    obtain ⟨hdim, hdims⟩ := List.forall_mem_cons.mp hpos
    exact nests_cons hdim.le hdims (ih hdims)

theorem nestedFromFlat_empty {dim : Int} {dims : List Int} (hdims : ∀ d ∈ dim :: dims, 0 ≤ d)
    (hzero : 0 ∈ dims) : nestedFromFlat ([] : List P) (dim :: dims) =
      .error (.valueError "range() arg 3 must not be zero") := by
  have hnonneg : ¬(dim < 0 ∨ dims.any (· < 0) = true) := by
    obtain ⟨hdim, hrest⟩ := List.forall_mem_cons.mp hdims
    simp only [List.any_eq_true, decide_eq_true_eq, not_or, not_exists, not_and, not_lt]
    exact ⟨hdim, hrest⟩
  have hprod : dims.prod = 0 := List.prod_eq_zero hzero
  rw [nestedFromFlat, if_neg hnonneg, hprod, if_neg (by simp)]
  rfl

theorem nestedFromFlat_refuses {values : List P} {shape : List Int}
    (h : (∃ dim ∈ shape, dim < 0) ∨ (values.length : Int) ≠ shape.prod) :
    ∃ text, nestedFromFlat values shape = .error (.adapterError text) := by
  cases shape with
  | nil =>
    unfold nestedFromFlat
    split
    next => simp at h
    next => exact ⟨_, rfl⟩
  | cons dim dims =>
    rw [nestedFromFlat]
    by_cases hnegative : dim < 0 ∨ dims.any (· < 0) = true
    · rw [if_pos hnegative]
      exact ⟨_, rfl⟩
    · rw [if_neg hnegative, if_pos]
      · exact ⟨_, rfl⟩
      · simp only [List.mem_cons, List.any_eq_true, decide_eq_true_eq] at h hnegative
        rcases h with ⟨d, hd, hlt⟩ | h
        · exact absurd (hd.imp (fun heq => heq ▸ hlt) fun hmem => ⟨d, hmem, hlt⟩) hnegative
        · rwa [List.prod_cons] at h

/-- Reshaping undoes flattening and refuses everything else, but for the empty tensors whose zero dimension is
not the first: the range over them has step zero. -/
theorem nestedFromFlat_inverse_iff (values : List P) (shape : List Int) :
    (((∀ dim ∈ shape, 0 ≤ dim) → (values.length : Int) = shape.prod →
      ∃ nested, nestedFromFlat values shape = .ok nested ∧ flattenNumeric host nested = .ok values) ∧
    ((∃ dim ∈ shape, dim < 0) ∨ (values.length : Int) ≠ shape.prod →
      ∃ text, nestedFromFlat values shape = .error (.adapterError text))) ↔
    ¬(values = [] ∧ (∀ dim ∈ shape, 0 ≤ dim) ∧ 0 ∈ shape.tail) := by
  constructor
  · rintro ⟨hnests, _⟩ ⟨rfl, hdims, hzero⟩
    obtain ⟨nested, hnested, _⟩ := hnests hdims
      (List.prod_eq_zero (List.mem_of_mem_tail hzero)).symm
    cases shape with
    | nil => cases hzero
    | cons dim dims =>
      rw [nestedFromFlat_empty hdims hzero] at hnested
      cases hnested
  · intro hcondition
    refine ⟨fun hdims hlength => ?_, nestedFromFlat_refuses⟩
    cases shape with
    | nil => exact nests_nil values hlength
    | cons dim dims =>
      obtain ⟨hdim, hrest⟩ := List.forall_mem_cons.mp hdims
      by_cases hzero : (0 : Int) ∈ dims
      · rw [List.prod_eq_zero (List.mem_cons_of_mem dim hzero), Nat.cast_eq_zero, List.length_eq_zero_iff] at hlength
        exact absurd ⟨hlength, hdims, hzero⟩ hcondition
      · exact nests_cons hdim (fun d hd => lt_of_le_of_ne (hrest d hd) fun heq => hzero (heq ▸ hd))
          (nests_of_pos host fun d hd => lt_of_le_of_ne (hrest d hd) fun heq => hzero (heq ▸ hd)) values hlength

theorem emptyRows_raise :
    nestedFromFlat ([] : List F32) [2, 0] = .error (.valueError "range() arg 3 must not be zero") ∧
    ¬∃ nested, nestedFromFlat ([] : List F32) [2, 0] = .ok nested ∧ flattenNumeric pythonAdapter nested = .ok [] := by
  have hraise : nestedFromFlat ([] : List F32) [2, 0] =
      .error (.valueError "range() arg 3 must not be zero") := by rfl
  refine ⟨hraise, ?_⟩
  rintro ⟨nested, hnested, _⟩
  rw [hraise] at hnested
  cases hnested

end Nesting

section Find

variable {F : Type} {tensors : List (SerializedTensor F)} {tensor : SerializedTensor F}

theorem find?_concat_of_ne {name : String} (h : tensor.name ≠ name) :
    (tensors ++ [tensor]).find? (·.name = name) = tensors.find? (·.name = name) := by
  rw [List.find?_append, List.find?_singleton, if_neg (by simpa using h), Option.or_none]

theorem find?_concat_self (h : tensor.name ∉ tensors.map (·.name)) :
    (tensors ++ [tensor]).find? (·.name = tensor.name) = some tensor := by
  have hnone : tensors.find? (·.name = tensor.name) = none := by
    rw [List.find?_eq_none]
    intro other hmem heq
    exact h (List.mem_map.mpr ⟨other, hmem, by simpa using heq⟩)
  rw [List.find?_append, hnone, List.find?_singleton, if_pos (by simp), Option.none_or]

end Find

section Wire

variable {F P : Type} [F32Arith F] {host : AdapterHost P}

/-- A finite `f32` on its way through JSON: `decimal x` is the number that Python reads where
`serde_json` wrote `x`, in so many digits that no other `f32` is nearer. -/
structure WireFloats (F P : Type) [F32Arith F] (host : AdapterHost P) where
  decimal : F → P
  pack_decimal : ∀ x, isFinite x = true → (host.packF32 (decimal x)).isSome
  decimal_injective : ∀ x y, isFinite x = true → isFinite y = true → decimal x = decimal y → x = y

variable (wire : WireFloats F P host)

/-- `serde_json` writes an infinity and a NaN as `null`. -/
def floatJson (x : F) : Json P := if isFinite x = true then .float (wire.decimal x) else .null

def tensorJson (tensor : SerializedTensor F) : Json P :=
  .dict [("name", .str tensor.name),
    ("shape", .list (tensor.shape.map fun dim => .int dim.toNat)),
    ("data", .list (tensor.data.map (floatJson wire)))]

def requestJson : InjectorRequest F → Json P
  | .injectBlock blockSize blockHash tensors =>
    .dict [("action", .str "inject_block"), ("block_size", .int blockSize.toNat),
      ("block_hash", .str blockHash), ("tensors", .list (tensors.map (tensorJson wire)))]
  | .verifyContinuation blockSize expectedHashes =>
    .dict [("action", .str "verify_continuation"), ("block_size", .int blockSize.toNat),
      ("expected_hashes", .list (expectedHashes.map .str))]

theorem flattenItems_wire {data : List F} {values : List P} :
    flattenItems host (data.map (floatJson wire)) = .ok values ↔
      (∀ x ∈ data, isFinite x = true) ∧ values = data.map wire.decimal := by
  induction data generalizing values with
  | nil =>
    rw [List.map_nil, flattenItems, Except.ok.injEq, List.map_nil, eq_comm]
    simp
  | cons x data ih =>
    rw [List.map_cons, flattenItems]
    by_cases hx : isFinite x = true
    · have hflat : flattenNumeric host (floatJson wire x) = .ok [wire.decimal x] := by
        rw [floatJson, if_pos hx, flattenNumeric]
      rw [except_bind_of_ok hflat, except_bind_ok_iff, List.forall_mem_cons, and_iff_right hx]
      constructor
      · intro hparts
        obtain ⟨rest, hrest, h⟩ := hparts
        cases h
        obtain ⟨hall, rfl⟩ := ih.mp hrest
        exact ⟨hall, rfl⟩
      · intro hparts
        obtain ⟨hall, rfl⟩ := hparts
        exact ⟨_, ih.mpr ⟨hall, rfl⟩, rfl⟩
    · have hflat : flattenNumeric host (floatJson wire x) =
          .error (.adapterError "tensor data must be numeric or nested numeric lists") := by
        rw [floatJson, if_neg hx]
        simp [flattenNumeric]
      simp [hflat, hx, bind, Except.bind]

theorem f32Sha256_wire {data : List F} (h : ∀ x ∈ data, isFinite x = true) :
    ∃ digest, f32Sha256 host (data.map wire.decimal) = .ok digest := by
  have hpack : ∀ y ∈ data.map wire.decimal, ∃ bytes,
      (host.packF32 y).elim (.error .overflowError) (.ok : _ → Except PyException _) = .ok bytes := by
    intro y hy
    obtain ⟨x, hx, rfl⟩ := List.mem_map.mp hy
    obtain ⟨bytes, hbytes⟩ := Option.isSome_iff_exists.mp (wire.pack_decimal x (h x hx))
    exact ⟨bytes, by rw [hbytes]; rfl⟩
  obtain ⟨packed, hpacked, _⟩ := exists_mapM_ok hpack
  exact ⟨_, except_bind_of_ok hpacked⟩

theorem tensorName_wire {tensor : SerializedTensor F} (h : tensor.name ≠ "") :
    tensorName (tensorJson wire tensor) = .ok tensor.name := by
  show (if tensor.name = "" then _ else _) = _
  rw [if_neg h]
  rfl

/-- A tensor of four dimensions, the first of them one, is read without that. -/
theorem canonicalTensor_wire {name : String} {a b c : Usize} {data : List F}
    {result : List (Json P) × List P} (hname : name ≠ "") :
    (tensorJson wire ⟨name, [1, a, b, c], data⟩).canonicalTensor host = .ok result ↔
      (∀ x ∈ data, isFinite x = true) ∧ data.length = a.toNat * b.toNat * c.toNat ∧
        result = ([.int a.toNat, .int b.toNat, .int c.toNat], data.map wire.decimal) := by
  have hshape : canonicalShape (tensorJson wire ⟨name, [1, a, b, c], data⟩) name =
      .ok [.int a.toNat, .int b.toNat, .int c.toNat] := rfl
  have hdata : (tensorJson wire ⟨name, [1, a, b, c], data⟩).get "data" =
      .ok (.list (data.map (floatJson wire))) := rfl
  have hproduct : (dimValues [.int a.toNat, .int b.toNat, (.int c.toNat : Json P)]).prod =
      ((a.toNat * b.toNat * c.toNat : Nat) : Int) := by
    simp [dimValues, Json.asInt, mul_assoc]
  rw [Json.canonicalTensor, except_bind_of_ok (tensorName_wire wire hname), except_bind_of_ok hshape,
    except_bind_of_ok hdata, flattenNumeric, except_bind_ok_iff]
  simp only [flattenItems_wire, hproduct, Nat.cast_inj, ne_eq]
  constructor
  · intro hparts
    obtain ⟨values, ⟨hall, rfl⟩, h⟩ := hparts
    split at h
    next => cases h
    next hlength =>
      cases h
      rw [List.length_map, not_not] at hlength
      exact ⟨hall, hlength, rfl⟩
  · intro hparts
    obtain ⟨hall, hlength, rfl⟩ := hparts
    refine ⟨_, ⟨hall, rfl⟩, ?_⟩
    rw [if_neg (by simpa using hlength)]
    rfl

theorem groupTensor_key (grouped : GroupedLayers P) {tensor : SerializedTensor F} {n : Nat}
    (h : tensor.name = keyName n) (hn : n < 2 ^ 64) :
    groupTensor grouped (tensorJson wire tensor) = .ok (grouped.insert n
      { layerOf grouped n with key := some (tensorJson wire tensor) }) := by
  have hget : (tensorJson wire tensor).get "name" = .ok (.str (keyName n)) := by
    rw [← h]
    rfl
  rw [groupTensor, except_bind_of_ok hget]
  simp only [splitName_keyName, pyInt_layerIndex hn]
  rfl

theorem groupTensor_value (grouped : GroupedLayers P) {tensor : SerializedTensor F} {n : Nat}
    (h : tensor.name = valueName n) (hn : n < 2 ^ 64) :
    groupTensor grouped (tensorJson wire tensor) = .ok (grouped.insert n
      { layerOf grouped n with value := some (tensorJson wire tensor) }) := by
  have hget : (tensorJson wire tensor).get "name" = .ok (.str (valueName n)) := by
    rw [← h]
    rfl
  rw [groupTensor, except_bind_of_ok hget]
  simp only [splitName_valueName, pyInt_layerIndex hn]
  rfl

/-- The layers hold every tensor under its name. -/
structure GroupsTensors (tensors : List (SerializedTensor F)) (grouped : GroupedLayers P) : Prop where
  key : ∀ n : Nat, (layerOf grouped n).key =
    (tensors.find? (·.name = keyName n)).map (tensorJson wire)
  value : ∀ n : Nat, (layerOf grouped n).value =
    (tensors.find? (·.name = valueName n)).map (tensorJson wire)
  mem_iff : ∀ i : Int, i ∈ grouped ↔
    ∃ n : Nat, i = n ∧ ∃ tensor ∈ tensors, tensor.name = keyName n ∨ tensor.name = valueName n

variable {wire} {tensors : List (SerializedTensor F)} {grouped : GroupedLayers P}
  {tensor : SerializedTensor F}

theorem layerOf_insert_self (n : Int) (layer : LayerTensors P) :
    layerOf (grouped.insert n layer) n = layer := by
  rw [layerOf, Finmap.lookup_insert, Option.getD_some]

theorem layerOf_insert_of_ne {m n : Int} (h : m ≠ n) (layer : LayerTensors P) :
    layerOf (grouped.insert n layer) m = layerOf grouped m := by
  rw [layerOf, Finmap.lookup_insert_of_ne _ h, layerOf]

theorem GroupsTensors.mem_insert_iff (h : GroupsTensors wire tensors grouped) {n : Nat}
    (hname : tensor.name = keyName n ∨ tensor.name = valueName n) (layer : LayerTensors P) (i : Int) :
    i ∈ grouped.insert (n : Int) layer ↔ ∃ m : Nat, i = m ∧
      ∃ other ∈ tensors ++ [tensor], other.name = keyName m ∨ other.name = valueName m := by
  rw [Finmap.mem_insert, h.mem_iff]
  constructor
  · rintro (rfl | ⟨m, rfl, other, hmem, hother⟩)
    · exact ⟨n, rfl, tensor, by simp, hname⟩
    · exact ⟨m, rfl, other, List.mem_append_left _ hmem, hother⟩
  · intro hparts
    obtain ⟨m, rfl, other, hmem, hother⟩ := hparts
    rcases List.mem_append.mp hmem with hmem | hmem
    · exact Or.inr ⟨m, rfl, other, hmem, hother⟩
    · obtain rfl := List.mem_singleton.mp hmem
      exact Or.inl (congrArg _ (layer_eq_of_name hother hname))

theorem GroupsTensors.insert_key (h : GroupsTensors wire tensors grouped) {n : Nat}
    (hname : tensor.name = keyName n) (hnew : tensor.name ∉ tensors.map (·.name)) :
    GroupsTensors wire (tensors ++ [tensor]) (grouped.insert n
      { layerOf grouped n with key := some (tensorJson wire tensor) }) where
  key m := by
    by_cases hm : m = n
    · rw [hm, layerOf_insert_self, ← hname, find?_concat_self hnew]
      rfl
    · have hne : tensor.name ≠ keyName m := fun heq => hm (keyName_injective (hname ▸ heq)).symm
      rw [layerOf_insert_of_ne (by exact_mod_cast hm), find?_concat_of_ne hne, h.key]
  value m := by
    rw [find?_concat_of_ne (hname ▸ keyName_ne_valueName n m), ← h.value]
    by_cases hm : m = n
    · rw [hm, layerOf_insert_self]
    · rw [layerOf_insert_of_ne (by exact_mod_cast hm)]
  mem_iff := h.mem_insert_iff (Or.inl hname) _

theorem GroupsTensors.insert_value (h : GroupsTensors wire tensors grouped) {n : Nat}
    (hname : tensor.name = valueName n) (hnew : tensor.name ∉ tensors.map (·.name)) :
    GroupsTensors wire (tensors ++ [tensor]) (grouped.insert n
      { layerOf grouped n with value := some (tensorJson wire tensor) }) where
  key m := by
    rw [find?_concat_of_ne (hname ▸ (keyName_ne_valueName m n).symm), ← h.key]
    by_cases hm : m = n
    · rw [hm, layerOf_insert_self]
    · rw [layerOf_insert_of_ne (by exact_mod_cast hm)]
  value m := by
    by_cases hm : m = n
    · rw [hm, layerOf_insert_self, ← hname, find?_concat_self hnew]
      rfl
    · have hne : tensor.name ≠ valueName m := fun heq => hm (valueName_injective (hname ▸ heq)).symm
      rw [layerOf_insert_of_ne (by exact_mod_cast hm), find?_concat_of_ne hne, h.value]
  mem_iff := h.mem_insert_iff (Or.inr hname) _

/-- Tensors that are all named after a layer, each name once, are grouped. -/
theorem groupLayerTensors_wire (wire : WireFloats F P host)
    (hnodup : (tensors.map (·.name)).Nodup)
    (hnames : ∀ tensor ∈ tensors, ∃ n < 2 ^ 64, tensor.name = keyName n ∨ tensor.name = valueName n) :
    ∃ grouped, groupLayerTensors (tensors.map (tensorJson wire)) = .ok grouped ∧
      GroupsTensors wire tensors grouped := by
  induction tensors using List.reverseRecOn with
  | nil => exact ⟨∅, rfl, fun n => rfl, fun n => rfl, by simp [Finmap.notMem_empty]⟩
  | append_singleton tensors tensor ih =>
    rw [List.map_append, List.nodup_append] at hnodup
    have hnew : tensor.name ∉ tensors.map (·.name) := fun hmem =>
      hnodup.2.2 _ hmem _ (by simp) rfl
    obtain ⟨grouped, hgrouped, hgroups⟩ := ih hnodup.1 fun other hmem =>
      hnames other (List.mem_append_left _ hmem)
    have hstep : groupLayerTensors ((tensors ++ [tensor]).map (tensorJson wire)) =
        groupTensor grouped (tensorJson wire tensor) := by
      unfold groupLayerTensors at hgrouped ⊢
      rw [List.map_append, List.foldlM_append, except_bind_of_ok hgrouped]
      show groupTensor grouped (tensorJson wire tensor) >>= pure = _
      rw [bind_pure]
    obtain ⟨n, hlt, hn | hn⟩ := hnames tensor (by simp)
    · exact ⟨_, hstep.trans (groupTensor_key wire grouped hn hlt), hgroups.insert_key hn hnew⟩
    · exact ⟨_, hstep.trans (groupTensor_value wire grouped hn hlt), hgroups.insert_value hn hnew⟩

end Wire

section Registers

variable {P T X : Type} {host : AdapterHost P} {materialize : Json P → T} {grouped : GroupedLayers P}

def readLayer (read : Json P → Except PyException (List (Json P) × X)) (payload : Json P)
    (layerIndex : Int) : Except PyException (List (Json P) × X × X) := do
  let tensors ← payload.get "tensors"
  let grouped ← groupLayerTensors tensors.asList
  layerPair read grouped layerIndex

theorem layerPair_ok_iff {read : Json P → Except PyException (List (Json P) × X)} {layerIndex : Int}
    {key value : Json P} (hkey : (layerOf grouped layerIndex).key = some key)
    (hvalue : (layerOf grouped layerIndex).value = some value) {shape : List (Json P)}
    {keyData valueData : X} :
    layerPair read grouped layerIndex = .ok (shape, keyData, valueData) ↔
      read key = .ok (shape, keyData) ∧ ∃ valueShape, read value = .ok (valueShape, valueData) ∧
        dimValues shape = dimValues valueShape := by
  have hlayer : layerOf grouped layerIndex = ⟨some key, some value⟩ := by
    rw [← hkey, ← hvalue]
  rw [layerPair, hlayer]
  simp only [except_bind_ok_iff]
  constructor
  · intro hparts
    obtain ⟨⟨keyShape, keyValues⟩, hk, ⟨valueShape, valueValues⟩, hv, h⟩ := hparts
    split at h
    next => cases h
    next hsame =>
      cases h
      exact ⟨hk, valueShape, hv, not_not.mp hsame⟩
  · intro hparts
    obtain ⟨hk, valueShape, hv, hsame⟩ := hparts
    refine ⟨_, hk, _, hv, ?_⟩
    rw [if_neg (not_not.mpr hsame)]
    rfl

theorem canonicalTensor_length {tensor : Json P} {shape : List (Json P)} {values : List P}
    (h : tensor.canonicalTensor host = .ok (shape, values)) :
    (values.length : Int) = (dimValues shape).prod := by
  obtain ⟨name, _, h⟩ := except_bind_ok_iff.mp h
  obtain ⟨dims, _, h⟩ := except_bind_ok_iff.mp h
  obtain ⟨data, _, h⟩ := except_bind_ok_iff.mp h
  obtain ⟨flat, _, h⟩ := except_bind_ok_iff.mp h
  dsimp only at h
  split at h
  next => cases h
  next hlength =>
    cases h
    exact not_not.mp hlength

theorem canonicalTensorData_ok {tensor : Json P} {shape : List (Json P)} {values : List P}
    (h : tensor.canonicalTensor host = .ok (shape, values)) (hpos : ∀ dim ∈ dimValues shape, 0 < dim) :
    ∃ nested, tensor.canonicalTensorData host = .ok (shape, values, nested) := by
  obtain ⟨nested, hnested, _⟩ := nests_of_pos host hpos _ (canonicalTensor_length h)
  refine ⟨nested, ?_⟩
  rw [Json.canonicalTensorData, except_bind_of_ok h]
  exact except_bind_of_ok hnested

/-- Where no dimension is zero, what one bridge reads the other can nest. -/
theorem layerPair_canonicalTensorData {layerIndex : Int} {key value : Json P}
    (hkey : (layerOf grouped layerIndex).key = some key)
    (hvalue : (layerOf grouped layerIndex).value = some value) {shape : List (Json P)}
    {keys values : List P}
    (h : layerPair (Json.canonicalTensor host) grouped layerIndex = .ok (shape, keys, values))
    (hpos : ∀ dim ∈ dimValues shape, 0 < dim) :
    ∃ keyNested valueNested, layerPair (Json.canonicalTensorData host) grouped layerIndex =
      .ok (shape, (keys, keyNested), (values, valueNested)) := by
  obtain ⟨hk, valueShape, hv, hsame⟩ := (layerPair_ok_iff hkey hvalue).mp h
  obtain ⟨keyNested, hk⟩ := canonicalTensorData_ok hk hpos
  obtain ⟨valueNested, hv⟩ := canonicalTensorData_ok hv (hsame ▸ hpos)
  exact ⟨keyNested, valueNested, (layerPair_ok_iff hkey hvalue).mpr ⟨hk, valueShape, hv, hsame⟩⟩

def LayerRegisters (host : AdapterHost P) (grouped : GroupedLayers P) (layerIndex : Int) : Prop :=
  ∃ shape key value summary,
    layerPair (Json.canonicalTensorData host) grouped layerIndex = .ok (shape, key, value) ∧
      layerSummary host layerIndex shape key.1 value.1 = .ok summary

theorem registerLayers_ok (materialize : Json P → T) {layers : List Int} (hnodup : layers.Nodup)
    (h : ∀ layerIndex ∈ layers, LayerRegisters host grouped layerIndex) (runtime : PytorchRuntime T) :
    ∃ summaries after, (registerLayers host materialize grouped layers).run runtime =
        .ok summaries after ∧
      (∀ layerIndex ∈ layers, ∀ shape key value,
        layerPair (Json.canonicalTensorData host) grouped layerIndex = .ok (shape, key, value) →
          after.kvCache.lookup layerIndex = some (materialize key.2, materialize value.2)) ∧
      ∀ layerIndex ∉ layers, after.kvCache.lookup layerIndex = runtime.kvCache.lookup layerIndex := by
  induction layers generalizing runtime with
  | nil => exact ⟨[], runtime, rfl, by simp, fun _ _ => rfl⟩
  | cons layerIndex layers ih =>
    obtain ⟨hfirst, hrest⟩ := List.forall_mem_cons.mp h
    obtain ⟨hfresh, hnodup⟩ := List.nodup_cons.mp hnodup
    obtain ⟨shape, key, value, summary, hpair, hsummary⟩ := hfirst
    obtain ⟨summaries, after, hrun, hheld, hkept⟩ := ih hnodup hrest
      (runtime.cacheLayer layerIndex (materialize key.2, materialize value.2))
    refine ⟨summary :: summaries, after, ?_, ?_, ?_⟩
    · rw [registerLayers, run_liftExcept_bind_of_ok hpair]
      show EStateM.run (liftExcept (layerSummary host layerIndex shape key.1 value.1) >>= _)
        (runtime.cacheLayer layerIndex (materialize key.2, materialize value.2)) = _
      rw [run_liftExcept_bind_of_ok hsummary, run_bind_of_ok hrun]
      rfl
    · intro other hmem shape' key' value' hother
      rcases List.mem_cons.mp hmem with rfl | hmem
      · rw [hpair] at hother
        cases hother
        rw [hkept _ hfresh, PytorchRuntime.cacheLayer, Finmap.lookup_insert]
      · exact hheld other hmem shape' key' value' hother
    · intro other hmem
      rw [List.mem_cons, not_or] at hmem
      rw [hkept other hmem.2, PytorchRuntime.cacheLayer, Finmap.lookup_insert_of_ne _ hmem.1]

theorem mem_sortedLayers_iff {layerIndex : Int} :
    layerIndex ∈ sortedLayers grouped ↔ layerIndex ∈ grouped := by
  rw [sortedLayers, Finset.mem_sort, Finmap.mem_keys]

theorem sortedLayers_nodup : (sortedLayers grouped).Nodup := Finset.sort_nodup ..

/-- A request whose layers all register is taken, and the cache then holds what was read. -/
theorem registerPermeantBlock_ok {payload : Json P} {tensors : List (Json P)} {blockHash : String}
    (hhash : requestHash host payload = .ok blockHash) (hne : tensors ≠ [])
    (htensors : payload.get "tensors" = .ok (.list tensors))
    (hgrouped : groupLayerTensors tensors = .ok grouped)
    (h : ∀ layerIndex ∈ grouped, LayerRegisters host grouped layerIndex) (runtime : PytorchRuntime T) :
    ∃ summary after, (PytorchRuntime.registerPermeantBlock host materialize payload).run runtime =
        .ok summary after ∧
      ∀ layerIndex ∈ grouped, ∀ shape key value,
        readLayer (Json.canonicalTensorData host) payload layerIndex = .ok (shape, key, value) →
          after.kvCache.lookup layerIndex = some (materialize key.2, materialize value.2) := by
  have hread : ∀ layerIndex, readLayer (Json.canonicalTensorData host) payload layerIndex =
      layerPair (Json.canonicalTensorData host) grouped layerIndex := by
    intro layerIndex
    rw [readLayer, except_bind_of_ok htensors]
    exact except_bind_of_ok hgrouped
  obtain ⟨tensor, tensors, rfl⟩ := List.exists_cons_of_ne_nil hne
  obtain ⟨summaries, after, hrun, hheld, _⟩ := registerLayers_ok materialize
    sortedLayers_nodup (fun layerIndex hmem => h layerIndex (mem_sortedLayers_iff.mp hmem)) runtime
  refine ⟨⟨blockHash, summaries⟩, { after with
    registeredHashes := insert blockHash after.registeredHashes
    blockSummaries := after.blockSummaries.insert blockHash ⟨blockHash, summaries⟩ }, ?_, ?_⟩
  · rw [PytorchRuntime.registerPermeantBlock, run_liftExcept_bind_of_ok hhash,
      run_liftExcept_bind_of_ok htensors, run_liftExcept_bind_of_ok hgrouped, run_bind_of_ok hrun]
    rfl
  · intro layerIndex hmem shape key value hkeep
    rw [hread] at hkeep
    exact hheld layerIndex (mem_sortedLayers_iff.mpr hmem) shape key value hkeep

/-- The live hook, where there is one, binds the block of the request. -/
def BindsBlock (host : AdapterHost P) (liveHook : Option (LiveHook P)) (payload : Json P)
    (blockHash : String) : Prop :=
  ∀ hook, liveHook = some hook → ∀ accepted, accepted.hash = blockHash →
    ∃ answer response result, hook accepted payload payload = .ok answer ∧
      normalizeResponse answer = .ok response ∧
      validateBindingResult host response blockHash = .ok result

theorem bindLive_ok {liveHook : Option (LiveHook P)} {payload : Json P} {accepted : AcceptedState P}
    {blockHash : String} (h : BindsBlock host liveHook payload blockHash)
    (hhash : accepted.hash = blockHash) (runtime : LlamaCppRuntime P) :
    ∃ bound after, (LlamaCppRuntime.bindLive host liveHook accepted payload payload).run runtime =
      .ok bound after ∧ bound.layers = accepted.layers := by
  cases liveHook with
  | none => exact ⟨accepted, runtime, rfl, rfl⟩
  | some hook =>
    obtain ⟨answer, response, result, hanswer, hresponse, hresult⟩ := h hook rfl accepted hhash
    rw [← hhash] at hresult
    rw [LlamaCppRuntime.bindLive, run_liftExcept_bind_of_ok hanswer,
      run_liftExcept_bind_of_ok hresponse, run_liftExcept_bind_of_ok hresult]
    exact ⟨_, _, rfl, rfl⟩

theorem registerPermeantBlock_llamaCpp_ok {payload : Json P} {tensors : List (Json P)}
    {blockHash : String} {liveHook : Option (LiveHook P)}
    (hhash : requestHash host payload = .ok blockHash) (hne : tensors ≠ [])
    (htensors : payload.get "tensors" = .ok (.list tensors))
    (hstate : payload.get "runtime_state" = .ok .null)
    (hgrouped : groupLayerTensors tensors = .ok grouped)
    (h : ∀ layerIndex ∈ grouped, ∃ shape key value summary,
      layerPair (Json.canonicalTensor host) grouped layerIndex = .ok (shape, key, value) ∧
        layerSummary host layerIndex shape key value = .ok summary)
    (hhook : BindsBlock host liveHook payload blockHash) (runtime : LlamaCppRuntime P) :
    ∃ accepted after, (LlamaCppRuntime.registerPermeantBlock host liveHook payload payload).run runtime =
        .ok accepted after ∧
      ∀ layerIndex ∈ grouped, ∀ shape key value,
        readLayer (Json.canonicalTensor host) payload layerIndex = .ok (shape, key, value) →
          ∃ summary ∈ accepted.layers, layerSummary host layerIndex shape key value = .ok summary := by
  have hread : ∀ layerIndex, readLayer (Json.canonicalTensor host) payload layerIndex =
      layerPair (Json.canonicalTensor host) grouped layerIndex := by
    intro layerIndex
    rw [readLayer, except_bind_of_ok htensors]
    exact except_bind_of_ok hgrouped
  have hsummarize : ∀ layerIndex ∈ sortedLayers grouped,
      ∃ summary, summarizeLayer host grouped layerIndex = .ok summary := by
    intro layerIndex hmem
    obtain ⟨shape, key, value, summary, hpair, hsummary⟩ :=
      h layerIndex (mem_sortedLayers_iff.mp hmem)
    exact ⟨summary, (except_bind_of_ok hpair).trans hsummary⟩
  obtain ⟨layers, hlayers, hmem⟩ := exists_mapM_ok hsummarize
  have hall : summarizeLayers host tensors = .ok layers := by
    rw [summarizeLayers, if_neg hne, except_bind_of_ok hgrouped]
    exact hlayers
  let accepted : AcceptedState P := ⟨blockHash, "accepted-state", layers,
    bindingRequirements blockHash layers, "none-without-live-kv-import-hook", none, none⟩
  have haccept : acceptState host payload = .ok accepted := by
    rw [acceptState, except_bind_of_ok hhash, except_bind_of_ok htensors, except_bind_of_ok hstate,
      if_neg (by simp [Json.asList, hne])]
    exact except_bind_of_ok hall
  have hsum : ∀ layerIndex ∈ grouped, ∀ shape key value,
      readLayer (Json.canonicalTensor host) payload layerIndex = .ok (shape, key, value) →
        ∃ summary ∈ layers, layerSummary host layerIndex shape key value = .ok summary := by
    intro layerIndex hin shape key value hkeep
    obtain ⟨shape', key', value', summary, hpair, hsummary⟩ := h layerIndex hin
    rw [hread] at hkeep
    cases hpair.symm.trans hkeep
    exact ⟨summary, hmem layerIndex (mem_sortedLayers_iff.mpr hin) summary
      ((except_bind_of_ok hpair).trans hsummary), hsummary⟩
  obtain ⟨bound, after, hbind, hlayers⟩ := bindLive_ok hhook (rfl : accepted.hash = _) runtime
  rw [LlamaCppRuntime.registerPermeantBlock, run_liftExcept_bind_of_ok haccept, run_bind_of_ok hbind]
  exact ⟨bound, _, rfl, hlayers ▸ hsum⟩

end Registers

end PermeantOS
