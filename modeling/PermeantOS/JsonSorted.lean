import PermeantOS.AgentValues
import Mathlib.Data.List.Nodup

namespace PermeantOS

variable {P : Type}

/-- `a.1 <= b.1` -/
def keyLe (a b : String × Json P) : Bool := decide (a.1 ≤ b.1)

section Children

theorem sortItems_eq (items : List (Json P)) : sortItems items = items.map sortKeys := by
  induction items with
  | nil => rfl
  | cons item items ih => rw [sortItems, ih, List.map_cons]

theorem sortFields_eq (fields : Fields P) :
    sortFields fields = fields.map fun field => (field.1, sortKeys field.2) := by
  induction fields with
  | nil => rfl
  | cons field fields ih => rw [sortFields, ih, List.map_cons]

/-- The fields of a dict whose keys are in order, at any depth. -/
def sortedFields (fields : Fields P) : Fields P :=
  (fields.map fun field => (field.1, sortKeys field.2)).mergeSort keyLe

theorem sortKeys_dict (fields : Fields P) : sortKeys (.dict fields) = .dict (sortedFields fields) := by
  rw [sortKeys, sortFields_eq]
  rfl

theorem sortKeys_list (items : List (Json P)) : sortKeys (.list items) = .list (items.map sortKeys) := by
  rw [sortKeys, sortItems_eq]

theorem sortedFields_perm (fields : Fields P) :
    (sortedFields fields).Perm (fields.map fun field => (field.1, sortKeys field.2)) :=
  List.mergeSort_perm _ _

theorem sortedFields_pairwise (fields : Fields P) :
    (sortedFields fields).Pairwise fun a b => keyLe a b = true := by
  apply List.pairwise_mergeSort
  · intro a b c hab hbc
    rw [keyLe, decide_eq_true_eq] at hab hbc ⊢
    exact le_trans hab hbc
  · intro a b
    simpa [keyLe] using le_total a.1 b.1

theorem sortedFields_keys (fields : Fields P) :
    ((sortedFields fields).map (·.1)).Perm (fields.map (·.1)) := by
  have hperm := (sortedFields_perm fields).map (·.1)
  rw [List.map_map] at hperm
  exact hperm

theorem mem_sortedFields_iff {fields : Fields P} {key : String} {value : Json P} :
    (key, value) ∈ sortedFields fields ↔ ∃ child, (key, child) ∈ fields ∧ value = sortKeys child := by
  rw [(sortedFields_perm fields).mem_iff, List.mem_map]
  constructor
  · intro h
    obtain ⟨field, hfield, heq⟩ := h
    cases heq
    exact ⟨field.2, hfield, rfl⟩
  · intro h
    obtain ⟨child, hchild, rfl⟩ := h
    exact ⟨(key, child), hchild, rfl⟩

end Children

section Induction

/-- Induction over a value, with the claim for every entry of a list and of a dict. -/
theorem Json.deepInduction {motive : Json P → Prop} (null : motive .null) (bool : ∀ value, motive (.bool value))
    (int : ∀ value, motive (.int value)) (float : ∀ value, motive (.float value))
    (str : ∀ value, motive (.str value)) (list : ∀ items, (∀ item ∈ items, motive item) → motive (.list items))
    (dict : ∀ fields, (∀ field ∈ fields, motive field.2) → motive (.dict fields)) (value : Json P) :
    motive value :=
  @Json.rec P motive (fun items => ∀ item ∈ items, motive item) (fun fields => ∀ field ∈ fields, motive field.2)
    (fun field => motive field.2) null bool int float str list dict (by simp)
    (fun _ _ hitem hitems => List.forall_mem_cons.mpr ⟨hitem, hitems⟩) (by simp)
    (fun _ _ hfield hfields => List.forall_mem_cons.mpr ⟨hfield, hfields⟩) (fun _ _ hvalue => hvalue) value

end Induction

section Sorted

/-- Fields that are in order, with values that are in order. -/
theorem sortedFields_of_sorted {fields : Fields P} (hvalues : ∀ field ∈ fields, sortKeys field.2 = field.2)
    (hsorted : fields.Pairwise fun a b => keyLe a b = true) : sortedFields fields = fields := by
  have hsame : (fields.map fun field => (field.1, sortKeys field.2)) = fields := by
    rw [List.map_congr_left (g := id) fun field hfield => by rw [hvalues field hfield]; rfl, List.map_id]
  rw [sortedFields, hsame, List.mergeSort_of_pairwise hsorted]

theorem sortKeys_sortKeys (value : Json P) : sortKeys (sortKeys value) = sortKeys value := by
  induction value using Json.deepInduction with
  | null => rfl
  | bool _ => rfl
  | int _ => rfl
  | float _ => rfl
  | str _ => rfl
  | list items ih =>
    rw [sortKeys_list, sortKeys_list, List.map_map]
    exact congrArg Json.list (List.map_congr_left ih)
  | dict fields ih =>
    rw [sortKeys_dict, sortKeys_dict, sortedFields_of_sorted ?_ (sortedFields_pairwise fields)]
    intro field hfield
    obtain ⟨child, hchild, heq⟩ := mem_sortedFields_iff.mp hfield
    rw [heq]
    exact ih _ hchild

/-- Where each key stands once, the entry of a key does not depend on the order. -/
theorem lookup_eq_some_iff_mem {fields : Fields P} (h : (fields.map (·.1)).Nodup) {key : String}
    {value : Json P} : fields.lookup key = some value ↔ (key, value) ∈ fields := by
  induction fields with
  | nil => simp
  | cons field fields ih =>
    obtain ⟨name, child⟩ := field
    rw [List.map_cons, List.nodup_cons] at h
    rw [List.lookup_cons, List.mem_cons, ← ih h.2]
    by_cases hname : key = name
    · subst hname
      have hnone : (key, value) ∉ fields := fun hmem => h.1 (List.mem_map.mpr ⟨(key, value), hmem, rfl⟩)
      rw [ih h.2]
      simp [hnone, eq_comm]
    · have hne : (key == name) = false := by simpa using hname
      simp [hne, hname]

theorem lookup_sortedFields {fields : Fields P} (h : (fields.map (·.1)).Nodup) (key : String) :
    (sortedFields fields).lookup key = (fields.lookup key).map sortKeys := by
  have hsorted : ((sortedFields fields).map (·.1)).Nodup := (sortedFields_keys fields).nodup_iff.mpr h
  apply Option.ext
  intro value
  rw [lookup_eq_some_iff_mem hsorted, mem_sortedFields_iff, Option.map_eq_some_iff]
  apply exists_congr
  intro child
  rw [lookup_eq_some_iff_mem h, eq_comm]

variable {fields : Fields P} {key : String} {value : Json P}

theorem item_sortKeys (hkeys : (fields.map (·.1)).Nodup) (hlookup : fields.lookup key = some value) :
    (sortKeys (.dict fields)).item key = .ok (sortKeys value) := by
  rw [sortKeys_dict, Json.item, lookup_sortedFields hkeys, hlookup]
  rfl

theorem get_sortKeys (hkeys : (fields.map (·.1)).Nodup) (hlookup : (fields.lookup key).getD .null = value) :
    (sortKeys (.dict fields)).get key = .ok (sortKeys value) := by
  rw [sortKeys_dict, Json.get, lookup_sortedFields hkeys, ← hlookup]
  cases fields.lookup key <;> rfl

theorem truthy_sortKeys (adapter : AdapterHost P) (value : Json P) :
    (sortKeys value).truthy adapter = value.truthy adapter := by
  cases value with
  | null | bool _ | int _ | float _ | str _ => rfl
  | list items => rw [sortKeys_list, Json.truthy, Json.truthy, List.isEmpty_map]
  | dict fields =>
    rw [sortKeys_dict, Json.truthy, Json.truthy, (sortedFields_perm fields).isEmpty_eq, List.isEmpty_map]

end Sorted

section Transparent

/-- A change of a value that no access to its entries notices, as long as each key stands once. -/
structure Transparent (f : Json P → Json P) : Prop where
  item : ∀ {fields : Fields P} {key : String} {value : Json P}, (fields.map (·.1)).Nodup →
    fields.lookup key = some value → (f (.dict fields)).item key = .ok (f value)
  get : ∀ {fields : Fields P} {key : String} {value : Json P}, (fields.map (·.1)).Nodup →
    (fields.lookup key).getD .null = value → (f (.dict fields)).get key = .ok (f value)
  list : ∀ items, f (.list items) = .list (items.map f)
  null : f .null = .null
  bool : ∀ value, f (.bool value) = .bool value
  int : ∀ value, f (.int value) = .int value
  float : ∀ value, f (.float value) = .float value
  str : ∀ value, f (.str value) = .str value

theorem transparent_id : Transparent (id : Json P → Json P) where
  item _ hlookup := by simp [Json.item, hlookup]
  get _ hlookup := by simp [Json.get, hlookup]
  list items := by simp
  null := rfl
  bool _ := rfl
  int _ := rfl
  float _ := rfl
  str _ := rfl

theorem transparent_sortKeys : Transparent (sortKeys : Json P → Json P) where
  item hkeys hlookup := item_sortKeys hkeys hlookup
  get hkeys hlookup := get_sortKeys hkeys hlookup
  list items := sortKeys_list items
  null := rfl
  bool _ := rfl
  int _ := rfl
  float _ := rfl
  str _ := rfl

theorem Transparent.getOr {f : Json P → Json P} (hf : Transparent f) {fields : Fields P} {key : String}
    {value : Json P} (hkeys : (fields.map (·.1)).Nodup) (hlookup : fields.lookup key = some value)
    (default : Json P) : (f (.dict fields)).getOr key default = .ok (f value) :=
  Json.getOr_of_item (hf.item hkeys hlookup) default

end Transparent

section Printed

variable {floatRepr : P → String} {parseFloat : List Char → P}

theorem printableItems_iff {items : List (Json P)} :
    PrintableItems floatRepr parseFloat items ↔ ∀ item ∈ items, Printable floatRepr parseFloat item := by
  induction items with
  | nil => simp [PrintableItems]
  | cons item items ih => rw [PrintableItems, ih, List.forall_mem_cons]

theorem printableFields_iff {fields : Fields P} :
    PrintableFields floatRepr parseFloat fields ↔
      ∀ field ∈ fields, Printable floatRepr parseFloat field.2 := by
  induction fields with
  | nil => simp [PrintableFields]
  | cons field fields ih =>
    obtain ⟨key, value⟩ := field
    rw [PrintableFields, ih, List.forall_mem_cons]

theorem printable_sortKeys {value : Json P} (h : Printable floatRepr parseFloat value) :
    Printable floatRepr parseFloat (sortKeys value) := by
  induction value using Json.deepInduction with
  | null => exact h
  | bool _ => exact h
  | int _ => exact h
  | float _ => exact h
  | str _ => exact h
  | list items ih =>
    rw [sortKeys_list]
    rw [Printable, printableItems_iff] at h ⊢
    intro item hitem
    obtain ⟨child, hchild, rfl⟩ := List.mem_map.mp hitem
    exact ih child hchild (h child hchild)
  | dict fields ih =>
    rw [sortKeys_dict]
    rw [Printable, printableFields_iff] at h ⊢
    refine ⟨(sortedFields_keys fields).nodup_iff.mpr h.1, ?_⟩
    intro field hfield
    obtain ⟨child, hchild, heq⟩ := mem_sortedFields_iff.mp hfield
    rw [heq]
    exact ih _ hchild (h.2 _ hchild)

end Printed

section Digests

variable (host : AgentHost P)

theorem sha256Json_sortKeys (value : Json P) : sha256Json host (sortKeys value) = sha256Json host value := by
  rw [sha256Json, sha256Json, jsonDumpsSorted, jsonDumpsSorted, sortKeys_sortKeys]

/-- Fields left out of a dict in order are left out of the dict. -/
theorem sortKeys_filter {fields : Fields P} (h : (fields.map (·.1)).Nodup) (keep : String → Bool) :
    sortKeys (.dict ((sortedFields fields).filter fun field => keep field.1)) =
      sortKeys (.dict (fields.filter fun field => keep field.1)) := by
  have hfixed : sortKeys (.dict ((sortedFields fields).filter fun field => keep field.1)) =
      .dict ((sortedFields fields).filter fun field => keep field.1) := by
    rw [sortKeys_dict, sortedFields_of_sorted ?_ ((sortedFields_pairwise fields).filter _)]
    intro field hfield
    obtain ⟨child, _, heq⟩ := mem_sortedFields_iff.mp (List.mem_of_mem_filter hfield)
    rw [heq, sortKeys_sortKeys]
  rw [hfixed, sortKeys_dict]
  congr 1
  have hsorted : ((sortedFields fields).map (·.1)).Nodup := (sortedFields_keys fields).nodup_iff.mpr h
  have hantisymm : ∀ a b, a ∈ (sortedFields fields).filter (fun field => keep field.1) →
      b ∈ sortedFields (fields.filter fun field => keep field.1) →
        keyLe a b = true → keyLe b a = true → a = b := by
    intro a b ha hb hab hba
    rw [keyLe, decide_eq_true_eq] at hab hba
    have hb' : b ∈ sortedFields fields := by
      obtain ⟨child, hchild, heq⟩ := mem_sortedFields_iff.mp hb
      exact mem_sortedFields_iff.mpr ⟨child, List.mem_of_mem_filter hchild, heq⟩
    exact List.inj_on_of_nodup_map hsorted (List.mem_of_mem_filter ha) hb' (le_antisymm hab hba)
  have hperm := (sortedFields_perm fields).filter fun field => keep field.1
  rw [List.filter_map] at hperm
  exact List.Perm.eq_of_pairwise hantisymm ((sortedFields_pairwise fields).filter _)
    (sortedFields_pairwise _) (hperm.trans (sortedFields_perm _).symm)

end Digests

end PermeantOS
