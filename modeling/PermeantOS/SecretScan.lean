import PermeantOS.AgentGraph

namespace PermeantOS

variable {P : Type}

/-- One step down into a value: into a member of a dict or into an entry of a list. -/
inductive Hop
  | member (index : Nat) (key : String)
  | entry (index : Nat)

def Hop.index : Hop → Nat
  | .member index _ => index
  | .entry index => index

def Hop.text : Hop → String
  | .member _ key => s!".{key}"
  | .entry index => s!"[{index}]"

/-- The path the scan writes for a place below `path`. -/
def pathText (path : String) (place : List Hop) : String := place.foldl (fun path hop => path ++ hop.text) path

/-- `key` is a member, at the place, of a dict somewhere in the value. -/
inductive HasMember : Json P → List Hop → String → Prop
  | here {fields : List (String × Json P)} {index : Nat} {key : String} {child : Json P}
      (hfield : fields[index]? = some (key, child)) : HasMember (.dict fields) [.member index key] key
  | inMember {fields : List (String × Json P)} {index : Nat} {name key : String} {child : Json P}
      {place : List Hop} (hfield : fields[index]? = some (name, child)) (hchild : HasMember child place key) :
      HasMember (.dict fields) (.member index name :: place) key
  | inEntry {items : List (Json P)} {index : Nat} {key : String} {child : Json P} {place : List Hop}
      (hitem : items[index]? = some child) (hchild : HasMember child place key) :
      HasMember (.list items) (.entry index :: place) key

/-- The order in which a depth-first traversal meets two places: a member before what is below it, and what
is at or below an earlier member or entry before what is at or below a later one. -/
def MetBefore (place place' : List Hop) : Prop := place.map Hop.index < place'.map Hop.index

section Places

mutual

/-- The places of the forbidden members of a value, in traversal order. -/
def forbiddenPlaces : Json P → List (List Hop)
  | .dict fields => placesInFields 0 fields
  | .list items => placesInItems 0 items
  | _ => []

def placesInFields (index : Nat) : List (String × Json P) → List (List Hop)
  | [] => []
  | (key, child) :: fields =>
    (if isForbiddenKey key = true then [[.member index key]] else []) ++
      ((forbiddenPlaces child).map (.member index key :: ·) ++ placesInFields (index + 1) fields)

def placesInItems (index : Nat) : List (Json P) → List (List Hop)
  | [] => []
  | child :: items => (forbiddenPlaces child).map (.entry index :: ·) ++ placesInItems (index + 1) items

end

end Places

section Texts

theorem member_text (path key : String) (index : Nat) :
    s!"{path}.{key}" = path ++ (Hop.member index key).text := by
  simp [Hop.text, String.append_assoc, toString]

theorem entry_text (path : String) (index : Nat) : s!"{path}[{index}]" = path ++ (Hop.entry index).text := by
  simp [Hop.text, String.append_assoc, toString]

mutual

/-- The scan writes the path of every forbidden place, by induction on the value. -/
theorem findForbidden_eq_map (path : String) :
    ∀ value : Json P, findForbiddenSecretMaterial path value = (forbiddenPlaces value).map (pathText path)
  | .dict fields => by
    rw [findForbiddenSecretMaterial, forbiddenPlaces]
    exact findForbiddenFields_eq_map path 0 fields
  | .list items => by
    rw [findForbiddenSecretMaterial, forbiddenPlaces]
    exact findForbiddenItems_eq_map path 0 items
  | .null | .bool _ | .int _ | .float _ | .str _ => rfl

theorem findForbiddenFields_eq_map (path : String) (index : Nat) :
    ∀ fields : List (String × Json P),
      findForbiddenFields path fields = (placesInFields index fields).map (pathText path)
  | [] => rfl
  | (key, child) :: fields => by
    have hchild := findForbidden_eq_map s!"{path}.{key}" child
    have hfields := findForbiddenFields_eq_map path (index + 1) fields
    rw [findForbiddenFields, placesInFields, hchild, hfields, member_text path key index, List.map_append,
      List.map_append, List.map_map]
    congr 1
    split <;> rfl

theorem findForbiddenItems_eq_map (path : String) (index : Nat) :
    ∀ items : List (Json P), findForbiddenItems path index items = (placesInItems index items).map (pathText path)
  | [] => rfl
  | child :: items => by
    have hchild := findForbidden_eq_map s!"{path}[{index}]" child
    have hitems := findForbiddenItems_eq_map path (index + 1) items
    rw [findForbiddenItems, placesInItems, hchild, hitems, entry_text path index, List.map_append, List.map_map]
    rfl

end

end Texts

section Members

mutual

/-- What the enumeration lists is what `HasMember` says, by induction on the value. -/
theorem mem_forbiddenPlaces_iff {place : List Hop} :
    ∀ {value : Json P},
      place ∈ forbiddenPlaces value ↔ ∃ key, HasMember value place key ∧ isForbiddenKey key = true
  | .dict fields => by
    rw [forbiddenPlaces, mem_placesInFields_iff]
    simp only [Nat.zero_add]
    constructor
    · rintro ⟨index, name, child, hfield, ⟨hname, rfl⟩ | ⟨rest, key, rfl, hchild, hkey⟩⟩
      · exact ⟨name, .here hfield, hname⟩
      · exact ⟨key, .inMember hfield hchild, hkey⟩
    · rintro ⟨key, hmember, hkey⟩
      cases hmember with
      | here hfield => exact ⟨_, _, _, hfield, Or.inl ⟨hkey, rfl⟩⟩
      | inMember hfield hchild => exact ⟨_, _, _, hfield, Or.inr ⟨_, _, rfl, hchild, hkey⟩⟩
  | .list items => by
    rw [forbiddenPlaces, mem_placesInItems_iff]
    simp only [Nat.zero_add]
    constructor
    · rintro ⟨index, child, hitem, rest, key, rfl, hchild, hkey⟩
      exact ⟨key, .inEntry hitem hchild, hkey⟩
    · rintro ⟨key, hmember, hkey⟩
      cases hmember with
      | inEntry hitem hchild => exact ⟨_, _, hitem, _, _, rfl, hchild, hkey⟩
  | .null | .bool _ | .int _ | .float _ | .str _ => by
    constructor
    · intro h
      cases h
    · rintro ⟨key, hmember, _⟩
      cases hmember

theorem mem_placesInFields_iff {place : List Hop} {start : Nat} :
    ∀ {fields : List (String × Json P)},
      place ∈ placesInFields start fields ↔ ∃ index name child, fields[index]? = some (name, child) ∧
        (isForbiddenKey name = true ∧ place = [.member (start + index) name] ∨
          ∃ rest key, place = .member (start + index) name :: rest ∧ HasMember child rest key ∧
            isForbiddenKey key = true)
  | [] => by simp [placesInFields]
  | (name, child) :: fields => by
    have hhere : place ∈ (if isForbiddenKey name = true then [[Hop.member start name]] else []) ↔
        isForbiddenKey name = true ∧ place = [.member start name] := by
      split <;> simp [*]
    rw [placesInFields, List.mem_append, List.mem_append, List.mem_map, mem_placesInFields_iff, hhere]
    constructor
    · rintro (hhere | ⟨rest, hrest, rfl⟩ | ⟨index, name', child', hfield, hplace⟩)
      · exact ⟨0, name, child, rfl, Or.inl hhere⟩
      · obtain ⟨key, hchild, hkey⟩ := mem_forbiddenPlaces_iff.mp hrest
        exact ⟨0, name, child, rfl, Or.inr ⟨rest, key, rfl, hchild, hkey⟩⟩
      · rw [Nat.add_right_comm, Nat.add_assoc] at hplace
        exact ⟨index + 1, name', child', hfield, hplace⟩
    · rintro ⟨index, name', child', hfield, hplace⟩
      cases index with
      | zero =>
        cases hfield
        rcases hplace with hhere | ⟨rest, key, rfl, hchild, hkey⟩
        · exact Or.inl hhere
        · exact Or.inr (Or.inl ⟨rest, mem_forbiddenPlaces_iff.mpr ⟨key, hchild, hkey⟩, rfl⟩)
      | succ index =>
        rw [← Nat.add_assoc, Nat.add_right_comm] at hplace
        exact Or.inr (Or.inr ⟨index, name', child', hfield, hplace⟩)

theorem mem_placesInItems_iff {place : List Hop} {start : Nat} :
    ∀ {items : List (Json P)},
      place ∈ placesInItems start items ↔ ∃ index child, items[index]? = some child ∧
        ∃ rest key, place = .entry (start + index) :: rest ∧ HasMember child rest key ∧ isForbiddenKey key = true
  | [] => by simp [placesInItems]
  | child :: items => by
    rw [placesInItems, List.mem_append, List.mem_map, mem_placesInItems_iff]
    constructor
    · rintro (⟨rest, hrest, rfl⟩ | ⟨index, child', hitem, hplace⟩)
      · obtain ⟨key, hchild, hkey⟩ := mem_forbiddenPlaces_iff.mp hrest
        exact ⟨0, child, rfl, rest, key, rfl, hchild, hkey⟩
      · rw [Nat.add_right_comm, Nat.add_assoc] at hplace
        exact ⟨index + 1, child', hitem, hplace⟩
    · rintro ⟨index, child', hitem, rest, key, rfl, hchild, hkey⟩
      cases index with
      | zero =>
        cases hitem
        exact Or.inl ⟨rest, mem_forbiddenPlaces_iff.mpr ⟨key, hchild, hkey⟩, rfl⟩
      | succ index =>
        rw [← Nat.add_assoc, Nat.add_right_comm]
        exact Or.inr ⟨index, child', hitem, rest, key, rfl, hchild, hkey⟩

end

end Members

section Order

theorem MetBefore.below {hop : Hop} {place place' : List Hop} (h : MetBefore place place') :
    MetBefore (hop :: place) (hop :: place') := by
  unfold MetBefore at h ⊢
  exact List.cons_lt_cons_self.mpr h

theorem metBefore_of_index_lt {hop hop' : Hop} {place place' : List Hop} (h : hop.index < hop'.index) :
    MetBefore (hop :: place) (hop' :: place') := List.Lex.rel h

/-- A member comes before what is below it. -/
theorem HasMember.metAfter {child : Json P} {place : List Hop} {key : String} (h : HasMember child place key)
    (hop : Hop) : MetBefore [hop] (hop :: place) := by
  refine MetBefore.below ?_
  cases h <;> exact List.Lex.nil

theorem pairwise_below {hop : Hop} {places : List (List Hop)} (h : places.Pairwise MetBefore) :
    (places.map (hop :: ·)).Pairwise MetBefore :=
  h.map (hop :: ·) fun _ _ hbefore => hbefore.below

mutual

/-- The places come in traversal order, each of them once, by induction on the value. -/
theorem pairwise_forbiddenPlaces : ∀ value : Json P, (forbiddenPlaces value).Pairwise MetBefore
  | .dict fields => by
    rw [forbiddenPlaces]
    exact pairwise_placesInFields 0 fields
  | .list items => by
    rw [forbiddenPlaces]
    exact pairwise_placesInItems 0 items
  | .null | .bool _ | .int _ | .float _ | .str _ => List.Pairwise.nil

theorem pairwise_placesInFields (start : Nat) :
    ∀ fields : List (String × Json P), (placesInFields start fields).Pairwise MetBefore
  | [] => List.Pairwise.nil
  | (name, child) :: fields => by
    rw [placesInFields]
    have hlater : ∀ rest, ∀ place ∈ placesInFields (start + 1) fields,
        MetBefore (.member start name :: rest) place := by
      intro rest place hplace
      obtain ⟨index, name', child', hfield, ⟨_, rfl⟩ | ⟨rest', key, rfl, _⟩⟩ :=
        mem_placesInFields_iff.mp hplace
      · exact metBefore_of_index_lt (by simp only [Hop.index]; omega)
      · exact metBefore_of_index_lt (by simp only [Hop.index]; omega)
    have hchild : ((forbiddenPlaces child).map (Hop.member start name :: ·)).Pairwise MetBefore :=
      pairwise_below (pairwise_forbiddenPlaces child)
    have hbelow := List.pairwise_append.mpr ⟨hchild, pairwise_placesInFields (start + 1) fields, by
      intro place hplace place' hplace'
      obtain ⟨rest, _, rfl⟩ := List.mem_map.mp hplace
      exact hlater rest place' hplace'⟩
    split
    next hname =>
      rw [List.singleton_append]
      refine List.pairwise_cons.mpr ⟨?_, hbelow⟩
      intro place hplace
      rcases List.mem_append.mp hplace with hplace | hplace
      · obtain ⟨rest, hrest, rfl⟩ := List.mem_map.mp hplace
        obtain ⟨key, hmember, _⟩ := mem_forbiddenPlaces_iff.mp hrest
        exact hmember.metAfter _
      · exact hlater [] place hplace
    next => exact hbelow

theorem pairwise_placesInItems (start : Nat) :
    ∀ items : List (Json P), (placesInItems start items).Pairwise MetBefore
  | [] => List.Pairwise.nil
  | child :: items => by
    rw [placesInItems]
    refine List.pairwise_append.mpr ⟨pairwise_below (pairwise_forbiddenPlaces child),
      pairwise_placesInItems (start + 1) items, ?_⟩
    intro place hplace place' hplace'
    obtain ⟨rest, _, rfl⟩ := List.mem_map.mp hplace
    obtain ⟨index, child', hitem, rest', key, rfl, _⟩ := mem_placesInItems_iff.mp hplace'
    exact metBefore_of_index_lt (by simp only [Hop.index]; omega)

end

end Order

/-- The scan reports exactly the members with a forbidden key, each once and in traversal order, whatever the
nesting, and nothing is reported only where there is none. -/
theorem findForbiddenSecretMaterial_exhaustive (path : String) (value : Json P) :
    (∃ places : List (List Hop), places.Pairwise MetBefore ∧
      (∀ place, place ∈ places ↔ ∃ key, HasMember value place key ∧ isForbiddenKey key = true) ∧
      findForbiddenSecretMaterial path value = places.map (pathText path)) ∧
    (findForbiddenSecretMaterial path value = [] ↔
      ∀ place key, HasMember value place key → isForbiddenKey key = false) := by
  refine ⟨⟨forbiddenPlaces value, pairwise_forbiddenPlaces value, fun place => mem_forbiddenPlaces_iff,
    findForbidden_eq_map path value⟩, ?_⟩
  rw [findForbidden_eq_map, List.map_eq_nil_iff, List.eq_nil_iff_forall_not_mem]
  constructor
  · intro hnone place key hmember
    have hplace := hnone place
    rw [mem_forbiddenPlaces_iff] at hplace
    exact Bool.eq_false_iff.mpr fun hkey => hplace ⟨key, hmember, hkey⟩
  · intro hallowed place hplace
    obtain ⟨key, hmember, hkey⟩ := mem_forbiddenPlaces_iff.mp hplace
    rw [hallowed place key hmember] at hkey
    cases hkey

end PermeantOS
