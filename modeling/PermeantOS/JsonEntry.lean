import PermeantOS.JsonSorted

namespace PermeantOS

variable {P : Type}

section Texts

variable (floatRepr : P → String) (separators : Separators)

/-- The text of one entry stands alone in the text of a dict. -/
theorem dumpsFields_split (front back : Fields P) (key : String) : ∃ before after, ∀ value,
    dumpsFields floatRepr separators (front ++ (key, value) :: back) =
      before ++ (dumpsChars floatRepr separators value ++ after) := by
  induction front with
  | nil =>
    cases back with
    | nil => exact ⟨dumpsString key ++ separators.key, [], fun value => by simp [dumpsFields]⟩
    | cons next back =>
      exact ⟨dumpsString key ++ separators.key, separators.item ++ dumpsFields floatRepr separators (next :: back),
        fun value => by simp [dumpsFields]⟩
  | cons field front ih =>
    obtain ⟨name, child⟩ := field
    obtain ⟨before, after, htext⟩ := ih
    refine ⟨dumpsString name ++ separators.key ++ dumpsChars floatRepr separators child ++ separators.item ++ before,
      after, ?_⟩
    intro value
    have hcons : ∃ next rest, front ++ (key, value) :: back = next :: rest := by
      cases front with
      | nil => exact ⟨_, _, rfl⟩
      | cons next front => exact ⟨_, _, rfl⟩
    obtain ⟨next, rest, hnext⟩ := hcons
    rw [List.cons_append, hnext, dumpsFields, ← hnext, htext]
    · simp
    · simp

theorem dumpsFields_start (field : String × Json P) (fields : Fields P) : ∃ rest,
    dumpsFields floatRepr separators (field :: fields) = dumpsString field.1 ++ rest := by
  obtain ⟨key, value⟩ := field
  cases fields with
  | nil => exact ⟨_, by rw [dumpsFields, List.append_assoc]⟩
  | cons next fields =>
    refine ⟨separators.key ++ dumpsChars floatRepr separators value ++ separators.item ++
      dumpsFields floatRepr separators (next :: fields), ?_⟩
    simp [dumpsFields]

variable {floatRepr separators}

/-- The fields of a dict in order, with another value for one of the keys. -/
theorem sortedFields_replace (fields : Fields P) (key : String) (value : Json P) :
    sortedFields (fields.map fun field => if field.1 = key then (key, value) else field) =
      (sortedFields fields).map fun field => if field.1 = key then (key, sortKeys value) else field := by
  have hkeys (field : String × Json P) :
      (if field.1 = key then (key, sortKeys value) else field).1 = field.1 := by
    split
    next h => exact h.symm
    next => rfl
  rw [sortedFields, sortedFields, List.map_mergeSort (s := keyLe) fun a _ b _ => by rw [keyLe, keyLe, hkeys, hkeys],
    List.map_map, List.map_map]
  congr 1
  apply List.map_congr_left
  intro field _
  by_cases h : field.1 = key <;> simp [h]

theorem map_replace_of_not_mem {fields : Fields P} {key : String} (h : key ∉ fields.map (·.1)) (value : Json P) :
    (fields.map fun field => if field.1 = key then (key, value) else field) = fields := by
  rw [List.map_congr_left (g := id), List.map_id]
  intro field hfield
  rw [if_neg]
  · rfl
  · intro heq
    exact h (List.mem_map.mpr ⟨field, hfield, heq⟩)

theorem map_replace_split {front back : Fields P} {key : String}
    (hkeys : ((front ++ (key, .null) :: back).map (·.1)).Nodup) (old value : Json P) :
    ((front ++ (key, old) :: back).map fun field => if field.1 = key then (key, value) else field) =
      front ++ (key, value) :: back := by
  rw [List.map_append, List.map_cons, List.nodup_middle, List.nodup_cons, List.mem_append, not_or] at hkeys
  rw [List.map_append, List.map_cons, map_replace_of_not_mem hkeys.1.1, map_replace_of_not_mem hkeys.1.2, if_pos rfl]

/-- Two dicts that differ in one value have one text only if the two values have. -/
theorem jsonDumpsSorted_inj {front back : Fields P} {key : String} {a b : Json P}
    (hkeys : ((front ++ (key, .null) :: back).map (·.1)).Nodup)
    (h : jsonDumpsSorted floatRepr (.dict (front ++ (key, a) :: back)) =
      jsonDumpsSorted floatRepr (.dict (front ++ (key, b) :: back))) :
    jsonDumpsSorted floatRepr a = jsonDumpsSorted floatRepr b := by
  -- both are the same dict, with the value of the key replaced
  obtain ⟨front', back', hsplit⟩ := List.append_of_mem
    (mem_sortedFields_iff.mpr ⟨.null, List.mem_append_right front List.mem_cons_self, rfl⟩ :
      (key, sortKeys .null) ∈ sortedFields (front ++ (key, .null) :: back))
  have hkeys' : ((front' ++ (key, .null) :: back').map (·.1)).Nodup := by
    have hsorted := (sortedFields_keys (front ++ (key, .null) :: back)).nodup_iff.mpr hkeys
    rw [hsplit] at hsorted
    exact hsorted
  have hsorted (value : Json P) : sortKeys (.dict (front ++ (key, value) :: back)) =
      .dict (front' ++ (key, sortKeys value) :: back') := by
    rw [sortKeys_dict, ← map_replace_split hkeys .null value, sortedFields_replace, hsplit, map_replace_split hkeys']
  obtain ⟨before, after, htext⟩ := dumpsFields_split floatRepr .compact front' back' key
  rw [jsonDumpsSorted, jsonDumpsSorted, hsorted, hsorted, String.ofList_inj, dumpsChars_dict, dumpsChars_dict, htext,
    htext, List.cons_inj_right, List.append_left_inj, List.append_right_inj, List.append_left_inj] at h
  rw [jsonDumpsSorted, jsonDumpsSorted, h]

/-- The least key comes first. -/
theorem sortedFields_head {fields : Fields P} {key : String} (hmem : key ∈ fields.map (·.1))
    (hleast : ∀ other ∈ fields.map (·.1), key ≤ other) : ∃ value rest, sortedFields fields = (key, value) :: rest := by
  have hkey : key ∈ (sortedFields fields).map (·.1) := (sortedFields_keys fields).mem_iff.mpr hmem
  cases hsorted : sortedFields fields with
  | nil =>
    rw [hsorted] at hkey
    cases hkey
  | cons field rest =>
    obtain ⟨name, value⟩ := field
    have hname : key ≤ name := by
      refine hleast name ((sortedFields_keys fields).mem_iff.mp ?_)
      rw [hsorted]
      exact List.mem_cons_self
    have hpairs := sortedFields_pairwise fields
    rw [hsorted, List.pairwise_cons] at hpairs
    rw [hsorted, List.map_cons, List.mem_cons] at hkey
    rcases hkey with rfl | hkey
    · exact ⟨value, rest, rfl⟩
    · obtain ⟨other, hother, rfl⟩ := List.mem_map.mp hkey
      have hle := hpairs.1 other hother
      rw [keyLe, decide_eq_true_eq] at hle
      rw [le_antisymm hname hle]
      exact ⟨value, rest, rfl⟩

/-- A text of a dict starts with its least key. -/
theorem dumpsChars_start {fields : Fields P} {key : String} (hmem : key ∈ fields.map (·.1))
    (hleast : ∀ other ∈ fields.map (·.1), key ≤ other) : ∃ rest,
      dumpsChars floatRepr separators (sortKeys (.dict fields)) = '\x7b' :: (dumpsString key ++ rest) := by
  obtain ⟨value, tail, hsorted⟩ := sortedFields_head hmem hleast
  obtain ⟨rest, hrest⟩ := dumpsFields_start floatRepr separators (key, value) tail
  rw [sortKeys_dict, hsorted, dumpsChars_dict, hrest, List.append_assoc]
  exact ⟨_, rfl⟩

end Texts

end PermeantOS
