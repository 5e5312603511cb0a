import PermeantOS.JsonText

namespace PermeantOS

variable {F : Type} {floatRepr : F → String} {parseFloat : List Char → F}

section Line

/-- Separators that are a comma and a colon, with white space behind them. -/
def Spaced (gap gap' : List Char) : Separators := ⟨',' :: gap, ':' :: gap'⟩

variable {gap gap' : List Char}

theorem dumpsItems_cons {item next : Json F} {items : List (Json F)} :
    dumpsItems floatRepr (Spaced gap gap') (item :: next :: items) =
      dumpsChars floatRepr (Spaced gap gap') item ++
        (',' :: (gap ++ dumpsItems floatRepr (Spaced gap gap') (next :: items))) := by
  simp [dumpsItems, Spaced]

theorem dumpsFields_last {key : String} {value : Json F} :
    dumpsFields floatRepr (Spaced gap gap') [(key, value)] =
      dumpsString key ++ (':' :: (gap' ++ dumpsChars floatRepr (Spaced gap gap') value)) := by
  simp [dumpsFields, Spaced]

theorem dumpsFields_cons {key : String} {value : Json F} {next : String × Json F}
    {fields : List (String × Json F)} :
    dumpsFields floatRepr (Spaced gap gap') ((key, value) :: next :: fields) =
      dumpsString key ++ (':' :: (gap' ++ (dumpsChars floatRepr (Spaced gap gap') value ++
        (',' :: (gap ++ dumpsFields floatRepr (Spaced gap gap') (next :: fields)))))) := by
  simp [dumpsFields, Spaced]

theorem dumpsFields_head (floatRepr : F → String) (gap gap' : List Char) (field : String × Json F)
    (fields : List (String × Json F)) (rest : List Char) :
    ∃ text, dumpsFields floatRepr (Spaced gap gap') (field :: fields) ++ rest = '\x22' :: text := by
  cases fields with
  | nil =>
    rw [dumpsFields_last]
    exact ⟨_, rfl⟩
  | cons next fields =>
    rw [dumpsFields_cons]
    exact ⟨_, rfl⟩

theorem blank_nil : Blank [] := fun _ => rfl

mutual

/-- A text on one line is read back as the value that it was written for. -/
theorem scanOnce_dumpsChars (hgap : Blank gap) (hgap' : Blank gap') :
    (value : Json F) → Printable floatRepr parseFloat value → (rest : List Char) → EndsNumber rest →
      (fuel : Nat) → (dumpsChars floatRepr (Spaced gap gap') value).length < fuel →
        scanOnce parseFloat fuel (dumpsChars floatRepr (Spaced gap gap') value ++ rest) = some (value, rest)
  | .null, _, _, _, _ + 1, _ => rfl
  | .bool true, _, _, _, _ + 1, _ => rfl
  | .bool false, _, _, _, _ + 1, _ => rfl
  | .int n, _, rest, hrest, fuel + 1, _ => by
    obtain ⟨c, cs, hcs, hc⟩ := toString_head n
    have hnumber := scanNumber_toString parseFloat n hrest
    show scanOnce parseFloat (fuel + 1) ((toString n).toList ++ rest) = _
    rw [hcs, List.cons_append] at hnumber ⊢
    exact scanOnce_of_scanNumber hc hnumber fuel
  | .float x, h, rest, hrest, fuel + 1, _ => h.scans rest hrest fuel
  | .str text, _, rest, _, fuel + 1, _ => by
    obtain ⟨cs, hcs, hscan⟩ := scanString_dumpsString text rest
    show scanOnce parseFloat (fuel + 1) (dumpsString text ++ rest) = _
    rw [hcs, scanOnce, hscan]
    rfl
  | .list [], _, _, _, _ + 1, _ => rfl
  | .list (item :: items), h, rest, _, fuel + 1, hfuel => by
    simp only [dumpsChars_list, List.length_cons, List.length_append] at hfuel
    have hitems := scanItems_dumpsItems hgap hgap' item items h rest fuel (by omega)
    have hlist := scanOnce_list hitems blank_nil
    simpa only [dumpsChars_list, List.cons_append, List.append_assoc, List.nil_append] using hlist
  | .dict [], _, _, _, _ + 1, _ => rfl
  | .dict (field :: fields), h, rest, _, fuel + 1, hfuel => by
    simp only [dumpsChars_dict, List.length_cons, List.length_append] at hfuel
    have hfields := scanPairs_dumpsFields hgap hgap' field fields h.2 rest fuel (by omega)
    obtain ⟨text, htext⟩ := dumpsFields_head floatRepr gap gap' field fields ('\x7d' :: rest)
    rw [htext] at hfields
    have hdict := scanOnce_dict h.1 hfields blank_nil
    rw [← htext] at hdict
    simpa only [dumpsChars_dict, List.cons_append, List.append_assoc, List.nil_append] using hdict
termination_by structural _ _ _ _ fuel => fuel

theorem scanItems_dumpsItems (hgap : Blank gap) (hgap' : Blank gap') :
    (item : Json F) → (items : List (Json F)) → PrintableItems floatRepr parseFloat (item :: items) →
      (rest : List Char) →
      (fuel : Nat) → (dumpsItems floatRepr (Spaced gap gap') (item :: items)).length + 1 < fuel →
        scanItems parseFloat fuel (dumpsItems floatRepr (Spaced gap gap') (item :: items) ++ ']' :: rest) =
          some (item :: items, rest)
  | item, [], h, rest, fuel + 1, hfuel => by
    have hlength : (dumpsChars floatRepr (Spaced gap gap') item).length + 1 < fuel + 1 := hfuel
    have hitem := scanOnce_dumpsChars hgap hgap' item h.1 (']' :: rest) (endsNumber_cons rfl (by decide)) fuel
      (by omega)
    exact scanItems_last blank_nil hitem
  | item, next :: items, h, rest, fuel + 1, hfuel => by
    rw [dumpsItems_cons] at hfuel ⊢
    simp only [List.length_cons, List.length_append] at hfuel
    have hmore := scanItems_dumpsItems hgap hgap' next items h.2 rest fuel (by omega)
    have hfirst := scanOnce_dumpsChars hgap hgap' item h.1
      (',' :: (gap ++ (dumpsItems floatRepr (Spaced gap gap') (next :: items) ++ ']' :: rest)))
      (endsNumber_cons rfl (by decide)) fuel (by omega)
    have hall := scanItems_more hfirst hmore hgap
    simpa only [List.cons_append, List.append_assoc] using hall
termination_by structural _ _ _ _ fuel => fuel

theorem scanPairs_dumpsFields (hgap : Blank gap) (hgap' : Blank gap') :
    (field : String × Json F) → (fields : List (String × Json F)) →
      PrintableFields floatRepr parseFloat (field :: fields) → (rest : List Char) →
      (fuel : Nat) → (dumpsFields floatRepr (Spaced gap gap') (field :: fields)).length + 1 < fuel →
        scanPairs parseFloat fuel (dumpsFields floatRepr (Spaced gap gap') (field :: fields) ++ '\x7d' :: rest) =
          some (field :: fields, rest)
  | (key, value), [], h, rest, fuel + 1, hfuel => by
    rw [dumpsFields_last] at hfuel ⊢
    simp only [List.length_cons, List.length_append] at hfuel
    have hvalue := scanOnce_dumpsChars hgap hgap' value h.1 ('\x7d' :: rest) (endsNumber_cons rfl (by decide)) fuel
      (by omega)
    have hpair := scanPairs_key key hvalue hgap'
    rw [skipWhitespace_cons rfl] at hpair
    simpa only [List.cons_append, List.append_assoc] using hpair
  | (key, value), next :: fields, h, rest, fuel + 1, hfuel => by
    rw [dumpsFields_cons] at hfuel ⊢
    simp only [List.length_cons, List.length_append] at hfuel
    have hmore := scanPairs_dumpsFields hgap hgap' next fields h.2 rest fuel (by omega)
    have hvalue := scanOnce_dumpsChars hgap hgap' value h.1
      (',' :: (gap ++ (dumpsFields floatRepr (Spaced gap gap') (next :: fields) ++ '\x7d' :: rest)))
      (endsNumber_cons rfl (by decide)) fuel (by omega)
    obtain ⟨text, htext⟩ := dumpsFields_head floatRepr gap gap' next fields ('\x7d' :: rest)
    have hpair := scanPairs_key key hvalue hgap'
    have hskip : skipWhitespace (gap ++ (dumpsFields floatRepr (Spaced gap gap') (next :: fields) ++
        '\x7d' :: rest)) = dumpsFields floatRepr (Spaced gap gap') (next :: fields) ++ '\x7d' :: rest := by
      rw [hgap, htext, skipWhitespace_cons rfl]
    simp only [skipWhitespace_cons (c := ',') rfl, hskip, hmore, Option.bind_some] at hpair
    simpa only [List.cons_append, List.append_assoc] using hpair
termination_by structural _ _ _ _ fuel => fuel

end

end Line

/-- `json.loads(json.dumps(value))` -/
theorem jsonLoads_jsonDumps {value : Json F} (h : Printable floatRepr parseFloat value) :
    jsonLoads parseFloat (jsonDumps floatRepr value) = .ok value := by
  have hscan := scanOnce_dumpsChars blank_space blank_space value h [] (fun c hc => by cases hc)
    ((dumpsChars floatRepr .default value).length + 1) (Nat.lt_succ_self _)
  rw [List.append_nil] at hscan
  have htext : scanOnce parseFloat ((dumpsChars floatRepr .default value).length + 1)
      (dumpsChars floatRepr .default value) = some (value, []) := hscan
  have hbom : (dumpsChars floatRepr .default value).head? ≠ some '\ufeff' := by
    intro hhead
    obtain ⟨cs, hcs⟩ := List.head?_eq_some_iff.mp hhead
    rw [hcs, scanOnce_of_head (.inr (.inr rfl))] at htext
    cases htext
  unfold jsonLoads jsonDumps
  rw [String.toList_ofList]
  dsimp only
  rw [if_neg hbom, skipWhitespace_of_scanOnce htext, htext]
  rfl

end PermeantOS
