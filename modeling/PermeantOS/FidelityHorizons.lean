import PermeantOS.AgentValues

namespace PermeantOS

section Prefixes

variable {α : Type} {xs ys common : List α}

structure LongestCommonPrefix (xs ys common : List α) : Prop where
  left : common <+: xs
  right : common <+: ys
  longest : ∀ other, other <+: xs → other <+: ys → other.length ≤ common.length

/-- `for index in range(count)`, with the index at which the loop is left. -/
def firstIndex (stops : Nat → Bool) (count : Nat) : Option Nat := (List.range count).find? stops

theorem firstIndex_some_iff {stops : Nat → Bool} {count k : Nat} :
    firstIndex stops count = some k ↔ k < count ∧ stops k = true ∧ ∀ j < k, stops j = false := by
  simp only [firstIndex, List.find?_range_eq_some, List.mem_range, Bool.not_eq_true']
  exact and_left_comm

theorem firstIndex_none_iff {stops : Nat → Bool} {count : Nat} :
    firstIndex stops count = none ↔ ∀ j < count, stops j = false := by
  simp only [firstIndex, List.find?_range_eq_none, Bool.not_eq_true']

theorem firstIndex_congr {stops stops' : Nat → Bool} {count : Nat} (h : ∀ j < count, stops j = stops' j) :
    firstIndex stops count = firstIndex stops' count := by
  cases hfirst : firstIndex stops' count with
  | none =>
    rw [firstIndex_none_iff] at hfirst ⊢
    intro j hj
    rw [h j hj, hfirst j hj]
  | some k =>
    rw [firstIndex_some_iff] at hfirst ⊢
    obtain ⟨hk, hstops, hbefore⟩ := hfirst
    refine ⟨hk, (h k hk).trans hstops, ?_⟩
    intro j hj
    rw [h j (by omega), hbefore j hj]

/-- `stops` tells where two lists differ, up to the end of the shorter one. -/
def Differs (xs ys : List α) (stops : Nat → Bool) : Prop :=
  ∀ j, j < xs.length → j < ys.length → (stops j = false ↔ xs[j]? = ys[j]?)

variable {stops : Nat → Bool}

theorem Differs.take_eq (h : Differs xs ys stops) {count : Nat} (hx : count ≤ xs.length)
    (hy : count ≤ ys.length) : (∀ j < count, stops j = false) ↔ xs.take count = ys.take count := by
  constructor
  · intro hsame
    apply List.ext_getElem?
    intro j
    rw [List.getElem?_take, List.getElem?_take]
    split
    next hj => exact (h j (by omega) (by omega)).mp (hsame j hj)
    next => rfl
  · intro heq j hj
    rw [h j (by omega) (by omega)]
    have hget := congrArg (·[j]?) heq
    simpa [List.getElem?_take, hj] using hget

/-- The loop over the shorter list runs through: one list begins with the other. -/
theorem Differs.longest_of_none (h : Differs xs ys stops)
    (hnone : firstIndex stops (min xs.length ys.length) = none) :
    LongestCommonPrefix xs ys (xs.take (min xs.length ys.length)) := by
  have htake := (h.take_eq (Nat.min_le_left _ _) (Nat.min_le_right _ _)).mp (firstIndex_none_iff.mp hnone)
  refine ⟨List.take_prefix _ _, ?_, ?_⟩
  · rw [htake]
    exact List.take_prefix _ _
  · intro other hleft hright
    have hxs := hleft.length_le
    have hys := hright.length_le
    rw [List.length_take]
    omega

/-- Then the shorter list is a beginning of the other one. -/
theorem Differs.prefix_of_none (h : Differs xs ys stops)
    (hnone : firstIndex stops (min xs.length ys.length) = none) :
    (xs <+: ys ↔ xs.length ≤ ys.length) ∧ (ys <+: xs ↔ ys.length ≤ xs.length) ∧
      (xs = ys ↔ xs.length = ys.length) := by
  have htake := (h.take_eq (Nat.min_le_left _ _) (Nat.min_le_right _ _)).mp (firstIndex_none_iff.mp hnone)
  have hleft : xs.length ≤ ys.length → xs <+: ys := by
    intro hle
    rw [Nat.min_eq_left hle, List.take_length] at htake
    rw [htake]
    exact List.take_prefix _ _
  have hright : ys.length ≤ xs.length → ys <+: xs := by
    intro hle
    rw [Nat.min_eq_right hle, List.take_length] at htake
    rw [← htake]
    exact List.take_prefix _ _
  exact ⟨⟨List.IsPrefix.length_le, hleft⟩, ⟨List.IsPrefix.length_le, hright⟩, congrArg List.length,
    fun hlength => (hleft hlength.le).eq_of_length hlength⟩

theorem Differs.longest_of_some (h : Differs xs ys stops) {k : Nat}
    (hsome : firstIndex stops (min xs.length ys.length) = some k) :
    LongestCommonPrefix xs ys (xs.take k) ∧ (xs.take k).length = k ∧ ¬xs <+: ys ∧ ¬ys <+: xs := by
  obtain ⟨hk, hstops, hbefore⟩ := firstIndex_some_iff.mp hsome
  have htake := (h.take_eq (by omega) (by omega)).mp hbefore
  have hlength : (xs.take k).length = k := by
    rw [List.length_take]
    omega
  have hne : xs[k]? ≠ ys[k]? := by
    intro heq
    rw [(h k (by omega) (by omega)).mpr heq] at hstops
    cases hstops
  refine ⟨⟨List.take_prefix _ _, ?_, ?_⟩, hlength, ?_, ?_⟩
  · rw [htake]
    exact List.take_prefix _ _
  · intro other hleft hright
    rw [hlength]
    by_contra hlong
    have hx := List.IsPrefix.getElem hleft (by omega : k < other.length)
    have hy := List.IsPrefix.getElem hright (by omega : k < other.length)
    apply hne
    rw [List.getElem?_eq_getElem (by omega), List.getElem?_eq_getElem (by omega), ← hx, ← hy]
  · intro hbegins
    exact hne (List.prefix_iff_getElem?.mp hbegins k (by omega) ▸ List.getElem?_eq_getElem (by omega))
  · intro hbegins
    exact hne (List.prefix_iff_getElem?.mp hbegins k (by omega) ▸ (List.getElem?_eq_getElem (by omega)).symm)

end Prefixes

section Comparators

variable {P : Type} (host : AgentHost P)

/-- The middle part of `_compare_continuations`, on the token ids of both sides. -/
structure TokenComparison where
  firstTokenMismatchIndex : Option Nat
  sharedPrefixTokenCount : Option Nat
  actualEndedBeforeReference : Bool
  referenceEndedBeforeActual : Bool
  deriving DecidableEq, Repr

def compareTokenIds (expected actual : Json P) : TokenComparison :=
  match expected, actual with
  | .list expected, .list actual =>
    let maxLen := min expected.length actual.length
    match firstIndex (fun index => !pyEq host (expected.getD index .null) (actual.getD index .null)) maxLen with
    | some index => ⟨some index, some index, false, false⟩
    | none =>
      if expected.length ≠ actual.length then
        ⟨some maxLen, some maxLen, decide (actual.length < expected.length),
          decide (expected.length < actual.length)⟩
      else ⟨none, some maxLen, false, false⟩
  | _, _ => ⟨none, none, false, false⟩

def isList : Json P → Bool
  | .list _ => true
  | _ => false

def optionalInt : Option Nat → Json P
  | some n => .int n
  | none => .null

def listLength : Json P → Json P
  | .list items => .int items.length
  | _ => .null

/-- `_compare_continuations` -/
def compareContinuations (reference actual : Fields P) : Json P :=
  let expectedText := (reference.lookup "text").getD .null
  let expectedTokenIds := (reference.lookup "token_ids").getD .null
  let actualText := (actual.lookup "text").getD .null
  let actualTokenIds := (actual.lookup "token_ids").getD .null
  let textMatches := expectedText.asStr.isSome && pyEq host expectedText actualText
  let tokenIdsMatch := isList expectedTokenIds && pyEq host expectedTokenIds actualTokenIds
  let comparison := compareTokenIds host expectedTokenIds actualTokenIds
  .dict [("reference_available", .bool true),
    ("prompt_matches", .bool (pyEq host ((reference.lookup "prompt").getD .null) ((actual.lookup "prompt").getD .null))),
    ("text_matches", .bool textMatches),
    ("token_ids_match", .bool tokenIdsMatch),
    ("shared_prefix_token_count", optionalInt comparison.sharedPrefixTokenCount),
    ("expected_token_count", listLength expectedTokenIds),
    ("actual_token_count", listLength actualTokenIds),
    ("actual_ended_before_reference", .bool comparison.actualEndedBeforeReference),
    ("reference_ended_before_actual", .bool comparison.referenceEndedBeforeActual),
    ("matches", .bool (textMatches && tokenIdsMatch)),
    ("expected_text", expectedText),
    ("actual_text", actualText),
    ("expected_token_ids", expectedTokenIds),
    ("actual_token_ids", actualTokenIds),
    ("first_token_mismatch_index", optionalInt comparison.firstTokenMismatchIndex)]

def plainInt : Json P → Option Int
  | .int value => some value
  | _ => none

/-- `tokens` of a record: the token ids, or none where one of them is no integer. -/
def tokens : Json P → List Int
  | .dict fields =>
    match fields.lookup "token_ids" with
    | some (.list items) => (items.mapM plainInt).getD []
    | _ => []
  | _ => []

/-- `prompt` of a record. -/
def promptText : Json P → Option String
  | .dict fields => ((fields.lookup "prompt").getD .null).asStr
  | _ => none

def firstMismatchIndex (expected actual : List Int) (limit : Option Int) : Option Int :=
  let shorter : Int := min expected.length actual.length
  let maxLen := limit.elim shorter (min shorter)
  match firstIndex (fun index => decide (expected.getD index 0 ≠ actual.getD index 0)) maxLen.toNat with
  | some index => some index
  | none =>
    if limit.any (· ≤ maxLen) = true then none
    else if expected.length ≠ actual.length then some maxLen
    else none

structure HorizonResult where
  horizon : Int
  status : String
  exact : Bool
  firstMismatchIndex : Option Int
  expectedAvailableTokens : Nat
  actualAvailableTokens : Nat
  expectedHasHorizon : Bool
  actualHasHorizon : Bool
  deriving DecidableEq, Repr

def horizonResult (expected actual : List Int) (horizon : Int) : HorizonResult :=
  let expectedAvailable := decide (horizon ≤ expected.length)
  let actualAvailable := decide (horizon ≤ actual.length)
  let mismatch := PermeantOS.firstMismatchIndex expected actual (some horizon)
  let exact := expectedAvailable && actualAvailable && mismatch.isNone
  { horizon := horizon
    status := if exact = true then "exact"
      else if (!expectedAvailable || !actualAvailable) = true then "insufficient_tokens" else "diverged"
    exact := exact
    firstMismatchIndex := mismatch
    expectedAvailableTokens := expected.length
    actualAvailableTokens := actual.length
    expectedHasHorizon := expectedAvailable
    actualHasHorizon := actualAvailable }

structure PairComparison where
  name : String
  available : Bool
  promptMatches : Option Bool
  expectedTokenCount : Nat
  actualTokenCount : Nat
  firstMismatchIndex : Option Int
  maxExactHorizon : Int
  firstFailedHorizon : Option Int
  horizons : List HorizonResult
  deriving DecidableEq, Repr

def comparePair (name : String) (expectedRecord actualRecord : Json P) (horizons : List Int) : PairComparison :=
  let expected := tokens expectedRecord
  let actual := tokens actualRecord
  let results := horizons.map (horizonResult expected actual)
  { name := name
    available := !expected.isEmpty && !actual.isEmpty
    promptMatches := do
      let expectedPrompt ← promptText expectedRecord
      let actualPrompt ← promptText actualRecord
      pure (decide (expectedPrompt = actualPrompt))
    expectedTokenCount := expected.length
    actualTokenCount := actual.length
    firstMismatchIndex := PermeantOS.firstMismatchIndex expected actual none
    maxExactHorizon := ((results.filter (·.exact)).map (·.horizon)).max?.getD 0
    firstFailedHorizon := (results.find? (!·.exact)).map (·.horizon)
    horizons := results }

end Comparators

section Agreement

variable {P : Type} (host : AgentHost P) {e a : List Int}

theorem differs_getD (e a : List Int) : Differs e a fun index => decide (e.getD index 0 ≠ a.getD index 0) := by
  intro j he ha
  simp [List.getD_eq_getElem?_getD, List.getElem?_eq_getElem he, List.getElem?_eq_getElem ha]

theorem pyEq_int (m n : Int) : pyEq host (.int m) (.int n) = decide (m = n) := by
  simp [pyEq, numbersEq, Json.asInt]

/-- The loop over the token ids of the two records is the loop over their integers. -/
theorem firstIndex_pyEq (e a : List Int) : firstIndex (fun index =>
      !pyEq host ((e.map (Json.int : Int → Json P)).getD index .null) ((a.map Json.int).getD index .null))
        (min e.length a.length) =
    firstIndex (fun index => decide (e.getD index 0 ≠ a.getD index 0)) (min e.length a.length) := by
  apply firstIndex_congr
  intro j hj
  have he : j < e.length := by omega
  have ha : j < a.length := by omega
  simp [List.getD_eq_getElem?_getD, List.getElem?_eq_getElem he, List.getElem?_eq_getElem ha, pyEq_int]

theorem mapM_plainInt (e : List Int) : (e.map (Json.int : Int → Json P)).mapM plainInt = some e := by
  induction e with
  | nil => rfl
  | cons n e ih => simp [List.mapM_cons, plainInt, ih]

theorem tokens_ints {fields : Fields P} (h : fields.lookup "token_ids" = some (.list (e.map .int))) :
    tokens (.dict fields) = e := by
  rw [tokens, h]
  dsimp only
  rw [mapM_plainInt, Option.getD_some]

/-- What the loop of either comparator finds out about two lists. -/
theorem firstIndex_cases (e a : List Int) :
    (∃ k, firstIndex (fun index => decide (e.getD index 0 ≠ a.getD index 0)) (min e.length a.length) = some k ∧
      LongestCommonPrefix e a (e.take k) ∧ (e.take k).length = k ∧ ¬e <+: a ∧ ¬a <+: e) ∨
    (firstIndex (fun index => decide (e.getD index 0 ≠ a.getD index 0)) (min e.length a.length) = none ∧
      LongestCommonPrefix e a (e.take (min e.length a.length)) ∧
      (e <+: a ↔ e.length ≤ a.length) ∧ (a <+: e ↔ a.length ≤ e.length) ∧ (e = a ↔ e.length = a.length)) := by
  cases hfirst : firstIndex (fun index => decide (e.getD index 0 ≠ a.getD index 0)) (min e.length a.length) with
  | some k => exact Or.inl ⟨k, rfl, (differs_getD e a).longest_of_some hfirst⟩
  | none =>
    exact Or.inr ⟨rfl, (differs_getD e a).longest_of_none hfirst, (differs_getD e a).prefix_of_none hfirst⟩

theorem firstMismatchIndex_none (e a : List Int) : firstMismatchIndex e a none =
    ((firstIndex (fun index => decide (e.getD index 0 ≠ a.getD index 0)) (min e.length a.length)).map
      fun index => (index : Int)).or (if e.length ≠ a.length then some ((min e.length a.length : Nat) : Int) else none) := by
  have hcount : (min (e.length : Int) a.length).toNat = min e.length a.length := by omega
  have hcast : min (e.length : Int) a.length = ((min e.length a.length : Nat) : Int) := by omega
  unfold firstMismatchIndex
  dsimp only [Option.elim]
  rw [hcount, hcast]
  cases firstIndex (fun index => decide (e.getD index 0 ≠ a.getD index 0)) (min e.length a.length) with
  | some k => rfl
  | none => simp

/-- `_compare_continuations` and `first_mismatch_index` find the longest common prefix. -/
theorem compareTokenIds_eq (e a : List Int) : ∃ common, LongestCommonPrefix e a common ∧
    compareTokenIds host (.list (e.map .int)) (.list (a.map .int)) =
      ⟨if e = a then none else some common.length, some common.length, decide (a <+: e ∧ a ≠ e),
        decide (e <+: a ∧ e ≠ a)⟩ ∧
    firstMismatchIndex e a none = if e = a then none else some (common.length : Int) := by
  have hloop := firstIndex_pyEq host e a
  rw [firstMismatchIndex_none]
  simp only [compareTokenIds, List.length_map, hloop]
  rcases firstIndex_cases e a with
    ⟨k, hfirst, hlongest, hlength, hleft, hright⟩ | ⟨hfirst, hlongest, hleft, hright, heq⟩
  · have hne : e ≠ a := by
      rintro rfl
      exact hleft (List.prefix_refl e)
    refine ⟨e.take k, hlongest, ?_, ?_⟩
    · simp only [hfirst, hlength, hne, hleft, hright, if_false, false_and, decide_false]
    · rw [hfirst, hlength, if_neg hne]
      rfl
  · have hlength : (e.take (min e.length a.length)).length = min e.length a.length := by
      rw [List.length_take]
      omega
    refine ⟨e.take (min e.length a.length), hlongest, ?_⟩
    rw [hfirst, hlength]
    by_cases hsame : e.length = a.length
    · obtain rfl := heq.mpr hsame
      simp
    · have hne : e ≠ a := fun h => hsame (heq.mp h)
      have hshort : a.length < e.length ↔ a.length ≤ e.length := by omega
      have hlong : e.length < a.length ↔ e.length ≤ a.length := by omega
      simp [hsame, hne, Ne.symm hne, hleft, hright, hshort, hlong]

/-- A horizon is exact where both lists reach it and agree up to it. -/
theorem horizonResult_exact_iff {h : Int} (hpos : 0 < h) :
    (horizonResult e a h).exact = true ↔ h ≤ e.length ∧ h ≤ a.length ∧ e.take h.toNat = a.take h.toNat := by
  obtain ⟨n, rfl⟩ := Int.eq_ofNat_of_zero_le hpos.le
  simp only [horizonResult, Bool.and_eq_true, decide_eq_true_eq, Nat.cast_le, Int.toNat_natCast, and_assoc]
  refine and_congr_right fun he => and_congr_right fun ha => ?_
  have hlimit : min (min (e.length : Int) a.length) n = n := by omega
  rw [← (differs_getD e a).take_eq he ha, ← firstIndex_none_iff]
  simp only [firstMismatchIndex, Option.elim_some, hlimit, Int.toNat_natCast, Option.any_some]
  cases firstIndex (fun index => decide (e.getD index 0 ≠ a.getD index 0)) n with
  | some k => simp
  | none => simp

variable {reference actual : Fields P}

/-- The two comparators agree on every pair of token lists, and a horizon of the analyser is exact where the
lists agree that far, so then all smaller horizons are. -/
theorem fidelity_comparators_agree (he : reference.lookup "token_ids" = some (.list (e.map .int)))
    (ha : actual.lookup "token_ids" = some (.list (a.map .int))) :
    (∃ common, LongestCommonPrefix e a common ∧
      (compareContinuations host reference actual).item "shared_prefix_token_count" = .ok (.int common.length) ∧
      (compareContinuations host reference actual).item "first_token_mismatch_index" =
        .ok (if e = a then .null else .int common.length) ∧
      (compareContinuations host reference actual).item "actual_ended_before_reference" =
        .ok (.bool (decide (a <+: e ∧ a ≠ e))) ∧
      (compareContinuations host reference actual).item "reference_ended_before_actual" =
        .ok (.bool (decide (e <+: a ∧ e ≠ a))) ∧
      firstMismatchIndex e a none = if e = a then none else some (common.length : Int)) ∧
    ∀ name horizons, (∀ h ∈ horizons, 0 < h) →
      (comparePair name (.dict reference) (.dict actual) horizons).horizons = horizons.map (horizonResult e a) ∧
      (∀ h ∈ horizons, (horizonResult e a h).horizon = h ∧
        ((horizonResult e a h).exact = true ↔ h ≤ e.length ∧ h ≤ a.length ∧ e.take h.toNat = a.take h.toNat)) ∧
      ∀ h ∈ horizons, (horizonResult e a h).exact = true →
        ∀ h' ∈ horizons, h' ≤ h → (horizonResult e a h').exact = true := by
  constructor
  · obtain ⟨common, hlongest, hcompare, hindex⟩ := compareTokenIds_eq host e a
    refine ⟨common, hlongest, ?_, ?_, ?_, ?_, hindex⟩
    · simp [compareContinuations, he, ha, hcompare, Json.item, List.lookup_cons, optionalInt]
    · have hfirst : (optionalInt (if e = a then none else some common.length) : Json P) =
          if e = a then .null else .int common.length := by split <;> rfl
      simp [compareContinuations, he, ha, hcompare, Json.item, List.lookup_cons, hfirst]
    · simp [compareContinuations, he, ha, hcompare, Json.item, List.lookup_cons]
    · simp [compareContinuations, he, ha, hcompare, Json.item, List.lookup_cons]
  · intro name horizons hpos
    refine ⟨?_, fun h hh => ⟨rfl, horizonResult_exact_iff (hpos h hh)⟩, ?_⟩
    · rw [comparePair, tokens_ints he, tokens_ints ha]
    · intro h hh hexact h' hh' hle
      rw [horizonResult_exact_iff (hpos h hh)] at hexact
      rw [horizonResult_exact_iff (hpos h' hh')]
      obtain ⟨hexpected, hactual, htake⟩ := hexact
      refine ⟨hle.trans hexpected, hle.trans hactual, ?_⟩
      have hn : h'.toNat ≤ h.toNat := Int.toNat_le_toNat hle
      rw [← Nat.min_eq_left hn, ← List.take_take, htake, List.take_take]

/-- A continuation of the three tokens 5, 6 and 7 that stops after the second. -/
theorem shortContinuation_compared :
    (∃ common : List Int, LongestCommonPrefix [5, 6, 7] [5, 6] common ∧
      (compareContinuations decimalHost [("token_ids", .list ([5, 6, 7].map .int))]
        [("token_ids", .list ([5, 6].map .int))]).item "actual_ended_before_reference" = .ok (.bool true)) ∧
    (horizonResult [5, 6, 7] [5, 6] 2).exact = true ∧ (horizonResult [5, 6, 7] [5, 6] 1).exact = true := by
  have he : ([("token_ids", .list ([5, 6, 7].map .int))] : Fields Int).lookup "token_ids" =
      some (.list ([5, 6, 7].map .int)) := rfl
  have ha : ([("token_ids", .list ([5, 6].map .int))] : Fields Int).lookup "token_ids" =
      some (.list ([5, 6].map .int)) := rfl
  obtain ⟨⟨common, hlongest, _, _, hended, _⟩, hpairs⟩ := fidelity_comparators_agree decimalHost he ha
  obtain ⟨_, hexact, hsmaller⟩ := hpairs "pair" [1, 2] (by decide)
  have htwo := (hexact 2 (by decide)).2.mpr (by decide)
  exact ⟨⟨common, hlongest, hended⟩, htwo, hsmaller 2 (by decide) htwo 1 (by decide) (by decide)⟩

end Agreement

end PermeantOS
