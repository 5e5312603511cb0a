import Mathlib.Data.List.Sort

namespace PermeantOS

section Sorting

variable {α κ : Type} [LinearOrder κ] (key : α → κ)

/-- `sort_by_key` with a `Reverse` key: the greatest keys first, and equal keys in the order they had. -/
def sortByReverse (xs : List α) : List α := xs.mergeSort fun a b => decide (key b ≤ key a)

variable {key}

theorem mem_sortByReverse {xs : List α} {x : α} : x ∈ sortByReverse key xs ↔ x ∈ xs :=
  (List.mergeSort_perm xs _).mem_iff

/-- The first of the sorted list is the first of the greatest ones. -/
theorem sortByReverse_head {xs rest : List α} {x : α} (h : sortByReverse key xs = x :: rest) :
    ∃ front back, xs = front ++ x :: back ∧ (∀ y ∈ front, key y < key x) ∧ ∀ y ∈ back, key y ≤ key x := by
  have htrans : ∀ a b c : α, decide (key b ≤ key a) = true → decide (key c ≤ key b) = true →
      decide (key c ≤ key a) = true := by
    intro a b c hab hbc
    exact decide_eq_true ((of_decide_eq_true hbc).trans (of_decide_eq_true hab))
  have htotal : ∀ a b : α, (decide (key b ≤ key a) || decide (key a ≤ key b)) = true := by
    intro a b
    simpa using le_total (key b) (key a)
  induction xs generalizing rest with
  | nil => simp [sortByReverse] at h
  | cons a xs ih =>
    obtain ⟨before, after, hall, hxs, hbefore⟩ := List.mergeSort_cons htrans htotal a xs
    rw [sortByReverse] at h
    cases before with
    | nil =>
      -- nothing comes before the new element, so it is the head
      have hsorted := List.pairwise_mergeSort htrans htotal (a :: xs)
      rw [hall, List.nil_append] at h hsorted
      cases h
      refine ⟨[], xs, rfl, by simp, ?_⟩
      intro y hy
      have hmem : y ∈ sortByReverse key xs := mem_sortByReverse.mpr hy
      rw [sortByReverse, hxs] at hmem
      exact of_decide_eq_true ((List.pairwise_cons.mp hsorted).1 y hmem)
    | cons b before =>
      rw [hall, List.cons_append] at h
      cases h
      obtain ⟨front, back, rfl, hfront, hback⟩ := ih hxs
      have hlt : key a < key x := by simpa using hbefore x List.mem_cons_self
      refine ⟨a :: front, back, rfl, ?_, hback⟩
      intro y hy
      obtain rfl | hy := List.mem_cons.mp hy
      · exact hlt
      · exact hfront y hy

end Sorting

section Split

variable {α β : Type}

/-- Where a concatenation is cut, one of the lists is. -/
theorem flatMap_eq_append_cons {f : α → List β} {xs : List α} {front back : List β} {y : β}
    (h : xs.flatMap f = front ++ y :: back) :
    ∃ before x after front' back', xs = before ++ x :: after ∧ f x = front' ++ y :: back' ∧
      front = before.flatMap f ++ front' ∧ back = back' ++ after.flatMap f := by
  induction xs generalizing front with
  | nil => simp at h
  | cons x xs ih =>
    rw [List.flatMap_cons] at h
    have hlater : ∀ more, front = f x ++ more → xs.flatMap f = more ++ y :: back →
        ∃ before x' after front' back', x :: xs = before ++ x' :: after ∧ f x' = front' ++ y :: back' ∧
          front = before.flatMap f ++ front' ∧ back = back' ++ after.flatMap f := by
      intro more hfront hrest
      obtain ⟨before, x', after, front', back', rfl, hfx, rfl, hback⟩ := ih hrest
      refine ⟨x :: before, x', after, front', back', rfl, hfx, ?_, hback⟩
      rw [hfront, List.flatMap_cons, List.append_assoc]
    obtain ⟨more, hfront, hrest⟩ | ⟨more, hfx, hrest⟩ := List.append_eq_append_iff.mp h
    · exact hlater more hfront hrest
    · cases more with
      | nil => exact hlater [] (by rw [hfx, List.append_nil, List.append_nil]) hrest.symm
      | cons z more =>
        cases hrest
        exact ⟨[], x, xs, front, more, rfl, hfx, rfl, rfl⟩

theorem filterMap_eq_append_cons {f : α → Option β} {xs : List α} {front back : List β} {y : β}
    (h : xs.filterMap f = front ++ y :: back) :
    ∃ before x after, xs = before ++ x :: after ∧ f x = some y ∧
      front = before.filterMap f ∧ back = after.filterMap f := by
  obtain ⟨left, right, rfl, hleft, hright⟩ := List.filterMap_eq_append_iff.mp h
  obtain ⟨skipped, x, after, rfl, hskipped, hx, hafter⟩ := List.filterMap_eq_cons_iff.mp hright
  refine ⟨left ++ skipped, x, after, by simp, hx, ?_, hafter.symm⟩
  rw [List.filterMap_append, hleft, List.filterMap_eq_nil_iff.mpr hskipped, List.append_nil]

theorem getElem?_append_cons {front back : List α} {x y : α} {i : Nat} (h : (front ++ x :: back)[i]? = some y) :
    i < front.length ∧ y ∈ front ∨ i = front.length ∧ y = x ∨ front.length < i ∧ y ∈ back := by
  obtain hi | rfl | hi := lt_trichotomy i front.length
  · rw [List.getElem?_append_left hi] at h
    exact Or.inl ⟨hi, List.mem_of_getElem? h⟩
  · rw [List.getElem?_append_right le_rfl, Nat.sub_self] at h
    exact Or.inr (Or.inl ⟨rfl, (Option.some.inj h).symm⟩)
  · obtain ⟨k, rfl⟩ := Nat.exists_eq_add_of_lt hi
    have hshift : front.length + k + 1 - front.length = k + 1 := by omega
    rw [List.getElem?_append_right hi.le, hshift, List.getElem?_cons_succ] at h
    exact Or.inr (Or.inr ⟨hi, List.mem_of_getElem? h⟩)

end Split

end PermeantOS
