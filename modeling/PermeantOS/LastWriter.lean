import Mathlib.Data.List.Basic
import Mathlib.Logic.Function.Basic

namespace PermeantOS

section LastWriter

variable {K V R : Type*} [DecidableEq K]

/-- A store after some writes, the last of which wins. -/
def writeAll (store : K → Option V) (writes : List (K × V)) : K → Option V :=
  writes.foldl (fun store write => Function.update store write.1 (some write.2)) store

@[simp]
theorem writeAll_nil (store : K → Option V) : writeAll store [] = store := rfl

@[simp]
theorem writeAll_cons (store : K → Option V) (write : K × V) (writes : List (K × V)) :
    writeAll store (write :: writes) = writeAll (Function.update store write.1 (some write.2)) writes := rfl

theorem writeAll_of_forall_ne {writes : List (K × V)} {key : K} (h : ∀ write ∈ writes, write.1 ≠ key)
    (store : K → Option V) : writeAll store writes key = store key := by
  induction writes generalizing store with
  | nil => rfl
  | cons write writes ih =>
    rw [writeAll_cons, ih fun other hmem => h other (List.mem_cons_of_mem _ hmem)]
    exact Function.update_of_ne (h write List.mem_cons_self).symm _ _

/-- What is found at a key that was written is from one of the writes. -/
theorem writeAll_of_exists {writes : List (K × V)} {key : K} (h : ∃ write ∈ writes, write.1 = key)
    (store : K → Option V) : ∃ write ∈ writes, write.1 = key ∧ writeAll store writes key = some write.2 := by
  induction writes generalizing store with
  | nil => simp at h
  | cons write writes ih =>
    rw [writeAll_cons]
    by_cases hlater : ∃ other ∈ writes, other.1 = key
    · obtain ⟨other, hmem, hfound⟩ := ih hlater (Function.update store write.1 (some write.2))
      exact ⟨other, List.mem_cons_of_mem _ hmem, hfound⟩
    · obtain ⟨other, hmem, rfl⟩ := h
      obtain rfl | hmem := List.mem_cons.mp hmem
      · refine ⟨other, List.mem_cons_self, rfl, ?_⟩
        rw [writeAll_of_forall_ne fun later hmem heq => hlater ⟨later, hmem, heq⟩, Function.update_self]
      · exact absurd ⟨other, hmem, rfl⟩ hlater

/-- Every write to one of the watched keys is found afterwards, as far as `f` can tell, exactly where no later
write to its key differs from it under `f`. -/
theorem forall_found_iff_pairwise (S : K → Prop) (f : V → R) (store : K → Option V) (writes : List (K × V)) :
    (∀ write ∈ writes, S write.1 → ∃ value, writeAll store writes write.1 = some value ∧ f value = f write.2) ↔
      writes.Pairwise fun a b => S a.1 → a.1 = b.1 → f a.2 = f b.2 := by
  induction writes generalizing store with
  | nil => simp
  | cons write writes ih =>
    rw [List.forall_mem_cons, List.pairwise_cons, writeAll_cons, ih]
    apply and_congr_left
    intro hrest
    constructor
    · intro hfirst other hmem hwatched hkey
      obtain ⟨value, hvalue, hf⟩ := hfirst hwatched
      obtain ⟨value', hvalue', hf'⟩ :=
        (ih (Function.update store write.1 (some write.2))).mpr hrest other hmem (hkey ▸ hwatched)
      rw [← hkey, hvalue] at hvalue'
      cases hvalue'
      rw [← hf, hf']
    · intro hfirst hwatched
      by_cases hlater : ∃ other ∈ writes, write.1 = other.1
      · obtain ⟨other, hmem, hkey⟩ := hlater
        obtain ⟨value, hvalue, hf⟩ :=
          (ih (Function.update store write.1 (some write.2))).mpr hrest other hmem (hkey ▸ hwatched)
        rw [hkey]
        exact ⟨value, by rw [← hvalue, hkey], by rw [hf, hfirst other hmem hwatched hkey]⟩
      · have hnone : ∀ other ∈ writes, other.1 ≠ write.1 := fun other hmem heq => hlater ⟨other, hmem, heq.symm⟩
        exact ⟨write.2, by rw [writeAll_of_forall_ne hnone, Function.update_self], rfl⟩

end LastWriter

end PermeantOS
