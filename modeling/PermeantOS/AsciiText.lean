import PermeantOS.Message

namespace PermeantOS

theorem asBytes_append (a b : String) : asBytes (a ++ b) = asBytes a ++ asBytes b := by
  rw [asBytes_eq_flatMap, asBytes_eq_flatMap, asBytes_eq_flatMap, String.toList_append, List.flatMap_append]

theorem asBytes_empty : asBytes "" = [] := by rw [asBytes_eq_flatMap, String.toList_empty, List.flatMap_nil]

theorem asBytes_inj {a b : String} : asBytes a = asBytes b ↔ a = b := ⟨asBytes_injective, congrArg asBytes⟩

theorem asBytes_eq_nil_iff {text : String} : asBytes text = [] ↔ text = "" := by
  rw [← asBytes_empty, asBytes_inj]

theorem asBytes_intercalate (sep : String) (items : List String) :
    asBytes (String.intercalate sep items) = (asBytes sep).intercalate (items.map asBytes) := by
  induction items with
  | nil => rw [String.intercalate_nil, asBytes_empty, List.map_nil, List.intercalate_nil]
  | cons item items ih =>
    cases items with
    | nil => rw [String.intercalate_singleton, List.map_singleton, List.intercalate_singleton]
    | cons next items =>
      rw [String.intercalate_cons_cons, asBytes_append, asBytes_append, ih]
      exact List.intercalate_cons_cons.symm

/-- The bytes of a character from 128 on are all above 127. -/
theorem toNat_of_mem_utf8EncodeChar {c : Char} {byte : UInt8} (hsmall : byte.toNat < 0x80)
    (h : byte ∈ String.utf8EncodeChar c) : c.toNat = byte.toNat := by
  unfold String.utf8EncodeChar at h
  dsimp only at h
  split at h
  next hv =>
    obtain rfl := List.mem_singleton.mp h
    have hmod : c.val.toNat % 2 ^ 8 = c.val.toNat := Nat.mod_eq_of_lt (by omega)
    rw [UInt8.toNat_ofNat', hmod]
    rfl
  next =>
    split at h
    next =>
      simp only [List.mem_cons, List.not_mem_nil, or_false] at h
      rcases h with rfl | rfl <;> rw [UInt8.toNat_ofNat'] at hsmall <;> omega
    next =>
      split at h
      next =>
        simp only [List.mem_cons, List.not_mem_nil, or_false] at h
        rcases h with rfl | rfl | rfl <;> rw [UInt8.toNat_ofNat'] at hsmall <;> omega
      next =>
        simp only [List.mem_cons, List.not_mem_nil, or_false] at h
        rcases h with rfl | rfl | rfl | rfl <;> rw [UInt8.toNat_ofNat'] at hsmall <;> omega

/-- The byte of a character below 128 stands in a text's bytes only where the character stands in the text. -/
theorem not_mem_asBytes {text : String} {c : Char} {byte : UInt8} (hsmall : byte.toNat < 0x80)
    (hbyte : c.toNat = byte.toNat) (h : c ∉ text.toList) : byte ∉ asBytes text := by
  intro hmem
  rw [asBytes_eq_flatMap] at hmem
  obtain ⟨d, hd, hmem⟩ := List.mem_flatMap.mp hmem
  have hsame : d.toNat = c.toNat := (toNat_of_mem_utf8EncodeChar hsmall hmem).trans hbyte.symm
  have heq : d = c := Char.toNat_inj.mp hsame
  exact h (heq ▸ hd)

/-- A text below 128 has one byte a character. -/
theorem asBytes_of_ascii {text : String} (h : ∀ c ∈ text.toList, c.toNat < 0x80) :
    asBytes text = text.toList.map fun c => UInt8.ofNat c.toNat := by
  rw [asBytes_eq_flatMap, List.map_eq_flatMap]
  apply List.flatMap_congr
  intro c hc
  have hsmall : c.val.toNat ≤ 127 := Nat.le_of_lt_succ (h c hc)
  unfold String.utf8EncodeChar
  dsimp only
  rw [if_pos hsmall]
  rfl

end PermeantOS
