import PermeantOS.FrameStream
import PermeantOS.MessageStream
import Mathlib.Tactic.Linarith
import Mathlib.Tactic.Positivity

namespace PermeantOS

section Words

theorem ofBigEndian_lt (bs : List UInt8) : ofBigEndian bs < 256 ^ bs.length := by
  induction bs with
  | nil => simp [ofBigEndian, ofBigEndianFrom]
  | cons b bs ih =>
    have hb := b.toNat_lt
    rw [ofBigEndian_cons, List.length_cons, pow_succ]
    nlinarith

/-- What is above the low bytes does not show in them. -/
theorem bigEndian_add_mul (w a n : Nat) : bigEndian w (a * 256 ^ w + n) = bigEndian w n := by
  induction w generalizing a with
  | zero => rfl
  | succ w ih =>
    have hpos : 0 < 256 ^ w := by positivity
    have hsplit : a * 256 ^ (w + 1) + n = 256 ^ w * (a * 256) + n := by ring
    have hhead : UInt8.ofNat ((a * 256 ^ (w + 1) + n) / 256 ^ w) = UInt8.ofNat (n / 256 ^ w) := by
      rw [hsplit, Nat.mul_add_div hpos]
      apply UInt8.toNat_inj.mp
      simp
    have htail : bigEndian w (a * 256 ^ (w + 1) + n) = bigEndian w n := by
      rw [pow_succ', ← Nat.mul_assoc, ih]
    rw [bigEndian, bigEndian, hhead, htail]

/-- Bytes are the big-endian bytes of the number they spell. -/
theorem bigEndian_ofBigEndian (bs : List UInt8) : bigEndian bs.length (ofBigEndian bs) = bs := by
  induction bs with
  | nil => rfl
  | cons b bs ih =>
    have hlt := ofBigEndian_lt bs
    have hpos : 0 < 256 ^ bs.length := by positivity
    have hhead : (b.toNat * 256 ^ bs.length + ofBigEndian bs) / 256 ^ bs.length = b.toNat := by
      rw [Nat.mul_comm, Nat.mul_add_div hpos, Nat.div_eq_of_lt hlt, Nat.add_zero]
    rw [List.length_cons, bigEndian, ofBigEndian_cons, hhead, UInt8.ofNat_toNat, bigEndian_add_mul, ih]

theorem u32ToBeBytes_fromBeBytes {bs : List UInt8} (h : bs.length = 4) : u32ToBeBytes (u32FromBeBytes bs) = bs := by
  have hlt := ofBigEndian_lt bs
  have hback := bigEndian_ofBigEndian bs
  rw [h] at hlt hback
  rw [u32ToBeBytes, u32FromBeBytes, u32_ofNat_toNat (by simpa using hlt), hback]

def u16ToBeBytes (x : UInt16) : List UInt8 := bigEndian 2 x.toNat

def u16FromBeBytes (bs : List UInt8) : UInt16 := UInt16.ofNat (ofBigEndian bs)

def u64ToBeBytes (x : UInt64) : List UInt8 := bigEndian 8 x.toNat

def u64FromBeBytes (bs : List UInt8) : UInt64 := UInt64.ofNat (ofBigEndian bs)

@[simp] theorem u16ToBeBytes_length (x : UInt16) : (u16ToBeBytes x).length = 2 := bigEndian_length _ _

@[simp] theorem u64ToBeBytes_length (x : UInt64) : (u64ToBeBytes x).length = 8 := bigEndian_length _ _

theorem u16FromBeBytes_toBeBytes (x : UInt16) : u16FromBeBytes (u16ToBeBytes x) = x := by
  have hx : x.toNat < 256 ^ 2 := by simpa using x.toNat_lt
  simp [u16FromBeBytes, u16ToBeBytes, ofBigEndian_bigEndian hx]

theorem u64FromBeBytes_toBeBytes (x : UInt64) : u64FromBeBytes (u64ToBeBytes x) = x := by
  have hx : x.toNat < 256 ^ 8 := by simpa using x.toNat_lt
  simp [u64FromBeBytes, u64ToBeBytes, ofBigEndian_bigEndian hx]

theorem u16ToBeBytes_fromBeBytes {bs : List UInt8} (h : bs.length = 2) : u16ToBeBytes (u16FromBeBytes bs) = bs := by
  have hlt := ofBigEndian_lt bs
  have hback := bigEndian_ofBigEndian bs
  rw [h] at hlt hback
  have hsmall : (UInt16.ofNat (ofBigEndian bs)).toNat = ofBigEndian bs := by
    simpa using Nat.mod_eq_of_lt hlt
  rw [u16ToBeBytes, u16FromBeBytes, hsmall, hback]

theorem u64ToBeBytes_fromBeBytes {bs : List UInt8} (h : bs.length = 8) : u64ToBeBytes (u64FromBeBytes bs) = bs := by
  have hlt := ofBigEndian_lt bs
  have hback := bigEndian_ofBigEndian bs
  rw [h] at hlt hback
  have hsmall : (UInt64.ofNat (ofBigEndian bs)).toNat = ofBigEndian bs := by
    simpa using Nat.mod_eq_of_lt hlt
  rw [u64ToBeBytes, u64FromBeBytes, hsmall, hback]

end Words

section Cursor

variable {α : Type} {buffer rest : List UInt8} {cursor : Nat}

theorem Unread.at (xs : List α) {cursor : Nat} (h : cursor ≤ xs.length) : Unread xs cursor (xs.drop cursor) :=
  ⟨h, rfl⟩

/-- A slice at the cursor is what stands there. -/
theorem Unread.slice_iff {xs rest found : List α} {cursor n : Nat} (h : Unread xs cursor rest) :
    sliceRange xs cursor (cursor + n) = .ok found ↔
      found.length = n ∧ ∃ after, rest = found ++ after ∧ Unread xs (cursor + n) after := by
  have hlength := h.length_eq
  rw [sliceRange_ok_iff, Nat.add_sub_cancel_left, h.2]
  constructor
  · intro hparts
    obtain ⟨_, hstop, rfl⟩ := hparts
    refine ⟨by rw [List.length_take]; omega, rest.drop n, (List.take_append_drop n rest).symm, by omega, ?_⟩
    rw [← List.drop_drop, h.2]
  · intro hparts
    obtain ⟨rfl, after, rfl, hafter⟩ := hparts
    exact ⟨by omega, hafter.1, List.take_left⟩

/-- The bytes of a number at the cursor. -/
def readBe (w : Nat) (type : String) (buffer : List UInt8) (cursor : Nat) : Fallible (List UInt8 × Nat) := do
  bailIf (buffer.length < cursor + w) s!"Frame truncated while reading {type}"
  let bytes ← sliceRange buffer cursor (cursor + w)
  pure (bytes, cursor + w)

def readU16 (buffer : List UInt8) (cursor : Nat) : Fallible (UInt16 × Nat) := do
  let (bytes, cursor) ← readBe 2 "u16" buffer cursor
  pure (u16FromBeBytes bytes, cursor)

def readU64 (buffer : List UInt8) (cursor : Nat) : Fallible (UInt64 × Nat) := do
  let (bytes, cursor) ← readBe 8 "u64" buffer cursor
  pure (u64FromBeBytes bytes, cursor)

theorem readU32_eq (buffer : List UInt8) (cursor : Nat) : readU32 buffer cursor = (do
    let (bytes, cursor) ← readBe 4 "u32" buffer cursor
    pure (u32FromBeBytes bytes, cursor)) := by
  rw [readU32, readBe]
  simp only [bind_assoc, pure_bind]
  rfl

theorem Unread.readBe_iff {w next : Nat} {type : String} {bytes : List UInt8} (h : Unread buffer cursor rest) :
    readBe w type buffer cursor = .ok (bytes, next) ↔ next = cursor + w ∧ bytes.length = w ∧
      ∃ after, rest = bytes ++ after ∧ Unread buffer next after := by
  rw [readBe, except_bind_unit_ok_iff, bailIf_ok_iff, except_bind_ok_iff]
  constructor
  · intro hparts
    obtain ⟨_, found, hslice, heq⟩ := hparts
    cases heq
    exact ⟨rfl, h.slice_iff.mp hslice⟩
  · intro hparts
    obtain ⟨rfl, hlength, after, hrest, hafter⟩ := hparts
    exact ⟨by have := hafter.1; omega, bytes, h.slice_iff.mpr ⟨hlength, after, hrest, hafter⟩, rfl⟩

/-- A number is read where its bytes stand at the cursor, and only there. -/
theorem Unread.read_iff {w next : Nat} {type : String} {W : Type} {fromBe : List UInt8 → W} {toBe : W → List UInt8}
    (hfrom : ∀ x, fromBe (toBe x) = x) (hto : ∀ bytes : List UInt8, bytes.length = w → toBe (fromBe bytes) = bytes)
    (hlength : ∀ x, (toBe x).length = w) {x : W} (h : Unread buffer cursor rest) :
    (do
      let (bytes, next) ← readBe w type buffer cursor
      pure (fromBe bytes, next) : Fallible (W × Nat)) = .ok (x, next) ↔
      next = cursor + w ∧ ∃ after, rest = toBe x ++ after ∧ Unread buffer next after := by
  rw [except_bind_ok_iff]
  constructor
  · intro hparts
    obtain ⟨⟨bytes, found⟩, hread, heq⟩ := hparts
    cases heq
    obtain ⟨hnext, hbytes, after, hrest, hafter⟩ := h.readBe_iff.mp hread
    exact ⟨hnext, after, by rw [hto bytes hbytes, hrest], hafter⟩
  · intro hparts
    obtain ⟨hnext, after, hrest, hafter⟩ := hparts
    refine ⟨(toBe x, next), h.readBe_iff.mpr ⟨hnext, hlength x, after, hrest, hafter⟩, ?_⟩
    dsimp only
    rw [hfrom]
    rfl

theorem Unread.readU16_iff {x : UInt16} {next : Nat} (h : Unread buffer cursor rest) :
    readU16 buffer cursor = .ok (x, next) ↔
      next = cursor + 2 ∧ ∃ after, rest = u16ToBeBytes x ++ after ∧ Unread buffer next after :=
  h.read_iff u16FromBeBytes_toBeBytes (fun _ => u16ToBeBytes_fromBeBytes) u16ToBeBytes_length

theorem Unread.readU32_iff {x : UInt32} {next : Nat} (h : Unread buffer cursor rest) :
    readU32 buffer cursor = .ok (x, next) ↔
      next = cursor + 4 ∧ ∃ after, rest = u32ToBeBytes x ++ after ∧ Unread buffer next after := by
  rw [readU32_eq]
  exact h.read_iff u32FromBeBytes_toBeBytes (fun _ => u32ToBeBytes_fromBeBytes) u32ToBeBytes_length

theorem Unread.readU64_iff {x : UInt64} {next : Nat} (h : Unread buffer cursor rest) :
    readU64 buffer cursor = .ok (x, next) ↔
      next = cursor + 8 ∧ ∃ after, rest = u64ToBeBytes x ++ after ∧ Unread buffer next after :=
  h.read_iff u64FromBeBytes_toBeBytes (fun _ => u64ToBeBytes_fromBeBytes) u64ToBeBytes_length

theorem Unread.tail {xs rest : List α} {x : α} {cursor : Nat} (h : Unread xs cursor (x :: rest)) :
    Unread xs (cursor + 1) rest := by
  have hlength := h.length_eq
  rw [List.length_cons] at hlength
  exact ⟨by omega, by rw [← List.drop_drop, h.2, List.drop_one, List.tail_cons]⟩

theorem Unread.indexAt_iff {xs rest : List α} {cursor : Nat} {x : α} (h : Unread xs cursor rest) :
    indexAt xs cursor = .ok x ↔ ∃ after, rest = x :: after ∧ Unread xs (cursor + 1) after := by
  have hhead : xs[cursor]? = rest.head? := by rw [← h.2, List.head?_drop]
  rw [indexAt_ok_iff, hhead]
  cases rest with
  | nil => simp
  | cons y rest =>
    constructor
    · intro heq
      cases heq
      exact ⟨rest, rfl, h.tail⟩
    · intro hparts
      obtain ⟨after, heq, _⟩ := hparts
      cases heq
      rfl

theorem noPanic_readBe (w : Nat) (type : String) (buffer : List UInt8) (cursor : Nat) :
    NoPanic (readBe w type buffer cursor) := by
  apply NoPanic.bind (noPanic_bailIf _)
  intro _ hfits
  rw [bailIf_ok_iff] at hfits
  apply NoPanic.bind (noPanic_sliceRange (by omega) (by omega))
  intro bytes _
  exact noPanic_ok _

theorem noPanic_readU16 (buffer : List UInt8) (cursor : Nat) : NoPanic (readU16 buffer cursor) :=
  (noPanic_readBe _ _ _ _).bind fun _ _ => noPanic_ok _

theorem noPanic_readU32 (buffer : List UInt8) (cursor : Nat) : NoPanic (readU32 buffer cursor) := by
  rw [readU32_eq]
  exact (noPanic_readBe _ _ _ _).bind fun _ _ => noPanic_ok _

theorem noPanic_readU64 (buffer : List UInt8) (cursor : Nat) : NoPanic (readU64 buffer cursor) :=
  (noPanic_readBe _ _ _ _).bind fun _ _ => noPanic_ok _

end Cursor

end PermeantOS
