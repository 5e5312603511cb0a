import PermeantOS.Loops

namespace PermeantOS

section Panics

variable {α β : Type}

/-- A call that ends in a value or in an error. -/
def NoPanic (x : Fallible α) : Prop := ∀ message, x ≠ .error (.panic message)

theorem noPanic_ok (a : α) : NoPanic (.ok a : Fallible α) := by
  intro message h
  cases h

theorem noPanic_bail (text : String) : NoPanic (bail text : Fallible α) := by
  intro message h
  cases h

theorem noPanic_bailIf {c : Prop} [Decidable c] (text : String) : NoPanic (bailIf c text) := by
  unfold bailIf
  split
  next => exact noPanic_bail text
  next => exact noPanic_ok ()

theorem noPanic_contextOption (text : String) (x : Option α) : NoPanic (contextOption text x) := by
  cases x with
  | none => exact noPanic_bail text
  | some a => exact noPanic_ok a

theorem NoPanic.context {x : Fallible α} (h : NoPanic x) (text : String) : NoPanic (context text x) := by
  cases x with
  | ok a => exact noPanic_ok a
  | error fault =>
    cases fault with
    | error _ => exact noPanic_bail text
    | panic message => exact absurd rfl (h message)

theorem NoPanic.bind {x : Fallible α} {f : α → Fallible β} (hx : NoPanic x)
    (hf : ∀ a, x = .ok a → NoPanic (f a)) : NoPanic (x >>= f) := by
  cases x with
  | ok a => exact hf a rfl
  | error fault =>
    intro message h
    exact hx message (congrArg Except.error (Except.error.inj h))

theorem noPanic_sliceRange {xs : List α} {start stop : Nat} (hle : start ≤ stop) (hstop : stop ≤ xs.length) :
    NoPanic (sliceRange xs start stop) := by
  rw [sliceRange, if_pos ⟨hle, hstop⟩]
  exact noPanic_ok _

theorem noPanic_indexAt {xs : List α} {i : Nat} (h : i < xs.length) : NoPanic (indexAt xs i) := by
  rw [indexAt, List.getElem?_eq_getElem h]
  exact noPanic_ok _

end Panics

section Errors

variable {α β : Type}

/-- A call that ends in a value or in a panic. -/
def NoError (x : Fallible α) : Prop := ∀ message, x ≠ .error (.error message)

theorem noError_ok (a : α) : NoError (.ok a : Fallible α) := by
  intro message h
  cases h

theorem noError_panic (text : String) : NoError (.error (.panic text) : Fallible α) := by
  intro message h
  cases h

theorem NoError.bind {x : Fallible α} {f : α → Fallible β} (hx : NoError x) (hf : ∀ a, NoError (f a)) :
    NoError (x >>= f) := by
  cases x with
  | ok a => exact hf a
  | error fault =>
    intro message h
    exact hx message (congrArg Except.error (Except.error.inj h))

theorem noError_panicIf {c : Prop} [Decidable c] (text : String) : NoError (panicIf c text) := by
  unfold panicIf
  split
  next => exact noError_panic text
  next => exact noError_ok ()

theorem noError_indexAt (xs : List α) (i : Nat) : NoError (indexAt xs i) := by
  unfold indexAt
  split
  next => exact noError_ok _
  next => exact noError_panic _

theorem noError_sliceRange (xs : List α) (start stop : Nat) : NoError (sliceRange xs start stop) := by
  unfold sliceRange
  split
  next => exact noError_ok _
  next => exact noError_panic _

theorem noError_setAt (xs : List α) (i : Nat) (x : α) : NoError (setAt xs i x) := by
  unfold setAt
  split
  next => exact noError_ok _
  next => exact noError_panic _

theorem noError_forRange {σ : Type} {body : Nat → σ → Fallible σ} (h : ∀ i s, NoError (body i s)) (n : Nat) (s : σ) :
    NoError (forRange body n s) := by
  induction n with
  | zero => exact noError_ok s
  | succ n ih => exact ih.bind fun s => h n s

theorem forRange_unit_ok_iff {ε : Type} {body : Nat → Except ε Unit} {n : Nat} :
    forRange (fun i _ => body i) n () = .ok () ↔ ∀ i < n, body i = .ok () := by
  induction n with
  | zero => exact iff_of_true rfl (by simp)
  | succ n ih =>
    rw [forRange, except_bind_unit_ok_iff, ih]
    constructor
    · intro h i hi
      obtain hlt | rfl := Nat.lt_succ_iff_lt_or_eq.mp hi
      · exact h.1 i hlt
      · exact h.2
    · intro h
      exact ⟨fun i hi => h i (by omega), h n (by omega)⟩

/-- Where there is no error, a call that does not panic returns. -/
theorem NoError.noPanic_iff {x : Fallible α} (h : NoError x) : NoPanic x ↔ ∃ a, x = .ok a := by
  constructor
  · intro hpanic
    cases x with
    | ok a => exact ⟨a, rfl⟩
    | error fault =>
      cases fault with
      | error message => exact absurd rfl (h message)
      | panic message => exact absurd rfl (hpanic message)
  · intro hok
    obtain ⟨a, rfl⟩ := hok
    exact noPanic_ok a

end Errors

end PermeantOS
