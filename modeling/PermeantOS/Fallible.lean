import Mathlib.Data.List.Forall2
import Mathlib.Logic.Basic
import Mathlib.Order.Defs.Unbundled

namespace PermeantOS

/-- How a call can end without a value: an error returned to the caller, or a panic. -/
inductive Fault
  | error (message : String)
  | panic (message : String)
  deriving DecidableEq, Repr

abbrev Fallible := Except Fault

def bail {α : Type} (message : String) : Fallible α := .error (.error message)

theorem except_bind_ok_iff {ε α β : Type} {x : Except ε α} {f : α → Except ε β} {b : β} :
    (x >>= f) = .ok b ↔ ∃ a, x = .ok a ∧ f a = .ok b := by
  cases x with
  | error e => simp [bind, Except.bind]
  | ok a => simp [bind, Except.bind]

theorem exists_of_isOk {ε α : Type} {x : Except ε α} (h : x.isOk = true) : ∃ a, x = .ok a := by
  cases x with
  | ok a => exact ⟨a, rfl⟩
  | error e => cases h

theorem except_bind_unit_ok_iff {ε β : Type} {x : Except ε Unit} {f : Unit → Except ε β} {b : β} :
    (x >>= f) = .ok b ↔ x = .ok () ∧ f () = .ok b := by
  rw [except_bind_ok_iff]
  constructor
  · intro hparts
    obtain ⟨⟨⟩, hx, hf⟩ := hparts
    exact ⟨hx, hf⟩
  · intro hparts
    obtain ⟨hx, hf⟩ := hparts
    exact ⟨(), hx, hf⟩

theorem except_bind_of_ok {ε α β : Type} {x : Except ε α} {f : α → Except ε β} {a : α}
    (h : x = .ok a) : (x >>= f) = f a := by
  rw [h]
  rfl

theorem exists_ok_of_map_ok {ε α β : Type} {x : Except ε α} {f : α → β} {b : β}
    (h : x.map f = .ok b) : ∃ a, x = .ok a := by
  cases x with
  | error e => cases h
  | ok a => exact ⟨a, rfl⟩

/-- `if c { bail!(msg) }` -/
def bailIf (c : Prop) [Decidable c] (msg : String) : Fallible Unit :=
  if c then bail msg else .ok ()

@[simp] theorem bailIf_ok_iff {c : Prop} [Decidable c] {msg : String} :
    bailIf c msg = .ok () ↔ ¬c := by
  unfold bailIf
  split
  next h => simp [h, bail]
  next h => simp [h]

/-- An operation that panics when `c` holds. -/
def panicIf (c : Prop) [Decidable c] (msg : String) : Fallible Unit :=
  if c then .error (.panic msg) else .ok ()

/-- `result.context(msg)`, of which only the outermost text is ever shown. -/
def context {α : Type} (msg : String) : Fallible α → Fallible α
  | .ok a => .ok a
  | .error (.error _) => bail msg
  | .error (.panic text) => .error (.panic text)

@[simp] theorem context_ok_iff {α : Type} {msg : String} {x : Fallible α} {a : α} :
    context msg x = .ok a ↔ x = .ok a := by
  cases x with
  | ok b => simp [context]
  | error fault => cases fault <;> simp [context, bail]

def contextOption {α : Type} (msg : String) : Option α → Fallible α
  | some a => .ok a
  | none => bail msg

@[simp] theorem contextOption_ok_iff {α : Type} {msg : String} {x : Option α} {a : α} :
    contextOption msg x = .ok a ↔ x = some a := by
  cases x <;> simp [contextOption, bail]

/-- `xs[i]` -/
def indexAt {α : Type} (xs : List α) (i : Nat) : Fallible α :=
  match xs[i]? with
  | some x => .ok x
  | none => .error (.panic "index out of bounds")

@[simp] theorem indexAt_ok_iff {α : Type} {xs : List α} {i : Nat} {x : α} :
    indexAt xs i = .ok x ↔ xs[i]? = some x := by
  unfold indexAt
  cases xs[i]? <;> simp

/-- `xs[start..stop]` -/
def sliceRange {α : Type} (xs : List α) (start stop : Nat) : Fallible (List α) :=
  if start ≤ stop ∧ stop ≤ xs.length then .ok ((xs.drop start).take (stop - start))
  else .error (.panic "range out of bounds")

theorem sliceRange_ok_iff {α : Type} {xs ys : List α} {start stop : Nat} :
    sliceRange xs start stop = .ok ys ↔
      start ≤ stop ∧ stop ≤ xs.length ∧ (xs.drop start).take (stop - start) = ys := by
  unfold sliceRange
  split
  next h => simp [h]
  next h =>
    simp only [reduceCtorEq, false_iff]
    intro hparts
    obtain ⟨h1, h2, _⟩ := hparts
    exact h ⟨h1, h2⟩

/-- A cursor into a buffer stands before the elements `rest`. -/
def Unread {α : Type} (xs : List α) (cursor : Nat) (rest : List α) : Prop :=
  cursor ≤ xs.length ∧ xs.drop cursor = rest

theorem Unread.start {α : Type} (xs : List α) : Unread xs 0 xs := ⟨Nat.zero_le _, rfl⟩

theorem Unread.length_eq {α : Type} {xs rest : List α} {cursor : Nat} (h : Unread xs cursor rest) :
    xs.length = cursor + rest.length := by
  have hd : (xs.drop cursor).length = rest.length := congrArg List.length h.2
  have hc := h.1
  rw [List.length_drop] at hd
  omega

theorem Unread.slice {α : Type} {xs front rest : List α} {cursor : Nat}
    (h : Unread xs cursor (front ++ rest)) :
    sliceRange xs cursor (cursor + front.length) = .ok front ∧
      Unread xs (cursor + front.length) rest := by
  have hl := h.length_eq
  rw [List.length_append] at hl
  refine ⟨?_, by omega, ?_⟩
  · rw [sliceRange_ok_iff]
    refine ⟨by omega, by omega, ?_⟩
    rw [h.2, Nat.add_sub_cancel_left, List.take_left]
  · rw [← List.drop_drop, h.2, List.drop_left]

/-- Run `check` on every element with its index, stopping at the first error. -/
def checkEach {ε α : Type} (check : Nat → α → Except ε Unit) : Nat → List α → Except ε Unit
  | _, [] => .ok ()
  | i, x :: xs => do
    check i x
    checkEach check (i + 1) xs

theorem checkEach_ok_iff {ε α : Type} {check : Nat → α → Except ε Unit} {i : Nat} {xs : List α} :
    checkEach check i xs = .ok () ↔ ∀ k x, xs[k]? = some x → check (i + k) x = .ok () := by
  induction xs generalizing i with
  | nil => simp [checkEach]
  | cons x xs ih =>
    rw [checkEach, except_bind_unit_ok_iff, ih]
    constructor
    · rintro ⟨hx, ht⟩ k y hy
      cases k with
      | zero =>
        cases Option.some.inj hy
        exact hx
      | succ k =>
        have hk := ht k y (by simpa using hy)
        rwa [Nat.add_assoc, Nat.add_comm 1 k] at hk
    · intro h
      refine ⟨h 0 x rfl, ?_⟩
      intro k y hy
      have hk := h (k + 1) y (by simpa using hy)
      rwa [Nat.add_assoc, Nat.add_comm 1 k]

/-- A check that does not look at the index amounts to a check of every member. -/
theorem checkEach_ok_iff_forall {ε α : Type} {check : Nat → α → Except ε Unit} {P : α → Prop}
    (hp : ∀ i x, check i x = .ok () ↔ P x) {i : Nat} {xs : List α} :
    checkEach check i xs = .ok () ↔ ∀ x ∈ xs, P x := by
  rw [checkEach_ok_iff]
  constructor
  · intro h x hx
    obtain ⟨k, hk⟩ := List.mem_iff_getElem?.mp hx
    exact (hp _ _).mp (h k x hk)
  · intro h k x hx
    exact (hp _ _).mpr (h x (List.mem_of_getElem? hx))

/-- Push the result of `f` on every element with its index, stopping at the first error. -/
def collectEach {ε α β : Type} (f : Nat → α → Except ε β) : Nat → List α → Except ε (List β)
  | _, [] => .ok []
  | i, x :: xs => do
    let y ← f i x
    let ys ← collectEach f (i + 1) xs
    pure (y :: ys)

theorem collectEach_forall {ε α β : Type} {f : Nat → α → Except ε β} {P : β → Prop}
    (hp : ∀ i x y, f i x = .ok y → P y) {i : Nat} {xs : List α} {ys : List β}
    (h : collectEach f i xs = .ok ys) : ∀ y ∈ ys, P y := by
  induction xs generalizing i ys with
  | nil =>
    cases h
    simp
  | cons x xs ih =>
    obtain ⟨z, hz, h⟩ := except_bind_ok_iff.mp h
    obtain ⟨zs, hzs, h⟩ := except_bind_ok_iff.mp h
    cases h
    intro y hy
    rcases List.mem_cons.mp hy with rfl | hy
    · exact hp i x y hz
    · exact ih hzs y hy

/-- A map that fails on no element succeeds, and its list holds every result. -/
theorem exists_mapM_ok {ε α β : Type} {f : α → Except ε β} {xs : List α}
    (h : ∀ x ∈ xs, ∃ y, f x = .ok y) :
    ∃ ys, xs.mapM f = .ok ys ∧ ∀ x ∈ xs, ∀ y, f x = .ok y → y ∈ ys := by
  induction xs with
  | nil => exact ⟨[], rfl, by simp⟩
  | cons x xs ih =>
    obtain ⟨⟨y, hy⟩, hall⟩ := List.forall_mem_cons.mp h
    obtain ⟨ys, hys, hmem⟩ := ih hall
    refine ⟨y :: ys, ?_, ?_⟩
    · rw [List.mapM_cons, except_bind_of_ok hy, except_bind_of_ok hys]
      rfl
    · intro z hz w hw
      rcases List.mem_cons.mp hz with rfl | hz
      · rw [Except.ok.inj (hw.symm.trans hy)]
        exact List.mem_cons_self
      · exact List.mem_cons_of_mem _ (hmem z hz w hw)

/-- A map over a list is the results of its elements, one by one. -/
theorem mapM_ok_iff {ε α β : Type} {f : α → Except ε β} {xs : List α} {ys : List β} :
    xs.mapM f = .ok ys ↔ List.Forall₂ (fun x y => f x = .ok y) xs ys := by
  induction xs generalizing ys with
  | nil =>
    rw [List.mapM_nil, List.forall₂_nil_left_iff]
    exact ⟨fun h => (Except.ok.inj h).symm, fun h => h ▸ rfl⟩
  | cons x xs ih =>
    rw [List.mapM_cons, except_bind_ok_iff, List.forall₂_cons_left_iff]
    constructor
    · rintro ⟨y, hy, h⟩
      obtain ⟨rest, hrest, h⟩ := except_bind_ok_iff.mp h
      exact ⟨y, rest, hy, ih.mp hrest, (Except.ok.inj h).symm⟩
    · rintro ⟨y, rest, hy, hrest, rfl⟩
      exact ⟨y, hy, except_bind_ok_iff.mpr ⟨rest, ih.mpr hrest, rfl⟩⟩

theorem exists_of_forall₂ {α β : Type} {R : α → β → Prop} {xs : List α} {ys : List β}
    (h : List.Forall₂ R xs ys) {a : α} (ha : a ∈ xs) : ∃ b ∈ ys, R a b := by
  induction h with
  | nil => cases ha
  | @cons x y xs ys hxy _ ih =>
    rcases List.mem_cons.mp ha with rfl | ha
    · exact ⟨y, List.mem_cons_self, hxy⟩
    · obtain ⟨b, hb, hab⟩ := ih ha
      exact ⟨b, List.mem_cons_of_mem y hb, hab⟩

theorem mapM_ok_forall {ε α β : Type} {f : α → Except ε β} {xs : List α} {ys : List β}
    (h : xs.mapM f = .ok ys) : ∀ x ∈ xs, ∃ y, f x = .ok y := by
  intro x hx
  obtain ⟨y, _, hy⟩ := exists_of_forall₂ (mapM_ok_iff.mp h) hx
  exact ⟨y, hy⟩

theorem mapM_eq_map {ε α β : Type} {f : α → Except ε β} {g : α → β} {xs : List α}
    (h : ∀ x ∈ xs, f x = .ok (g x)) : xs.mapM f = .ok (xs.map g) := by
  induction xs with
  | nil => rfl
  | cons x xs ih =>
    obtain ⟨hx, hrest⟩ := List.forall_mem_cons.mp h
    rw [List.mapM_cons, except_bind_of_ok hx, except_bind_of_ok (ih hrest)]
    rfl

section Stateful

variable {ε σ α β : Type}

/-- The state an action leaves behind, whether it returned or failed. -/
def leftState : EStateM.Result ε σ α → σ
  | .ok _ s => s
  | .error _ s => s

@[simp] theorem leftState_ok (a : α) (s : σ) : leftState (.ok a s : EStateM.Result ε σ α) = s := rfl

@[simp] theorem leftState_error (e : ε) (s : σ) :
    leftState (.error e s : EStateM.Result ε σ α) = s := rfl

def liftExcept : Except ε α → EStateM ε σ α
  | .ok a => pure a
  | .error e => throw e

@[simp] theorem run_liftExcept_ok (a : α) (s : σ) :
    (liftExcept (.ok a) : EStateM ε σ α).run s = .ok a s := rfl

@[simp] theorem run_liftExcept_error (e : ε) (s : σ) :
    (liftExcept (.error e) : EStateM ε σ α).run s = .error e s := rfl

theorem run_bind_of_ok {x : EStateM ε σ α} {f : α → EStateM ε σ β} {s t : σ} {a : α}
    (h : x.run s = .ok a t) : (x >>= f).run s = (f a).run t := by
  rw [EStateM.run_bind, h]

theorem run_bind_of_error {x : EStateM ε σ α} {f : α → EStateM ε σ β} {s t : σ} {e : ε}
    (h : x.run s = .error e t) : (x >>= f).run s = .error e t := by
  rw [EStateM.run_bind, h]

theorem run_bind_ok_iff {x : EStateM ε σ α} {f : α → EStateM ε σ β} {s u : σ} {b : β} :
    (x >>= f).run s = .ok b u ↔ ∃ a t, x.run s = .ok a t ∧ (f a).run t = .ok b u := by
  rw [EStateM.run_bind]
  cases h : x.run s with
  | ok a t =>
    constructor
    · intro hf
      exact ⟨a, t, rfl, hf⟩
    · intro hparts
      obtain ⟨a', t', heq, hf⟩ := hparts
      cases heq
      exact hf
  | error e t => simp

theorem run_get_bind (f : σ → EStateM ε σ β) (s : σ) : (get >>= f).run s = (f s).run s := rfl

theorem run_liftExcept_ok_iff {x : Except ε α} {s t : σ} {a : α} :
    (liftExcept x : EStateM ε σ α).run s = .ok a t ↔ x = .ok a ∧ t = s := by
  cases x with
  | error e => simp
  | ok b =>
    simp only [run_liftExcept_ok, EStateM.Result.ok.injEq, Except.ok.injEq]
    exact and_congr_right fun _ => eq_comm

theorem run_liftExcept_bind_of_ok {x : Except ε α} {f : α → EStateM ε σ β} {s : σ} {a : α}
    (h : x = .ok a) : (liftExcept x >>= f).run s = (f a).run s := by
  rw [h, run_bind_of_ok (run_liftExcept_ok a s)]

theorem run_liftExcept_bind_ok_iff {x : Except ε α} {f : α → EStateM ε σ β} {s u : σ} {b : β} :
    (liftExcept x >>= f).run s = .ok b u ↔ ∃ a, x = .ok a ∧ (f a).run s = .ok b u := by
  cases x with
  | error e =>
    rw [run_bind_of_error (run_liftExcept_error e s)]
    simp
  | ok a =>
    rw [run_bind_of_ok (run_liftExcept_ok a s)]
    simp

/-- Every run of the action, failed runs included, relates its two end states. -/
def Keeps (R : σ → σ → Prop) (x : EStateM ε σ α) : Prop :=
  ∀ s, R s (leftState (x.run s))

theorem Keeps.pure {R : σ → σ → Prop} [Std.Refl R] (a : α) :
    Keeps R (Pure.pure a : EStateM ε σ α) :=
  fun s => refl_of R s

theorem Keeps.liftExcept {R : σ → σ → Prop} [Std.Refl R] (x : Except ε α) :
    Keeps R (PermeantOS.liftExcept x : EStateM ε σ α) := by
  intro s
  cases x with
  | ok a => exact refl_of R s
  | error e => exact refl_of R s

theorem Keeps.throw {R : σ → σ → Prop} [Std.Refl R] (e : ε) :
    Keeps R (MonadExcept.throw e : EStateM ε σ α) :=
  fun s => refl_of R s

theorem Keeps.modify {R : σ → σ → Prop} {f : σ → σ} (h : ∀ s, R s (f s)) :
    Keeps R (modifyThe σ f : EStateM ε σ Unit) :=
  fun s => h s

theorem Keeps.bind {R : σ → σ → Prop} [IsTrans σ R] {x : EStateM ε σ α} {f : α → EStateM ε σ β}
    (hx : Keeps R x) (hf : ∀ a, Keeps R (f a)) : Keeps R (x >>= f) := by
  intro s
  have hs := hx s
  cases h : x.run s with
  | ok a t =>
    rw [run_bind_of_ok h]
    rw [h] at hs
    exact trans_of R hs (hf a t)
  | error e t =>
    rw [run_bind_of_error h]
    rwa [h] at hs

theorem Keeps.liftExcept_bind {R : σ → σ → Prop} [Std.Refl R] {x : Except ε α}
    {f : α → EStateM ε σ β} (h : ∀ a, x = .ok a → Keeps R (f a)) :
    Keeps R (PermeantOS.liftExcept x >>= f) := by
  intro s
  cases x with
  | ok a =>
    rw [run_bind_of_ok (run_liftExcept_ok a s)]
    exact h a rfl s
  | error e =>
    rw [run_bind_of_error (run_liftExcept_error e s)]
    exact refl_of R s

theorem Keeps.mapM {R : σ → σ → Prop} [Std.Refl R] [IsTrans σ R] {f : α → EStateM ε σ β} {xs : List α}
    (h : ∀ x ∈ xs, Keeps R (f x)) : Keeps R (xs.mapM f) := by
  induction xs with
  | nil => exact Keeps.pure []
  | cons x xs ih =>
    obtain ⟨hx, hxs⟩ := List.forall_mem_cons.mp h
    rw [List.mapM_cons]
    apply Keeps.bind hx
    intro y
    apply Keeps.bind (ih hxs)
    intro ys
    exact Keeps.pure (y :: ys)

/-- A sequence either gets past an action that keeps the relation, or ends related. -/
theorem Keeps.past_or_left {R : σ → σ → Prop} {x : EStateM ε σ α} (hx : Keeps R x)
    (f : α → EStateM ε σ β) (s : σ) :
    (∃ a t, x.run s = .ok a t ∧ R s t ∧ (x >>= f).run s = (f a).run t) ∨
      R s (leftState ((x >>= f).run s)) := by
  have hs := hx s
  cases h : x.run s with
  | ok a t =>
    rw [h] at hs
    exact Or.inl ⟨a, t, rfl, hs, run_bind_of_ok h⟩
  | error e t =>
    rw [h] at hs
    right
    rw [run_bind_of_error h]
    exact hs

end Stateful

end PermeantOS
