import Mathlib.Logic.Function.Basic
import PermeantOS.Fallible

namespace PermeantOS

section Logs

variable {C E : Type}

/-- No cell gets two contents. -/
def Consistent (log : List (C × E)) : Prop :=
  ∀ first ∈ log, ∀ second ∈ log, first.1 = second.1 → first.2 = second.2

theorem consistent_append {front back : List (C × E)} (hf : Consistent front) (hb : Consistent back)
    (hapart : ∀ first ∈ front, ∀ second ∈ back, first.1 ≠ second.1) : Consistent (front ++ back) := by
  intro first hfirst second hsecond hcell
  rcases List.mem_append.mp hfirst with hfirst | hfirst <;>
    rcases List.mem_append.mp hsecond with hsecond | hsecond
  · exact hf first hfirst second hsecond hcell
  · exact absurd hcell (hapart first hfirst second hsecond)
  · exact absurd hcell.symm (hapart second hsecond first hfirst)
  · exact hb first hfirst second hsecond hcell

theorem consistent_flatMap {α : Type} {log : α → List (C × E)} {xs : List α}
    (hlog : ∀ a ∈ xs, Consistent (log a))
    (hapart : xs.Pairwise fun a b => ∀ first ∈ log a, ∀ second ∈ log b, first.1 ≠ second.1) :
    Consistent (xs.flatMap log) := by
  induction xs with
  | nil => simp [Consistent]
  | cons a xs ih =>
    obtain ⟨ha, hrest⟩ := List.forall_mem_cons.mp hlog
    obtain ⟨hfirst, hapart⟩ := List.pairwise_cons.mp hapart
    rw [List.flatMap_cons]
    apply consistent_append ha (ih hrest hapart)
    intro first hmem second hsecond
    obtain ⟨b, hb, hsecond⟩ := List.mem_flatMap.mp hsecond
    exact hfirst b hb first hmem second hsecond

variable [DecidableEq C]

/-- Memory after a list of writes, the first of them done first. -/
def applyWrites (log : List (C × E)) (cells : C → E) : C → E :=
  log.foldl (fun cells write => Function.update cells write.1 write.2) cells

@[simp] theorem applyWrites_nil (cells : C → E) : applyWrites [] cells = cells := rfl

theorem applyWrites_cons (write : C × E) (log : List (C × E)) (cells : C → E) :
    applyWrites (write :: log) cells = applyWrites log (Function.update cells write.1 write.2) := rfl

theorem applyWrites_append (front back : List (C × E)) (cells : C → E) :
    applyWrites (front ++ back) cells = applyWrites back (applyWrites front cells) :=
  List.foldl_append ..

/-- A cell holds `x` where everything that is written to it is `x`, once it held or got that. -/
theorem applyWrites_of_same {log : List (C × E)} {cell : C} {x : E}
    (h : ∀ write ∈ log, write.1 = cell → write.2 = x) {cells : C → E}
    (hx : cells cell = x ∨ ∃ write ∈ log, write.1 = cell) : applyWrites log cells cell = x := by
  induction log generalizing cells with
  | nil => simpa using hx
  | cons write log ih =>
    obtain ⟨hwrite, hlog⟩ := List.forall_mem_cons.mp h
    rw [applyWrites_cons]
    apply ih hlog
    by_cases hcell : write.1 = cell
    · left
      rw [← hcell, Function.update_self, hwrite hcell]
    · rw [Function.update_of_ne (Ne.symm hcell)]
      exact hx.imp_right fun ⟨other, hmem, hother⟩ =>
        ⟨other, (List.mem_cons.mp hmem).resolve_left fun heq => hcell (heq ▸ hother), hother⟩

/-- Everything written is still there at the end exactly where no cell got two contents. -/
theorem applyWrites_holds_iff {log : List (C × E)} (cells : C → E) :
    (∀ write ∈ log, applyWrites log cells write.1 = write.2) ↔ Consistent log := by
  constructor
  · intro h first hfirst second hsecond hcell
    rw [← h first hfirst, hcell, h second hsecond]
  · intro h write hwrite
    exact applyWrites_of_same (fun other hother hcell => h other hother write hwrite hcell)
      (Or.inr ⟨write, hwrite, rfl⟩)

end Logs

section Programs

variable {C E ε α β : Type}

/-- The writes that follow a value, where there is one. -/
def onOk (x : Except ε α) (log : α → List (C × E)) : List (C × E) :=
  match x with
  | .ok a => log a
  | .error _ => []

theorem mem_onOk_iff {x : Except ε α} {log : α → List (C × E)} {write : C × E} :
    write ∈ onOk x log ↔ ∃ a, x = .ok a ∧ write ∈ log a := by
  cases x with
  | error e => simp [onOk]
  | ok a => simp [onOk]

def logBelow (n : Nat) (log : Nat → List (C × E)) : List (C × E) := (List.range n).flatMap log

theorem mem_logBelow_iff {n : Nat} {log : Nat → List (C × E)} {write : C × E} :
    write ∈ logBelow n log ↔ ∃ i < n, write ∈ log i := by
  simp [logBelow]

variable [DecidableEq C]

/-- Where it succeeds, a program does the writes of the log and nothing else to its memory. -/
def Stores (x : EStateM ε (C → E) α) (log : List (C × E)) : Prop :=
  ∀ cells a after, x.run cells = .ok a after → after = applyWrites log cells

theorem Stores.pure (a : α) : Stores (Pure.pure a : EStateM ε (C → E) α) [] := by
  intro cells b after h
  cases h
  rfl

theorem Stores.throw (e : ε) (log : List (C × E)) :
    Stores (MonadExcept.throw e : EStateM ε (C → E) α) log := by
  intro cells b after h
  cases h

theorem Stores.bind {x : EStateM ε (C → E) α} {f : α → EStateM ε (C → E) β}
    {front back : List (C × E)} (hx : Stores x front) (hf : ∀ a, Stores (f a) back) :
    Stores (x >>= f) (front ++ back) := by
  intro cells b after h
  obtain ⟨a, mid, hrun, h⟩ := run_bind_ok_iff.mp h
  rw [hf a mid b after h, hx cells a mid hrun, applyWrites_append]

theorem Stores.lift {x : Except ε α} {f : α → EStateM ε (C → E) β} {log : α → List (C × E)}
    (hf : ∀ a, x = .ok a → Stores (f a) (log a)) : Stores (liftExcept x >>= f) (onOk x log) := by
  intro cells b after h
  obtain ⟨a, hx, h⟩ := run_liftExcept_bind_ok_iff.mp h
  rw [hx]
  exact hf a hx cells b after h

theorem Stores.forM {xs : List α} {f : α → EStateM ε (C → E) PUnit} {log : α → List (C × E)}
    (h : ∀ a ∈ xs, Stores (f a) (log a)) : Stores (ForM.forM xs f) (xs.flatMap log) := by
  induction xs with
  | nil => exact Stores.pure _
  | cons a xs ih =>
    obtain ⟨hfirst, hrest⟩ := List.forall_mem_cons.mp h
    rw [List.forM_cons, List.flatMap_cons]
    exact hfirst.bind fun _ => ih hrest

def forBelow {σ : Type} (n : Nat) (body : Nat → EStateM ε σ Unit) : EStateM ε σ Unit :=
  ForM.forM (List.range n) body

/-- A loop that succeeds succeeds in every round. -/
theorem run_forBelow_ok {σ : Type} {n : Nat} {body : Nat → EStateM ε σ Unit} {s t : σ}
    (h : (forBelow n body).run s = .ok () t) {i : Nat} (hi : i < n) :
    ∃ u v, (body i).run u = .ok () v := by
  unfold forBelow at h
  have hmem := List.mem_range.mpr hi
  generalize List.range n = xs at h hmem
  induction xs generalizing s with
  | nil => cases hmem
  | cons j xs ih =>
    rw [List.forM_cons] at h
    obtain ⟨_, mid, hj, h⟩ := run_bind_ok_iff.mp h
    rcases List.mem_cons.mp hmem with rfl | hmem
    · exact ⟨s, mid, hj⟩
    · exact ih h hmem

/-- From every state the program returns. -/
def Returns {σ : Type} (x : EStateM ε σ α) : Prop := ∀ s, ∃ a t, x.run s = .ok a t

theorem Returns.bind {σ : Type} {x : EStateM ε σ α} {f : α → EStateM ε σ β} (hx : Returns x)
    (hf : ∀ a, Returns (f a)) : Returns (x >>= f) := by
  intro s
  obtain ⟨a, mid, hrun⟩ := hx s
  rw [run_bind_of_ok hrun]
  exact hf a mid

theorem Returns.lift {σ : Type} {x : Except ε α} {f : α → EStateM ε σ β} {a : α} (hx : x = .ok a)
    (hf : Returns (f a)) : Returns (liftExcept x >>= f) := by
  intro s
  rw [run_liftExcept_bind_of_ok hx]
  exact hf s

theorem Returns.forBelow {σ : Type} {n : Nat} {body : Nat → EStateM ε σ Unit}
    (h : ∀ i < n, Returns (body i)) : Returns (PermeantOS.forBelow n body) := by
  unfold PermeantOS.forBelow
  replace h : ∀ i ∈ List.range n, Returns (body i) := fun i hi => h i (List.mem_range.mp hi)
  generalize List.range n = rounds at h
  induction rounds with
  | nil => exact fun s => ⟨(), s, rfl⟩
  | cons i rounds ih =>
    obtain ⟨hfirst, hrest⟩ := List.forall_mem_cons.mp h
    rw [List.forM_cons]
    exact hfirst.bind fun _ => ih hrest

theorem Stores.forBelow {n : Nat} {body : Nat → EStateM ε (C → E) Unit} {log : Nat → List (C × E)}
    (h : ∀ i, Stores (body i) (log i)) :
    Stores (PermeantOS.forBelow n body) (logBelow n log) :=
  Stores.forM fun i _ => h i

end Programs

end PermeantOS
