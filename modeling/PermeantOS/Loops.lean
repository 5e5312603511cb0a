import PermeantOS.Fallible
import Mathlib.Data.List.Induction

namespace PermeantOS

theorem mul_add_div_of_lt {a b i : Nat} (h : i < b) : (a * b + i) / b = a := by
  rw [Nat.mul_comm, Nat.mul_add_div (by omega), Nat.div_eq_of_lt h, Nat.add_zero]

theorem mul_add_mod_of_lt {a b i : Nat} (h : i < b) : (a * b + i) % b = i := by
  rw [Nat.mul_comm, Nat.mul_add_mod, Nat.mod_eq_of_lt h]

theorem mul_add_lt_mul {a b n i : Nat} (ha : a < b) (hi : i < n) : a * n + i < b * n := by
  calc a * n + i < a * n + n := by omega
    _ = (a + 1) * n := (Nat.succ_mul a n).symm
    _ ≤ b * n := Nat.mul_le_mul_right n ha

theorem flatMap_range_split {α : Type} (f : Nat → List α) {i n : Nat} (h : i < n) :
    ∃ before after, (List.range n).flatMap f = before ++ (f i ++ after) ∧
      ∀ x ∈ after, ∃ j, i < j ∧ j < n ∧ x ∈ f j := by
  obtain ⟨k, rfl⟩ : ∃ k, n = i + 1 + k := ⟨n - (i + 1), by omega⟩
  refine ⟨(List.range i).flatMap f, ((List.range k).map (i + 1 + ·)).flatMap f, ?_, ?_⟩
  · rw [List.range_add, List.range_succ]
    simp
  · intro x hx
    obtain ⟨j, hj, hxj⟩ := List.mem_flatMap.mp hx
    obtain ⟨d, hd, rfl⟩ := List.mem_map.mp hj
    have := List.mem_range.mp hd
    exact ⟨_, by omega, by omega, hxj⟩

section Prefixes

variable {α : Type} {Holds : List α → Prop} {Keeps : List α → α → Prop}

/-- What holds at the start, and after a step from where it holds just when the step keeps it, holds
throughout a run just when every step of it keeps it. -/
theorem forall_prefix_iff (hstart : Holds [])
    (hstep : ∀ front a, Holds front → (Holds (front ++ [a]) ↔ Keeps front a)) (xs : List α) :
    (∀ front, front <+: xs → Holds front) ↔ ∀ front a, front ++ [a] <+: xs → Keeps front a := by
  constructor
  · intro h front a hfront
    have hbefore := h front ((List.prefix_append _ _).trans hfront)
    exact (hstep front a hbefore).mp (h _ hfront)
  · intro h front
    induction front using List.reverseRecOn with
    | nil => exact fun _ => hstart
    | append_singleton front a ih =>
      intro hfront
      have hbefore := ih ((List.prefix_append _ _).trans hfront)
      exact (hstep front a hbefore).mpr (h front a hfront)

end Prefixes

section Loop

variable {m : Type → Type} [Monad m] {σ : Type}

/-- `for i in 0..n`, with the loop's variables passed along. -/
def forRange (body : Nat → σ → m σ) : Nat → σ → m σ
  | 0, s => pure s
  | n + 1, s => do
    let s ← forRange body n s
    body n s

theorem forRange_congr {body body' : Nat → σ → m σ} {n : Nat}
    (h : ∀ i < n, ∀ s, body i s = body' i s) (s : σ) : forRange body n s = forRange body' n s := by
  induction n with
  | zero => rfl
  | succ n ih =>
    have hlast : body n = body' n := funext fun s => h n (by omega) s
    rw [forRange, forRange, ih fun i hi => h i (by omega), hlast]

variable [LawfulMonad m]

theorem forRange_add (body : Nat → σ → m σ) (a b : Nat) (s : σ) :
    forRange body (a + b) s = forRange body a s >>= forRange (fun i => body (a + i)) b := by
  induction b with
  | zero =>
    show forRange body a s = forRange body a s >>= fun s => pure s
    rw [bind_pure]
  | succ b ih =>
    rw [← Nat.add_assoc, forRange, ih, bind_assoc]
    rfl

/-- Two nested loops are one loop over the product of their bounds. -/
theorem forRange_mul (body : Nat → Nat → σ → m σ) (a b : Nat) (s : σ) :
    forRange (fun i => forRange (body i) b) a s =
      forRange (fun k => body (k / b) (k % b)) (a * b) s := by
  induction a with
  | zero => rw [Nat.zero_mul, forRange, forRange]
  | succ a ih =>
    have hinner : forRange (fun i => body ((a * b + i) / b) ((a * b + i) % b)) b =
        forRange (body a) b := by
      funext t
      apply forRange_congr
      intro i hi t
      rw [mul_add_div_of_lt hi, mul_add_mod_of_lt hi]
    rw [forRange, ih, Nat.succ_mul, forRange_add, hinner]

end Loop

/-- What every round keeps holds after a loop that returned. -/
theorem forRange_ok_induction {ε σ : Type} {body : Nat → σ → Except ε σ} {n : Nat} {s t : σ}
    {I : Nat → σ → Prop} (h0 : I 0 s)
    (hstep : ∀ i < n, ∀ s t, I i s → body i s = .ok t → I (i + 1) t)
    (h : forRange body n s = .ok t) : I n t := by
  induction n generalizing t with
  | zero =>
    cases h
    exact h0
  | succ n ih =>
    obtain ⟨u, hu, hlast⟩ := except_bind_ok_iff.mp h
    exact hstep n (by omega) u t (ih (fun i hi => hstep i (by omega)) hu) hlast

/-- A loop returns where every round that starts with what it keeps does. -/
theorem exists_forRange_ok {ε σ : Type} {body : Nat → σ → Except ε σ} {n : Nat} {s : σ}
    {I : Nat → σ → Prop} (h0 : I 0 s)
    (hstep : ∀ i < n, ∀ s, I i s → ∃ t, body i s = .ok t ∧ I (i + 1) t) :
    ∃ t, forRange body n s = .ok t ∧ I n t := by
  induction n with
  | zero => exact ⟨s, rfl, h0⟩
  | succ n ih =>
    obtain ⟨mid, hmid, hkept⟩ := ih fun i hi => hstep i (by omega)
    obtain ⟨t, ht, hlast⟩ := hstep n (by omega) mid hkept
    exact ⟨t, except_bind_ok_iff.mpr ⟨mid, hmid, ht⟩, hlast⟩

section Stateful

variable {ε σ τ : Type} {body : Nat → τ → EStateM ε σ τ}

theorem run_forRange_ok_induction {n : Nat} {a b : τ} {s t : σ} {I : Nat → τ → σ → Prop}
    (h0 : I 0 a s)
    (hstep : ∀ i < n, ∀ a s b t, I i a s → (body i a).run s = .ok b t → I (i + 1) b t)
    (h : (forRange body n a).run s = .ok b t) : I n b t := by
  induction n generalizing b t with
  | zero =>
    cases h
    exact h0
  | succ n ih =>
    obtain ⟨c, u, hu, hlast⟩ := run_bind_ok_iff.mp h
    exact hstep n (by omega) c u b t (ih (fun i hi => hstep i (by omega)) hu) hlast

theorem Keeps.forRange {R : σ → σ → Prop} [Std.Refl R] [IsTrans σ R]
    (h : ∀ i a, Keeps R (body i a)) (n : Nat) (a : τ) : Keeps R (forRange body n a) := by
  induction n with
  | zero => exact Keeps.pure a
  | succ n ih => exact ih.bind (h n)

end Stateful

section Fill

variable {α : Type}

/-- `xs[i] = x` -/
def setAt (xs : List α) (i : Nat) (x : α) : Fallible (List α) :=
  if i < xs.length then .ok (xs.set i x) else .error (.panic "index out of bounds")

theorem setAt_ok_iff {xs ys : List α} {i : Nat} {x : α} :
    setAt xs i x = .ok ys ↔ i < xs.length ∧ ys = xs.set i x := by
  unfold setAt
  split
  next h => simp [h, eq_comm]
  next h => simp [h]

/-- Write the elements from the first on, at their indices as a machine word holds them. -/
def fillRange (width : Nat) (element : Nat → Fallible α) (n : Nat) (xs : List α) :
    Fallible (List α) :=
  forRange (fun k xs => do
    let x ← element k
    setAt xs (k % width) x) n xs

/-- A fill that returned had room for every element, and wrote each one in its place. -/
theorem fillRange_ok {width n : Nat} {element : Nat → Fallible α} {xs ys : List α}
    (hwidth : xs.length < width) (h : fillRange width element n xs = .ok ys) :
    n ≤ xs.length ∧ ys.length = xs.length ∧
      ∀ k < n, ∃ x, element k = .ok x ∧ ys[k]? = some x := by
  refine forRange_ok_induction (I := fun n ys => n ≤ xs.length ∧ ys.length = xs.length ∧
    ∀ k < n, ∃ x, element k = .ok x ∧ ys[k]? = some x) ⟨Nat.zero_le _, rfl, by simp⟩ ?_ h
  rintro i - ys zs ⟨hi, hlen, hfilled⟩ hbody
  obtain ⟨x, hx, hset⟩ := except_bind_ok_iff.mp hbody
  obtain ⟨hroom, rfl⟩ := setAt_ok_iff.mp hset
  rw [Nat.mod_eq_of_lt (by omega : i < width)] at hroom ⊢
  refine ⟨by omega, by rw [List.length_set, hlen], ?_⟩
  intro k hk
  rcases Nat.lt_succ_iff_lt_or_eq.mp hk with hk | rfl
  · obtain ⟨y, hy, hget⟩ := hfilled k hk
    exact ⟨y, hy, by rw [List.getElem?_set_ne (by omega), hget]⟩
  · exact ⟨x, hx, List.getElem?_set_self hroom⟩

/-- A fill with room for every element returns. -/
theorem exists_fillRange {width n : Nat} {element : Nat → Fallible α} {xs : List α}
    (hwidth : xs.length < width) (hroom : n ≤ xs.length) (h : ∀ k < n, ∃ x, element k = .ok x) :
    ∃ ys, fillRange width element n xs = .ok ys := by
  induction n with
  | zero => exact ⟨xs, rfl⟩
  | succ n ih =>
    obtain ⟨ys, hys⟩ := ih (by omega) fun k hk => h k (by omega)
    obtain ⟨_, hlen, _⟩ := fillRange_ok hwidth hys
    obtain ⟨x, hx⟩ := h n (by omega)
    refine ⟨ys.set n x, except_bind_ok_iff.mpr ⟨ys, hys, ?_⟩⟩
    dsimp only
    rw [except_bind_of_ok hx, Nat.mod_eq_of_lt (by omega)]
    exact setAt_ok_iff.mpr ⟨by omega, rfl⟩

end Fill

end PermeantOS
