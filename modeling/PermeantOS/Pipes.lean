import Mathlib.Data.List.Infix

namespace PermeantOS

variable {α : Type}

/-- A channel that keeps the order: what its reader has taken, and what still waits for it. -/
structure Pipe (α : Type) where
  received : List α
  pending : List α

def Pipe.empty : Pipe α := ⟨[], []⟩

def Pipe.sent (pipe : Pipe α) : List α := pipe.received ++ pipe.pending

def Pipe.write (pipe : Pipe α) (items : List α) : Pipe α := ⟨pipe.received, pipe.pending ++ items⟩

def Pipe.read (pipe : Pipe α) (n : Nat) : Pipe α :=
  ⟨pipe.received ++ pipe.pending.take n, pipe.pending.drop n⟩

@[simp] theorem Pipe.received_empty : (Pipe.empty : Pipe α).received = [] := rfl

@[simp] theorem Pipe.received_write (pipe : Pipe α) (items : List α) :
    (pipe.write items).received = pipe.received := rfl

@[simp] theorem Pipe.received_read (pipe : Pipe α) (n : Nat) :
    (pipe.read n).received = pipe.received ++ pipe.pending.take n := rfl

theorem Pipe.received_prefix (pipe : Pipe α) : pipe.received <+: pipe.sent := List.prefix_append _ _

theorem Pipe.sent_of_pending_nil {pipe : Pipe α} (h : pipe.pending = []) : pipe.sent = pipe.received := by
  rw [Pipe.sent, h, List.append_nil]

end PermeantOS
