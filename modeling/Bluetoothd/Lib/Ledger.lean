import Mathlib.Data.List.Basic

/-!
# Ledgers

Resources are named by a counter that every acquisition advances. A stretch of a run is `Settled` if
the resources that it took have the names the counter went through, and the same resources have been
given back, each of them once. Stretches that are settled compose.
-/

/-- Between the counts `n` and `m`, what was taken was given back. -/
structure Settled (n m : Nat) (taken given : List Nat) : Prop where
  le : n ≤ m
  fresh : ∀ r ∈ taken, n ≤ r ∧ r < m
  nodup : taken.Nodup
  perm : given.Perm taken

namespace Settled

variable {n m k : Nat} {taken given taken' given' : List Nat}

theorem none (h : n ≤ m) : Settled n m [] [] where
  le := h
  fresh := by simp
  nodup := List.nodup_nil
  perm := List.Perm.refl []

theorem of_perm (h : Settled n m taken given) (hperm : given'.Perm given) : Settled n m taken given' :=
  { h with perm := hperm.trans h.perm }

theorem append (h : Settled n m taken given) (h' : Settled m k taken' given') :
    Settled n k (taken ++ taken') (given ++ given') where
  le := Nat.le_trans h.le h'.le
  fresh := by
    intro r hr
    have hle := h.le
    have hle' := h'.le
    rcases List.mem_append.mp hr with hr | hr
    · have hr := h.fresh r hr
      omega
    · have hr := h'.fresh r hr
      omega
  nodup := by
    refine List.nodup_append.mpr ⟨h.nodup, h'.nodup, fun r hr r' hr' => ?_⟩
    have hr := h.fresh r hr
    have hr' := h'.fresh r' hr'
    omega
  perm := h.perm.append h'.perm

end Settled
