import Mathlib.Logic.Basic

/-!
# Programs with state and faults

A program changes a state and then either yields a value or faults; the state at the fault stays
observable, so what a program did before it went wrong can be stated as well.

`Spec x P` reads: run from the state `s`, the program `x` ends in an outcome and a state that
`P s` accepts. The rules compose the specifications of the parts of a program.
-/

/-- A program over states `σ` that yields an `α` or faults with an `ε`. -/
def Prog (ε σ α : Type) := σ → Except ε α × σ

namespace Prog

variable {ε σ α β : Type}

def run (x : Prog ε σ α) (s : σ) : Except ε α × σ := x s

instance : Monad (Prog ε σ) where
  pure a := fun s => (.ok a, s)
  bind x f := fun s =>
    match x s with
    | (.ok a, s) => f a s
    | (.error e, s) => (.error e, s)

def get : Prog ε σ σ := fun s => (.ok s, s)

def modify (f : σ → σ) : Prog ε σ Unit := fun s => (.ok (), f s)

def fault (e : ε) : Prog ε σ α := fun s => (.error e, s)

variable {x : Prog ε σ α} {f : α → Prog ε σ β} {s t : σ}

@[ext] theorem ext {x y : Prog ε σ α} (h : ∀ s, x.run s = y.run s) : x = y := funext h

@[simp] theorem run_pure (a : α) (s : σ) : (pure a : Prog ε σ α).run s = (.ok a, s) := rfl

theorem run_bind_ok {a : α} (h : x.run s = (.ok a, t)) : (x >>= f).run s = (f a).run t := by
  show (match x s with
    | (.ok a, s) => f a s
    | (.error e, s) => (.error e, s)) = _
  rw [show x s = (.ok a, t) from h]
  rfl

theorem run_bind_error {e : ε} (h : x.run s = (.error e, t)) :
    (x >>= f).run s = (.error e, t) := by
  show (match x s with
    | (.ok a, s) => f a s
    | (.error e, s) => (.error e, s)) = _
  rw [show x s = (.error e, t) from h]

theorem run_bind_eq_ok {b : β} {u : σ} (h : (x >>= f).run s = (.ok b, u)) :
    ∃ a t, x.run s = (.ok a, t) ∧ (f a).run t = (.ok b, u) := by
  rcases hx : x.run s with ⟨e | a, t⟩
  · rw [run_bind_error hx] at h
    simp at h
  · rw [run_bind_ok hx] at h
    exact ⟨a, t, rfl, h⟩

@[simp] theorem run_pure_bind (a : α) (f : α → Prog ε σ β) (s : σ) :
    (pure a >>= f).run s = (f a).run s := run_bind_ok rfl

@[simp] theorem run_get_bind (f : σ → Prog ε σ β) (s : σ) : (get >>= f).run s = (f s).run s :=
  run_bind_ok rfl

@[simp] theorem run_modify_bind (g : σ → σ) (f : Unit → Prog ε σ β) (s : σ) :
    (modify g >>= f).run s = (f ()).run (g s) := run_bind_ok rfl

/-! ## Specifications -/

/-- Every run of `x` ends in an outcome and a state that `P` relates to the state it started in. -/
def Spec (x : Prog ε σ α) (P : σ → Except ε α → σ → Prop) : Prop :=
  ∀ s, P s (x.run s).1 (x.run s).2

variable {P : σ → Except ε α → σ → Prop} {Q : σ → Except ε β → σ → Prop}

theorem Spec.mono {P' : σ → Except ε α → σ → Prop} (h : Spec x P)
    (himp : ∀ s r t, P s r t → P' s r t) : Spec x P' :=
  fun s => himp s _ _ (h s)

/-- The rule of sequencing: the continuation is specified from the states the first part ends in,
and a fault of the first part ends the whole. -/
theorem Spec.bind {R : α → σ → Except ε β → σ → Prop} (hx : Spec x P)
    (hf : ∀ a, Spec (f a) (R a)) (hok : ∀ s a t r u, P s (.ok a) t → R a t r u → Q s r u)
    (herror : ∀ s e t, P s (.error e) t → Q s (.error e) t) : Spec (x >>= f) Q := by
  intro s
  have hP := hx s
  rcases hrun : x.run s with ⟨_ | a, t⟩
  · rw [hrun] at hP
    rw [run_bind_error hrun]
    exact herror s _ t hP
  · rw [hrun] at hP
    rw [run_bind_ok hrun]
    exact hok s a t _ _ hP (hf a t)

theorem Spec.pure {a : α} (h : ∀ s, P s (.ok a) s) : Spec (pure a) P := h

theorem Spec.fault {e : ε} (h : ∀ s, P s (.error e) s) : Spec (fault e) P := h

end Prog
