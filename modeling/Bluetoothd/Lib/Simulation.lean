import Bluetoothd.Lib.Transition

/-!
# Simulation by an abstraction function

A system is related to a more abstract one by `view`, which maps its states, and by `label`, which
says what an input means in a state. A `Simulation` lets both systems step alike, so that the runs
of the two are the same as well, and a concrete run gets stuck exactly where the abstract one does.
-/

namespace Transition

variable {σ ι τ κ : Type*}

/-- The abstract inputs that the steps of a run stand for. -/
def labels (step : σ → ι → Option σ) (label : σ → ι → κ) : σ → List ι → List κ
  | _, [] => []
  | s, i :: is => label s i :: (step s i).elim [] fun s' => labels step label s' is

/-- Where the invariant holds and the input is legal, both systems step to states with the same
view, or both do not step; and the invariant is kept. -/
structure Simulation (step : σ → ι → Option σ) (astep : τ → κ → Option τ) (view : σ → τ)
    (label : σ → ι → κ) (I : σ → Prop) (L : σ → ι → Prop) : Prop where
  commutes : ∀ s i, I s → L s i → astep (view s) (label s i) = (step s i).map view
  keeps : ∀ s i s', I s → L s i → step s i = some s' → I s'

variable {step : σ → ι → Option σ} {astep : τ → κ → Option τ} {view : σ → τ} {label : σ → ι → κ}
  {I : σ → Prop} {L : σ → ι → Prop} {s s' : σ} {is : List ι}

theorem Simulation.run (h : Simulation step astep view label I L) (hs : I s)
    (hL : Along step L s is) :
    Transition.run astep (view s) (labels step label s is) = (Transition.run step s is).map view := by
  induction is generalizing s with
  | nil => rfl
  | cons i is ih =>
    rw [labels, run_cons, run_cons, h.commutes s i hs hL.1]
    rcases hstep : step s i with _ | t
    · rfl
    · simp only [Option.map_some, Option.elim_some, Option.bind_some]
      exact ih (h.keeps s i t hs hL.1 hstep) (hL.2 t hstep)

theorem Simulation.invariant (h : Simulation step astep view label I L) (hs : I s)
    (hL : Along step L s is) (hrun : Transition.run step s is = some s') : I s' :=
  run_invariant h.keeps hs hL hrun

end Transition
