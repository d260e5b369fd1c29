import Mathlib.Logic.Basic

/-!
# Runs of a partial step function

A system is a step function `σ → ι → Option σ` from a state and an input; `none` stands for a step
that does not reach a next state. `run` chains it over a list of inputs, and `Along P` says that
every step of the run meets `P`, a property of the state before the step and the input.

Two rules reduce statements about runs to statements about one step: `run_invariant` for an
invariant that only the steps meeting a condition preserve, and `along_iff` for a property of
steps that such an invariant makes equivalent to the condition.
-/

namespace Transition

variable {σ ι : Type*} (step : σ → ι → Option σ)

def run : σ → List ι → Option σ
  | s, [] => some s
  | s, i :: is => (step s i).bind fun s' => run s' is

/-- Every step of the run from `s` meets `P`. -/
def Along (P : σ → ι → Prop) : σ → List ι → Prop
  | _, [] => True
  | s, i :: is => P s i ∧ ∀ s', step s i = some s' → Along P s' is

instance decidableAlong (P : σ → ι → Prop) [∀ s i, Decidable (P s i)] :
    ∀ s is, Decidable (Along step P s is)
  | _, [] => .isTrue trivial
  | s, i :: is =>
    match h : step s i with
    | none => decidable_of_iff (P s i) (by simp [Along, h])
    | some s' =>
      have := decidableAlong P s' is
      decidable_of_iff (P s i ∧ Along step P s' is) (by simp [Along, h])

variable {step} {P Q : σ → ι → Prop} {I : σ → Prop}

theorem run_cons (s : σ) (i : ι) (is : List ι) :
    run step s (i :: is) = (step s i).bind fun s' => run step s' is := rfl

theorem run_append (s : σ) (is js : List ι) :
    run step s (is ++ js) = (run step s is).bind fun s' => run step s' js := by
  induction is generalizing s with
  | nil => rfl
  | cons i is ih =>
    rw [List.cons_append, run_cons, run_cons, Option.bind_assoc]
    exact congrArg _ (funext ih)

theorem run_map {κ : Type*} (f : κ → ι) (s : σ) (ks : List κ) :
    run step s (ks.map f) = run (fun s k => step s (f k)) s ks := by
  induction ks generalizing s with
  | nil => rfl
  | cons k ks ih =>
    rw [List.map_cons, run_cons, run_cons]
    exact congrArg _ (funext ih)

theorem run_isSome_iff {s : σ} {is : List ι} :
    (run step s is).isSome ↔ Along step (fun s i => (step s i).isSome) s is := by
  induction is generalizing s with
  | nil => simp [run, Along]
  | cons i is ih =>
    show (run step s (i :: is)).isSome ↔ (step s i).isSome ∧ ∀ s', step s i = some s' →
      Along step (fun s i => (step s i).isSome) s' is
    rw [run_cons]
    cases step s i with
    | none => simp
    | some t => simp [ih]

theorem along_and {s : σ} {is : List ι} (hP : Along step P s is) (hQ : Along step Q s is) :
    Along step (fun s i => P s i ∧ Q s i) s is := by
  induction is generalizing s with
  | nil => trivial
  | cons i is ih => exact ⟨⟨hP.1, hQ.1⟩, fun s' hs' => ih (hP.2 s' hs') (hQ.2 s' hs')⟩

/-- An invariant of the steps that meet `P` holds at the end of every run whose steps meet `P`. -/
theorem run_invariant (hstep : ∀ s i s', I s → P s i → step s i = some s' → I s')
    {s s' : σ} {is : List ι} (hs : I s) (hP : Along step P s is)
    (hrun : run step s is = some s') : I s' := by
  induction is generalizing s with
  | nil =>
    cases hrun
    exact hs
  | cons i is ih =>
    rw [run_cons, Option.bind_eq_some_iff] at hrun
    obtain ⟨t, ht, hrun⟩ := hrun
    exact ih (hstep s i t hs hP.1 ht) (hP.2 t ht) hrun

/-- A property of steps that an invariant of the steps meeting `P` makes equivalent to `P` holds
along exactly the runs along which `P` holds. Both may assume `L`, which all steps meet. -/
theorem along_iff {L : σ → ι → Prop} (hstep : ∀ s i s', I s → L s i → P s i → step s i = some s' → I s')
    (hiff : ∀ s i, I s → L s i → (Q s i ↔ P s i)) {s : σ} {is : List ι} (hs : I s)
    (hL : Along step L s is) : Along step Q s is ↔ Along step P s is := by
  induction is generalizing s with
  | nil => exact Iff.rfl
  | cons i is ih =>
    show (Q s i ∧ ∀ s', step s i = some s' → Along step Q s' is) ↔
      (P s i ∧ ∀ s', step s i = some s' → Along step P s' is)
    rw [hiff s i hs hL.1]
    refine and_congr_right fun hP => forall_congr' fun s' => imp_congr_right fun hs' => ?_
    exact ih (hstep s i s' hs hL.1 hP hs') (hL.2 s' hs')

theorem along_of_invariant {L : σ → ι → Prop} (hstep : ∀ s i s', I s → L s i → step s i = some s' → I s')
    (hQ : ∀ s i, I s → L s i → Q s i) {s : σ} {is : List ι} (hs : I s) (hL : Along step L s is) :
    Along step Q s is := by
  induction is generalizing s with
  | nil => trivial
  | cons i is ih => exact ⟨hQ s i hs hL.1, fun s' hs' => ih (hstep s i s' hs hL.1 hs') (hL.2 s' hs')⟩

theorem along_next_iff {R : σ → Prop} {s : σ} {is : List ι} (hs : R s) :
    Along step (fun s i => ∀ s', step s i = some s' → R s') s is ↔
      ∀ k s', run step s (is.take k) = some s' → R s' := by
  induction is generalizing s with
  | nil => simpa [Along, run] using hs
  | cons i is ih =>
    constructor
    · rintro ⟨hnext, hrest⟩ (_ | k) s' hrun
      · cases hrun
        exact hs
      · rw [List.take_succ_cons, run_cons, Option.bind_eq_some_iff] at hrun
        obtain ⟨t, ht, hrun⟩ := hrun
        exact (ih (hnext t ht)).mp (hrest t ht) k s' hrun
    · intro h
      have hnext : ∀ t, step s i = some t → R t := by
        intro t ht
        refine h 1 t ?_
        simp [run, ht]
      refine ⟨hnext, fun t ht => (ih (hnext t ht)).mpr fun k s' hrun => h (k + 1) s' ?_⟩
      rw [List.take_succ_cons, run_cons, ht]
      exact hrun

theorem along_of_forall (h : ∀ s i, P s i) (s : σ) (is : List ι) : Along step P s is := by
  induction is generalizing s with
  | nil => trivial
  | cons i is ih => exact ⟨h s i, fun s' _ => ih s'⟩

theorem along_of_forall_mem {R : ι → Prop} {is : List ι} (h : ∀ i ∈ is, R i) (s : σ) :
    Along step (fun _ i => R i) s is := by
  induction is generalizing s with
  | nil => trivial
  | cons i is ih =>
    exact ⟨h i List.mem_cons_self, fun s' _ => ih (fun j hj => h j (List.mem_cons_of_mem i hj)) s'⟩

/-- A property of the inputs alone, where every input that has it leads to a next state. -/
theorem along_inputs {L : σ → ι → Prop} {R : ι → Prop}
    (hstep : ∀ s i, I s → L s i → R i → ∃ s', step s i = some s' ∧ I s') {s : σ} {is : List ι}
    (hs : I s) (hL : Along step L s is) :
    Along step (fun _ i => R i) s is ↔ ∀ i ∈ is, R i := by
  induction is generalizing s with
  | nil => simp [Along]
  | cons i is ih =>
    show (R i ∧ ∀ t, step s i = some t → Along step (fun _ i => R i) t is) ↔ _
    rw [List.forall_mem_cons]
    refine and_congr_right fun hR => ?_
    obtain ⟨s', hs', hI⟩ := hstep s i hs hL.1 hR
    rw [hs']
    simp only [Option.some.injEq, forall_eq']
    exact ih hI (hL.2 s' hs')

theorem along_total {R : ι → Prop} (htotal : ∀ s i, (step s i).isSome) (s : σ) (is : List ι) :
    Along step (fun _ i => R i) s is ↔ ∀ i ∈ is, R i := by
  induction is generalizing s with
  | nil => simp [Along]
  | cons i is ih =>
    obtain ⟨s', hs'⟩ := Option.isSome_iff_exists.mp (htotal s i)
    show (R i ∧ ∀ t, step s i = some t → Along step (fun _ i => R i) t is) ↔ _
    rw [List.forall_mem_cons, hs']
    refine and_congr_right fun _ => ?_
    simp only [Option.some.injEq, forall_eq']
    exact ih s'

/-- A mark that the steps which set it leave, and nothing takes away, tells whether one of them was
made. -/
theorem marked_iff {L : σ → ι → Prop} {marked : σ → Prop} {sets : σ → ι → Prop}
    (hkeeps : ∀ s i s', I s → L s i → step s i = some s' → I s')
    (hstep : ∀ s i s', I s → L s i → step s i = some s' → (marked s' ↔ marked s ∨ sets s i))
    {s s' : σ} {is : List ι} (hs : I s) (hL : Along step L s is) (hrun : run step s is = some s') :
    ¬ marked s' ↔ ¬ marked s ∧ Along step (fun s i => ¬ sets s i) s is := by
  induction is generalizing s with
  | nil =>
    cases hrun
    exact (and_iff_left trivial).symm
  | cons i is ih =>
    rw [run_cons, Option.bind_eq_some_iff] at hrun
    obtain ⟨t, ht, hrun⟩ := hrun
    rw [ih (hkeeps s i t hs hL.1 ht) (hL.2 t ht) hrun, hstep s i t hs hL.1 ht, not_or, and_assoc]
    refine and_congr_right fun _ => and_congr_right fun _ => ?_
    rw [ht]
    simp only [Option.some.injEq, forall_eq']

/-! ## Order -/

/-- Where the inputs commute two by two, a run does not depend on their order. The induction is on the
permutation. -/
theorem run_perm {R : ι → Prop} {C : ι → ι → Prop} (hsymm : ∀ i j, C i j → C j i)
    (hkeeps : ∀ s i s', I s → R i → step s i = some s' → I s')
    (hcomm : ∀ s i j, I s → R i → R j → C i j →
      ((step s i).bind fun t => step t j) = (step s j).bind fun t => step t i)
    {s : σ} {is js : List ι} (hperm : is.Perm js) (hs : I s) (hR : ∀ i ∈ is, R i)
    (hC : is.Pairwise C) : run step s is = run step s js := by
  induction hperm generalizing s with
  | nil => rfl
  | cons i _ ih =>
    rw [List.forall_mem_cons] at hR
    rw [run_cons, run_cons]
    rcases hstep : step s i with _ | t
    · rfl
    · exact ih (hkeeps s i t hs hR.1 hstep) hR.2 (List.pairwise_cons.mp hC).2
  | swap i j rest =>
    have hi : R i := hR i (List.mem_cons_of_mem j List.mem_cons_self)
    have hj : R j := hR j List.mem_cons_self
    have hpair : C j i := (List.pairwise_cons.mp hC).1 i List.mem_cons_self
    show ((step s j).bind fun t => (step t i).bind fun u => run step u rest)
      = (step s i).bind fun t => (step t j).bind fun u => run step u rest
    rw [← Option.bind_assoc, ← Option.bind_assoc, hcomm s j i hs hj hi hpair]
  | trans hperm _ ih ih' =>
    have hR' := fun i hi => hR i (hperm.mem_iff.mpr hi)
    have hC' := (hperm.pairwise_iff fun h => hsymm _ _ h).mp hC
    exact (ih hs hR hC).trans (ih' hs hR' hC')

/-! ## Balances -/

variable (step) in
/-- What the steps of a run weigh together. -/
def total (weight : σ → ι → Nat) : σ → List ι → Nat
  | _, [] => 0
  | s, i :: is => weight s i + (step s i).elim 0 fun s' => total weight s' is

/-- Where every legal step changes `f` by as much as `g` and by its weight, so does a run. -/
theorem run_balance {L : σ → ι → Prop} {f g : σ → Nat} {weight : σ → ι → Nat}
    (hkeeps : ∀ s i s', I s → L s i → step s i = some s' → I s')
    (hstep : ∀ s i s', I s → L s i → step s i = some s' → f s' + g s = f s + g s' + weight s i)
    {s s' : σ} {is : List ι} (hs : I s) (hL : Along step L s is) (hrun : run step s is = some s') :
    f s' + g s = f s + g s' + total step weight s is := by
  induction is generalizing s with
  | nil =>
    cases hrun
    rfl
  | cons i is ih =>
    rw [run_cons, Option.bind_eq_some_iff] at hrun
    obtain ⟨t, ht, hrun⟩ := hrun
    have hfirst := hstep s i t hs hL.1 ht
    have hrest := ih (hkeeps s i t hs hL.1 ht) (hL.2 t ht) hrun
    rw [total, ht, Option.elim_some]
    omega

theorem run_total_le {L : σ → ι → Prop} {f : σ → Nat} {weight : σ → ι → Nat}
    (hkeeps : ∀ s i s', I s → L s i → step s i = some s' → I s')
    (hstep : ∀ s i s', I s → L s i → step s i = some s' → weight s i + f s ≤ f s')
    {s s' : σ} {is : List ι} (hs : I s) (hL : Along step L s is) (hrun : run step s is = some s') :
    total step weight s is + f s ≤ f s' := by
  induction is generalizing s with
  | nil =>
    cases hrun
    exact Nat.le_of_eq (Nat.zero_add _)
  | cons i is ih =>
    rw [run_cons, Option.bind_eq_some_iff] at hrun
    obtain ⟨t, ht, hrun⟩ := hrun
    have hfirst := hstep s i t hs hL.1 ht
    have hrest := ih (hkeeps s i t hs hL.1 ht) (hL.2 t ht) hrun
    rw [total, ht, Option.elim_some]
    omega

end Transition
