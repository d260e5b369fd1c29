import Mathlib.Data.List.Infix
import Mathlib.Data.Set.Basic

/-!
# Prefix codes

No word of a prefix code is the beginning of another one. A stream of words can therefore be taken
apart in one way only: if it starts with some words of the code, it starts with them word by word.
-/

variable {α : Type*}

structure PrefixCode (words : Set (List α)) : Prop where
  ne_nil : ∀ word ∈ words, word ≠ []
  eq_of_prefix : ∀ v ∈ words, ∀ w ∈ words, v <+: w → v = w

namespace PrefixCode

variable {words : Set (List α)} {v w x y : List α} {vs ws : List (List α)}

theorem head_eq (h : PrefixCode words) (hv : v ∈ words) (hw : w ∈ words) (hvx : v ++ x <+: w ++ y) :
    v = w ∧ x <+: y := by
  have hpre : v <+: w ++ y := (List.prefix_append v x).trans hvx
  have heq : v = w := by
    rcases List.prefix_or_prefix_of_prefix hpre (List.prefix_append w y) with hvw | hwv
    · exact h.eq_of_prefix v hv w hw hvw
    · exact (h.eq_of_prefix w hw v hv hwv).symm
  subst heq
  exact ⟨rfl, (List.prefix_append_right_inj v).mp hvx⟩

/-- A stream that starts with some words starts with them word by word. The induction is on the
words at its start. -/
theorem prefix_of_flatten (h : PrefixCode words) (hvs : ∀ v ∈ vs, v ∈ words)
    (hws : ∀ w ∈ ws, w ∈ words) (hpre : vs.flatten <+: ws.flatten) : vs <+: ws := by
  induction vs generalizing ws with
  | nil => exact List.nil_prefix
  | cons v vs ih =>
    have hv : v ∈ words := hvs v List.mem_cons_self
    cases ws with
    | nil =>
      have hnil : v ++ vs.flatten = [] := List.prefix_nil.mp hpre
      exact absurd (List.append_eq_nil_iff.mp hnil).1 (h.ne_nil v hv)
    | cons w ws =>
      rw [List.flatten_cons, List.flatten_cons] at hpre
      obtain ⟨rfl, hrest⟩ := h.head_eq hv (hws w List.mem_cons_self) hpre
      have htail := ih (fun v hv => hvs v (List.mem_cons_of_mem _ hv))
        (fun w hw => hws w (List.mem_cons_of_mem _ hw)) hrest
      exact (List.prefix_cons_inj v).mpr htail

end PrefixCode
