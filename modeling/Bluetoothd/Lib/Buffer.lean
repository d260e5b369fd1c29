import Mathlib.Data.List.Basic
import Mathlib.Order.Lattice

/-!
# Copies into and out of a buffer

A buffer is a list. `slice buf off n` is what a copy of `n` elements out of `buf + off` reads,
`overwrite buf off src` is `buf` after a copy of `src` to `buf + off`. Inside the bounds of the
buffer a write is read back, leaves the rest alone, and undoes nothing when it writes what was
already there.
-/

namespace Buffer

variable {α : Type*}

/-- The `n` elements of `buf` from `off` on. -/
def slice (buf : List α) (off n : Nat) : List α := (buf.drop off).take n

/-- `buf` with `src` copied to offset `off`. -/
def overwrite (buf : List α) (off : Nat) (src : List α) : List α :=
  buf.take off ++ (src ++ buf.drop (off + src.length))

variable {buf src : List α} {off n : Nat}

theorem length_slice (h : off + n ≤ buf.length) : (slice buf off n).length = n := by
  rw [slice, List.length_take, List.length_drop]
  omega

theorem length_overwrite (h : off + src.length ≤ buf.length) :
    (overwrite buf off src).length = buf.length := by
  rw [overwrite, List.length_append, List.length_append, List.length_take, List.length_drop]
  omega

theorem take_slice {k : Nat} (h : k ≤ n) : (slice buf off n).take k = slice buf off k := by
  rw [slice, List.take_take, min_eq_left h, slice]

theorem drop_slice (k : Nat) : (slice buf off n).drop k = slice buf (off + k) (n - k) := by
  rw [slice, List.drop_take, List.drop_drop, slice]

theorem slice_take {k : Nat} (h : off + n ≤ k) : slice (buf.take k) off n = slice buf off n := by
  rw [slice, List.drop_take, List.take_take, min_eq_left (by omega), slice]

theorem drop_overwrite_self (h : off ≤ buf.length) :
    (overwrite buf off src).drop off = src ++ buf.drop (off + src.length) := by
  rw [overwrite, List.drop_append, List.length_take, min_eq_left h, Nat.sub_self,
    List.drop_eq_nil_of_le (by rw [List.length_take]; omega)]
  rfl

theorem slice_overwrite_self (h : off ≤ buf.length) :
    slice (overwrite buf off src) off src.length = src := by
  rw [slice, drop_overwrite_self h, List.take_left]

theorem take_overwrite {k : Nat} (hk : k ≤ off) (h : off ≤ buf.length) :
    (overwrite buf off src).take k = buf.take k := by
  rw [overwrite, List.take_append_of_le_length (by rw [List.length_take]; omega), List.take_take,
    min_eq_left hk]

theorem drop_overwrite {k : Nat} (hk : off + src.length ≤ k) (h : off ≤ buf.length) :
    (overwrite buf off src).drop k = buf.drop k := by
  obtain ⟨d, rfl⟩ := Nat.exists_eq_add_of_le hk
  have hlow : ∀ m, (overwrite buf off src).drop (off + m) =
      (src ++ buf.drop (off + src.length)).drop m := by
    intro m
    rw [← List.drop_drop, drop_overwrite_self h]
  rw [Nat.add_assoc, hlow, List.drop_append, List.drop_eq_nil_of_le (by omega),
    Nat.add_sub_cancel_left, List.drop_drop, List.nil_append, Nat.add_assoc]

theorem slice_overwrite_of_le {k : Nat} (hk : k + n ≤ off) (h : off ≤ buf.length) :
    slice (overwrite buf off src) k n = slice buf k n := by
  rw [← slice_take hk, take_overwrite le_rfl h, slice_take hk]

theorem take_overwrite_end (h : off ≤ buf.length) :
    (overwrite buf off src).take (off + src.length) = buf.take off ++ src := by
  rw [List.take_add, take_overwrite le_rfl h, ← slice, slice_overwrite_self h]

theorem overwrite_overwrite {src' : List α} (h : off ≤ buf.length) :
    overwrite (overwrite buf off src) (off + src.length) src' = overwrite buf off (src ++ src') := by
  rw [overwrite, take_overwrite_end h, drop_overwrite (Nat.le_add_right _ _) h, overwrite,
    List.length_append, Nat.add_assoc, List.append_assoc, List.append_assoc]

theorem overwrite_slice (h : off + n ≤ buf.length) : overwrite buf off (slice buf off n) = buf := by
  rw [overwrite, length_slice h, slice, ← List.drop_drop, List.take_append_drop,
    List.take_append_drop]

/-! ## Chunked streams -/

theorem eq_nil_of_flatten {chunks : List (List α)} (hne : ∀ chunk ∈ chunks, chunk ≠ [])
    (h : chunks.flatten = []) : chunks = [] := by
  rw [List.flatten_eq_nil_iff] at h
  exact List.eq_nil_iff_forall_not_mem.mpr fun chunk hchunk => hne chunk hchunk (h chunk hchunk)

/-- A chunk of a stream that does not go past the end of the word is the next part of it. -/
theorem next_part {chunk word stream rest : List α} {off : Nat}
    (hstream : chunk ++ stream = word.drop off ++ rest) (hle : off + chunk.length ≤ word.length) :
    chunk = slice word off chunk.length ∧ word.drop off = chunk ++ word.drop (off + chunk.length) ∧
      stream = word.drop (off + chunk.length) ++ rest := by
  have hhead : chunk = slice word off chunk.length := by
    have htake := congrArg (List.take chunk.length) hstream
    rwa [List.take_left, List.take_append_of_le_length (by rw [List.length_drop]; omega),
      ← slice] at htake
  have hdrop : word.drop off = chunk ++ word.drop (off + chunk.length) := by
    conv_rhs => rw [hhead, ← List.drop_drop, length_slice hle]
    exact (List.take_append_drop _ _).symm
  refine ⟨hhead, hdrop, ?_⟩
  rw [hdrop, List.append_assoc] at hstream
  exact List.append_cancel_left hstream

/-- The chunks are cut at the end of every word: they come in groups, each of which is one word. -/
def Cut (chunks words : List (List α)) : Prop :=
  ∃ groups : List (List (List α)), chunks = groups.flatten ∧ groups.map List.flatten = words

section cut

variable {chunk word : List α} {chunks words : List (List α)}

theorem cut_nil : Cut ([] : List (List α)) [] := ⟨[], by simp⟩

theorem Cut.cons_cases (hword : word ≠ []) (h : Cut (chunk :: chunks) (word :: words)) :
    ∃ group rest, chunks = group ++ rest ∧ word = chunk ++ group.flatten ∧ Cut rest words := by
  obtain ⟨groups, happend, hwords⟩ := h
  cases groups with
  | nil => simp at hwords
  | cons group groups =>
    rw [List.map_cons, List.cons.injEq] at hwords
    cases group with
    | nil => exact absurd hwords.1.symm (by simpa using hword)
    | cons c group =>
      rw [List.flatten_cons, List.cons_append, List.cons.injEq] at happend
      refine ⟨group, groups.flatten, happend.2, ?_, groups, rfl, hwords.2⟩
      rw [← hwords.1, List.flatten_cons, happend.1]

theorem Cut.cons {group : List (List α)} (h : Cut chunks words) :
    Cut (group ++ chunks) (group.flatten :: words) := by
  obtain ⟨groups, rfl, rfl⟩ := h
  exact ⟨group :: groups, by simp, by simp⟩

theorem cut_inside (hword : word ≠ []) :
    Cut (chunk :: chunks) ((chunk ++ word) :: words) ↔ Cut chunks (word :: words) := by
  constructor
  · intro h
    obtain ⟨group, rest, rfl, hflat, hrest⟩ := h.cons_cases (by simp [hword])
    rw [List.append_cancel_left_eq] at hflat
    rw [hflat]
    exact hrest.cons
  · intro h
    obtain ⟨groups, rfl, hwords⟩ := h
    cases groups with
    | nil => simp at hwords
    | cons group groups =>
      simp only [List.map_cons, List.cons.injEq] at hwords
      obtain ⟨rfl, rfl⟩ := hwords
      exact ⟨(chunk :: group) :: groups, by simp, by simp⟩

theorem cut_ends (hword : word ≠ []) (hne : ∀ chunk ∈ chunks, chunk ≠ []) :
    Cut (word :: chunks) (word :: words) ↔ Cut chunks words := by
  constructor
  · intro h
    obtain ⟨group, rest, rfl, hflat, hrest⟩ := h.cons_cases hword
    have hnil : group = [] := by
      apply eq_nil_of_flatten
      · exact fun chunk hchunk => hne chunk (List.mem_append_left _ hchunk)
      · simpa using hflat
    rwa [hnil, List.nil_append]
  · intro h
    have hcut : Cut ([word] ++ chunks) ([word].flatten :: words) := h.cons
    simpa using hcut

theorem not_cut_crosses (hword : word ≠ []) (hlt : word.length < chunk.length) :
    ¬ Cut (chunk :: chunks) (word :: words) := by
  intro h
  obtain ⟨group, rest, -, rfl, -⟩ := h.cons_cases hword
  rw [List.length_append] at hlt
  omega

end cut

end Buffer
