import Bluetoothd.Proto.Codec

/-!
# The bounds check of the decoder (`bt-proto.c`)

`read_pdu_at_va` checks `off+len` against `pdu->len` in machine arithmetic before it copies a field.
`copiesAtVa` is its loop with the copies recorded in place of being made, so that a copy that has no
meaning is seen as well; `readPduAtVa_eq_copies` makes the copies. `checkSound_iff` says for which
lengths the check does what it is there for.
-/

namespace Bluetoothd

open Platform Buffer

/-- `memcpy(dst, pdu->data+off, len)`. -/
structure Copy where
  off : Nat
  len : Nat
  dst : Dst
  deriving DecidableEq, Repr

/-- The copy is made within the payload. -/
def Copy.Inside (pdu : Pdu) (off : Nat) (c : Copy) : Prop :=
  off ≤ c.off ∧ c.off + c.len ≤ pdu.len.toNat

theorem Copy.Inside.mono {pdu : Pdu} {off off' : Nat} {c : Copy} (hoff : off ≤ off')
    (h : c.Inside pdu off') : c.Inside pdu off :=
  ⟨le_trans hoff h.1, h.2⟩

/-- The sizes of the fields in front of the first invalid format character. -/
def fieldSizes : List Char → List Dst → List Nat
  | [], _ => []
  | ch :: fmt, ap =>
    match readArg ch ap with
    | .arg (_, len) ap => len :: fieldSizes fmt ap
    | _ => []

/-- The variadic arguments are of the types that the format asks for. -/
def ArgsMatch : List Char → List Dst → Prop
  | [], _ => True
  | ch :: fmt, ap =>
    match readArg ch ap with
    | .arg _ ap => ArgsMatch fmt ap
    | .invalid => True
    | .mismatch => False

def FormatValid (fmt : List Char) : Prop := ∀ ch ∈ fmt, ch ∈ formatChars

theorem fieldSizes_cons {ch : Char} {fmt : List Char} {ap ap' : List Dst} {dst : Dst} {len : Nat}
    (harg : readArg ch ap = .arg (dst, len) ap') :
    fieldSizes (ch :: fmt) ap = len :: fieldSizes fmt ap' := by
  rw [fieldSizes, harg]

theorem fieldSizes_invalid {ch : Char} {fmt : List Char} {ap : List Dst}
    (harg : readArg ch ap = .invalid) : fieldSizes (ch :: fmt) ap = [] := by
  rw [fieldSizes, harg]

theorem argsMatch_cons {ch : Char} {fmt : List Char} {ap ap' : List Dst} {arg : Dst × Nat}
    (harg : readArg ch ap = .arg arg ap') (h : ArgsMatch (ch :: fmt) ap) : ArgsMatch fmt ap' := by
  rw [ArgsMatch, harg] at h
  exact h

theorem not_argsMatch {ch : Char} {fmt : List Char} {ap : List Dst}
    (harg : readArg ch ap = .mismatch) : ¬ ArgsMatch (ch :: fmt) ap := by
  rw [ArgsMatch, harg]
  exact id

theorem mem_formatChars {ch : Char} {ap ap' : List Dst} {arg : Dst × Nat}
    (harg : readArg ch ap = .arg arg ap') : ch ∈ formatChars := by
  obtain ⟨dst, len⟩ := arg
  obtain ⟨-, rfl, -⟩ := readArg_eq_arg harg
  cases dst <;> simp [Dst.fmt, formatChars]

section checks

variable [Platform]

/-- `read_pdu_at_va` with its copies recorded. -/
def copiesAtVa (pdu : Pdu) (off : Nat) : List Char → List Dst → Option (Int × List Copy)
  | [], _ => some (toLong off, [])
  | ch :: fmt, ap =>
    match readArg ch ap with
    | .invalid => some (-1, [])
    | .mismatch => none
    | .arg (dst, len) ap =>
      if uadd off len > pdu.len.toNat then
        some (-1, [])
      else do
        let (res, copies) ← copiesAtVa pdu (uadd off len) fmt ap
        return (res, ⟨off, len, dst⟩ :: copies)

def copyAll (pdu : Pdu) : List Copy → Option (List Val)
  | [] => some []
  | c :: copies => do
    let val ← pdu.copyOut c.off c.len c.dst
    let vals ← copyAll pdu copies
    return val :: vals

/-- Making the recorded copies is what `read_pdu_at_va` does. -/
theorem readPduAtVa_eq_copies (pdu : Pdu) (off : Nat) (fmt : List Char) (ap : List Dst) :
    readPduAtVa pdu off fmt ap =
      (copiesAtVa pdu off fmt ap).bind fun r => (copyAll pdu r.2).map fun vals => (r.1, vals) := by
  induction fmt generalizing off ap with
  | nil => rfl
  | cons ch fmt ih =>
    rw [readPduAtVa, copiesAtVa]
    rcases harg : readArg ch ap with ⟨⟨dst, len⟩, ap'⟩ | _ | _
    · by_cases hcheck : uadd off len > pdu.len.toNat
      · simp [hcheck, copyAll]
      · simp only [hcheck, if_false, ih]
        rcases copiesAtVa pdu (uadd off len) fmt ap' with _ | ⟨res, copies⟩
        · rcases pdu.copyOut off len dst with _ | val <;> rfl
        · rcases hval : pdu.copyOut off len dst with _ | val <;>
            rcases hvals : copyAll pdu copies with _ | vals <;>
            simp [copyAll, hval, hvals]
    · rfl
    · rfl

theorem copiesAtVa_invalid {pdu : Pdu} {off : Nat} {ch : Char} {fmt : List Char} {ap : List Dst}
    (harg : readArg ch ap = .invalid) : copiesAtVa pdu off (ch :: fmt) ap = some (-1, []) := by
  rw [copiesAtVa, harg]

theorem copiesAtVa_refused {pdu : Pdu} {off len : Nat} {ch : Char} {fmt : List Char}
    {ap ap' : List Dst} {dst : Dst} (harg : readArg ch ap = .arg (dst, len) ap')
    (hcheck : uadd off len > pdu.len.toNat) :
    copiesAtVa pdu off (ch :: fmt) ap = some (-1, []) := by
  rw [copiesAtVa, harg]
  exact if_pos hcheck

theorem copiesAtVa_passed {pdu : Pdu} {off len : Nat} {ch : Char} {fmt : List Char}
    {ap ap' : List Dst} {dst : Dst} (harg : readArg ch ap = .arg (dst, len) ap')
    (hcheck : uadd off len ≤ pdu.len.toNat) :
    copiesAtVa pdu off (ch :: fmt) ap =
      (copiesAtVa pdu (uadd off len) fmt ap').map fun r => (r.1, ⟨off, len, dst⟩ :: r.2) := by
  rw [copiesAtVa, harg]
  simp only [if_neg (Nat.not_lt.mpr hcheck)]
  rcases copiesAtVa pdu (uadd off len) fmt ap' with _ | ⟨res, copies⟩ <;> rfl

/-! ## Sums that wrap -/

/-- No field that the loop reaches has an end beyond the range of `unsigned long`: the loop goes on
behind a field only when that field ends within the `len` bytes of the payload. -/
def NoWrap (len : Nat) : Nat → List Nat → Prop
  | _, [] => True
  | off, size :: sizes => off + size < ulongSize ∧ (off + size ≤ len → NoWrap len (off + size) sizes)

instance decidableNoWrap (len : Nat) : (off : Nat) → (sizes : List Nat) →
    Decidable (NoWrap len off sizes)
  | _, [] => inferInstanceAs (Decidable True)
  | off, size :: sizes =>
    have := decidableNoWrap len (off + size) sizes
    inferInstanceAs (Decidable (_ ∧ (_ → _)))

/-- What the bounds check is there for. A result that is not negative is the end of the fields of a
valid format, all of them copied from the payload. Where the fields do not fit, the result is -1
and the copies stop in front of the first field, the `k`-th, that does not fit. -/
structure CheckSound (pdu : Pdu) (off : Nat) (fmt : List Char) (ap : List Dst) : Prop where
  accepts : ∀ res copies, copiesAtVa pdu off fmt ap = some (res, copies) → 0 ≤ res →
    FormatValid fmt ∧ res = ((off + (fieldSizes fmt ap).sum : Nat) : Int) ∧
      off + (fieldSizes fmt ap).sum ≤ pdu.len.toNat ∧ ∀ c ∈ copies, c.Inside pdu off
  refuses : pdu.len.toNat < off + (fieldSizes fmt ap).sum →
    ∃ copies k, copiesAtVa pdu off fmt ap = some (-1, copies) ∧
      off + ((fieldSizes fmt ap).take k).sum ≤ pdu.len.toNat ∧
      pdu.len.toNat < off + ((fieldSizes fmt ap).take (k + 1)).sum ∧
      copies.map Copy.len = (fieldSizes fmt ap).take k

/-- **Fields that fit.** All of them are copied, and only an invalid character makes the result
negative. -/
theorem copiesAtVa_fits {pdu : Pdu} {off : Nat} {fmt : List Char} {ap : List Dst}
    (hargs : ArgsMatch fmt ap) (h : off + (fieldSizes fmt ap).sum ≤ pdu.len.toNat) :
    ∃ res copies, copiesAtVa pdu off fmt ap = some (res, copies) ∧
      (0 ≤ res → FormatValid fmt ∧ res = ((off + (fieldSizes fmt ap).sum : Nat) : Int)) ∧
      ∀ c ∈ copies, c.Inside pdu off := by
  have hlen := pdu.len_lt
  have hsize := ulongSize_ge
  induction fmt generalizing off ap with
  | nil =>
    refine ⟨toLong off, [], rfl, fun _ => ⟨by simp [FormatValid], ?_⟩, by simp⟩
    rw [fieldSizes, List.sum_nil] at h ⊢
    exact toLong_of_lt (by omega)
  | cons ch fmt ih =>
    rcases harg : readArg ch ap with ⟨⟨dst, len⟩, ap'⟩ | _ | _
    · rw [fieldSizes_cons harg, List.sum_cons, ← Nat.add_assoc] at h ⊢
      have hadd : uadd off len = off + len := uadd_of_lt (by omega)
      obtain ⟨res, copies, hcopies, hres, hinside⟩ := ih (argsMatch_cons harg hargs) h
      refine ⟨res, ⟨off, len, dst⟩ :: copies, ?_, fun hpos => ⟨?_, (hres hpos).2⟩, ?_⟩
      · rw [copiesAtVa_passed harg (by omega), hadd, hcopies]
        rfl
      · exact List.forall_mem_cons.mpr ⟨mem_formatChars harg, (hres hpos).1⟩
      · refine List.forall_mem_cons.mpr ⟨⟨le_rfl, by simp only; omega⟩, fun c hc => ?_⟩
        exact (hinside c hc).mono (Nat.le_add_right off len)
    · exact ⟨-1, [], copiesAtVa_invalid harg, by omega, by simp⟩
    · exact absurd hargs (not_argsMatch harg)

/-- **Fields that do not fit.** Without a sum that wraps, the copies stop in front of the first one
that does not. -/
theorem copiesAtVa_overflow {pdu : Pdu} {off : Nat} {fmt : List Char} {ap : List Dst}
    (hargs : ArgsMatch fmt ap) (hoff : off ≤ pdu.len.toNat)
    (hwrap : NoWrap pdu.len.toNat off (fieldSizes fmt ap))
    (h : pdu.len.toNat < off + (fieldSizes fmt ap).sum) :
    ∃ copies k, copiesAtVa pdu off fmt ap = some (-1, copies) ∧
      off + ((fieldSizes fmt ap).take k).sum ≤ pdu.len.toNat ∧
      pdu.len.toNat < off + ((fieldSizes fmt ap).take (k + 1)).sum ∧
      copies.map Copy.len = (fieldSizes fmt ap).take k := by
  induction fmt generalizing off ap with
  | nil =>
    rw [fieldSizes, List.sum_nil] at h
    omega
  | cons ch fmt ih =>
    rcases harg : readArg ch ap with ⟨⟨dst, len⟩, ap'⟩ | _ | _
    · rw [fieldSizes_cons harg] at h hwrap ⊢
      have hadd : uadd off len = off + len := uadd_of_lt hwrap.1
      by_cases hfit : off + len ≤ pdu.len.toNat
      · rw [List.sum_cons, ← Nat.add_assoc] at h
        obtain ⟨copies, k, hcopies, hbefore, hbehind, hlens⟩ :=
          ih (argsMatch_cons harg hargs) hfit (hwrap.2 hfit) h
        refine ⟨⟨off, len, dst⟩ :: copies, k + 1, ?_, ?_, ?_, ?_⟩
        · rw [copiesAtVa_passed harg (by omega), hadd, hcopies]
          rfl
        · rwa [List.take_succ_cons, List.sum_cons, ← Nat.add_assoc]
        · rwa [List.take_succ_cons, List.sum_cons, ← Nat.add_assoc]
        · rw [List.map_cons, hlens, List.take_succ_cons]
      · refine ⟨[], 0, copiesAtVa_refused harg (by omega), ?_, ?_, rfl⟩
        · simpa using hoff
        · simpa using hfit
    · rw [fieldSizes_invalid harg, List.sum_nil] at h
      omega
    · exact absurd hargs (not_argsMatch harg)

theorem noWrap_of_fits {len off : Nat} (sizes : List Nat) (hlen : len < ulongSize)
    (h : off + sizes.sum ≤ len) : NoWrap len off sizes := by
  induction sizes generalizing off with
  | nil => trivial
  | cons size sizes ih =>
    rw [List.sum_cons] at h
    exact ⟨by omega, fun _ => ih (by omega)⟩

/-- **A field whose end wraps is copied**: its wrapped end is below its start, so it passes the
check. -/
theorem copied_of_wrap {pdu : Pdu} {off : Nat} {fmt : List Char} {ap : List Dst} {res : Int}
    {copies : List Copy} {k : Nat} (hoff : off ≤ pdu.len.toNat)
    (hsizes : ∀ size ∈ fieldSizes fmt ap, size < ulongSize)
    (hwrap : ¬ NoWrap pdu.len.toNat off (fieldSizes fmt ap))
    (hcopies : copiesAtVa pdu off fmt ap = some (res, copies))
    (hbefore : off + ((fieldSizes fmt ap).take k).sum ≤ pdu.len.toNat)
    (hbehind : pdu.len.toNat < off + ((fieldSizes fmt ap).take (k + 1)).sum) :
    k < copies.length := by
  have hlen := pdu.len_lt
  have hsize := ulongSize_ge
  induction fmt generalizing off ap copies k with
  | nil => exact absurd trivial hwrap
  | cons ch fmt ih =>
    rcases harg : readArg ch ap with ⟨⟨dst, len⟩, ap'⟩ | _ | _
    · rw [fieldSizes_cons harg] at hsizes hwrap hbefore hbehind
      obtain ⟨hlong, hsizes⟩ := List.forall_mem_cons.mp hsizes
      have hpass : uadd off len ≤ pdu.len.toNat := by
        by_cases hsum : off + len < ulongSize
        · rw [uadd_of_lt hsum]
          by_contra hfit
          exact hwrap ⟨hsum, fun h => absurd h hfit⟩
        · have := uadd_lt_of_wrap (by omega) hlong (Nat.le_of_not_lt hsum)
          omega
      rw [copiesAtVa_passed harg hpass] at hcopies
      obtain ⟨⟨res', copies'⟩, hrest, hcopies⟩ := Option.map_eq_some_iff.mp hcopies
      cases hcopies
      cases k with
      | zero => simp
      | succ k =>
        -- the field itself fits, so the one that wraps is behind it
        rw [List.take_succ_cons, List.sum_cons, ← Nat.add_assoc] at hbefore hbehind
        have hadd : uadd off len = off + len := uadd_of_lt (by omega)
        rw [hadd] at hrest
        have := ih (by omega) hsizes
          (fun h => hwrap ⟨by omega, fun _ => h⟩) hrest hbefore hbehind
        simpa using this
    · rw [fieldSizes_invalid harg] at hwrap
      exact absurd trivial hwrap
    · rw [copiesAtVa, harg] at hcopies
      cases hcopies

/-- **The bounds check is sound exactly where no sum wraps.** For an offset within the payload and
arguments of the types of the format, the check does what it is there for if and only if no field
that the loop reaches has an end beyond the range of `unsigned long`. -/
theorem checkSound_iff (pdu : Pdu) (off : Nat) (fmt : List Char) (ap : List Dst)
    (hoff : off ≤ pdu.len.toNat) (hargs : ArgsMatch fmt ap)
    (hsizes : ∀ size ∈ fieldSizes fmt ap, size < ulongSize) :
    CheckSound pdu off fmt ap ↔ NoWrap pdu.len.toNat off (fieldSizes fmt ap) := by
  have hlen := pdu.len_lt
  have hsize := ulongSize_ge
  constructor
  · intro h
    by_contra hwrap
    have hlong : pdu.len.toNat < off + (fieldSizes fmt ap).sum := by
      by_contra hfit
      exact hwrap (noWrap_of_fits _ (by omega) (by omega))
    obtain ⟨copies, k, hcopies, hbefore, hbehind, hlens⟩ := h.refuses hlong
    have hcopied := copied_of_wrap hoff hsizes hwrap hcopies hbefore hbehind
    have hcount := congrArg List.length hlens
    rw [List.length_map, List.length_take] at hcount
    omega
  · intro hwrap
    refine ⟨fun res copies hcopies hres => ?_, copiesAtVa_overflow hargs hoff hwrap⟩
    by_cases hfit : off + (fieldSizes fmt ap).sum ≤ pdu.len.toNat
    · obtain ⟨res', copies', hcopies', hres', hinside⟩ := copiesAtVa_fits hargs hfit
      rw [hcopies] at hcopies'
      cases hcopies'
      exact ⟨(hres' hres).1, (hres' hres).2, hfit, hinside⟩
    · obtain ⟨copies', k, hcopies', -⟩ :=
        copiesAtVa_overflow hargs hoff hwrap (Nat.lt_of_not_le hfit)
      rw [hcopies] at hcopies'
      cases hcopies'
      omega

end checks

theorem checkSound_iff_block :
    let pdu : Pdu := ⟨2, 1, 4, [7, 1, 2, 3], by decide⟩
    @CheckSound lp64 pdu 0 ['C', 'm'] [.C, .m 8 3] ∧
      ¬ @CheckSound lp64 pdu 0 ['C', 'm'] [.C, .m 8 (2 ^ 64 - 1)] := by
  intro pdu
  constructor
  · exact (@checkSound_iff lp64 pdu 0 ['C', 'm'] [.C, .m 8 3] (by decide) trivial
      (by decide)).mpr (by decide)
  · intro h
    have hwrap := (@checkSound_iff lp64 pdu 0 ['C', 'm'] [.C, .m 8 (2 ^ 64 - 1)] (by decide)
      trivial (by decide)).mp h
    revert hwrap
    decide

/-- A block of `2^64-1` bytes behind one byte passes the check, and is copied from a payload of one
byte. -/
theorem wrapped_block_copied :
    ¬ ∀ (pdu : Pdu) (off : Nat) (fmt : List Char) (ap : List Dst), off ≤ pdu.len.toNat →
      ArgsMatch fmt ap → (∀ size ∈ fieldSizes fmt ap, size < @ulongSize lp64) →
        @CheckSound lp64 pdu off fmt ap := by
  intro h
  obtain ⟨accepts, -⟩ := h ⟨2, 1, 1, [7], by decide⟩ 0 ['C', 'm'] [.C, .m 16 (2 ^ 64 - 1)]
    (by decide) trivial (by decide)
  obtain ⟨-, -, hfit, -⟩ := accepts 0 [⟨0, 1, .C⟩, ⟨1, 2 ^ 64 - 1, .m 16 (2 ^ 64 - 1)⟩]
    (by decide) le_rfl
  revert hfit
  decide

end Bluetoothd
