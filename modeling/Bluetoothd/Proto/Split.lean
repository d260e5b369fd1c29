import Bluetoothd.Proto.Codec

/-!
# Formats in parts

The handlers read a PDU in several calls, each from the offset that the one before returned, and the
callbacks append their fields in several calls. `format_split` says that this is what one call with the
whole format does, in every case: the fields are the same, so are the errors, and a write that fails
halfway leaves the same bytes behind.
-/

namespace Bluetoothd

open Platform Buffer

section split

variable [Platform] {pdu : Pdu} {off : Nat}

/-- A read from where the last one ended, unless that has failed. -/
def thenRead (pdu : Pdu) (fmt : List Char) (dsts : List Dst) (r : Int × List Val) :
    Option (Int × List Val) :=
  if r.1 < 0 then some r
  else (readPduAtVa pdu r.1.toNat fmt dsts).map fun r' => (r'.1, r.2 ++ r'.2)

/-- A write to where the last one ended, unless that has failed. -/
def thenWrite (fmt : List Char) (args : List Val) (r : Int × Pdu) : Option (Int × Pdu) :=
  if r.1 < 0 then some r else writePduAtVa r.2 r.1.toNat fmt args

theorem toLong_off (hoff : off ≤ pdu.len.toNat) : toLong off = (off : Int) := by
  have hlen := pdu.len_lt
  exact toLong_of_lt (by omega)

theorem writeArg_tail {ch : Char} {ap ap' : List Val} {src : List UInt8}
    (h : writeArg ch ap = .arg src ap') : ap' = ap.tail := by
  unfold writeArg at h
  split at h
  case h_6 => split at h <;> cases h
  all_goals
    cases h
    rfl

theorem thenRead_cons (fmt : List Char) (dsts : List Dst) (val : Val) (r : Int × List Val) :
    thenRead pdu fmt dsts (r.1, val :: r.2)
      = (thenRead pdu fmt dsts r).map fun r' => (r'.1, val :: r'.2) := by
  unfold thenRead
  by_cases hres : r.1 < 0
  · rw [if_pos hres, if_pos hres, Option.map_some]
  · rw [if_neg hres, if_neg hres, Option.map_map]
    rfl

theorem readPduAtVa_split (hoff : off ≤ pdu.len.toNat) (fmt fmt' : List Char) (dsts : List Dst) :
    readPduAtVa pdu off (fmt ++ fmt') dsts
      = (readPduAtVa pdu off fmt dsts).bind (thenRead pdu fmt' (dsts.drop fmt.length)) := by
  induction fmt generalizing off dsts with
  | nil =>
    have hnonneg : ¬ (off : Int) < 0 := by omega
    rw [readPduAtVa, toLong_off hoff, Option.bind_some, thenRead, if_neg hnonneg]
    simp
  | cons ch fmt ih =>
    rw [List.cons_append, readPduAtVa, readPduAtVa]
    rcases harg : readArg ch dsts with ⟨⟨dst, len⟩, ap⟩ | _ | _
    · dsimp only
      obtain ⟨rfl, -, -⟩ := readArg_eq_arg harg
      by_cases hover : uadd off len > pdu.len.toNat
      · rw [if_pos hover, if_pos hover]
        rfl
      rw [if_neg hover, if_neg hover]
      cases pdu.copyOut off len dst with
      | none => rfl
      | some val =>
        have hrest := ih (Nat.le_of_not_gt hover) ap
        simp only [Option.bind_eq_bind, Option.bind_some, Option.pure_def]
        rw [hrest, Option.bind_assoc, Option.bind_assoc]
        refine congrArg _ (funext fun r => ?_)
        have hcons : thenRead pdu fmt' (ap.drop fmt.length) (r.1, val :: r.2) = _ :=
          thenRead_cons fmt' (ap.drop fmt.length) val r
        rw [Option.bind_some]
        show _ = thenRead pdu fmt' (ap.drop fmt.length) (r.1, val :: r.2)
        rw [hcons]
        cases thenRead pdu fmt' (ap.drop fmt.length) r <;> rfl
    · rfl
    · rfl

theorem writePduAtVa_split (hoff : off ≤ pdu.len.toNat) (fmt fmt' : List Char) (args : List Val) :
    writePduAtVa pdu off (fmt ++ fmt') args
      = (writePduAtVa pdu off fmt args).bind (thenWrite fmt' (args.drop fmt.length)) := by
  induction fmt generalizing pdu off args with
  | nil =>
    have hnonneg : ¬ (off : Int) < 0 := by omega
    rw [writePduAtVa, toLong_off hoff, Option.bind_some, thenWrite, if_neg hnonneg]
    rfl
  | cons ch fmt ih =>
    rw [List.cons_append, writePduAtVa, writePduAtVa]
    rcases harg : writeArg ch args with ⟨src, ap⟩ | _ | _
    · dsimp only
      by_cases hover : uadd off src.length > pdu.len.toNat
      · rw [if_pos hover, if_pos hover]
        rfl
      rw [if_neg hover, if_neg hover]
      rcases hcopy : pdu.copyIn off src with _ | pdu'
      · rfl
      · have hlen := Pdu.len_of_copyIn hoff hcopy
        have hle : uadd off src.length ≤ pdu'.len.toNat := by
          rw [hlen]
          exact Nat.le_of_not_gt hover
        have hrest := ih hle ap
        rw [writeArg_tail harg, ← List.drop_one, List.drop_drop, Nat.add_comm] at hrest
        rw [writeArg_tail harg, ← List.drop_one]
        exact hrest
    · rfl
    · rfl

/-- **A format may be split anywhere.** Reading or writing with a format from an offset in the PDU is
doing so with the first part of it and then, from the offset that is returned, with the second. -/
theorem format_split (hoff : off ≤ pdu.len.toNat) (fmt fmt' : List Char) :
    (∀ dsts, readPduAtVa pdu off (fmt ++ fmt') dsts
      = (readPduAtVa pdu off fmt dsts).bind (thenRead pdu fmt' (dsts.drop fmt.length))) ∧
    ∀ args, writePduAtVa pdu off (fmt ++ fmt') args
      = (writePduAtVa pdu off fmt args).bind (thenWrite fmt' (args.drop fmt.length)) :=
  ⟨readPduAtVa_split hoff fmt fmt', writePduAtVa_split hoff fmt fmt'⟩

end split

/-- A byte and a block are read in two calls; the second one goes past the end of the payload. -/
theorem format_split_block :
    let pdu : Pdu := ⟨serviceBtCore, 0x05, 3, [7, 8, 9], Nat.le_refl 3⟩
    @readPduAtVa lp64 pdu 0 ['C', 'm'] [.C, .m 6 6] = some (-1, [.C 7]) ∧
      @readPduAtVa lp64 pdu 0 ['C', 'm'] [.C, .m 6 6]
        = (@readPduAtVa lp64 pdu 0 ['C'] [.C, .m 6 6]).bind (@thenRead lp64 pdu ['m'] [.m 6 6]) := by
  intro pdu
  obtain ⟨hread, -⟩ := @format_split lp64 pdu 0 (Nat.zero_le _) ['C'] ['m']
  exact ⟨rfl, hread [.C, .m 6 6]⟩

end Bluetoothd
