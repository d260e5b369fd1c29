import Bluetoothd.Proto.Codec

/-!
# Where encoder and decoder agree (`bt-proto.c`)

`write_pdu_at_va` fetches its arguments from the list as `read_pdu_at_va` does. For the readers these
are pointers; a value of 8 or 16 bits arrives as an `int`, so that `va_arg(ap, uint8_t)` fetches what
no caller can have passed. Both loops test `off+len > pdu->len` in an `unsigned long`: a sum that
wraps around passes, and the copy starts in the header.
-/

namespace Bluetoothd

open Platform Buffer

section codec

variable [Platform]

/-- No field that a write gets to, up to the first one that the bounds test refuses, has one of the
letters `c C s S`, and none that the test lets pass has a sum of offset and length that wraps
around. -/
def Defined (len : Nat) : Nat → List Dst → Prop
  | _, [] => True
  | off, d :: dsts => ¬ d.Narrow ∧
    (len < uadd off d.size ∨ off + d.size < ulongSize ∧ Defined len (off + d.size) dsts)

instance decidableDefined (len : Nat) : ∀ off dsts, Decidable (Defined len off dsts)
  | _, [] => .isTrue trivial
  | off, d :: dsts =>
    have := decidableDefined len (off + d.size) dsts
    inferInstanceAs (Decidable (_ ∧ (_ ∨ _ ∧ _)))

theorem Defined.wide {len off : Nat} {dsts : List Dst} (h : Defined len off dsts)
    (hfits : off + total dsts ≤ len) : ∀ d ∈ dsts, ¬ d.Narrow := by
  induction dsts generalizing off with
  | nil => simp
  | cons d dsts ih =>
    obtain ⟨hwide, hrest⟩ := h
    rw [total_cons] at hfits
    refine List.forall_mem_cons.mpr ⟨hwide, ?_⟩
    rcases hrest with hover | ⟨-, hrest⟩
    · have hle : uadd off d.size ≤ off + d.size := Nat.mod_le _ _
      omega
    · exact ih hrest (by omega)

/-- From an offset that is not in the header, a write that is defined keeps to its range, and no
other one has a meaning. -/
theorem writePduAtVa_defined (args : List Val) {pdu : Pdu} {off : Nat} (hoff : ¬ InHeader off) :
    (Defined pdu.len.toNat off (args.map Val.dst) → ∃ res pdu',
      writePduAtVa pdu off (args.map Val.fmt) args = some (res, pdu') ∧
        pdu.Frame off pdu.len.toNat pdu') ∧
    (¬ Defined pdu.len.toNat off (args.map Val.dst) →
      writePduAtVa pdu off (args.map Val.fmt) args = none) := by
  induction args generalizing pdu off with
  | nil => exact ⟨fun _ => ⟨_, _, rfl, Pdu.Frame.refl _ _ _⟩, fun h => absurd trivial h⟩
  | cons v args ih =>
    rw [List.map_cons, List.map_cons, writePduAtVa, Defined, Val.size_dst]
    by_cases hnarrow : v.dst.Narrow
    · rw [writeArg_narrow hnarrow]
      exact ⟨fun h => absurd hnarrow h.1, fun _ => rfl⟩
    rw [writeArg_fmt hnarrow, and_iff_right hnarrow]
    dsimp only
    by_cases hover : uadd off v.bytes.length > pdu.len.toNat
    · rw [if_pos hover]
      exact ⟨fun _ => ⟨_, _, rfl, Pdu.Frame.refl _ _ _⟩, fun h => absurd (.inl hover) h⟩
    rw [if_neg hover, or_iff_right hover]
    by_cases hwrap : off + v.bytes.length < ulongSize
    · rw [and_iff_right hwrap]
      rw [uadd_of_lt hwrap] at hover ⊢
      obtain ⟨q, hq, -, hframe⟩ := Pdu.copyIn_of_inStorage (Pdu.inStorage_of_le (Nat.le_of_not_gt hover))
      have hnext : off + v.bytes.length ≤ q.len.toNat := by
        rw [hframe.len]
        exact Nat.le_of_not_gt hover
      obtain ⟨hsome, hnone⟩ := ih (q.not_inHeader hnext)
      rw [hframe.len] at hsome hnone
      rw [hq]
      refine ⟨fun hdefined => ?_, hnone⟩
      obtain ⟨res, r, hr, hrest⟩ := hsome hdefined
      exact ⟨res, r, hr, (hframe.mono le_rfl (Nat.le_of_not_gt hover)).trans
        (hrest.mono (Nat.le_add_right _ _) le_rfl)⟩
    · have hcopy : pdu.copyIn off v.bytes = none :=
        Pdu.copyIn_eq_none hoff fun hin => hwrap hin.2
      rw [hcopy]
      exact ⟨fun h => absurd h.1 hwrap, fun _ => rfl⟩

theorem writePduAtVa_frame {args : List Val} {pdu pdu' : Pdu} {off : Nat} {res : Int}
    (hoff : ¬ InHeader off) (hwrite : writePduAtVa pdu off (args.map Val.fmt) args = some (res, pdu')) :
    pdu.Frame off pdu.len.toNat pdu' := by
  obtain ⟨hsome, hnone⟩ := @writePduAtVa_defined _ args pdu off hoff
  by_cases hdefined : Defined pdu.len.toNat off (args.map Val.dst)
  · obtain ⟨res', r, hr, hframe⟩ := hsome hdefined
    cases hr.symm.trans hwrite
    exact hframe
  · cases (hnone hdefined).symm.trans hwrite

/-- From an offset in the header, a write that is defined stores nothing: the bounds test refuses
its first field. -/
theorem writePduAtVa_defined_inHeader (args : List Val) {pdu : Pdu} {off : Nat} (hoff : InHeader off)
    (hdefined : Defined pdu.len.toNat off (args.map Val.dst)) :
    ∃ res, writePduAtVa pdu off (args.map Val.fmt) args = some (res, pdu) := by
  cases args with
  | nil => exact ⟨_, rfl⟩
  | cons v args =>
    rw [List.map_cons, Defined, Val.size_dst] at hdefined
    obtain ⟨hwide, hrest⟩ := hdefined
    have hover : uadd off v.bytes.length > pdu.len.toNat := by
      rcases hrest with hover | ⟨hwrap, -⟩
      · exact hover
      · have hlen := pdu.len_lt
        have hsize := ulongSize_ge
        have hlow := hoff.1
        rw [sizeofPdu] at hlow
        rw [uadd_of_lt hwrap]
        omega
    rw [List.map_cons, writePduAtVa, writeArg_fmt hwide]
    dsimp only
    rw [if_pos hover]
    exact ⟨_, rfl⟩

/-! ## Writing over the header -/

theorem Pdu.length_bytes (pdu : Pdu) : pdu.bytes.length = sizeofPdu + pdu.data.length := by
  rw [Pdu.bytes, List.length_append, Pdu.length_header]

theorem Pdu.bytes_three (pdu : Pdu) : pdu.bytes[3]? = some (pdu.bytes.getD 3 0) := by
  have hlong : 3 < pdu.bytes.length := by
    rw [Pdu.length_bytes, sizeofPdu]
    omega
  rw [List.getD_eq_getElem?_getD, List.getElem?_eq_getElem hlong, Option.getD_some]

theorem Pdu.bytes_ofBytes {bs : List UInt8} {pdu : Pdu} (h : Pdu.ofBytes bs = some pdu) :
    pdu.bytes = bs := by
  unfold Pdu.ofBytes at h
  split at h
  case h_2 => cases h
  case h_1 service opcode lo hi data =>
    split at h
    case isFalse => cases h
    case isTrue hfits =>
      cases h
      have hlt : hostInt [lo, hi] < 2 ^ 16 := hostInt_lt (w := 2) rfl
      have hlen : byteOrder.encode 2 (UInt16.ofNat (hostInt [lo, hi])).toNat = [lo, hi] := by
        rw [UInt16.toNat_ofNat', Nat.mod_eq_of_lt hlt]
        exact hostBytes_hostInt (w := 2) rfl
      unfold Pdu.bytes Pdu.header
      rw [hlen]
      rfl

theorem Pdu.Frame.header {lo hi : Nat} {p q : Pdu} (h : p.Frame lo hi q) :
    q.bytes.take sizeofPdu = p.bytes.take sizeofPdu := by
  unfold Pdu.bytes
  rw [List.take_left' (Pdu.length_header _ _ _), List.take_left' (Pdu.length_header _ _ _), h.service,
    h.opcode, h.len]

/-- The last byte of the header is one that a sum which wraps around writes over. -/
theorem Pdu.copyIn_inHeader {pdu pdu' : Pdu} {off : Nat} {src : List UInt8} (hoff : InHeader off)
    (hwrap : ulongSize ≤ off + src.length) (h : pdu.copyIn off src = some pdu') :
    pdu'.bytes[3]? = src[ulongSize - 1 - off]? := by
  have hsize := ulongSize_ge
  obtain ⟨hlow, hhigh⟩ := hoff
  rw [sizeofPdu] at hlow
  unfold Pdu.copyIn at h
  rw [dif_neg fun hin => absurd hin.2 (Nat.not_lt.mpr hwrap)] at h
  split at h
  case isFalse => cases h
  case isTrue hroom =>
    rw [Pdu.bytes_ofBytes h]
    have hstart : off + sizeofPdu - ulongSize ≤ pdu.bytes.length := le_trans (Nat.le_add_right _ _) hroom.2
    have hthree : 3 = off + sizeofPdu - ulongSize + (ulongSize - 1 - off) := by
      rw [sizeofPdu]
      omega
    rw [hthree, ← List.getElem?_drop, drop_overwrite_self hstart, List.getElem?_append_left (by omega)]

/-- A write that does not fit below `pdu->len` in a range that wraps around: some values of these
types and lengths are not written without a trace in the header. -/
theorem exists_not_frame (args : List Val) {pdu : Pdu} {off : Nat} (hoff : InHeader off)
    (hdefined : ¬ Defined pdu.len.toNat off (args.map Val.dst)) :
    ∃ args' : List Val, args'.map Val.dst = args.map Val.dst ∧ ∀ res pdu',
      writePduAtVa pdu off (args'.map Val.fmt) args' = some (res, pdu') →
        ¬ pdu.Frame off pdu.len.toNat pdu' := by
  cases args with
  | nil => exact absurd trivial hdefined
  | cons v args =>
    rw [List.map_cons, Defined, Val.size_dst] at hdefined
    by_cases hnarrow : v.dst.Narrow
    · refine ⟨v :: args, rfl, fun res pdu' hwrite => ?_⟩
      rw [List.map_cons, writePduAtVa, writeArg_narrow hnarrow] at hwrite
      cases hwrite
    rw [and_iff_right hnarrow, not_or] at hdefined
    obtain ⟨hcheck, hwrap⟩ := hdefined
    have hlen := pdu.len_lt
    have hsize := ulongSize_ge
    obtain ⟨hlow, hhigh⟩ := hoff
    have hlow' := hlow
    rw [sizeofPdu] at hlow'
    -- a sum that did not wrap around would not have passed the test
    have hover : ulongSize ≤ off + v.bytes.length := by
      by_contra hlt
      rw [uadd_of_lt (Nat.not_le.mp hlt)] at hcheck
      omega
    -- the value whose byte for the last place of the header is another one than is there
    let bytes := v.bytes.set (ulongSize - 1 - off) (pdu.bytes.getD 3 0 + 1)
    have hlength : bytes.length = v.bytes.length := List.length_set
    have hbytes : bytes.length = v.dst.size := hlength.trans v.size_dst.symm
    have hwide : ¬ (v.dst.value bytes).dst.Narrow := by rwa [v.dst_value hbytes]
    refine ⟨v.dst.value bytes :: args, ?_, fun res pdu' hwrite hframe => ?_⟩
    · rw [List.map_cons, List.map_cons, v.dst_value hbytes]
    rw [List.map_cons, writePduAtVa, writeArg_fmt hwide, Dst.bytes_value hbytes] at hwrite
    dsimp only at hwrite
    rw [hlength, if_neg hcheck] at hwrite
    obtain ⟨q, hq, hrest⟩ := Option.bind_eq_some_iff.mp hwrite
    have hlast : q.bytes[3]? = some (pdu.bytes.getD 3 0 + 1) := by
      rw [Pdu.copyIn_inHeader ⟨hlow, hhigh⟩ (hlength.symm ▸ hover) hq]
      exact List.getElem?_set_self (by omega)
    -- what is written behind it leaves the header alone
    have hlater := writePduAtVa_frame (pdu.not_inHeader (Nat.le_of_not_gt hcheck)) hrest
    have hsame := congrArg (fun bs => bs[3]?) (hlater.header.symm.trans hframe.header)
    simp only [List.getElem?_take_of_lt (show 3 < sizeofPdu by decide), hlast, pdu.bytes_three,
      Option.some.injEq] at hsame
    exact absurd hsame (by simp)

/-! ## Round trips -/

theorem writePduAtVa_of_read {fmt : List Char} {dsts : List Dst} {pdu : Pdu} {off : Nat} {res : Int}
    {vals : List Val} (hread : readPduAtVa pdu off fmt dsts = some (res, vals)) (hres : 0 ≤ res)
    (hdefined : Defined pdu.len.toNat off (vals.map Val.dst)) :
    writePduAtVa pdu off fmt vals = some (res, pdu) := by
  induction fmt generalizing dsts off vals with
  | nil =>
    cases hread
    rfl
  | cons ch fmt ih =>
    rw [readPduAtVa] at hread
    split at hread
    case h_1 =>
      cases hread
      omega
    case h_2 => cases hread
    case h_3 d len ap harg =>
      obtain ⟨-, rfl, rfl⟩ := readArg_eq_arg harg
      split at hread
      case isTrue =>
        cases hread
        omega
      case isFalse hcheck =>
        obtain ⟨v, hv, hread⟩ := Option.bind_eq_some_iff.mp hread
        obtain ⟨⟨res', vals'⟩, hrec, hread⟩ := Option.bind_eq_some_iff.mp hread
        cases hread
        obtain ⟨hin, rfl⟩ := Pdu.copyOut_eq_some hv
        have hslice : (slice pdu.data off d.size).length = d.size := length_slice hin.1
        have hsame : pdu.copyIn off (slice pdu.data off d.size) = some pdu := by
          rw [Pdu.copyIn, dif_pos (by rw [hslice]; exact hin)]
          congr 1
          ext1 <;> try rfl
          exact overwrite_slice hin.1
        rw [List.map_cons, Defined, Val.size_dst, Dst.bytes_value hslice, hslice, hin.uadd_eq] at hdefined
        obtain ⟨hwide, hover | ⟨-, hrest⟩⟩ := hdefined
        · rw [hin.uadd_eq] at hcheck
          exact absurd hover hcheck
        rw [← Dst.fmt_value d (slice pdu.data off d.size), writePduAtVa, writeArg_fmt hwide,
          Dst.bytes_value hslice]
        simp only [hslice]
        rw [if_neg hcheck, hsame]
        rw [← hin.uadd_eq] at hrest
        exact ih hrec hrest

/-- The calls whose arguments have these types and lengths, with any values, are decoded and encoded
alike: where the fields fit below `pdu->len`, a write returns the offset behind them, changes nothing
outside of them, and a read with the same format and block lengths returns the same offset and the
written values; writing back the values of a successful read leaves the PDU as it is; and every write
returns, and leaves the header, the bytes before `off` and the bytes at and after `pdu->len` as they
are, in particular where it fails. -/
structure CodecAgrees (pdu : Pdu) (off : Nat) (args : List Val) : Prop where
  roundTrip : ∀ args' : List Val, args'.map Val.dst = args.map Val.dst →
    off + (encode args').length ≤ pdu.len.toNat → ∃ pdu',
      writePduAtVa pdu off (args'.map Val.fmt) args'
        = some (((off + (encode args').length : Nat) : Int), pdu') ∧
      pdu.Frame off (off + (encode args').length) pdu' ∧
      readPduAtVa pdu' off (args'.map Val.fmt) (args'.map Val.dst)
        = some (((off + (encode args').length : Nat) : Int), args')
  writeBack : ∀ (fmt : List Char) (dsts : List Dst) (res : Int) (vals : List Val),
    readPduAtVa pdu off fmt dsts = some (res, vals) → 0 ≤ res →
      vals.map Val.dst = args.map Val.dst → writePduAtVa pdu off fmt vals = some (res, pdu)
  keeps : ∀ args' : List Val, args'.map Val.dst = args.map Val.dst → ∃ res pdu',
    writePduAtVa pdu off (args'.map Val.fmt) args' = some (res, pdu') ∧
      pdu.Frame off pdu.len.toNat pdu'

theorem exists_roundTrip {pdu : Pdu} {off : Nat} {args : List Val}
    (hwide : ∀ v ∈ args, ¬ v.dst.Narrow) (hfit : off + (encode args).length ≤ pdu.len.toNat) :
    ∃ pdu', writePduAtVa pdu off (args.map Val.fmt) args
        = some (((off + (encode args).length : Nat) : Int), pdu') ∧
      pdu.Frame off (off + (encode args).length) pdu' ∧
      readPduAtVa pdu' off (args.map Val.fmt) (args.map Val.dst)
        = some (((off + (encode args).length : Nat) : Int), args) := by
  obtain ⟨pdu', hw, hdata, hframe⟩ := writePduAtVa_fits args hwide hfit
  have hoff : off ≤ pdu.data.length := by
    have := pdu.fits
    omega
  have hfit' : off + total (args.map Val.dst) ≤ pdu'.len.toNat := by
    rw [total_dst, hframe.len]
    exact hfit
  have hroom : ∀ d ∈ args.map Val.dst, d.HasRoom := by
    intro d hd
    obtain ⟨v, -, rfl⟩ := List.mem_map.mp hd
    exact v.hasRoom_dst
  have hread := readPduAtVa_fits (args.map Val.dst) hroom hfit'
  rw [List.map_map, show Dst.fmt ∘ Val.dst = Val.fmt from funext Val.fmt_dst, total_dst, hdata,
    slice_overwrite_self hoff, unpack_encode] at hread
  exact ⟨pdu', hw, hframe, hread⟩

/-- **Where encoder and decoder agree.** For every PDU and offset and all types and lengths of
arguments, the two loops agree if and only if, up to the first field that the bounds test refuses,
there is none of `c C s S` and no sum of offset and length that passes the test wraps around. -/
theorem codecAgrees_iff (pdu : Pdu) (off : Nat) (args : List Val) :
    CodecAgrees pdu off args ↔ Defined pdu.len.toNat off (args.map Val.dst) := by
  constructor
  · intro h
    by_contra hdefined
    by_cases hoff : InHeader off
    · obtain ⟨args', hshape, htrace⟩ := exists_not_frame args hoff hdefined
      obtain ⟨res, pdu', hwrite, hframe⟩ := h.keeps args' hshape
      exact htrace res pdu' hwrite hframe
    · obtain ⟨res, pdu', hwrite, -⟩ := h.keeps args rfl
      rw [(writePduAtVa_defined args hoff).2 hdefined] at hwrite
      cases hwrite
  · intro hdefined
    refine ⟨?_, ?_, ?_⟩
    · intro args' hshape hfit
      rw [← hshape] at hdefined
      refine exists_roundTrip (fun v hv => ?_) hfit
      exact hdefined.wide (by rwa [total_dst]) v.dst (List.mem_map_of_mem hv)
    · intro fmt dsts res vals hread hres hshape
      exact writePduAtVa_of_read hread hres (hshape ▸ hdefined)
    · intro args' hshape
      rw [← hshape] at hdefined
      by_cases hoff : InHeader off
      · obtain ⟨res, hwrite⟩ := writePduAtVa_defined_inHeader args' hoff hdefined
        exact ⟨res, pdu, hwrite, Pdu.Frame.refl _ _ _⟩
      · exact (writePduAtVa_defined args' hoff).1 hdefined

end codec

/-- A byte that fits in the payload, and two fields whose first one is put over the header: the write
fails at the second one, with a length of 3 in place of 4. -/
theorem write_not_codecAgrees :
    ¬ @CodecAgrees lp64 ⟨serviceBtCore, 0x05, 1, [0], Nat.le_refl 1⟩ 0 [.C 6] ∧
    let pdu : Pdu := ⟨serviceBtCore, 0x05, 4, [9, 9, 9, 9], Nat.le_refl 4⟩
    @writePduAtVa lp64 pdu (2 ^ 64 - 2) ['I', 'L'] [.I 0x07070003, .L 0]
        = some (-1, ⟨serviceBtCore, 0x05, 3, [7, 7, 9, 9], by decide⟩) ∧
      ¬ @CodecAgrees lp64 pdu (2 ^ 64 - 2) [.I 0x07070003, .L 0] := by
  refine ⟨?_, ?_, ?_⟩
  · intro h
    obtain ⟨hround, -, -⟩ := h
    obtain ⟨pdu', hwrite, -⟩ := hround [.C 6] rfl (by decide)
    cases hwrite
  · decide
  · intro h
    obtain ⟨-, -, hkeeps⟩ := h
    obtain ⟨res, pdu', hwrite, hframe⟩ := hkeeps [.I 0x07070003, .L 0] rfl
    cases hwrite
    exact absurd hframe.len (by decide)

end Bluetoothd
