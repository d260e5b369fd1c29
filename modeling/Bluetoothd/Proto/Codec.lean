import Bluetoothd.Proto.Format

/-!
# What the encoder and the decoder do

The two `switch` tables of `bt-proto.c` are written separately. `Val.bytes` and `Dst.value` say
what each of them does to one field; `encode` and `unpack` say what the two loops do to a list of
fields. While the fields fit below `pdu->len`, `write_pdu_at_va` overwrites the range of the
fields with their encoding (`writePduAtVa_fits`) and `read_pdu_at_va` unpacks that range
(`readPduAtVa_fits`).
-/

namespace Bluetoothd

open Platform Buffer

/-! ## Frames -/

/-- `pdu'` is `pdu` with other bytes in `[lo, hi)` of its storage at most. -/
structure Pdu.Frame (lo hi : Nat) (pdu pdu' : Pdu) : Prop where
  service : pdu'.service = pdu.service
  opcode : pdu'.opcode = pdu.opcode
  len : pdu'.len = pdu.len
  storage : pdu'.data.length = pdu.data.length
  before : pdu'.data.take lo = pdu.data.take lo
  after : pdu'.data.drop hi = pdu.data.drop hi

theorem Pdu.Frame.refl (lo hi : Nat) (pdu : Pdu) : pdu.Frame lo hi pdu :=
  ⟨rfl, rfl, rfl, rfl, rfl, rfl⟩

theorem Pdu.Frame.trans {lo hi : Nat} {p q r : Pdu} (h : p.Frame lo hi q) (h' : q.Frame lo hi r) :
    p.Frame lo hi r where
  service := h'.service.trans h.service
  opcode := h'.opcode.trans h.opcode
  len := h'.len.trans h.len
  storage := h'.storage.trans h.storage
  before := h'.before.trans h.before
  after := h'.after.trans h.after

theorem Pdu.Frame.mono {lo lo' hi hi' : Nat} {p q : Pdu} (hlo : lo' ≤ lo) (hhi : hi ≤ hi')
    (h : p.Frame lo hi q) : p.Frame lo' hi' q where
  service := h.service
  opcode := h.opcode
  len := h.len
  storage := h.storage
  before := by
    have := congrArg (List.take lo') h.before
    rwa [List.take_take, List.take_take, min_eq_left hlo] at this
  after := by
    have := congrArg (List.drop (hi' - hi)) h.after
    rwa [List.drop_drop, List.drop_drop, Nat.add_sub_cancel' hhi] at this

/-! ## One field -/

def Val.fmt : Val → Char
  | .c _ => 'c' | .C _ => 'C' | .s _ => 's' | .S _ => 'S' | .i _ => 'i' | .I _ => 'I'
  | .l _ => 'l' | .L _ => 'L' | .m _ => 'm'

def Dst.fmt : Dst → Char
  | .c => 'c' | .C => 'C' | .s => 's' | .S => 'S' | .i => 'i' | .I => 'I' | .l => 'l' | .L => 'L'
  | .m _ _ => 'm'

def Dst.size : Dst → Nat
  | .c | .C => 1
  | .s | .S => 2
  | .i | .I => 4
  | .l | .L => 8
  | .m _ len => len

def Val.dst : Val → Dst
  | .c _ => .c | .C _ => .C | .s _ => .s | .S _ => .S | .i _ => .i | .I _ => .I
  | .l _ => .l | .L _ => .L | .m block => .m block.length block.length

theorem Val.fmt_dst (v : Val) : v.dst.fmt = v.fmt := by cases v <;> rfl

theorem Val.hasRoom_dst (v : Val) : v.dst.HasRoom := by
  cases v <;> simp [Val.dst, Dst.HasRoom]

theorem readArg_fmt (d : Dst) (ap : List Dst) : readArg d.fmt (d :: ap) = .arg (d, d.size) ap := by
  cases d <;> rfl

theorem readArg_eq_arg {ch : Char} {ap ap' : List Dst} {d : Dst} {len : Nat}
    (h : readArg ch ap = .arg (d, len) ap') : ap = d :: ap' ∧ ch = d.fmt ∧ len = d.size := by
  unfold readArg at h
  split at h
  case h_10 => split at h <;> cases h
  all_goals
    cases h
    exact ⟨rfl, rfl, rfl⟩

def total (dsts : List Dst) : Nat := (dsts.map Dst.size).sum

/-- The fields whose value `write_pdu_at_va` cannot take from its arguments. -/
def Dst.Narrow : Dst → Prop
  | .c | .C | .s | .S => True
  | .i | .I | .l | .L | .m _ _ => False

instance : DecidablePred Dst.Narrow
  | .c | .C | .s | .S => .isTrue trivial
  | .i | .I | .l | .L | .m _ _ => .isFalse id

def Matches (fmt : List Char) (args : List Val) : Prop := fmt = args.map Val.fmt

instance (fmt : List Char) (args : List Val) : Decidable (Matches fmt args) :=
  inferInstanceAs (Decidable (_ = _))

@[simp] theorem total_nil : total [] = 0 := rfl

@[simp] theorem total_cons (d : Dst) (dsts : List Dst) : total (d :: dsts) = d.size + total dsts := by
  simp [total]

section codec

variable [Platform]

/-- The encoding of a value: its bytes in host byte order. -/
def Val.bytes : Val → List UInt8
  | .c v => hostBytes 1 v.toUInt8.toNat
  | .C v => hostBytes 1 v.toNat
  | .s v => hostBytes 2 v.toUInt16.toNat
  | .S v => hostBytes 2 v.toNat
  | .i v => hostBytes 4 v.toUInt32.toNat
  | .I v => hostBytes 4 v.toNat
  | .l v => hostBytes 8 v.toUInt64.toNat
  | .L v => hostBytes 8 v.toNat
  | .m block => block

theorem Val.size_dst (v : Val) : v.dst.size = v.bytes.length := by
  cases v <;> simp [Val.dst, Dst.size, Val.bytes, hostBytes]

theorem writeArg_fmt {v : Val} (hwide : ¬ v.dst.Narrow) (ap : List Val) :
    writeArg v.fmt (v :: ap) = .arg v.bytes ap := by
  cases v with
  | c v | C v | s v | S v => exact absurd trivial hwide
  | _ => rfl

theorem writeArg_narrow {v : Val} (hnarrow : v.dst.Narrow) (ap : List Val) :
    writeArg v.fmt (v :: ap) = .mismatch := by
  cases v with
  | c v | C v | s v | S v => rfl
  | _ => exact False.elim hnarrow

theorem hostInt_hostBytes (w : Nat) {n : Nat} (h : n < 256 ^ w) : hostInt (hostBytes w n) = n :=
  byteOrder.decode_encode h

theorem hostBytes_hostInt {w : Nat} {bs : List UInt8} (h : bs.length = w) :
    hostBytes w (hostInt bs) = bs :=
  byteOrder.encode_decode h

theorem hostInt_lt {w : Nat} {bs : List UInt8} (h : bs.length = w) : hostInt bs < 256 ^ w :=
  byteOrder.decode_lt h

@[simp] theorem length_hostBytes (w n : Nat) : (hostBytes w n).length = w :=
  byteOrder.length_encode w n

theorem hostBytes_one (v : UInt8) : hostBytes 1 v.toNat = [v] := by
  unfold hostBytes ByteOrder.encode
  cases byteOrder <;> simp [Bytes.digits]

theorem Val.value_bytes (v : Val) : v.dst.value v.bytes = v := by
  cases v with
  | c v => simp [Val.dst, Dst.value, Val.bytes, hostInt_hostBytes 1 v.toUInt8.toNat_lt]
  | C v => simp [Val.dst, Dst.value, Val.bytes, hostInt_hostBytes 1 v.toNat_lt]
  | s v => simp [Val.dst, Dst.value, Val.bytes, hostInt_hostBytes 2 v.toUInt16.toNat_lt]
  | S v => simp [Val.dst, Dst.value, Val.bytes, hostInt_hostBytes 2 v.toNat_lt]
  | i v => simp [Val.dst, Dst.value, Val.bytes, hostInt_hostBytes 4 v.toUInt32.toNat_lt]
  | I v => simp [Val.dst, Dst.value, Val.bytes, hostInt_hostBytes 4 v.toNat_lt]
  | l v => simp [Val.dst, Dst.value, Val.bytes, hostInt_hostBytes 8 v.toUInt64.toNat_lt]
  | L v => simp [Val.dst, Dst.value, Val.bytes, hostInt_hostBytes 8 v.toNat_lt]
  | m block => rfl

theorem Dst.fmt_value (d : Dst) (bs : List UInt8) : (d.value bs).fmt = d.fmt := by cases d <;> rfl

theorem Val.dst_value (v : Val) {bs : List UInt8} (h : bs.length = v.dst.size) :
    (v.dst.value bs).dst = v.dst := by
  cases v with
  | m block => exact congrArg₂ Dst.m h h
  | _ => rfl

theorem Dst.bytes_value {d : Dst} {bs : List UInt8} (h : bs.length = d.size) :
    (d.value bs).bytes = bs := by
  have hlt := hostInt_lt h
  have hback := hostBytes_hostInt h
  cases d with
  | m cap len => rfl
  | _ =>
    rw [Dst.size] at hlt hback
    norm_num at hlt
    simp [Dst.value, Val.bytes, Nat.mod_eq_of_lt hlt, hback]

/-! ## Lists of fields -/

def encode (args : List Val) : List UInt8 := args.flatMap Val.bytes

def unpack : List Dst → List UInt8 → List Val
  | [], _ => []
  | d :: dsts, bs => d.value (bs.take d.size) :: unpack dsts (bs.drop d.size)

@[simp] theorem encode_nil : encode [] = [] := rfl

@[simp] theorem encode_cons (v : Val) (args : List Val) :
    encode (v :: args) = v.bytes ++ encode args := rfl

theorem total_dst (args : List Val) : total (args.map Val.dst) = (encode args).length := by
  induction args with
  | nil => rfl
  | cons v args ih => rw [List.map_cons, total_cons, ih, Val.size_dst, encode_cons, List.length_append]

theorem unpack_encode (args : List Val) : unpack (args.map Val.dst) (encode args) = args := by
  induction args with
  | nil => rfl
  | cons v args ih =>
    rw [List.map_cons, unpack, encode_cons, Val.size_dst, List.take_left, List.drop_left, ih,
      Val.value_bytes]

@[simp] theorem encode_append (args args' : List Val) :
    encode (args ++ args') = encode args ++ encode args' := List.flatMap_append

theorem encode_append_inj {args args' : List Val} {bs bs' : List UInt8}
    (hdst : args.map Val.dst = args'.map Val.dst) (h : encode args ++ bs = encode args' ++ bs') :
    args = args' ∧ bs = bs' := by
  have hlen : (encode args).length = (encode args').length := by
    rw [← total_dst, ← total_dst, hdst]
  obtain ⟨henc, hrest⟩ := List.append_inj h hlen
  refine ⟨?_, hrest⟩
  rw [← unpack_encode args, ← unpack_encode args', hdst, henc]

theorem encode_inj {args args' : List Val} (hdst : args.map Val.dst = args'.map Val.dst)
    (h : encode args = encode args') : args = args' :=
  (encode_append_inj hdst (congrArg (fun bs => bs ++ []) h)).1

/-! ## The two loops -/

/-- The bounds test passed and the copy that follows has a meaning: the sum did not wrap. -/
theorem Pdu.InStorage.uadd_eq {pdu : Pdu} {off len : Nat} (h : pdu.InStorage off len) :
    uadd off len = off + len :=
  uadd_of_lt h.2

theorem Pdu.inStorage_of_le {pdu : Pdu} {off len : Nat} (h : off + len ≤ pdu.len.toNat) :
    pdu.InStorage off len := by
  have hfits := pdu.fits
  have hlen := pdu.len_lt
  have hsize := ulongSize_ge
  exact ⟨by omega, by omega⟩

theorem Pdu.copyIn_of_inStorage {pdu : Pdu} {off : Nat} {src : List UInt8}
    (h : pdu.InStorage off src.length) :
    ∃ pdu', pdu.copyIn off src = some pdu' ∧ pdu'.data = overwrite pdu.data off src ∧
      pdu.Frame off (off + src.length) pdu' := by
  have hoff : off ≤ pdu.data.length := le_trans (Nat.le_add_right _ _) h.1
  rw [Pdu.copyIn, dif_pos h]
  exact ⟨_, rfl, rfl, rfl, rfl, rfl, length_overwrite h.1, take_overwrite le_rfl hoff,
    drop_overwrite le_rfl hoff⟩

theorem Pdu.copyIn_eq_none {pdu : Pdu} {off : Nat} {src : List UInt8} (hoff : ¬ InHeader off)
    (h : ¬ pdu.InStorage off src.length) : pdu.copyIn off src = none := by
  rw [Pdu.copyIn, dif_neg h, if_neg fun hx => hoff hx.1]

theorem Pdu.not_inHeader {pdu : Pdu} {off : Nat} (hoff : off ≤ pdu.len.toNat) : ¬ InHeader off := by
  have hlen := pdu.len_lt
  have hsize := ulongSize_ge
  rw [InHeader, sizeofPdu]
  omega

theorem Pdu.len_of_copyIn {pdu pdu' : Pdu} {off : Nat} {src : List UInt8}
    (hoff : off ≤ pdu.len.toNat) (h : pdu.copyIn off src = some pdu') : pdu'.len = pdu.len := by
  by_cases hin : pdu.InStorage off src.length
  · obtain ⟨q, hq, -, hframe⟩ := Pdu.copyIn_of_inStorage hin
    cases hq.symm.trans h
    exact hframe.len
  · rw [Pdu.copyIn_eq_none (Pdu.not_inHeader hoff) hin] at h
    cases h

/-- **The encoder writes the encoding.** -/
theorem writePduAtVa_fits (args : List Val) (hwide : ∀ v ∈ args, ¬ v.dst.Narrow) {pdu : Pdu}
    {off : Nat} (h : off + (encode args).length ≤ pdu.len.toNat) :
    ∃ pdu', writePduAtVa pdu off (args.map Val.fmt) args
        = some (((off + (encode args).length : Nat) : Int), pdu') ∧
      pdu'.data = overwrite pdu.data off (encode args) ∧
      pdu.Frame off (off + (encode args).length) pdu' := by
  have hlen := pdu.len_lt
  have hfits := pdu.fits
  induction args generalizing pdu off with
  | nil =>
    refine ⟨pdu, ?_, ?_, Pdu.Frame.refl _ _ _⟩
    · rw [List.map_nil, writePduAtVa, toLong_of_lt (by simp at h; omega)]
      rfl
    · simp [overwrite]
  | cons v args ih =>
    obtain ⟨hv, hrest⟩ := List.forall_mem_cons.mp hwide
    rw [encode_cons, List.length_append] at h
    have hin : pdu.InStorage off v.bytes.length := Pdu.inStorage_of_le (by omega)
    obtain ⟨q, hq, hdata, hframe⟩ := Pdu.copyIn_of_inStorage hin
    obtain ⟨r, hr, hdata', hframe'⟩ := ih hrest
      (show off + v.bytes.length + (encode args).length ≤ q.len.toNat by rw [hframe.len]; omega)
      q.len_lt q.fits
    have hsum : off + (encode (v :: args)).length
        = off + v.bytes.length + (encode args).length := by
      rw [encode_cons, List.length_append, Nat.add_assoc]
    refine ⟨r, ?_, ?_, ?_⟩
    · rw [List.map_cons, writePduAtVa, writeArg_fmt hv, hsum]
      show (if uadd off v.bytes.length > pdu.len.toNat then some ((-1 : Int), pdu)
        else (pdu.copyIn off v.bytes).bind fun p =>
          writePduAtVa p (uadd off v.bytes.length) (args.map Val.fmt) args) = _
      rw [hin.uadd_eq, if_neg (by omega), hq]
      exact hr
    · rw [hdata', hdata, overwrite_overwrite (by omega), encode_cons]
    · rw [hsum]
      exact (hframe.mono le_rfl (by omega)).trans (hframe'.mono (by omega) le_rfl)

theorem writePduAtVa_overflow (args : List Val) {pdu pdu' : Pdu} {off : Nat} {res : Int}
    (hoff : off ≤ pdu.len.toNat) (hsmall : off + (encode args).length < 2 ^ 32)
    (h : pdu.len.toNat < off + (encode args).length)
    (hwrite : writePduAtVa pdu off (args.map Val.fmt) args = some (res, pdu')) : res = -1 := by
  have hsize := ulongSize_ge
  induction args generalizing pdu off with
  | nil =>
    rw [encode_nil, List.length_nil] at h
    omega
  | cons v args ih =>
    rw [encode_cons, List.length_append] at h hsmall
    have hadd : uadd off v.bytes.length = off + v.bytes.length := uadd_of_lt (by omega)
    rw [List.map_cons, writePduAtVa] at hwrite
    by_cases hnarrow : v.dst.Narrow
    · rw [writeArg_narrow hnarrow] at hwrite
      cases hwrite
    rw [writeArg_fmt hnarrow] at hwrite
    simp only [hadd] at hwrite
    by_cases hv : off + v.bytes.length > pdu.len.toNat
    · rw [if_pos hv] at hwrite
      cases hwrite
      rfl
    · obtain ⟨q, hq, -, hframe⟩ := Pdu.copyIn_of_inStorage (Pdu.inStorage_of_le (Nat.le_of_not_gt hv))
      rw [if_neg hv, hq] at hwrite
      exact ih (by rw [hframe.len]; omega) (by omega) (by rw [hframe.len]; omega) hwrite

theorem Pdu.copyOut_of_inStorage {pdu : Pdu} {off len : Nat} {dst : Dst}
    (h : pdu.InStorage off len) (hroom : dst.HasRoom) :
    pdu.copyOut off len dst = some (dst.value (slice pdu.data off len)) :=
  if_pos ⟨h, hroom⟩

theorem Pdu.copyOut_eq_some {pdu : Pdu} {off len : Nat} {dst : Dst} {v : Val}
    (h : pdu.copyOut off len dst = some v) :
    pdu.InStorage off len ∧ v = dst.value (slice pdu.data off len) := by
  unfold Pdu.copyOut at h
  split at h
  case isTrue hin =>
    cases h
    exact ⟨hin.1, rfl⟩
  case isFalse => cases h

theorem readPduAtVa_append (dsts : List Dst) (hroom : ∀ d ∈ dsts, d.HasRoom) {pdu : Pdu} {off : Nat}
    (h : off + total dsts ≤ pdu.len.toNat) (fmt : List Char) (ap : List Dst) :
    readPduAtVa pdu off (dsts.map Dst.fmt ++ fmt) (dsts ++ ap) =
      (readPduAtVa pdu (off + total dsts) fmt ap).map fun r =>
        (r.1, unpack dsts (slice pdu.data off (total dsts)) ++ r.2) := by
  induction dsts generalizing off with
  | nil =>
    show readPduAtVa pdu off fmt ap = _
    rw [total_nil, Nat.add_zero]
    rcases readPduAtVa pdu off fmt ap with _ | ⟨res, vals⟩ <;> rfl
  | cons d dsts ih =>
    rw [total_cons] at h
    have hin : pdu.InStorage off d.size := Pdu.inStorage_of_le (by omega)
    have hrec := ih (fun d' hd' => hroom d' (List.mem_cons_of_mem _ hd'))
      (show off + d.size + total dsts ≤ pdu.len.toNat by omega)
    rw [List.map_cons, List.cons_append, List.cons_append, readPduAtVa, readArg_fmt]
    simp only [hin.uadd_eq]
    rw [if_neg (by omega), Pdu.copyOut_of_inStorage hin (hroom d List.mem_cons_self), hrec,
      total_cons, unpack, take_slice (Nat.le_add_right _ _), drop_slice, Nat.add_sub_cancel_left,
      Nat.add_assoc]
    rcases readPduAtVa pdu (off + (d.size + total dsts)) fmt ap with _ | ⟨res, vals⟩ <;> rfl

theorem readPduAtVa_append_overflow (dsts : List Dst) (hroom : ∀ d ∈ dsts, d.HasRoom) {pdu : Pdu}
    {off : Nat} (hoff : off ≤ pdu.len.toNat) (hsmall : off + total dsts < 2 ^ 32)
    (h : pdu.len.toNat < off + total dsts) (fmt : List Char) (ap : List Dst) :
    ∃ vals, readPduAtVa pdu off (dsts.map Dst.fmt ++ fmt) (dsts ++ ap) = some (-1, vals) := by
  have hsize := ulongSize_ge
  induction dsts generalizing off with
  | nil =>
    rw [total_nil] at h
    omega
  | cons d dsts ih =>
    rw [total_cons] at h hsmall
    have hadd : uadd off d.size = off + d.size := uadd_of_lt (by omega)
    rw [List.map_cons, List.cons_append, List.cons_append, readPduAtVa, readArg_fmt]
    simp only [hadd]
    by_cases hd : off + d.size > pdu.len.toNat
    · exact ⟨[], if_pos hd⟩
    · have hin : pdu.InStorage off d.size := Pdu.inStorage_of_le (by omega)
      obtain ⟨vals, hvals⟩ := ih (fun d' hd' => hroom d' (List.mem_cons_of_mem _ hd'))
        (show off + d.size ≤ pdu.len.toNat by omega) (by omega) (by omega)
      rw [if_neg hd, Pdu.copyOut_of_inStorage hin (hroom d List.mem_cons_self), hvals]
      exact ⟨_, rfl⟩

/-- A block longer than its buffer is not stored: either the check refuses it, or the copy has no
meaning. -/
theorem readPduAtVa_overlong {pdu : Pdu} {off cap len : Nat} (hcap : cap < len) (fmt : List Char)
    (ap : List Dst) :
    readPduAtVa pdu off ('m' :: fmt) (.m cap len :: ap) =
      if uadd off len > pdu.len.toNat then some (-1, []) else none := by
  rw [readPduAtVa]
  show (if uadd off len > pdu.len.toNat then some ((-1 : Int), [])
    else (pdu.copyOut off len (.m cap len)).bind fun val => _) = _
  have hroom : ¬ (pdu.InStorage off len ∧ (Dst.m cap len).HasRoom) := fun h =>
    absurd h.2 (Nat.not_le.mpr hcap)
  rw [Pdu.copyOut, if_neg hroom]
  rfl

/-- **The decoder unpacks the payload.** -/
theorem readPduAtVa_fits (dsts : List Dst) (hroom : ∀ d ∈ dsts, d.HasRoom) {pdu : Pdu} {off : Nat}
    (h : off + total dsts ≤ pdu.len.toNat) :
    readPduAtVa pdu off (dsts.map Dst.fmt) dsts
      = some (((off + total dsts : Nat) : Int), unpack dsts (slice pdu.data off (total dsts))) := by
  have hlen := pdu.len_lt
  have happend := readPduAtVa_append dsts hroom h [] []
  rw [readPduAtVa, toLong_of_lt (by omega)] at happend
  simpa using happend

theorem readPduAtVa_overflow (dsts : List Dst) (hroom : ∀ d ∈ dsts, d.HasRoom) {pdu : Pdu}
    {off : Nat} (hoff : off ≤ pdu.len.toNat) (hsmall : off + total dsts < 2 ^ 32)
    (h : pdu.len.toNat < off + total dsts) :
    ∃ vals, readPduAtVa pdu off (dsts.map Dst.fmt) dsts = some (-1, vals) := by
  simpa using readPduAtVa_append_overflow dsts hroom hoff hsmall h [] []

def fieldsAt (bs : List UInt8) : Nat → List Dst → List Val
  | _, [] => []
  | off, d :: dsts => d.value (slice bs off d.size) :: fieldsAt bs (off + d.size) dsts

theorem unpack_slice (dsts : List Dst) (bs : List UInt8) (off : Nat) :
    unpack dsts (slice bs off (total dsts)) = fieldsAt bs off dsts := by
  induction dsts generalizing off with
  | nil => rfl
  | cons d dsts ih =>
    rw [total_cons, unpack, fieldsAt, take_slice (Nat.le_add_right _ _), drop_slice,
      Nat.add_sub_cancel_left, ih]

theorem readPduAt_fits {fmt : String} {dsts : List Dst} (hfmt : fmt.toList = dsts.map Dst.fmt)
    (hroom : ∀ d ∈ dsts, d.HasRoom) {pdu : Pdu} {off : Nat} (h : off + total dsts ≤ pdu.payload.length) :
    readPduAt pdu off fmt dsts
      = some (((off + total dsts : Nat) : Int), fieldsAt pdu.payload off dsts) := by
  rw [Pdu.length_payload] at h
  rw [readPduAt, hfmt, readPduAtVa_fits dsts hroom h, ← pdu.slice_payload h, unpack_slice]

theorem readPduAt_overflow {fmt : String} {dsts : List Dst} (hfmt : fmt.toList = dsts.map Dst.fmt)
    (hroom : ∀ d ∈ dsts, d.HasRoom) {pdu : Pdu} {off : Nat} (hoff : off ≤ pdu.payload.length)
    (hsmall : total dsts < 2 ^ 31) (h : pdu.payload.length < off + total dsts) :
    ∃ vals, readPduAt pdu off fmt dsts = some (-1, vals) := by
  have hlen := pdu.len_lt
  rw [Pdu.length_payload] at h hoff
  rw [readPduAt, hfmt]
  exact readPduAtVa_overflow dsts hroom hoff (by omega) h

/-- What a read does depends on the payload alone, not on what the storage holds behind it. -/
theorem readPduAtVa_congr {pdu pdu' : Pdu} (hlen : pdu'.len = pdu.len)
    (hpayload : pdu'.payload = pdu.payload) (fmt : List Char) (ap : List Dst) (off : Nat) :
    readPduAtVa pdu' off fmt ap = readPduAtVa pdu off fmt ap := by
  induction fmt generalizing ap off with
  | nil => rfl
  | cons ch fmt ih =>
    rw [readPduAtVa, readPduAtVa, hlen]
    split
    · rfl
    · rfl
    · rename_i dst len ap' _
      by_cases hcheck : uadd off len > pdu.len.toNat
      · rw [if_pos hcheck, if_pos hcheck]
      have hcopy : pdu'.copyOut off len dst = pdu.copyOut off len dst := by
        unfold Pdu.copyOut
        by_cases hwrap : off + len < ulongSize
        · -- below `len` the two storages hold the same bytes
          rw [uadd_of_lt hwrap] at hcheck
          have hle : off + len ≤ pdu.len.toNat := Nat.le_of_not_gt hcheck
          have hin : pdu.InStorage off len := Pdu.inStorage_of_le hle
          have hin' : pdu'.InStorage off len := Pdu.inStorage_of_le (by rw [hlen]; exact hle)
          rw [← pdu.slice_payload hle, ← pdu'.slice_payload (by rw [hlen]; exact hle), hpayload]
          exact if_congr (and_congr_left fun _ => iff_of_true hin' hin) rfl rfl
        · -- a sum that wraps is out of either storage
          rw [if_neg fun h => hwrap h.1.2, if_neg fun h => hwrap h.1.2]
      rw [if_neg hcheck, if_neg hcheck, hcopy]
      simp only [ih]

end codec

end Bluetoothd
