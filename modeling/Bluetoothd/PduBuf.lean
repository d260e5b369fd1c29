import Bluetoothd.Proto.Codec

/-!
# Receive buffers (`bt-pdubuf.c`)

A receive buffer is one `malloc`ed block: the structure `pdu_rbuf`, whose last member is the PDU
header, and the payload behind it. `raw` is the block from that member on; the union makes it both
the raw bytes and the PDU they form.
-/

namespace Bluetoothd

open Platform Buffer

structure RBuf where
  maxlen : Nat
  len : Nat
  raw : List UInt8
  hdr_le : sizeofPdu ≤ maxlen
  maxlen_le : maxlen ≤ raw.length
  len_le : len ≤ raw.length

/-- `n` rounded up to a multiple of the alignment `a`. -/
def alignUp (n a : Nat) : Nat := (n + a - 1) / a * a

theorem le_alignUp (n : Nat) {a : Nat} (ha : 0 < a) : n ≤ alignUp n a := by
  have hdiv := Nat.div_add_mod (n + a - 1) a
  have hmod := Nat.mod_lt (n + a - 1) ha
  rw [alignUp, Nat.mul_comm]
  omega

variable [Platform]

/-- `sizeof(struct pdu_rbuf)`: two `unsigned long`s and a PDU header, padded to their alignment. -/
def sizeofPduRbuf : Nat := alignUp (2 * wordBytes + sizeofPdu) wordBytes

theorem sizeofPduRbuf_ge : 2 * wordBytes + sizeofPdu ≤ sizeofPduRbuf :=
  le_alignUp _ (lt_of_lt_of_le (by norm_num) wordBytes_ge)

/-- `create_pdu_rbuf`, for what `malloc` does: a block has arbitrary contents. -/
def createPduRbuf (maxdatalen : Nat) (block : Malloc (Nat → UInt8)) : Option RBuf :=
  block.obtained.map fun mem =>
    { maxlen := sizeofPdu + maxdatalen
      len := 0
      raw := (List.range (sizeofPduRbuf + maxdatalen - 2 * wordBytes)).map mem
      hdr_le := Nat.le_add_right _ _
      maxlen_le := by
        have := sizeofPduRbuf_ge
        rw [List.length_map, List.length_range]
        omega
      len_le := Nat.zero_le _ }

theorem createPduRbuf_congr (maxdatalen : Nat) {block : Malloc (Nat → UInt8)} {mem : Nat → UInt8}
    (h : block.obtained = some mem) :
    createPduRbuf maxdatalen block = createPduRbuf maxdatalen (.block mem false) :=
  congrArg (Option.map _) h

namespace RBuf

variable (rbuf : RBuf)

/-- `rbuf->buf.pdu.len`. -/
def hdrLen : Nat := hostInt (slice rbuf.raw 2 2)

/-- `pdu_size(&rbuf->buf.pdu)`. -/
def hdrSize : Nat := uadd sizeofPdu rbuf.hdrLen

def HasPduHdr : Prop := sizeofPdu ≤ rbuf.len

def HasPdu : Prop := rbuf.HasPduHdr ∧ rbuf.len = rbuf.hdrSize

def IsFull : Prop := rbuf.len = rbuf.maxlen

instance : Decidable rbuf.HasPduHdr := inferInstanceAs (Decidable (_ ≤ _))
instance : Decidable rbuf.HasPdu := inferInstanceAs (Decidable (_ ∧ _))
instance : Decidable rbuf.IsFull := inferInstanceAs (Decidable (_ = _))

theorem hdrLen_lt : rbuf.hdrLen < 2 ^ 16 := by
  have hlen : (slice rbuf.raw 2 2).length = 2 := by
    have h1 := rbuf.hdr_le
    have h2 := rbuf.maxlen_le
    rw [sizeofPdu] at h1
    exact length_slice (by omega)
  exact hostInt_lt hlen

theorem hdrSize_eq : rbuf.hdrSize = sizeofPdu + rbuf.hdrLen := by
  have h := rbuf.hdrLen_lt
  have hsize := ulongSize_ge
  rw [hdrSize, uadd_of_lt (by rw [sizeofPdu]; omega)]

/-- `rbuf->buf.pdu`, once the buffer has a PDU. -/
def pdu (h : rbuf.HasPdu) : Pdu where
  service := rbuf.raw.getD 0 0
  opcode := rbuf.raw.getD 1 0
  len := UInt16.ofNat rbuf.hdrLen
  data := rbuf.raw.drop sizeofPdu
  fits := by
    have hlt := rbuf.hdrLen_lt
    have hlen := rbuf.len_le
    have hsize := rbuf.hdrSize_eq
    have heq := h.2
    rw [UInt16.toNat_ofNat', Nat.mod_eq_of_lt hlt, List.length_drop]
    omega

/-- The buffer after `read` stored `bytes` at `raw+len`; `none` when they exceed the block. -/
def fill (bytes : List UInt8) : Option RBuf :=
  if h : rbuf.len + bytes.length ≤ rbuf.raw.length then
    some { rbuf with
      raw := overwrite rbuf.raw rbuf.len bytes
      len := uadd rbuf.len bytes.length
      maxlen_le := by rw [length_overwrite h]; exact rbuf.maxlen_le
      len_le := by rw [length_overwrite h]; exact le_trans (Nat.mod_le _ _) h }
  else none

/-- `rbuf->len = 0`. -/
def reset : RBuf := { rbuf with len := 0, len_le := Nat.zero_le _ }

theorem len_pdu (h : rbuf.HasPdu) : (rbuf.pdu h).len.toNat = rbuf.hdrLen := by
  rw [pdu, UInt16.toNat_ofNat', Nat.mod_eq_of_lt rbuf.hdrLen_lt]

theorem pduSize_pdu (h : rbuf.HasPdu) : pduSize (rbuf.pdu h) = rbuf.len := by
  rw [pduSize_eq, len_pdu, h.2, hdrSize_eq]

variable {rbuf}

theorem fill_eq_some {bytes : List UInt8} {rbuf' : RBuf} (h : rbuf.fill bytes = some rbuf') :
    rbuf.len + bytes.length ≤ rbuf.raw.length ∧ rbuf'.maxlen = rbuf.maxlen ∧
      rbuf'.len = uadd rbuf.len bytes.length ∧ rbuf'.raw = overwrite rbuf.raw rbuf.len bytes := by
  unfold fill at h
  split at h
  case isTrue hroom =>
    cases h
    exact ⟨hroom, rfl, rfl, rfl⟩
  case isFalse => cases h

theorem fill_of_le {bytes : List UInt8} (h : rbuf.len + bytes.length ≤ rbuf.raw.length) :
    ∃ rbuf', rbuf.fill bytes = some rbuf' := by
  rw [fill, dif_pos h]
  exact ⟨_, rfl⟩

theorem take_fill {bytes : List UInt8} {rbuf' : RBuf} (h : rbuf.fill bytes = some rbuf')
    (hsmall : rbuf.raw.length < 2 ^ 32) :
    rbuf'.len = rbuf.len + bytes.length ∧
      rbuf'.raw.take rbuf'.len = rbuf.raw.take rbuf.len ++ bytes := by
  have hsize := ulongSize_ge
  obtain ⟨hroom, -, hlen, hraw⟩ := fill_eq_some h
  rw [uadd_of_lt (by omega)] at hlen
  exact ⟨hlen, by rw [hlen, hraw, take_overwrite_end rbuf.len_le]⟩

theorem length_raw_fill {bytes : List UInt8} {rbuf' : RBuf} (h : rbuf.fill bytes = some rbuf') :
    rbuf'.raw.length = rbuf.raw.length := by
  obtain ⟨hroom, -, -, hraw⟩ := fill_eq_some h
  rw [hraw, length_overwrite hroom]

end RBuf

end Bluetoothd
