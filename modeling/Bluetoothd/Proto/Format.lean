import Bluetoothd.Proto.Pdu

/-!
# Reading and writing PDU fields (`bt-proto.c`)

`read_pdu_at_va` and `write_pdu_at_va` walk a format string of field characters together with a
`va_list`. The characters are `c C s S i I l L` for signed and unsigned integers of 8, 16, 32 and
64 bits and `m` for a raw block, which takes two variadic arguments: a pointer and a `size_t`.

A variadic argument has the type that the callee's `va_arg` names for it. An argument list that
does not match the format has no meaning in C, and neither has a `memcpy` outside of its two
objects; both functions then yield `none`. Otherwise they yield the returned `long` and what they
stored. The readers take pointers. The writers take values, which arrive promoted to `int` at least,
so that their `va_arg` of an 8 or 16 bit type has no meaning for any argument list.
-/

namespace Bluetoothd

open Platform Buffer

inductive Val where
  | c (v : Int8)
  | C (v : UInt8)
  | s (v : Int16)
  | S (v : UInt16)
  | i (v : Int32)
  | I (v : UInt32)
  | l (v : Int64)
  | L (v : UInt64)
  | m (block : List UInt8)
  deriving DecidableEq, Repr

/-- The destinations `read_pdu_at` is given: pointers to integers, or to a block of `cap` bytes
followed by the length to read into it. -/
inductive Dst where
  | c | C | s | S | i | I | l | L
  | m (cap len : Nat)
  deriving DecidableEq, Repr

/-- The outcome of a `switch (*fmt)`: the fetched argument and the rest of the `va_list`, an
invalid format character, or an argument of another type than the character's. -/
inductive Fetch (α β : Type) where
  | arg (x : α) (ap : List β)
  | invalid
  | mismatch

def formatChars : List Char := ['c', 'C', 's', 'S', 'i', 'I', 'l', 'L', 'm']

/-! ## Reading -/

/-- The `switch` of `read_pdu_at_va`: `dst` and `len`. -/
def readArg (ch : Char) (ap : List Dst) : Fetch (Dst × Nat) Dst :=
  match ch, ap with
  | 'c', .c :: ap => .arg (.c, 1) ap
  | 'C', .C :: ap => .arg (.C, 1) ap
  | 's', .s :: ap => .arg (.s, 2) ap
  | 'S', .S :: ap => .arg (.S, 2) ap
  | 'i', .i :: ap => .arg (.i, 4) ap
  | 'I', .I :: ap => .arg (.I, 4) ap
  | 'l', .l :: ap => .arg (.l, 8) ap
  | 'L', .L :: ap => .arg (.L, 8) ap
  | 'm', .m cap len :: ap => .arg (.m cap len, len) ap
  | ch, _ => if ch ∈ formatChars then .mismatch else .invalid

variable [Platform]

def hostInt (bs : List UInt8) : Nat := byteOrder.decode bs

def hostBytes (w n : Nat) : List UInt8 := byteOrder.encode w n

/-- The value that a destination filled with `bs` holds. -/
def Dst.value : Dst → List UInt8 → Val
  | .c, bs => .c (UInt8.ofNat (hostInt bs)).toInt8
  | .C, bs => .C (UInt8.ofNat (hostInt bs))
  | .s, bs => .s (UInt16.ofNat (hostInt bs)).toInt16
  | .S, bs => .S (UInt16.ofNat (hostInt bs))
  | .i, bs => .i (UInt32.ofNat (hostInt bs)).toInt32
  | .I, bs => .I (UInt32.ofNat (hostInt bs))
  | .l, bs => .l (UInt64.ofNat (hostInt bs)).toInt64
  | .L, bs => .L (UInt64.ofNat (hostInt bs))
  | .m _ _, bs => .m bs

def Dst.HasRoom : Dst → Prop
  | .m cap len => len ≤ cap
  | _ => True

instance : DecidablePred Dst.HasRoom
  | .m cap len => inferInstanceAs (Decidable (len ≤ cap))
  | .c | .C | .s | .S | .i | .I | .l | .L => inferInstanceAs (Decidable True)

/-- The `len` bytes at `pdu->data+off` exist. -/
def Pdu.InStorage (pdu : Pdu) (off len : Nat) : Prop :=
  off + len ≤ pdu.data.length ∧ off + len < ulongSize

instance (pdu : Pdu) (off len : Nat) : Decidable (pdu.InStorage off len) :=
  inferInstanceAs (Decidable (_ ∧ _))

/-- `memcpy(dst, pdu->data+off, len)`. -/
def Pdu.copyOut (pdu : Pdu) (off len : Nat) (dst : Dst) : Option Val :=
  if pdu.InStorage off len ∧ dst.HasRoom then some (dst.value (slice pdu.data off len)) else none

/-- `read_pdu_at_va`: the returned `long` and the values stored, in order. -/
def readPduAtVa (pdu : Pdu) (off : Nat) : List Char → List Dst → Option (Int × List Val)
  | [], _ => some (toLong off, [])
  | ch :: fmt, ap =>
    match readArg ch ap with
    | .invalid => some (-1, [])
    | .mismatch => none
    | .arg (dst, len) ap =>
      if uadd off len > pdu.len.toNat then
        some (-1, []) -- PDU overflow
      else do
        let val ← pdu.copyOut off len dst
        let (res, vals) ← readPduAtVa pdu (uadd off len) fmt ap
        return (res, val :: vals)

/-- `read_pdu_at`: passes its variadic arguments on to `read_pdu_at_va`. -/
def readPduAt (pdu : Pdu) (off : Nat) (fmt : String) (args : List Dst) :
    Option (Int × List Val) :=
  readPduAtVa pdu off fmt.toList args

/-! ## Writing -/

/-- The `switch` of `write_pdu_at_va`: the `len` bytes at `src`. For `c C s S`, `va_arg` names a type
that no argument has. -/
def writeArg (ch : Char) (ap : List Val) : Fetch (List UInt8) Val :=
  match ch, ap with
  | 'i', .i v :: ap => .arg (hostBytes 4 v.toUInt32.toNat) ap
  | 'I', .I v :: ap => .arg (hostBytes 4 v.toNat) ap
  | 'l', .l v :: ap => .arg (hostBytes 8 v.toUInt64.toNat) ap
  | 'L', .L v :: ap => .arg (hostBytes 8 v.toNat) ap
  | 'm', .m block :: ap => .arg block ap
  | ch, _ => if ch ∈ formatChars then .mismatch else .invalid

/-- The bytes of the structure in memory. -/
def Pdu.bytes (pdu : Pdu) : List UInt8 :=
  Pdu.header pdu.service pdu.opcode pdu.len.toNat ++ pdu.data

/-- The PDU with these bytes, if the payload that its header declares lies in the storage. -/
def Pdu.ofBytes : List UInt8 → Option Pdu
  | service :: opcode :: lo :: hi :: data =>
    if h : (UInt16.ofNat (hostInt [lo, hi])).toNat ≤ data.length then
      some ⟨service, opcode, UInt16.ofNat (hostInt [lo, hi]), data, h⟩
    else none
  | _ => none

/-- `off` is so near to the end of its range that `pdu->data+off` is an address in the header. -/
def InHeader (off : Nat) : Prop := ulongSize ≤ off + sizeofPdu ∧ off < ulongSize

instance (off : Nat) : Decidable (InHeader off) := inferInstanceAs (Decidable (_ ∧ _))

/-- `memcpy(pdu->data+off, src, len)`, in the storage or from the header on. -/
def Pdu.copyIn (pdu : Pdu) (off : Nat) (src : List UInt8) : Option Pdu :=
  if h : pdu.InStorage off src.length then
    some { pdu with
      data := overwrite pdu.data off src
      fits := by rw [length_overwrite h.1]; exact pdu.fits }
  else if InHeader off ∧ off + sizeofPdu - ulongSize + src.length ≤ pdu.bytes.length then
    Pdu.ofBytes (overwrite pdu.bytes (off + sizeofPdu - ulongSize) src)
  else none

/-- `write_pdu_at_va`: the returned `long` and the PDU as it leaves it. -/
def writePduAtVa (pdu : Pdu) (off : Nat) : List Char → List Val → Option (Int × Pdu)
  | [], _ => some (toLong off, pdu)
  | ch :: fmt, ap =>
    match writeArg ch ap with
    | .invalid => some (-1, pdu)
    | .mismatch => none
    | .arg src ap =>
      if uadd off src.length > pdu.len.toNat then
        some (-1, pdu) -- PDU overflow
      else do
        let pdu ← pdu.copyIn off src
        writePduAtVa pdu (uadd off src.length) fmt ap

end Bluetoothd
