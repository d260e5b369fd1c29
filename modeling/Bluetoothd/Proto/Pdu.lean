import Bluetoothd.Platform
import Bluetoothd.Lib.Buffer

/-!
# Protocol data units (`bt-proto.h`)

A PDU is a header (service, opcode, 16-bit payload length) in front of a flexible array. The array
lives in some buffer, so `Pdu.data` is all the storage behind the header and the payload is its
first `len` bytes; whatever follows is spare room, or left over from an earlier PDU. The field
`fits` says that the payload does lie in the storage.
-/

namespace Bluetoothd

open Platform

/-- `SERVICE_CORE`, `SERVICE_BT_CORE` and `SERVICE_BT_SOCK`. -/
def serviceCore : UInt8 := 0x00
def serviceBtCore : UInt8 := 0x01
def serviceBtSock : UInt8 := 0x02

/-- `struct pdu` together with the storage of its `data[]`. -/
@[ext]
structure Pdu where
  service : UInt8
  opcode : UInt8
  len : UInt16
  data : List UInt8
  fits : len.toNat ≤ data.length
  deriving DecidableEq, Repr

/-- `sizeof(struct pdu)`; the structure is packed. -/
def sizeofPdu : Nat := 4

namespace Pdu

def payload (pdu : Pdu) : List UInt8 := pdu.data.take pdu.len.toNat

/-- The bytes of the header in memory and on the wire. -/
def header [Platform] (service opcode : UInt8) (len : Nat) : List UInt8 :=
  service :: opcode :: byteOrder.encode 2 len

/-- The complete PDU as bytes: header and payload. -/
def wire [Platform] (pdu : Pdu) : List UInt8 :=
  header pdu.service pdu.opcode pdu.len.toNat ++ pdu.payload

variable (pdu : Pdu)

@[simp] theorem length_payload : pdu.payload.length = pdu.len.toNat := by
  rw [payload, List.length_take, min_eq_left pdu.fits]

theorem len_lt : pdu.len.toNat < 2 ^ 16 := pdu.len.toNat_lt

@[simp] theorem length_header [Platform] (service opcode : UInt8) (len : Nat) :
    (header service opcode len).length = sizeofPdu := by
  simp [header, sizeofPdu]

theorem length_wire [Platform] : pdu.wire.length = sizeofPdu + pdu.len.toNat := by
  rw [wire, List.length_append, length_header, length_payload]

theorem slice_payload {off n : Nat} (h : off + n ≤ pdu.len.toNat) :
    Buffer.slice pdu.payload off n = Buffer.slice pdu.data off n :=
  Buffer.slice_take h

end Pdu

/-- `init_pdu`: the header of an empty PDU in front of `data`. -/
def initPdu (data : List UInt8) (service opcode : UInt8) : Pdu where
  service := service
  opcode := opcode
  len := 0
  data := data
  fits := Nat.zero_le _

def pduSize [Platform] (pdu : Pdu) : Nat := uadd sizeofPdu pdu.len.toNat

theorem pduSize_eq [Platform] (pdu : Pdu) : pduSize pdu = sizeofPdu + pdu.len.toNat := by
  have hsize := ulongSize_ge
  have hlen := pdu.len_lt
  rw [pduSize, uadd_of_lt (by rw [sizeofPdu]; omega)]

end Bluetoothd
