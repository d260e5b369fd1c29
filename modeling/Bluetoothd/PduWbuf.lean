import Bluetoothd.PduBuf

/-!
# Write buffers (`bt-pdubuf.c`)

A write buffer is one `malloc`ed block: the structure `pdu_wbuf`, `maxdatalen` payload bytes and a
tail of `taillen` bytes for the message that transmits it.

The builders store an `iovec` at `pdu_wbuf_tail`, which lies behind the end of the block. What that
write does to the memory there is left out: everything that is said of runs takes it to do no harm.
-/

namespace Bluetoothd

open Platform

/-- `struct pdu_wbuf` in the `block`-th block of `malloc`. -/
structure WBuf where
  block : Nat
  tailoff : Nat
  off : Nat
  pdu : Pdu
  deriving DecidableEq, Repr

/-- A `msghdr` with its one `iovec`: the buffer it starts in, the offset in the block where the
`iovec` itself is stored, its length, and the descriptor in the control data, if any. -/
structure Message where
  wbuf : WBuf
  iovAt : Nat
  iovLen : Nat
  fd : Option Int
  deriving DecidableEq, Repr

section wbuf

variable [Platform]

/-- `sizeof(struct iovec)`. -/
def sizeofIovec : Nat := 2 * wordBytes

/-- The offset of `tail`: the queue link, the seven words of the `msghdr`, two `unsigned long`s and
the PDU header. -/
def offsetofTail : Nat := (1 + 7 + 2) * wordBytes + sizeofPdu

/-- `sizeof(struct pdu_wbuf)`. -/
def sizeofPduWbuf : Nat := alignUp offsetofTail wordBytes

/-- `create_pdu_wbuf`, in the block that `malloc` returned. -/
def createPduWbuf (block : Nat) (mem : Nat → UInt8) (maxdatalen : Nat) : WBuf where
  block := block
  tailoff := sizeofPduWbuf + maxdatalen
  off := 0
  pdu :=
    { service := mem 0, opcode := mem 1, len := 0
      data := (List.range maxdatalen).map fun i => mem (sizeofPdu + i)
      fits := Nat.zero_le _ }

/-- `init_pdu(&wbuf->buf.pdu, service, opcode)`. -/
def WBuf.initPdu (wbuf : WBuf) (service opcode : UInt8) : WBuf :=
  { wbuf with pdu := Bluetoothd.initPdu wbuf.pdu.data service opcode }

/-- `pdu_wbuf_tail`, as an offset in the block. -/
def pduWbufTail (wbuf : WBuf) : Nat := uadd offsetofTail wbuf.tailoff

/-- `build_pdu_wbuf_msg`, which every I/O file defines alike; the write of the `iovec` at `iovAt` goes
on, also outside of the block. -/
def buildPduWbufMsg (wbuf : WBuf) : Message :=
  { wbuf := wbuf, iovAt := pduWbufTail wbuf, iovLen := wbuf.off, fd := none }

def buildPduWbufMsgWithFd (wbuf : WBuf) (fd : Int) : Message :=
  { buildPduWbufMsg wbuf with fd := some fd }

/-! ## What a message transmits -/

/-- `pdu_wbuf_consumed`: `off` counts the bytes of the PDU that have been transmitted. -/
def WBuf.Consumed (wbuf : WBuf) : Prop := wbuf.off = pduSize wbuf.pdu

/-- The bytes that transmitting the message sends: `iov_len` of those from the PDU header on. -/
def Message.transmitted (msg : Message) : List UInt8 :=
  (Pdu.header msg.wbuf.pdu.service msg.wbuf.pdu.opcode msg.wbuf.pdu.len.toNat ++
    msg.wbuf.pdu.data).take msg.iovLen

/-- The message covers the PDU in the buffer: transmitting it sends the PDU and nothing else, and
leaves the buffer consumed. -/
structure Message.Covers (msg : Message) (wbuf : WBuf) : Prop where
  base : msg.wbuf = wbuf
  length : msg.iovLen = sizeofPdu + wbuf.pdu.len.toNat
  transmitted : msg.transmitted = wbuf.pdu.wire
  consumed : { wbuf with off := uadd wbuf.off msg.iovLen }.Consumed

/-- Nothing has ever advanced `off` when a message is built, so its length is 0. -/
theorem transmitted_buildPduWbufMsg {wbuf : WBuf} (hoff : wbuf.off = 0) (fd : Int) :
    (buildPduWbufMsg wbuf).transmitted = [] ∧ (buildPduWbufMsgWithFd wbuf fd).transmitted = [] := by
  unfold Message.transmitted buildPduWbufMsgWithFd buildPduWbufMsg
  rw [hoff]
  exact ⟨List.take_zero, List.take_zero⟩

/-- **No message covers its PDU.** Whatever was encoded in a buffer from `create_pdu_wbuf`, both
builders make a message that transmits nothing. -/
theorem message_never_covers (block : Nat) (mem : Nat → UInt8) (maxdatalen : Nat) (pdu : Pdu)
    (fd : Int) :
    let wbuf := { createPduWbuf block mem maxdatalen with pdu := pdu }
    ¬ (buildPduWbufMsg wbuf).Covers wbuf ∧ ¬ (buildPduWbufMsgWithFd wbuf fd).Covers wbuf ∧
      (buildPduWbufMsg wbuf).transmitted = [] ∧
      (buildPduWbufMsgWithFd wbuf fd).transmitted = [] := by
  intro wbuf
  have hlength : ¬ 0 = sizeofPdu + pdu.len.toNat := by
    rw [sizeofPdu]
    omega
  refine ⟨?_, ?_, transmitted_buildPduWbufMsg rfl fd⟩
  · intro h
    exact hlength h.length
  · intro h
    exact hlength h.length

end wbuf

/-- The reply to a command of BT_CORE has four bytes; its message sends none of them. -/
theorem reply_not_transmitted :
    let wbuf := (@createPduWbuf lp64 0 (fun _ => 0) 0).initPdu serviceBtCore 0x01
    @Pdu.wire lp64 wbuf.pdu = [1, 1, 0, 0] ∧
      @Message.transmitted lp64 (@buildPduWbufMsg lp64 wbuf) = [] ∧
      @Message.transmitted lp64 (@buildPduWbufMsgWithFd lp64 wbuf 7) = [] ∧
      ¬ @Message.Covers lp64 (@buildPduWbufMsg lp64 wbuf) wbuf := by
  refine ⟨by decide, by decide, by decide, ?_⟩
  intro h
  obtain ⟨-, -, htransmitted, -⟩ := h
  exact absurd htransmitted (by decide)

end Bluetoothd
