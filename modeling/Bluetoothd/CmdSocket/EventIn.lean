import Bluetoothd.PduBuf
import Bluetoothd.Lib.Transition

/-!
# Readable events on the command socket (`bt-io.c`)

`io_fd0_event_in` issues one `read()` into the receive buffer of the socket and hands the PDU to
`handle_pdu` when the buffer has one. It is parametric here in `handle_pdu` and the state that works
on, and its input is what `read()` returns.

A `Session` is the life of one receive buffer: the buffer, the PDUs handed to `handle_pdu` so far,
and the state of the handlers.
-/

namespace Bluetoothd

open Platform Buffer

variable [Platform] {σ : Type}

/-- What `read()` returns: an error that `TEMP_FAILURE_RETRY` passes on (after `EINTR` it reads again),
or the bytes it stored (none at end-of-file). -/
inductive ReadResult where
  | error
  | data (bytes : List UInt8)

inductive Fate where
  | open
  | closed
  deriving DecidableEq

/-- The count that `io_fd0_event_in` passes to `read()`. -/
def eventInCount (rbuf : RBuf) : Nat :=
  if rbuf.len < sizeofPdu then
    usub sizeofPdu rbuf.len -- read PDU header
  else
    usub (usub rbuf.len sizeofPdu) rbuf.len -- read PDU data

/-- `io_fd0_event_in`; `none` when `read()` writes past the block of the buffer or `handle_pdu`
does not return. -/
def ioFd0EventIn (handlePdu : Pdu → σ → Option (Int × σ)) (rbuf : RBuf) (res : ReadResult) (s : σ) :
    Option (Fate × RBuf × σ) :=
  match res with
  | .error => some (.closed, rbuf, s)
  | .data bytes => do
    let rbuf ← rbuf.fill bytes
    if h : rbuf.HasPdu then
      let (status, s) ← handlePdu (rbuf.pdu h) s
      if status < 0 then
        return (.closed, rbuf, s)
      else
        return (.open, rbuf.reset, s)
    else if rbuf.IsFull then
      return (.closed, rbuf, s) -- buffer too small for PDU
    else
      return (.open, rbuf, s)

/-! ## Sessions -/

/-- A receive buffer with what became of it. -/
structure Session (σ : Type) where
  rbuf : RBuf
  dispatched : List Pdu
  handlers : σ

/-- `handle_pdu`, recording the PDUs it is handed. -/
def recording (handlePdu : Pdu → σ → Option (Int × σ)) (pdu : Pdu) :
    List Pdu × σ → Option (Int × List Pdu × σ) :=
  fun (dispatched, s) => do
    let (status, s) ← handlePdu pdu s
    return (status, dispatched ++ [pdu], s)

def Session.event (handlePdu : Pdu → σ → Option (Int × σ)) (s : Session σ) (res : ReadResult) :
    Option (Fate × Session σ) := do
  let (fate, rbuf, dispatched, handlers) ←
    ioFd0EventIn (recording handlePdu) s.rbuf res (s.dispatched, s.handlers)
  return (fate, ⟨rbuf, dispatched, handlers⟩)

/-- One event that leaves the socket open, so that more events can follow. -/
def Session.step (handlePdu : Pdu → σ → Option (Int × σ)) (s : Session σ) (res : ReadResult) :
    Option (Session σ) := do
  let (fate, s) ← s.event handlePdu res
  if fate = .open then some s else none

/-- The payload limit that `setup_cmd_socket` passes to `create_pdu_rbuf`. -/
def maxCmdLen : Nat := 1024

/-- The session of a socket just set up, on a block with contents `mem`. -/
def Session.Fresh (s : Session σ) : Prop :=
  ∃ mem, createPduRbuf maxCmdLen (.block mem false) = some s.rbuf ∧ s.dispatched = []

def WithinCount (s : Session σ) : ReadResult → Prop
  | .error => True
  | .data bytes => bytes.length ≤ eventInCount s.rbuf

instance (s : Session σ) : DecidablePred (WithinCount s)
  | .error => .isTrue trivial
  | .data bytes => inferInstanceAs (Decidable (bytes.length ≤ eventInCount s.rbuf))

/-! ## What one event does -/

variable {handlePdu : Pdu → σ → Option (Int × σ)} {s s' : Session σ}

theorem eventInCount_header {rbuf : RBuf} (h : rbuf.len < sizeofPdu) :
    eventInCount rbuf = sizeofPdu - rbuf.len := by
  have hsize := ulongSize_ge
  rw [eventInCount, if_pos h, usub_of_le (le_of_lt h) (by rw [sizeofPdu]; omega)]

/-- After the header, the requested count wraps around. -/
theorem eventInCount_data {rbuf : RBuf} (h : sizeofPdu ≤ rbuf.len) (hlen : rbuf.len < 2 ^ 32) :
    eventInCount rbuf = ulongSize - sizeofPdu := by
  have hsize := ulongSize_ge
  rw [sizeofPdu] at h
  rw [eventInCount, if_neg (by rw [sizeofPdu]; omega), sizeofPdu, usub_of_le h (by omega),
    usub_of_lt (by omega) (by omega)]
  omega

/-- What one event can do: a read error closes the socket; otherwise the bytes were stored, and
either the buffer has no PDU, or its PDU was handed to `handle_pdu`. -/
theorem Session.event_eq_some {res : ReadResult} {fate : Fate}
    (h : s.event handlePdu res = some (fate, s')) :
    (res = .error ∧ fate = .closed ∧ s' = s) ∨
    ∃ bytes rbuf', res = .data bytes ∧ s.rbuf.fill bytes = some rbuf' ∧
      ((¬ rbuf'.HasPdu ∧ fate = (if rbuf'.IsFull then .closed else .open) ∧
          s' = ⟨rbuf', s.dispatched, s.handlers⟩) ∨
        ∃ (hpdu : rbuf'.HasPdu) (status : Int) (handlers : σ),
          handlePdu (rbuf'.pdu hpdu) s.handlers = some (status, handlers) ∧
          ((status < 0 ∧ fate = .closed ∧
              s' = ⟨rbuf', s.dispatched ++ [rbuf'.pdu hpdu], handlers⟩) ∨
            (0 ≤ status ∧ fate = .open ∧
              s' = ⟨rbuf'.reset, s.dispatched ++ [rbuf'.pdu hpdu], handlers⟩))) := by
  simp only [Session.event, Option.bind_eq_bind, Option.bind_eq_some_iff, Option.pure_def,
    Option.some.injEq, Prod.mk.injEq] at h
  obtain ⟨⟨fate, rbuf'', ds, hs⟩, h, rfl, rfl⟩ := h
  rcases res with _ | bytes
  · left
    simp only [ioFd0EventIn, Option.some.injEq, Prod.mk.injEq] at h
    obtain ⟨rfl, rfl, rfl, rfl⟩ := h
    exact ⟨rfl, rfl, rfl⟩
  right
  simp only [ioFd0EventIn, Option.bind_eq_bind, Option.bind_eq_some_iff] at h
  obtain ⟨rbuf', hfill, h⟩ := h
  refine ⟨bytes, rbuf', rfl, hfill, ?_⟩
  by_cases hpdu : rbuf'.HasPdu
  · right
    rw [dif_pos hpdu] at h
    simp only [recording, Option.bind_eq_bind, Option.bind_eq_some_iff, Option.pure_def,
      Option.some.injEq] at h
    obtain ⟨_, ⟨⟨status, handlers⟩, hhandle, rfl⟩, h⟩ := h
    refine ⟨hpdu, status, handlers, hhandle, ?_⟩
    by_cases hstatus : status < 0
    · simp only [hstatus, if_true, Option.some.injEq, Prod.mk.injEq] at h
      obtain ⟨rfl, rfl, rfl, rfl⟩ := h
      exact .inl ⟨hstatus, rfl, rfl⟩
    · simp only [hstatus, if_false, Option.some.injEq, Prod.mk.injEq] at h
      obtain ⟨rfl, rfl, rfl, rfl⟩ := h
      exact .inr ⟨by omega, rfl, rfl⟩
  · left
    rw [dif_neg hpdu] at h
    refine ⟨hpdu, ?_⟩
    by_cases hfull : rbuf'.IsFull
    · simp only [hfull, if_true, Option.pure_def, Option.some.injEq, Prod.mk.injEq] at h ⊢
      obtain ⟨rfl, rfl, rfl, rfl⟩ := h
      exact ⟨rfl, rfl⟩
    · simp only [hfull, if_false, Option.pure_def, Option.some.injEq, Prod.mk.injEq] at h ⊢
      obtain ⟨rfl, rfl, rfl, rfl⟩ := h
      exact ⟨rfl, rfl⟩

theorem Session.step_eq_some_iff {res : ReadResult} :
    s.step handlePdu res = some s' ↔ s.event handlePdu res = some (.open, s') := by
  simp only [Session.step, Option.bind_eq_bind, Option.bind_eq_some_iff]
  constructor
  · intro h
    obtain ⟨⟨fate, t⟩, hev, hopen⟩ := h
    split_ifs at hopen with hfate
    obtain rfl : fate = .open := hfate
    obtain rfl : t = s' := Option.some_inj.mp hopen
    exact hev
  · intro hev
    exact ⟨_, hev, if_pos rfl⟩

theorem Session.step_eq_some {bytes : List UInt8} (h : s.step handlePdu (.data bytes) = some s') :
    ∃ rbuf', s.rbuf.fill bytes = some rbuf' ∧
      ((¬ rbuf'.HasPdu ∧ s' = ⟨rbuf', s.dispatched, s.handlers⟩) ∨
        ∃ (hpdu : rbuf'.HasPdu) (handlers : σ),
          s' = ⟨rbuf'.reset, s.dispatched ++ [rbuf'.pdu hpdu], handlers⟩) := by
  rw [Session.step_eq_some_iff] at h
  rcases Session.event_eq_some h with ⟨hres, -⟩ | ⟨bytes', rbuf', hres, hfill, hcase⟩
  · simp at hres
  obtain rfl : bytes = bytes' := by simpa using hres
  refine ⟨rbuf', hfill, ?_⟩
  rcases hcase with ⟨hpdu, -, rfl⟩ | ⟨hpdu, status, handlers, -, ⟨-, hfate, -⟩ | ⟨-, -, rfl⟩⟩
  · exact .inl ⟨hpdu, rfl⟩
  · simp at hfate
  · exact .inr ⟨hpdu, handlers, rfl⟩

theorem Session.step_partial {bytes : List UInt8} {rbuf' : RBuf}
    (hfill : s.rbuf.fill bytes = some rbuf') (hpdu : ¬ rbuf'.HasPdu) (hfull : ¬ rbuf'.IsFull) :
    s.step handlePdu (.data bytes) = some ⟨rbuf', s.dispatched, s.handlers⟩ := by
  simp [Session.step, Session.event, ioFd0EventIn, hfill, hpdu, hfull]

theorem Session.step_complete {bytes : List UInt8} {rbuf' : RBuf} {status : Int} {handlers : σ}
    (hfill : s.rbuf.fill bytes = some rbuf') (hpdu : rbuf'.HasPdu)
    (hhandle : handlePdu (rbuf'.pdu hpdu) s.handlers = some (status, handlers))
    (hstatus : 0 ≤ status) :
    s.step handlePdu (.data bytes)
      = some ⟨rbuf'.reset, s.dispatched ++ [rbuf'.pdu hpdu], handlers⟩ := by
  have hneg : ¬ status < 0 := by omega
  simp [Session.step, Session.event, ioFd0EventIn, hfill, hpdu, recording, hhandle, hneg]

end Bluetoothd
