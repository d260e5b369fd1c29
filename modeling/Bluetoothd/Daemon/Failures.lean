import Bluetoothd.CmdSocket.Reassembly
import Bluetoothd.Daemon.Epoll
import Bluetoothd.Service.Reply

/-!
# Commands that fail

A client sends commands, and some of them fail: their service or opcode is not supported, their
payload is rejected, the operation does not succeed. `delivers_iff` says when all commands are
dispatched nevertheless, and every socket that a reply goes to stays open. Besides the reads that
`reassembles_iff` is about, it takes every command but the last to succeed: `handle_pdu` returns
from a failed command, if at all, with the result that makes `io_fd0_event_in` close the socket.
-/

namespace Bluetoothd

open Platform Buffer Transition

/-- Bytes that arrive on the command socket: what one `read()` returns, with the outside in which
the command that it completes is handled. -/
structure Arrival where
  bytes : List UInt8
  env : Env
  calls : Nat

def Daemon.rbufOf (d : Daemon) (fd : Nat) : Option RBuf := (d.loop.fdState fd).data.bind d.rbufs

/-- The socket `fd` is open and registered with the receive buffer `rbuf`, the `n`-th one. -/
structure OpenSocket (d : Daemon) (fd n : Nat) (rbuf : RBuf) : Prop where
  opened : fd ∈ d.opened
  epoll : fd ∈ d.loop.epoll
  func : (d.loop.fdState fd).func = some .ioFd0Event
  data : (d.loop.fdState fd).data = some n
  alloc : d.rbufs n = some rbuf
  buf : CmdBuffer rbuf

def Daemon.stored (d : Daemon) (n : Nat) (rbuf : RBuf) (world : World Handler) : Daemon :=
  { d.setRbuf n (some rbuf) with world := world }

variable {fd n : Nat} {d d' : Daemon} {rbuf rbuf' : RBuf}

theorem OpenSocket.rbufOf (h : OpenSocket d fd n rbuf) : d.rbufOf fd = some rbuf := by
  rw [Daemon.rbufOf, h.data]
  exact h.alloc

theorem OpenSocket.stored (h : OpenSocket d fd n rbuf) (hbuf : CmdBuffer rbuf')
    (world : World Handler) : OpenSocket (d.stored n rbuf' world) fd n rbuf' where
  opened := h.opened
  epoll := h.epoll
  func := h.func
  data := h.data
  alloc := Function.update_self n _ _
  buf := hbuf

section failures

variable [Platform]

def Arrival.event (fd : Nat) (a : Arrival) : EpollEvent :=
  ⟨fd, epollIn, ⟨none, .failed, true, .data a.bytes, handlePduResult a.env a.calls⟩⟩

/-- The daemon handles an arrival; it must have the socket in the epoll set still. -/
def receive (fd : Nat) (d : Daemon) (a : Arrival) : Option Daemon :=
  if fd ∈ d.loop.epoll then d.dispatch (a.event fd) else none

def Daemon.filled (d : Daemon) (fd : Nat) (a : Arrival) : Option RBuf :=
  (d.rbufOf fd).bind fun rbuf => rbuf.fill a.bytes

def completedPdu (fd : Nat) (d : Daemon) (a : Arrival) : Option Pdu :=
  if fd ∈ d.loop.epoll then
    (d.filled fd a).bind fun rbuf => if h : rbuf.HasPdu then some (rbuf.pdu h) else none
  else none

def dispatchedPdus (fd : Nat) : Daemon → List Arrival → List Pdu
  | _, [] => []
  | d, a :: arrivals =>
    (completedPdu fd d a).toList ++
      match receive fd d a with
      | none => []
      | some d' => dispatchedPdus fd d' arrivals

def WithinRequest (fd : Nat) (d : Daemon) (a : Arrival) : Prop :=
  ∀ rbuf ∈ d.rbufOf fd, a.bytes.length ≤ eventInCount rbuf

def WithinBlock (fd : Nat) (d : Daemon) (a : Arrival) : Prop := (d.filled fd a).isSome

/-- The command that the read completes, if it does, succeeds; and otherwise the buffer is not
full. -/
def Proceeds (fd : Nat) (d : Daemon) (a : Arrival) : Prop :=
  ∀ rbuf ∈ d.filled fd a,
    if h : rbuf.HasPdu then ((dispatch a.env (rbuf.pdu h)).run d.world).1 = .ok Status.success
    else ¬ rbuf.IsFull

/-- If the event returns and a reply was handed to `send_pdu`, the socket is open and registered. This
says nothing of an event that does not return. -/
def ReplyDeliverable (fd : Nat) (d : Daemon) (a : Arrival) : Prop :=
  ∀ d', receive fd d a = some d' → sentOf d'.world.log ≠ sentOf d.world.log →
    fd ∈ d'.opened ∧ fd ∈ d'.loop.epoll

/-- All commands are dispatched, byte for byte and in order, and the replies of all events that return
can be delivered. -/
structure Delivers (fd : Nat) (d : Daemon) (arrivals : List Arrival) (cmds : List Pdu) : Prop where
  dispatched : (dispatchedPdus fd d arrivals).map Pdu.wire = cmds.map Pdu.wire
  replies : Along (receive fd) (ReplyDeliverable fd) d arrivals

/-! ## One arrival -/

variable {a : Arrival} {arrivals : List Arrival}

theorem OpenSocket.filled (h : OpenSocket d fd n rbuf) (a : Arrival) :
    d.filled fd a = rbuf.fill a.bytes := by
  rw [Daemon.filled, h.rbufOf]
  rfl

theorem OpenSocket.completedPdu (h : OpenSocket d fd n rbuf) (hfill : rbuf.fill a.bytes = some rbuf') :
    Bluetoothd.completedPdu fd d a = if h : rbuf'.HasPdu then some (rbuf'.pdu h) else none := by
  rw [Bluetoothd.completedPdu, if_pos h.epoll, h.filled, hfill]
  rfl

theorem OpenSocket.receive (h : OpenSocket d fd n rbuf) (a : Arrival) :
    Bluetoothd.receive fd d a =
      (ioFd0EventIn (handlePduResult a.env a.calls) rbuf (.data a.bytes) d.world).map fun r =>
        if r.1 = .closed then (d.stored n r.2.1 r.2.2).close fd else d.stored n r.2.1 r.2.2 := by
  rw [Bluetoothd.receive, if_pos h.epoll]
  show d.event fd epollIn _ = _
  rw [Daemon.event_eq, h.func, h.data]
  show ioFd0Event fd epollIn n _ d = _
  rw [ioFd0Event_in n (by decide) (by decide), h.alloc]
  rfl

theorem OpenSocket.receive_overflow (h : OpenSocket d fd n rbuf) (hfill : rbuf.fill a.bytes = none) :
    Bluetoothd.receive fd d a = none ∧ Bluetoothd.completedPdu fd d a = none := by
  rw [h.receive, Bluetoothd.completedPdu, if_pos h.epoll, h.filled]
  simp [ioFd0EventIn, hfill]

theorem OpenSocket.receive_partial (h : OpenSocket d fd n rbuf)
    (hfill : rbuf.fill a.bytes = some rbuf') (hpdu : ¬ rbuf'.HasPdu) :
    Bluetoothd.completedPdu fd d a = none ∧
      Bluetoothd.receive fd d a = some
        (if rbuf'.IsFull then (d.stored n rbuf' d.world).close fd else d.stored n rbuf' d.world) := by
  rw [h.receive, h.completedPdu hfill, dif_neg hpdu]
  by_cases hfull : rbuf'.IsFull <;> simp [ioFd0EventIn, hfill, hpdu, hfull]

theorem handlePduResult_success {env : Env} {calls : Nat} {cmd : Pdu} {w w' : World Handler}
    (h : (dispatch env cmd).run w = (.ok Status.success, w')) :
    handlePduResult env calls cmd w = some (0, w') := by
  unfold handlePduResult
  rw [run_handlePdu_success h]

theorem handlePduResult_failed {env : Env} {calls : Nat} {cmd : Pdu} {w w' : World Handler}
    {res : Int} (hfailed : ((dispatch env cmd).run w).1 ≠ .ok Status.success)
    (h : handlePduResult env calls cmd w = some (res, w')) :
    res < 0 ∧ sentOf w'.log = sentOf w.log := by
  unfold handlePduResult at h
  rcases hrun : (handlePdu env calls cmd).run w with ⟨fault | res', w₁⟩
  · simp [hrun] at h
  · simp only [hrun, Option.some.injEq, Prod.mk.injEq] at h
    obtain ⟨rfl, rfl⟩ := h
    obtain ⟨rfl, hsent⟩ := handlePdu_returns_failed hfailed hrun
    exact ⟨by decide, hsent⟩

theorem OpenSocket.receive_success (h : OpenSocket d fd n rbuf)
    (hfill : rbuf.fill a.bytes = some rbuf') (hpdu : rbuf'.HasPdu) {w' : World Handler}
    (hsuccess : (dispatch a.env (rbuf'.pdu hpdu)).run d.world = (.ok Status.success, w')) :
    Bluetoothd.receive fd d a = some (d.stored n rbuf'.reset w') := by
  rw [h.receive]
  simp [ioFd0EventIn, hfill, hpdu, handlePduResult_success hsuccess]

/-- A command that fails has not been answered when its event returns, and the socket is closed. -/
theorem OpenSocket.receive_failed (h : OpenSocket d fd n rbuf)
    (hfill : rbuf.fill a.bytes = some rbuf') (hpdu : rbuf'.HasPdu)
    (hfailed : ((dispatch a.env (rbuf'.pdu hpdu)).run d.world).1 ≠ .ok Status.success)
    (hd' : Bluetoothd.receive fd d a = some d') :
    fd ∉ d'.loop.epoll ∧ sentOf d'.world.log = sentOf d.world.log := by
  rw [h.receive] at hd'
  rcases hresult : handlePduResult a.env a.calls (rbuf'.pdu hpdu) d.world with _ | ⟨res, w'⟩
  · simp [ioFd0EventIn, hfill, hpdu, hresult] at hd'
  · obtain ⟨hneg, hsent⟩ := handlePduResult_failed hfailed hresult
    simp only [ioFd0EventIn, hfill, hpdu, hresult, hneg, Option.bind_eq_bind, Option.bind_some,
      dite_true, if_true, Option.pure_def, Option.map_some, Option.some.injEq] at hd'
    subst hd'
    exact ⟨Finset.notMem_erase fd _, hsent⟩

theorem OpenSocket.receive_cases (h : OpenSocket d fd n rbuf)
    (hd' : Bluetoothd.receive fd d a = some d') :
    (∃ rbuf', OpenSocket d' fd n rbuf') ∨
      fd ∉ d'.loop.epoll ∧ sentOf d'.world.log = sentOf d.world.log := by
  rcases hfill : rbuf.fill a.bytes with _ | rbuf'
  · simp [(h.receive_overflow hfill).1] at hd'
  have hbuf := h.buf.fill hfill
  by_cases hpdu : rbuf'.HasPdu
  · rcases hdispatch : (dispatch a.env (rbuf'.pdu hpdu)).run d.world with ⟨out, w'⟩
    by_cases hsuccess : out = .ok Status.success
    · rw [hsuccess] at hdispatch
      rw [h.receive_success hfill hpdu hdispatch, Option.some.injEq] at hd'
      exact .inl ⟨rbuf'.reset, hd' ▸ h.stored hbuf.reset w'⟩
    · refine .inr (h.receive_failed hfill hpdu ?_ hd')
      rwa [hdispatch]
  · rw [(h.receive_partial hfill hpdu).2, Option.some.injEq] at hd'
    by_cases hfull : rbuf'.IsFull
    · rw [if_pos hfull] at hd'
      subst hd'
      exact .inr ⟨Finset.notMem_erase fd _, rfl⟩
    · rw [if_neg hfull] at hd'
      exact .inl ⟨rbuf', hd' ▸ h.stored hbuf d.world⟩

/-! ## Runs of arrivals -/

theorem OpenSocket.along_replies (h : OpenSocket d fd n rbuf) (arrivals : List Arrival) :
    Along (Bluetoothd.receive fd) (ReplyDeliverable fd) d arrivals := by
  refine along_of_invariant (I := fun d => fd ∉ d.loop.epoll ∨ ∃ rbuf, OpenSocket d fd n rbuf)
    (L := fun _ _ => True) ?_ ?_ (.inr ⟨rbuf, h⟩) (along_of_forall (fun _ _ => trivial) d arrivals)
  · intro d a d' hinv _ hd'
    rcases hinv with hclosed | ⟨rbuf, h⟩
    · simp [Bluetoothd.receive, hclosed] at hd'
    · exact (h.receive_cases hd').elim .inr fun hclosed => .inl hclosed.1
  · intro d a hinv _ d' hd' hsent
    rcases hinv with hclosed | ⟨rbuf, h⟩
    · simp [Bluetoothd.receive, hclosed] at hd'
    · rcases h.receive_cases hd' with ⟨rbuf', h'⟩ | ⟨-, hsame⟩
      · exact ⟨h'.opened, h'.epoll⟩
      · exact absurd hsame hsent

theorem dispatchedPdus_closed (h : fd ∉ d.loop.epoll) : dispatchedPdus fd d arrivals = [] := by
  cases arrivals with
  | nil => rfl
  | cons a arrivals => simp [dispatchedPdus, completedPdu, receive, h]

theorem OpenSocket.dispatched_overflow (h : OpenSocket d fd n rbuf)
    (hfill : rbuf.fill a.bytes = none) : dispatchedPdus fd d (a :: arrivals) = [] := by
  obtain ⟨hnone, hpdu⟩ := h.receive_overflow hfill
  simp [dispatchedPdus, hnone, hpdu]

theorem OpenSocket.dispatched_partial (h : OpenSocket d fd n rbuf)
    (hfill : rbuf.fill a.bytes = some rbuf') (hpdu : ¬ rbuf'.HasPdu) :
    dispatchedPdus fd d (a :: arrivals) =
      if rbuf'.IsFull then [] else dispatchedPdus fd (d.stored n rbuf' d.world) arrivals := by
  obtain ⟨hnone, hsome⟩ := h.receive_partial hfill hpdu
  rw [dispatchedPdus, hnone, hsome]
  by_cases hfull : rbuf'.IsFull
  · simp only [hfull, if_true, Option.toList_none, List.nil_append]
    exact dispatchedPdus_closed (Finset.notMem_erase fd _)
  · simp [hfull]

theorem OpenSocket.dispatched_complete (h : OpenSocket d fd n rbuf)
    (hfill : rbuf.fill a.bytes = some rbuf') (hpdu : rbuf'.HasPdu) {out : Except Fault Status}
    {w' : World Handler} (hdispatch : (dispatch a.env (rbuf'.pdu hpdu)).run d.world = (out, w')) :
    dispatchedPdus fd d (a :: arrivals) = rbuf'.pdu hpdu ::
      if out = .ok Status.success then dispatchedPdus fd (d.stored n rbuf'.reset w') arrivals
      else [] := by
  rw [dispatchedPdus, h.completedPdu hfill, dif_pos hpdu]
  by_cases hsuccess : out = .ok Status.success
  · rw [hsuccess] at hdispatch
    simp [h.receive_success hfill hpdu hdispatch, hsuccess]
  rcases hreceive : Bluetoothd.receive fd d a with _ | d'
  · simp [hsuccess]
  · have hclosed := (h.receive_failed hfill hpdu (by rwa [hdispatch]) hreceive).1
    simp [dispatchedPdus_closed hclosed, hsuccess]

theorem OpenSocket.dispatched_overrun (h : OpenSocket d fd n rbuf) (hhdr : sizeofPdu ≤ rbuf.len)
    (hover : Overrun rbuf) : dispatchedPdus fd d arrivals = [] := by
  induction arrivals generalizing d rbuf with
  | nil => rfl
  | cons a arrivals ih =>
    rcases hfill : rbuf.fill a.bytes with _ | rbuf'
    · exact h.dispatched_overflow hfill
    · obtain ⟨hnone, hhdr', hover'⟩ := hover.fill h.buf hhdr hfill
      rw [h.dispatched_partial hfill hnone, ih (h.stored (h.buf.fill hfill) d.world) hhdr' hover',
        ite_self]

theorem OpenSocket.dispatched_crosses {pdu : Pdu} (h : OpenSocket d fd n rbuf)
    (hholds : Holds rbuf pdu) (hpast : pdu.wire.length < rbuf.len + a.bytes.length)
    (hcount : a.bytes.length ≤ eventInCount rbuf) : dispatchedPdus fd d (a :: arrivals) = [] := by
  rcases hfill : rbuf.fill a.bytes with _ | rbuf'
  · exact h.dispatched_overflow hfill
  · obtain ⟨hnone, hhdr, hover⟩ :=
      hholds.crosses h.buf (header_of_crosses hpast hcount) hpast hfill
    rw [h.dispatched_partial hfill hnone,
      (h.stored (h.buf.fill hfill) d.world).dispatched_overrun hhdr hover, ite_self]

/-- Every read stays within the block, and every arrival but the last proceeds. -/
def Passes (fd : Nat) (d : Daemon) (arrivals : List Arrival) : Prop :=
  Along (receive fd) (WithinBlock fd) d arrivals ∧ Along (receive fd) (Proceeds fd) d arrivals.dropLast

theorem passes_singleton : Passes fd d [a] ↔ WithinBlock fd d a := by
  simp [Passes, Along]

theorem passes_cons (hne : arrivals ≠ []) : Passes fd d (a :: arrivals) ↔
    WithinBlock fd d a ∧ Proceeds fd d a ∧ ∀ d', receive fd d a = some d' → Passes fd d' arrivals := by
  rw [Passes, List.dropLast_cons_of_ne_nil hne]
  constructor
  · intro h
    obtain ⟨⟨hblock, hblocks⟩, hproceeds, hrest⟩ := h
    exact ⟨hblock, hproceeds, fun d' hd' => ⟨hblocks d' hd', hrest d' hd'⟩⟩
  · intro h
    obtain ⟨hblock, hproceeds, hrest⟩ := h
    exact ⟨⟨hblock, fun d' hd' => (hrest d' hd').1⟩, hproceeds, fun d' hd' => (hrest d' hd').2⟩

theorem OpenSocket.passes_overflow (h : OpenSocket d fd n rbuf) (hfill : rbuf.fill a.bytes = none) :
    ¬ Passes fd d (a :: arrivals) := by
  intro hpasses
  have hblock : WithinBlock fd d a := hpasses.1.1
  simp [WithinBlock, h.filled, hfill] at hblock

theorem OpenSocket.passes_partial (h : OpenSocket d fd n rbuf)
    (hfill : rbuf.fill a.bytes = some rbuf') (hpdu : ¬ rbuf'.HasPdu) (hne : arrivals ≠ []) :
    Passes fd d (a :: arrivals) ↔
      ¬ rbuf'.IsFull ∧ Passes fd (d.stored n rbuf' d.world) arrivals := by
  rw [passes_cons hne, (h.receive_partial hfill hpdu).2]
  have hblock : WithinBlock fd d a := by simp [WithinBlock, h.filled, hfill]
  have hproceeds : Proceeds fd d a ↔ ¬ rbuf'.IsFull := by simp [Proceeds, h.filled, hfill, hpdu]
  rw [hproceeds, and_iff_right hblock]
  refine and_congr_right fun hfull => ?_
  simp [hfull]

theorem OpenSocket.passes_complete (h : OpenSocket d fd n rbuf)
    (hfill : rbuf.fill a.bytes = some rbuf') (hpdu : rbuf'.HasPdu) {out : Except Fault Status}
    {w' : World Handler} (hdispatch : (dispatch a.env (rbuf'.pdu hpdu)).run d.world = (out, w'))
    (hne : arrivals ≠ []) :
    Passes fd d (a :: arrivals) ↔
      out = .ok Status.success ∧ Passes fd (d.stored n rbuf'.reset w') arrivals := by
  rw [passes_cons hne]
  have hblock : WithinBlock fd d a := by simp [WithinBlock, h.filled, hfill]
  have hproceeds : Proceeds fd d a ↔ out = .ok Status.success := by
    simp [Proceeds, h.filled, hfill, hpdu, hdispatch]
  rw [hproceeds, and_iff_right hblock]
  refine and_congr_right fun hsuccess => ?_
  rw [hsuccess] at hdispatch
  simp [h.receive_success hfill hpdu hdispatch]

/-- What is dispatched of a stream whose first PDU has been received in part. The induction is on
the arrivals; the next one stays inside that PDU, ends with it or goes past its end. -/
theorem OpenSocket.dispatched_iff {pdu : Pdu} {cmds : List Pdu} (h : OpenSocket d fd n rbuf)
    (hholds : Holds rbuf pdu) (hlt : rbuf.len < pdu.wire.length)
    (hne : ∀ a ∈ arrivals, a.bytes ≠ [])
    (hread : Along (Bluetoothd.receive fd) (WithinRequest fd) d arrivals)
    (hstream : (arrivals.map Arrival.bytes).flatten
      = pdu.wire.drop rbuf.len ++ (cmds.map Pdu.wire).flatten) :
    (dispatchedPdus fd d arrivals).map Pdu.wire = (pdu :: cmds).map Pdu.wire ↔
      Cut (arrivals.map Arrival.bytes) (pdu.wire.drop rbuf.len :: cmds.map Pdu.wire) ∧
        Passes fd d arrivals := by
  induction arrivals generalizing d rbuf pdu cmds with
  | nil =>
    have hlen := congrArg List.length hstream
    simp at hlen
    omega
  | cons a arrivals ih =>
    have hword : pdu.wire.drop rbuf.len ≠ [] := by simpa using hlt
    have hne' : ∀ a ∈ arrivals, a.bytes ≠ [] := fun b hb => hne b (List.mem_cons_of_mem a hb)
    have hchunks : ∀ chunk ∈ arrivals.map Arrival.bytes, chunk ≠ [] := by simpa using hne'
    rw [List.map_cons, List.flatten_cons] at hstream
    simp only [List.map_cons]
    by_cases hpast : pdu.wire.length < rbuf.len + a.bytes.length
    · rw [h.dispatched_crosses hholds hpast (hread.1 rbuf h.rbufOf)]
      refine iff_of_false (by simp) fun hcut => not_cut_crosses hword ?_ hcut.1
      rw [List.length_drop]
      omega
    rcases hfill : rbuf.fill a.bytes with _ | rbuf'
    · rw [h.dispatched_overflow hfill]
      exact iff_of_false (by simp) fun hpasses => h.passes_overflow hfill hpasses.2
    have hbuf' := h.buf.fill hfill
    obtain ⟨hhead, hdrop, hrest⟩ := next_part hstream (by omega)
    obtain ⟨hlen', hholds'⟩ := hholds.fill h.buf hhead hfill
    rw [← hlen'] at hdrop hrest
    rw [hdrop]
    by_cases hend : rbuf'.len = pdu.wire.length
    · -- the PDU is complete
      obtain ⟨hpdu, hwire⟩ := hholds'.hasPdu hend
      rw [hend, List.drop_length, List.append_nil, cut_ends (hne a List.mem_cons_self) hchunks]
      rw [hend, List.drop_length, List.nil_append] at hrest
      rcases hdispatch : (dispatch a.env (rbuf'.pdu hpdu)).run d.world with ⟨out, w'⟩
      rw [h.dispatched_complete hfill hpdu hdispatch, List.map_cons, hwire, List.cons.injEq,
        and_iff_right rfl]
      cases cmds with
      | nil =>
        obtain rfl := List.map_eq_nil_iff.mp (eq_nil_of_flatten hchunks hrest)
        refine iff_of_true (by simp [dispatchedPdus]) ⟨cut_nil, passes_singleton.mpr ?_⟩
        simp [WithinBlock, h.filled, hfill]
      | cons cmd cmds =>
        have hmore : arrivals ≠ [] := by
          intro hnil
          have hlen := congrArg List.length hrest
          simp [hnil, cmd.length_wire, sizeofPdu] at hlen
          omega
        rw [h.passes_complete hfill hpdu hdispatch hmore]
        by_cases hsuccess : out = .ok Status.success
        · rw [if_pos hsuccess, and_iff_right hsuccess]
          rw [hsuccess] at hdispatch
          refine ih (h.stored hbuf'.reset w') (Holds.of_empty rfl cmd) ?_ hne'
            (hread.2 _ (h.receive_success hfill hpdu hdispatch)) hrest
          show 0 < _
          rw [cmd.length_wire, sizeofPdu]
          omega
        · simp [hsuccess]
    · -- a part of the PDU is missing
      have hinside : rbuf'.len < pdu.wire.length := by omega
      have hnone := hholds'.not_hasPdu hinside
      have hmore : arrivals ≠ [] := by
        intro hnil
        rw [hnil] at hrest
        have hlen := congrArg List.length hrest
        simp at hlen
        omega
      rw [cut_inside (by simpa using hinside), h.dispatched_partial hfill hnone,
        h.passes_partial hfill hnone hmore]
      by_cases hfull : rbuf'.IsFull
      · simp [hfull]
      · rw [if_neg hfull, and_iff_right hfull]
        refine ih (h.stored hbuf' d.world) hholds' hinside hne' (hread.2 _ ?_) hrest
        rw [(h.receive_partial hfill hnone).2, if_neg hfull]

/-- **Commands that fail.** Of a stream of commands on an open command socket, all are dispatched
in order and the replies can be delivered if and only if the reads are cut at every PDU boundary,
stay within the block of the buffer, and do not fill it with a part of a PDU, and every command but
the last succeeds. -/
theorem delivers_iff {cmds : List Pdu} (h : OpenSocket d fd n rbuf) (hempty : rbuf.len = 0)
    (hne : ∀ a ∈ arrivals, a.bytes ≠ [])
    (hread : Along (receive fd) (WithinRequest fd) d arrivals)
    (hstream : (arrivals.map Arrival.bytes).flatten = (cmds.map Pdu.wire).flatten) :
    Delivers fd d arrivals cmds ↔
      Cut (arrivals.map Arrival.bytes) (cmds.map Pdu.wire) ∧ Passes fd d arrivals := by
  have hreplies := h.along_replies arrivals
  have hdelivers : Delivers fd d arrivals cmds ↔
      (dispatchedPdus fd d arrivals).map Pdu.wire = cmds.map Pdu.wire :=
    ⟨fun hx => hx.dispatched, fun hx => ⟨hx, hreplies⟩⟩
  rw [hdelivers]
  cases cmds with
  | nil =>
    have hchunks : ∀ chunk ∈ arrivals.map Arrival.bytes, chunk ≠ [] := by simpa using hne
    obtain rfl := List.map_eq_nil_iff.mp (eq_nil_of_flatten hchunks hstream)
    exact iff_of_true rfl ⟨cut_nil, trivial, trivial⟩
  | cons cmd cmds =>
    have hdrop : cmd.wire.drop rbuf.len = cmd.wire := by rw [hempty, List.drop_zero]
    have hiff := h.dispatched_iff (Holds.of_empty hempty cmd) ?_ hne hread (by rw [hdrop]; exact hstream)
    · rwa [hdrop] at hiff
    · rw [hempty, cmd.length_wire, sizeofPdu]
      omega

instance (fd : Nat) (d : Daemon) : DecidablePred (WithinRequest fd d) :=
  fun a => inferInstanceAs (Decidable (∀ rbuf ∈ d.rbufOf fd, a.bytes.length ≤ eventInCount rbuf))

instance (fd : Nat) (d : Daemon) : DecidablePred (WithinBlock fd d) :=
  fun a => inferInstanceAs (Decidable ((d.filled fd a).isSome = true))

instance (fd : Nat) (d : Daemon) : DecidablePred (Proceeds fd d) :=
  fun a => inferInstanceAs (Decidable (∀ rbuf ∈ d.filled fd a,
    if h : rbuf.HasPdu then ((dispatch a.env (rbuf.pdu h)).run d.world).1 = .ok Status.success
    else ¬ rbuf.IsFull))

end failures

/-! ## One client -/

def oneClient : List EpollEvent := [⟨3, epollIn, @Outside.obliging lp64 (some 5) .error⟩]

/-- What `read()` returns, in an outside that supports everything. -/
def obligingArrivals (chunks : List (List UInt8)) : List Arrival :=
  chunks.map fun bytes => ⟨bytes, .obliging, 0⟩

/-- A command for a service that is not supported, and a header-only one for the control service. -/
def unsupportedFirst : List Pdu := [initPdu [] 0x09 0x01, initPdu [] serviceCore 0x02]

/-- `UNREGISTER_MODULE`, and then the command that is not supported. -/
def unsupportedLast : List Pdu :=
  [⟨serviceCore, 0x02, 1, [serviceBtSock], by decide⟩, initPdu [] 0x09 0x01]

/-- What is read of these, while there is memory for the reply to the first one only. -/
def unsupportedLastArrivals : List Arrival :=
  obligingArrivals [[serviceCore, 0x02, 1, 0], [serviceBtSock]] ++
    [⟨[0x09, 0x01, 0, 0], { Env.obliging with malloc := fun _ => .failed }, 0⟩]

set_option maxRecDepth 10000 in
/-- After a command that is not supported, the next one is not dispatched. -/
theorem unsupported_ends_session :
    let arrivals := obligingArrivals [[0x09, 0x01, 0, 0], [serviceCore, 0x02, 0, 0]]
    ∃ d rbuf, run (@Daemon.dispatch lp64) (.init 4 3) oneClient = some d ∧ OpenSocket d 5 0 rbuf ∧
      rbuf.len = 0 ∧ Along (@receive lp64 5) (@WithinRequest lp64 5) d arrivals ∧
      arrivals.map Arrival.bytes = unsupportedFirst.map (@Pdu.wire lp64) ∧
      ¬ @Delivers lp64 5 d arrivals unsupportedFirst := by
  refine ⟨_, _, rfl, ⟨by decide, by decide, rfl, rfl, rfl, ⟨rfl, by decide⟩⟩, rfl,
    by decide +kernel, rfl, ?_⟩
  intro h
  obtain ⟨hdispatched, -⟩ := h
  have hlen := congrArg List.length hdispatched
  revert hlen
  decide +kernel

set_option maxRecDepth 10000 in
theorem delivers_iff_unsupportedLast :
    ∃ d, run (@Daemon.dispatch lp64) (.init 4 3) oneClient = some d ∧
      (run (@receive lp64 5) d unsupportedLastArrivals).isSome ∧
      @Delivers lp64 5 d unsupportedLastArrivals unsupportedLast := by
  refine ⟨_, rfl, rfl, ?_⟩
  refine (@delivers_iff 5 0 _ _ lp64 unsupportedLastArrivals unsupportedLast
    ⟨by decide, by decide, rfl, rfl, rfl, ⟨rfl, by decide⟩⟩ rfl (by decide) (by decide +kernel)
    (by decide)).mpr ⟨⟨[[_, _], [_]], rfl, rfl⟩, ?_⟩
  unfold Passes
  decide +kernel

end Bluetoothd
