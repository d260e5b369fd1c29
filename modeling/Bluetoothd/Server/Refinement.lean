import Bluetoothd.CmdSocket.Stream
import Bluetoothd.Daemon.Startup
import Bluetoothd.Lib.Simulation
import Bluetoothd.Server.Commands
import Bluetoothd.Server.Events

/-!
# The daemon is the server

`Daemon.view` forgets the descriptors, the table of the event loop and the buffers of a daemon, and
`Daemon.input` says what an event means to the server. `simulation_server` is the refinement: a legal
event takes the daemon to a state whose view is the next state of the server, and it is never finished
exactly when the server has no next state.

Two things are taken to do no harm: the `iovec` of each reply, which is written behind its block, and
the assertions, which are compiled out.
-/

namespace Bluetoothd

open Platform Buffer Transition

/-! ## The command in a receive buffer -/

namespace RBuf

variable [Platform] {rbuf : RBuf} {bytes : List UInt8}

theorem fill_eq_none (h : rbuf.raw.length < (rbuf.received ++ bytes).length) :
    rbuf.fill bytes = none := by
  rw [List.length_append, length_received] at h
  exact dif_neg (Nat.not_le.mpr h)

theorem hasPdu_iff : rbuf.HasPdu ↔ IsPdu rbuf.received := by
  have hsize := rbuf.hdrSize_eq
  unfold HasPdu HasPduHdr IsPdu
  rw [length_received, hsize]
  refine and_congr_right fun hhdr => ?_
  rw [hdrLen, received, slice_take hhdr]

theorem service_pdu (h : rbuf.HasPdu) : (rbuf.pdu h).service = rbuf.received.getD 0 0 := by
  have hhdr : sizeofPdu ≤ rbuf.len := h.1
  rw [sizeofPdu] at hhdr
  show rbuf.raw.getD 0 0 = (rbuf.raw.take rbuf.len).getD 0 0
  rw [List.getD_eq_getElem?_getD, List.getD_eq_getElem?_getD, List.getElem?_take_of_lt (by omega)]

theorem opcode_pdu (h : rbuf.HasPdu) : (rbuf.pdu h).opcode = rbuf.received.getD 1 0 := by
  have hhdr : sizeofPdu ≤ rbuf.len := h.1
  rw [sizeofPdu] at hhdr
  show rbuf.raw.getD 1 0 = (rbuf.raw.take rbuf.len).getD 1 0
  rw [List.getD_eq_getElem?_getD, List.getD_eq_getElem?_getD, List.getElem?_take_of_lt (by omega)]

theorem payload_pdu (h : rbuf.HasPdu) : (rbuf.pdu h).payload = rbuf.received.drop sizeofPdu := by
  have hlen := h.2
  rw [hdrSize_eq] at hlen
  rw [Pdu.payload, len_pdu, received, List.drop_take]
  show (rbuf.raw.drop sizeofPdu).take rbuf.hdrLen = _
  rw [hlen, Nat.add_sub_cancel_left]

theorem answerTo_received (h : rbuf.HasPdu) (mem : Nat → Bool) :
    answerTo mem rbuf.received =
      answer mem (coreCmd (rbuf.pdu h).service (rbuf.pdu h).opcode (rbuf.pdu h).payload) := by
  rw [service_pdu, opcode_pdu, payload_pdu]
  rfl

end RBuf

/-! ## The abstraction -/

def Daemon.cmdConn (d : Daemon) : CmdConn :=
  if d.ioFd0 = 0 then .vacant
  else if d.ioFd0 ∈ d.loop.epoll then .serving ((d.rbufOf d.ioFd0).elim [] RBuf.received)
  else .lost

def Daemon.view (listenFd : Nat) (d : Daemon) : Server where
  listening := decide (listenFd ∈ d.loop.epoll)
  cmd := d.cmdConn
  ntf := decide (d.ioFd1 ≠ 0)
  replies := repliesOf d.world.log

section inputs

variable [Platform]

def Daemon.listenInput (d : Daemon) (i : IoEvent) : ServerInput :=
  if i.mask &&& epollErr ≠ 0 then .listenError
  else if i.mask &&& epollIn ≠ 0 then
    i.accept.elim .idle fun fd =>
      .connect (i.malloc.obtained.isSome && decide (0 ≤ (d.register i.epoll.out fd).1))
  else .idle

def Daemon.cmdInput (d : Daemon) (i : IoEvent) : ServerInput :=
  if i.mask &&& epollErr ≠ 0 then .cmdError
  else if i.mask &&& epollIn ≠ 0 then
    match i.read with
    | .error => .readError
    | .data bytes => .data bytes (i.env.allocates d.world)
  else .idle

def Daemon.input (d : Daemon) (i : IoEvent) : ServerInput :=
  match (d.loop.fdState i.fd).func with
  | some .fdEvent => d.listenInput i
  | some .ioFd0Event => d.cmdInput i
  | _ => .idle

end inputs

/-! ## Views -/

section views

variable {d d' : Daemon} {listenFd pipeFd fd n : Nat} {rbuf rbuf' : RBuf}

theorem Daemon.cmdConn_vacant (h : d.ioFd0 = 0) : d.cmdConn = .vacant := if_pos h

theorem Daemon.cmdConn_serving (h0 : d.ioFd0 ≠ 0) (hmem : d.ioFd0 ∈ d.loop.epoll)
    (hrbuf : d.rbufOf d.ioFd0 = some rbuf) : d.cmdConn = .serving rbuf.received := by
  rw [Daemon.cmdConn, if_neg h0, if_pos hmem, hrbuf]
  rfl

theorem Daemon.cmdConn_lost (h0 : d.ioFd0 ≠ 0) (hmem : d.ioFd0 ∉ d.loop.epoll) :
    d.cmdConn = .lost := by
  rw [Daemon.cmdConn, if_neg h0, if_neg hmem]

theorem cmdConn_eq_lost_iff : d.cmdConn = .lost ↔ d.ioFd0 ≠ 0 ∧ d.ioFd0 ∉ d.loop.epoll := by
  unfold Daemon.cmdConn
  split_ifs with h0 hmem
  · exact iff_of_false (by simp) (by simp [h0])
  · exact iff_of_false (by simp) (by simp [hmem])
  · exact iff_of_true rfl ⟨h0, hmem⟩

theorem Daemon.cmdConn_congr (h0 : d'.ioFd0 = d.ioFd0)
    (hmem : d.ioFd0 ∈ d'.loop.epoll ↔ d.ioFd0 ∈ d.loop.epoll)
    (hrbuf : d'.rbufOf d.ioFd0 = d.rbufOf d.ioFd0) : d'.cmdConn = d.cmdConn := by
  unfold Daemon.cmdConn
  rw [h0, hrbuf]
  simp only [hmem]

end views

/-! ## Connections -/

section connections

variable [Platform] {d d' : Daemon} {i : IoEvent} {fd pipeFd listenFd : Nat} {rbuf : RBuf}

omit [Platform] in
theorem TurnedAway.view (h : TurnedAway d d' fd) (hmem : fd ∉ d.loop.epoll) :
    d'.view listenFd = d.view listenFd := by
  have hepoll : d'.loop.epoll = d.loop.epoll := by
    rw [h.epoll, Finset.erase_eq_of_notMem hmem]
  have hconn : d'.cmdConn = d.cmdConn := by
    by_cases h0 : d.ioFd0 = 0
    · rw [Daemon.cmdConn_vacant h0, Daemon.cmdConn_vacant (h.ioFd0.trans h0)]
    · apply Daemon.cmdConn_congr h.ioFd0 (by rw [hepoll])
      unfold Daemon.rbufOf
      rw [h.data, h.kept h0]
  unfold Daemon.view
  rw [hepoll, hconn, h.ioFd1, h.world]

omit [Platform] in
theorem Daemon.rbufOf_withCmdSocket (d : Daemon) (fd : Nat) (rbuf : RBuf) :
    (d.withCmdSocket fd rbuf).rbufOf fd = some rbuf := by
  unfold Daemon.rbufOf
  rw [Daemon.withCmdSocket_fdState, if_pos rfl]
  exact Function.update_self _ _ _

theorem received_create {block : Malloc (Nat → UInt8)} (h : createPduRbuf maxCmdLen block = some rbuf) :
    rbuf.received = [] := by
  obtain ⟨mem, -, rfl⟩ := Option.map_eq_some_iff.mp h
  exact List.take_zero

theorem ServerInv.connect (h : ServerInv pipeFd listenFd d) (hlegal : LegalIo pipeFd listenFd d i)
    (hconnects : Connects d i.epoll fd) :
    (d.view listenFd).step (.connect (i.malloc.obtained.isSome && decide (0 ≤ (d.register i.epoll.out fd).1)))
      = (d.io i).map (Daemon.view listenFd) := by
  obtain ⟨hpos, hmem, hlisten, -⟩ := h.fresh hlegal hconnects.accept
  have hready : d.ioFd0 = 0 → ((i.malloc.obtained.isSome && decide (0 ≤ (d.register i.epoll.out fd).1)) = true
      ↔ d.Takes i.epoll.out fd) := by
    intro h0
    rw [Daemon.Takes, if_pos h0, Bool.and_eq_true, decide_eq_true_iff]
    exact Iff.rfl
  by_cases htakes : d.Takes i.epoll.out fd
  · by_cases h0 : d.ioFd0 = 0
    · obtain ⟨rbuf, hrbuf, hdispatch⟩ := hconnects.cmdSocket htakes h0
      have hconn : (d.withCmdSocket fd rbuf).cmdConn = .serving [] := by
        rw [← received_create hrbuf]
        exact Daemon.cmdConn_serving hpos.ne' (Finset.mem_insert_self _ _)
          (d.rbufOf_withCmdSocket fd rbuf)
      rw [Daemon.io, hdispatch, (hready h0).mpr htakes]
      unfold Server.step Daemon.view
      dsimp only
      rw [Daemon.cmdConn_vacant h0, Option.map_some, hconn]
      have hmem' : listenFd ∈ (d.withCmdSocket fd rbuf).loop.epoll ↔ listenFd ∈ d.loop.epoll :=
        Finset.mem_insert.trans (or_iff_right hlisten.symm)
      simp only [hmem', if_true]
      rfl
    · obtain ⟨h1, hdispatch⟩ := hconnects.ntfSocket htakes h0
      have hconn : (setupNtfSocket fd (d.accepted fd)).2.cmdConn = d.cmdConn := rfl
      have hne : (setupNtfSocket fd (d.accepted fd)).2.ioFd1 ≠ 0 := hpos.ne'
      have hvacant : d.cmdConn ≠ .vacant := by
        unfold Daemon.cmdConn
        rw [if_neg h0]
        split_ifs <;> simp
      rw [Daemon.io, hdispatch]
      unfold Server.step Daemon.view
      dsimp only
      split
      case h_1 heq => exact absurd heq hvacant
      case h_2 =>
        rw [Option.map_some, hconn, decide_eq_true hne]
        rfl
  · obtain ⟨d', hdispatch, haway⟩ := hconnects.turnedAway htakes
    rw [Daemon.io, hdispatch, Option.map_some, haway.view hmem]
    unfold Server.step
    dsimp only
    by_cases h0 : d.ioFd0 = 0
    · have hconn : (d.view listenFd).cmd = .vacant := Daemon.cmdConn_vacant h0
      rw [Bool.eq_false_iff.mpr fun hx => htakes ((hready h0).mp hx)]
      split
      case h_1 =>
        congr 1
        ext1
        all_goals first | rfl | exact hconn.symm
      case h_2 hne => exact absurd hconn hne
    · unfold Daemon.Takes at htakes
      rw [if_neg h0] at htakes
      have hconn : (d.view listenFd).cmd ≠ .vacant := by
        show d.cmdConn ≠ .vacant
        unfold Daemon.cmdConn
        rw [if_neg h0]
        split_ifs <;> simp
      split
      case h_1 heq => exact absurd heq hconn
      case h_2 =>
        congr 1
        ext1
        all_goals first | rfl | exact (decide_eq_true htakes).symm

theorem ServerInv.listen (h : ServerInv pipeFd listenFd d) (hlegal : LegalIo pipeFd listenFd d i)
    (hfd : i.fd = listenFd) :
    (d.view listenFd).step (d.listenInput i) = (d.io i).map (Daemon.view listenFd) := by
  have hfunc : (d.loop.fdState i.fd).func = some .fdEvent := by
    rw [hfd]
    exact h.control.members.listening.1
  have hio : d.io i = fdEvent i.fd i.mask i.epoll.out d := Daemon.event_listen hfunc _ _
  unfold Daemon.listenInput
  by_cases herr : i.mask &&& epollErr ≠ 0
  · have hconn : Daemon.cmdConn { d with loop := removeFdFromEpollLoop true i.fd d.loop } = d.cmdConn := by
      by_cases h0 : d.ioFd0 = 0
      · rw [Daemon.cmdConn_vacant h0]
        exact Daemon.cmdConn_vacant h0
      · refine Daemon.cmdConn_congr rfl ?_ rfl
        rw [epoll_remove, hfd, Finset.mem_erase]
        exact and_iff_right (h.slot h0).2
    rw [if_pos herr, hio, fdEvent_err herr, Option.map_some]
    unfold Server.step Daemon.view
    dsimp only
    rw [hconn, epoll_remove, hfd]
    simp
  rw [if_neg herr]
  by_cases hin : i.mask &&& epollIn ≠ 0
  · rw [if_pos hin]
    rcases haccept : i.accept with _ | fd
    · rw [hio, fdEvent_in (not_not.mp herr) hin, fdEventIn_none haccept]
      rfl
    · exact h.connect hlegal ⟨hfunc, not_not.mp herr, hin, haccept⟩
  · rw [if_neg hin, hio, fdEvent_idle (not_not.mp herr) (not_not.mp hin)]
    rfl

end connections

/-! ## The command socket -/

section commands

variable [Platform] {d d' : Daemon} {i : IoEvent} {fd n pipeFd listenFd : Nat} {rbuf rbuf' : RBuf}
  {bytes : List UInt8} {w : World Handler}

omit [Platform] in
theorem OpenSocket.view_stored (h : OpenSocket d fd n rbuf) (hfd : fd = d.ioFd0) (hne : fd ≠ 0)
    (rbuf' : RBuf) (w : World Handler) :
    (d.stored n rbuf' w).view listenFd =
      { d.view listenFd with cmd := .serving rbuf'.received, replies := repliesOf w.log } := by
  have hconn : (d.stored n rbuf' w).cmdConn = .serving rbuf'.received := by
    have hrbuf : (d.stored n rbuf' w).rbufOf fd = some rbuf' := by
      show (d.loop.fdState fd).data.bind (Function.update d.rbufs n (some rbuf')) = _
      rw [h.data]
      exact Function.update_self _ _ _
    rw [hfd] at hrbuf
    exact Daemon.cmdConn_serving (hfd ▸ hne) (hfd ▸ h.epoll) hrbuf
  unfold Daemon.view
  rw [hconn]
  rfl

omit [Platform] in
theorem OpenSocket.view_close (hfd : fd = d.ioFd0) (hne : fd ≠ 0) (hlisten : fd ≠ listenFd)
    (rbuf' : RBuf) (w : World Handler) :
    ((d.stored n rbuf' w).close fd).view listenFd =
      { d.view listenFd with cmd := .lost, replies := repliesOf w.log } := by
  have hconn : ((d.stored n rbuf' w).close fd).cmdConn = .lost := by
    refine Daemon.cmdConn_lost ?_ ?_
    · show d.ioFd0 ≠ 0
      rwa [← hfd]
    · show d.ioFd0 ∉ d.loop.epoll.erase fd
      rw [hfd]
      exact Finset.notMem_erase _ _
  have hmem : listenFd ∈ ((d.stored n rbuf' w).close fd).loop.epoll ↔ listenFd ∈ d.loop.epoll :=
    Finset.mem_erase.trans (and_iff_right hlisten.symm)
  unfold Daemon.view
  rw [hconn]
  simp only [hmem]
  rfl

theorem receive_received {s : Server} (hbuf : CmdBuffer rbuf) (hroom : rbuf.raw.length = cmdRoom)
    (hbare : Bare w) (hpointer : w.coreIoSendPdu.isSome) (hreplies : s.replies = repliesOf w.log)
    (env : Env) (calls : Nat) (bytes : List UInt8) :
    s.receive (rbuf.received ++ bytes) (env.allocates w) =
      (ioFd0EventIn (handlePduResult env calls) rbuf (.data bytes) w).map fun r =>
        { s with
          cmd := if r.1 = .closed then .lost else .serving r.2.1.received
          replies := repliesOf r.2.2.log } := by
  unfold Server.receive ioFd0EventIn
  dsimp only
  by_cases hover : cmdRoom < (rbuf.received ++ bytes).length
  · rw [if_pos hover, RBuf.fill_eq_none (hroom ▸ hover)]
    rfl
  rw [if_neg hover]
  have hle : rbuf.len + bytes.length ≤ rbuf.raw.length := by
    rw [List.length_append, RBuf.length_received] at hover
    omega
  obtain ⟨rbuf', hfill⟩ := RBuf.fill_of_le hle
  obtain ⟨hmax, -⟩ := hbuf.fill hfill
  rw [← RBuf.received_fill hfill hbuf.small, hfill, Option.bind_eq_bind, Option.bind_some]
  by_cases hpdu : rbuf'.HasPdu
  · rw [if_pos (RBuf.hasPdu_iff.mp hpdu), dif_pos hpdu, RBuf.answerTo_received hpdu]
    have hends := hbare.endsWith hpointer env calls (rbuf'.pdu hpdu)
    generalize answer (env.allocates w) (coreCmd (rbuf'.pdu hpdu).service (rbuf'.pdu hpdu).opcode
      (rbuf'.pdu hpdu).payload) = a at hends ⊢
    rcases a with _ | _ | _
    · obtain ⟨w', msg, hrun, -, hsent, hservice, hopcode, -⟩ := hends
      have hlog : repliesOf w'.log
          = s.replies ++ [(rbuf'.received.getD 0 0, rbuf'.received.getD 1 0)] := by
        rw [repliesOf, hsent, List.map_append, hreplies, repliesOf, List.map_singleton, hservice,
          hopcode, RBuf.service_pdu, RBuf.opcode_pdu]
      rw [hrun, Option.bind_eq_bind, Option.bind_some]
      dsimp only
      rw [if_neg (lt_irrefl 0), Option.pure_def, Option.map_some, hlog]
      rw [if_neg (by simp), RBuf.received_reset]
    · obtain ⟨w', hrun, -, hsent⟩ := hends
      have hlog : repliesOf w'.log = s.replies := by
        rw [repliesOf, hsent, hreplies, repliesOf]
      rw [hrun, Option.bind_eq_bind, Option.bind_some]
      dsimp only
      rw [if_pos (by decide), Option.pure_def, Option.map_some, hlog]
      rfl
    · rw [show handlePduResult env calls (rbuf'.pdu hpdu) w = none from hends]
      rfl
  · rw [if_neg (mt RBuf.hasPdu_iff.mpr hpdu), dif_neg hpdu]
    have hfull : rbuf'.IsFull ↔ rbuf'.received.length = sizeofPdu + maxCmdLen := by
      rw [RBuf.IsFull, hmax, RBuf.length_received]
    by_cases hlen : rbuf'.IsFull
    · rw [if_pos hlen, if_pos (hfull.mp hlen), Option.pure_def, Option.map_some, ← hreplies]
      rfl
    · rw [if_neg hlen, if_neg (mt hfull.mpr hlen), Option.pure_def, Option.map_some, ← hreplies]
      rw [if_neg (by simp)]

omit [Platform] in
theorem OpenSocket.view_read (h : OpenSocket d fd n rbuf) (hfd : fd = d.ioFd0) (hne : fd ≠ 0)
    (hlisten : fd ≠ listenFd) (r : Fate × RBuf × World Handler) :
    (if r.1 = .closed then (d.stored n r.2.1 r.2.2).close fd else d.stored n r.2.1 r.2.2).view
        listenFd =
      { d.view listenFd with
        cmd := if r.1 = .closed then .lost else .serving r.2.1.received
        replies := repliesOf r.2.2.log } := by
  split
  · exact OpenSocket.view_close hfd hne hlisten r.2.1 r.2.2
  · exact h.view_stored hfd hne r.2.1 r.2.2

theorem ServerInv.command (h : ServerInv pipeFd listenFd d) (hmem : i.fd ∈ d.loop.epoll)
    (hfunc : (d.loop.fdState i.fd).func = some .ioFd0Event) :
    (d.view listenFd).step (d.cmdInput i) = (d.io i).map (Daemon.view listenFd) := by
  obtain ⟨hfd, hne, n, rbuf, hopen, hroom⟩ := h.openSocket hmem hfunc
  obtain ⟨hbare, hpointer⟩ := h.bare hmem hfunc
  have hlisten : i.fd ≠ listenFd := by
    rw [hfd]
    exact (h.slot (hfd ▸ hne)).2
  have hconn : (d.view listenFd).cmd = .serving rbuf.received := by
    have hrbuf := hopen.rbufOf
    rw [hfd] at hrbuf
    exact Daemon.cmdConn_serving (hfd ▸ hne) (hfd ▸ hmem) hrbuf
  unfold Daemon.cmdInput
  by_cases herr : i.mask &&& epollErr ≠ 0
  · have hio : d.io i = ioFd0Event i.fd i.mask n i.epoll.out d :=
      OnCmdSocket.dispatch ⟨hfunc, hopen.data⟩
    have hstays : listenFd ∈ (removeFdFromEpollLoop true i.fd d.loop).epoll ↔
        listenFd ∈ d.loop.epoll := by
      rw [epoll_remove]
      exact Finset.mem_erase.trans (and_iff_right hlisten.symm)
    rw [if_pos herr, hio, ioFd0Event_err n herr]
    show Server.step (d.view listenFd) .cmdError = some _
    unfold Server.step
    dsimp only
    rw [hconn, Option.some_inj]
    ext1
    · exact (decide_eq_decide.mpr hstays).symm
    · rfl
    · rfl
    · rfl
  rw [if_neg herr]
  by_cases hin : i.mask &&& epollIn ≠ 0
  · rw [if_pos hin, hopen.io_readable herr hin, Option.map_map]
    have hview : Daemon.view listenFd ∘ (fun r : Fate × RBuf × World Handler =>
        if r.1 = .closed then (d.stored n r.2.1 r.2.2).close i.fd else d.stored n r.2.1 r.2.2) =
        fun r => { d.view listenFd with
          cmd := if r.1 = .closed then .lost else .serving r.2.1.received
          replies := repliesOf r.2.2.log } := by
      funext r
      exact hopen.view_read hfd hne hlisten r
    rw [hview]
    unfold Server.step
    rcases i.read with _ | bytes
    · dsimp only
      rw [hconn]
      rfl
    · dsimp only
      rw [hconn]
      exact receive_received hopen.buf hroom hbare hpointer rfl i.env i.calls bytes
  · have hio : d.io i = ioFd0Event i.fd i.mask n i.epoll.out d :=
      OnCmdSocket.dispatch ⟨hfunc, hopen.data⟩
    rw [if_neg hin, hio, ioFd0Event_idle n (not_not.mp herr) (not_not.mp hin)]
    rfl

end commands

/-! ## Runs -/

section runs

variable [Platform] {is : List IoEvent} {pipeFd listenFd : Nat}

/-- **The daemon simulates the server.** -/
theorem simulation_server (pipeFd listenFd : Nat) :
    Simulation Daemon.io Server.step (Daemon.view listenFd) Daemon.input (ServerInv pipeFd listenFd)
      (LegalIo pipeFd listenFd) where
  commutes := by
    intro d i h hlegal
    unfold Daemon.input
    rcases h.control.members.epoll i.fd hlegal.1 with hfd | hfd | ⟨-, -, -, hslot⟩
    · have hfunc : (d.loop.fdState i.fd).func = some .execTask := by
        rw [hfd]
        exact h.control.members.pipe.1
      have hio : d.io i = some d := by
        unfold Daemon.io Daemon.dispatch
        rw [Daemon.event_eq, show (d.loop.fdState i.epoll.fd).func = some .execTask from hfunc]
      rw [hfunc, hio]
      rfl
    · have hfunc : (d.loop.fdState i.fd).func = some .fdEvent := by
        rw [hfd]
        exact h.control.members.listening.1
      rw [hfunc]
      exact h.listen hlegal hfd
    · rw [show (d.loop.fdState i.fd).func = some .ioFd0Event from hslot.func]
      exact h.command hlegal.1 hslot.func
  keeps := fun _ _ _ h hlegal hio => h.step hlegal hio

omit [Platform] in
theorem Daemon.view_init (hpipe : pipeFd < maxNfds) (hlisten : listenFd < maxNfds) :
    (Daemon.init pipeFd listenFd).view listenFd = Server.start := by
  have hmem : listenFd ∈ (Daemon.init pipeFd listenFd).loop.epoll := by
    rw [Daemon.epoll_init hpipe hlisten]
    exact Finset.mem_insert_self _ _
  unfold Daemon.view
  rw [decide_eq_true hmem]
  rfl

/-- **The daemon is the server.** In every run that the kernel can cause, the daemon goes through
the states of the server, and it comes to the end of the run exactly when the server does. -/
theorem run_eq_server (hpipe : pipeFd < maxNfds) (hlisten : listenFd < maxNfds)
    (hne : pipeFd ≠ listenFd)
    (hlegal : Along Daemon.io (LegalIo pipeFd listenFd) (.init pipeFd listenFd) is) :
    run Server.step .start (labels Daemon.io Daemon.input (.init pipeFd listenFd) is)
      = (run Daemon.io (.init pipeFd listenFd) is).map (Daemon.view listenFd) := by
  rw [← Daemon.view_init hpipe hlisten]
  exact (simulation_server pipeFd listenFd).run (ServerInv.init hpipe hlisten hne) hlegal

/-- **The program is the server.** A program that has started goes through the states of the server
as long as `epoll_wait` reports events, and it waits for more exactly when the server has come to the
end of these. -/
theorem main_eq_server {s : Startup} {epfd r w fd : Nat} (hboots : s.Boots epfd r w fd) (hne : r ≠ fd)
    {batches : List (List IoEvent)} (hlegal : Along Daemon.io (LegalIo r fd) (.init r fd) batches.flatten) :
    (main s (batches.map fun is => some (is.map IoEvent.epoll))).map
        (fun next => (next.1, next.2.daemon.view fd))
      = (run Server.step .start (labels Daemon.io Daemon.input (.init r fd) batches.flatten)).map
          fun srv => (none, srv) := by
  have hr := hboots.2.1.2.1
  have hfd := hboots.2.2.2.2.1
  have hwaits : batches.map (fun is => some (is.map IoEvent.epoll))
      = (batches.map (List.map IoEvent.epoll)).map some := by
    rw [List.map_map]
    rfl
  have hserver : run Server.step .start (labels Daemon.io Daemon.input (.init r fd) batches.flatten)
      = (run Daemon.io (.init r fd) batches.flatten).map (Daemon.view fd) := by
    rw [← Daemon.view_init hr hfd]
    exact (simulation_server r fd).run (ServerInv.init hr hfd hne) hlegal
  have hdispatch : run Daemon.dispatch (.init r fd) (batches.map (List.map IoEvent.epoll)).flatten
      = run Daemon.io (.init r fd) batches.flatten := by
    rw [← List.map_flatten, run_map]
    rfl
  have hmain := main_events hboots (batches.map (List.map IoEvent.epoll))
  rw [hdispatch] at hmain
  calc (main s (batches.map fun is => some (is.map IoEvent.epoll))).map
        (fun next => (next.1, next.2.daemon.view fd))
      = ((main s ((batches.map (List.map IoEvent.epoll)).map some)).map
          fun next => (next.1, next.2.daemon)).map fun next => (next.1, next.2.view fd) := by
        rw [hwaits, Option.map_map]
        rfl
    _ = ((run Daemon.io (.init r fd) batches.flatten).map (Daemon.view fd)).map
          fun srv => (none, srv) := by
        rw [hmain, Option.map_map, Option.map_map]
        rfl
    _ = _ := by rw [hserver]

end runs

/-- A client connects both sockets and unregisters BT_SOCK, where `read()` takes the count it is given
for the payload; its next command is not supported, and there is no memory for the reply. -/
def droppedClient : List IoEvent :=
  [⟨3, epollIn, some 5, .block (fun _ => 0) false, true, .error, .obliging, 0⟩,
    ⟨3, epollIn, some 6, .failed, true, .error, .obliging, 0⟩,
    ⟨5, epollIn, none, .failed, true, .data [serviceCore, 0x02, 1], .obliging, 0⟩,
    ⟨5, epollIn, none, .failed, true, .data [0], .obliging, 0⟩,
    ⟨5, epollIn, none, .failed, true, .data [serviceBtSock], .obliging, 0⟩,
    ⟨5, epollIn, none, .failed, true, .data [0x09, 0x01, 0, 0],
      { Env.obliging with malloc := fun _ => .failed }, 0⟩,
    ⟨3, epollIn, some 7, .block (fun _ => 0) false, true, .error, .obliging, 0⟩]

set_option maxRecDepth 10000 in
theorem run_eq_server_droppedClient :
    ∃ ks, @run Server ServerInput (@Server.step ilp32) .start ks
      = some ⟨true, .lost, true, [(serviceCore, 0x02)]⟩ := by
  refine ⟨_, (@run_eq_server ilp32 droppedClient 4 3 (by decide) (by decide) (by decide) ?_).trans ?_⟩
  · decide
  · decide +kernel

set_option maxRecDepth 10000 in
theorem main_eq_server_droppedClient :
    (@main ilp32 started ([droppedClient.take 1, droppedClient.drop 1].map fun is =>
        some (is.map (@IoEvent.epoll ilp32)))).map (fun next => (next.1, next.2.daemon.view 3))
      = some (none, ⟨true, .lost, true, [(serviceCore, 0x02)]⟩) := by
  refine (@main_eq_server ilp32 started 8 4 9 3 started_boots (by decide)
    [droppedClient.take 1, droppedClient.drop 1] (by decide)).trans ?_
  decide +kernel

end Bluetoothd
