import Bluetoothd.Server.Runs

/-!
# A client that is served

Few clients are: a read that crosses a PDU boundary loses the stream, a command that fails ends the
connection or the daemon. `served_of_session` says what a client can rely on. If it only unregisters
modules and waits for each reply before it sends the next command, what is read from it is cut at every
PDU boundary; then, as long as nothing goes wrong on its socket and there is memory, all its commands
are answered and it stays connected, whatever happens on other descriptors in between. The payload of
such a command is read with a count that is too large, so `read()` has to take that.
-/

namespace Bluetoothd

open Platform Buffer Transition

/-! ## A command in parts -/

section receive

variable [Platform] {s : Server} {pending rest : List UInt8} {mem : Nat → Bool} {cmd : Pdu}

/-- The command unregisters a module, and the receive buffer is large enough for it. -/
structure Unregisters (cmd : Pdu) : Prop where
  payload_le : cmd.len.toNat ≤ maxCmdLen
  spells : ∃ m, IsModule m ∧ coreCmd cmd.service cmd.opcode cmd.payload = some (.unregister m)

theorem cmdRoom_ge : sizeofPdu + maxCmdLen ≤ cmdRoom := by
  have hsize := sizeofPduRbuf_ge
  unfold cmdRoom
  omega

theorem isPdu_wire (cmd : Pdu) : IsPdu cmd.wire := by
  unfold IsPdu
  rw [slice_wire, hostInt_hostBytes 2 cmd.len_lt, cmd.length_wire]
  exact ⟨Nat.le_add_right _ _, rfl⟩

/-- The length in its header tells that a part of a PDU is not the whole. -/
theorem not_isPdu_part (hwire : pending ++ rest = cmd.wire) (hrest : rest ≠ []) : ¬ IsPdu pending := by
  rintro ⟨hhdr, hlen⟩
  have hfield : slice pending 2 2 = slice cmd.wire 2 2 := by
    have htake : slice ((pending ++ rest).take pending.length) 2 2 = slice (pending ++ rest) 2 2 :=
      slice_take hhdr
    rwa [List.take_left' rfl, hwire] at htake
  rw [hfield, slice_wire, hostInt_hostBytes 2 cmd.len_lt, ← cmd.length_wire, ← hwire,
    List.length_append] at hlen
  have hpos := List.length_pos_iff.mpr hrest
  omega

theorem answerTo_wire (mem : Nat → Bool) (cmd : Pdu) :
    answerTo mem cmd.wire = answer mem (coreCmd cmd.service cmd.opcode cmd.payload) := by
  have hdrop : cmd.wire.drop sizeofPdu = cmd.payload := List.drop_left' (Pdu.length_header _ _ _)
  rw [answerTo, hdrop]
  rfl

theorem Server.receive_part (hcmd : Unregisters cmd) (hwire : pending ++ rest = cmd.wire)
    (hrest : rest ≠ []) : s.receive pending mem = some { s with cmd := .serving pending } := by
  have hroom := cmdRoom_ge
  have hle := hcmd.payload_le
  have hpos := List.length_pos_iff.mpr hrest
  have hlen := congrArg List.length hwire
  rw [List.length_append, cmd.length_wire] at hlen
  unfold Server.receive
  rw [if_neg (by omega), if_neg (not_isPdu_part hwire hrest), if_neg (by omega)]

theorem Server.receive_command (hcmd : Unregisters cmd) (hmem : ∀ n, mem n = true) :
    s.receive cmd.wire mem
      = some { s with cmd := .serving [], replies := s.replies ++ [(cmd.service, cmd.opcode)] } := by
  have hroom := cmdRoom_ge
  obtain ⟨hle, m, hmodule, hspells⟩ := hcmd
  have hanswer : answerTo mem cmd.wire = .served := by
    rw [answerTo_wire, hspells]
    exact if_pos ⟨hmem 0, hmodule⟩
  unfold Server.receive
  rw [if_neg (by rw [cmd.length_wire]; omega), if_pos (isPdu_wire cmd), hanswer]
  rfl

end receive

/-! ## The stream of a client -/

section stream

variable [Platform] {pending piece : List UInt8} {pieces : List (List UInt8)} {cmds : List Pdu}

/-- The pieces complete the command of which `pending` is there, and they are the commands after it. -/
def Completes (pending : List UInt8) (pieces : List (List UInt8)) (cmds : List Pdu) : Prop :=
  pending = [] ∧ pieces = [] ∧ cmds = [] ∨
    ∃ cmd later rest, cmds = cmd :: later ∧ pending ++ rest = cmd.wire ∧ rest ≠ [] ∧
      Cut pieces (rest :: later.map Pdu.wire)

theorem Completes.of_cut (hcut : Cut pieces (cmds.map Pdu.wire)) : Completes [] pieces cmds := by
  cases cmds with
  | nil =>
    obtain ⟨groups, rfl, hgroups⟩ := hcut
    obtain rfl := List.map_eq_nil_iff.mp hgroups
    exact .inl ⟨rfl, rfl, rfl⟩
  | cons cmd later =>
    have hpos : 0 < cmd.wire.length := by
      rw [cmd.length_wire, sizeofPdu]
      omega
    exact .inr ⟨cmd, later, cmd.wire, rfl, rfl, List.length_pos_iff.mp hpos, hcut⟩

theorem Completes.of_nil (h : Completes pending [] cmds) : pending = [] ∧ cmds = [] := by
  rcases h with ⟨hpending, -, hcmds⟩ | ⟨cmd, later, rest, rfl, hwire, hrest, groups, hnil, hgroups⟩
  · exact ⟨hpending, hcmds⟩
  · -- the rest of the command is missing
    cases groups with
    | nil => cases hgroups
    | cons group groups =>
      rw [List.map_cons, List.cons.injEq] at hgroups
      rw [List.flatten_cons, eq_comm, List.append_eq_nil_iff] at hnil
      rw [hnil.1, List.flatten_nil] at hgroups
      exact absurd hgroups.1.symm hrest

theorem Completes.cons_cases (h : Completes pending (piece :: pieces) cmds)
    (hne : ∀ p ∈ pieces, p ≠ []) :
    ∃ cmd later, cmds = cmd :: later ∧
      ((∃ rest, rest ≠ [] ∧ (pending ++ piece) ++ rest = cmd.wire ∧
        Completes (pending ++ piece) pieces cmds) ∨
      pending ++ piece = cmd.wire ∧ Completes [] pieces later) := by
  rcases h with ⟨-, hnil, -⟩ | ⟨cmd, later, rest, rfl, hwire, hrest, hcut⟩
  · cases hnil
  refine ⟨cmd, later, rfl, ?_⟩
  obtain ⟨group, -, -, hflat, -⟩ := hcut.cons_cases hrest
  generalize group.flatten = more at hflat
  subst hflat
  by_cases hmore : more = []
  · right
    subst hmore
    rw [List.append_nil] at hwire hcut hrest
    exact ⟨hwire, .of_cut ((cut_ends hrest hne).mp hcut)⟩
  · left
    rw [← List.append_assoc] at hwire
    exact ⟨more, hmore, hwire, .inr ⟨cmd, later, more, rfl, hwire, hmore, (cut_inside hmore).mp hcut⟩⟩

end stream

/-! ## A session -/

def IoEvent.brings (fd : Nat) (i : IoEvent) : Option (List UInt8) :=
  if i.fd = fd ∧ i.mask &&& epollIn ≠ 0 then
    match i.read with
    | .data bytes => some bytes
    | .error => none
  else none

theorem IoEvent.brings_eq_some {fd : Nat} {i : IoEvent} {bytes : List UInt8}
    (h : i.brings fd = some bytes) :
    i.fd = fd ∧ i.mask &&& epollIn ≠ 0 ∧ i.read = .data bytes := by
  unfold IoEvent.brings at h
  split at h
  case isTrue hin =>
    refine ⟨hin.1, hin.2, ?_⟩
    split at h <;> cases h
    assumption
  case isFalse => cases h

structure IoEvent.Smooth (i : IoEvent) : Prop where
  noErr : i.mask &&& epollErr = 0
  reads : i.mask &&& epollIn ≠ 0 → ∃ bytes, i.read = .data bytes ∧ bytes ≠ []
  mem : ∀ n, (i.env.obtained n).isSome

theorem IoEvent.brings_ne_nil {fd : Nat} {i : IoEvent} {bytes : List UInt8}
    (hsmooth : i.fd = fd → i.Smooth) (h : i.brings fd = some bytes) : bytes ≠ [] := by
  obtain ⟨hfd, hin, hread⟩ := i.brings_eq_some h
  obtain ⟨bytes', hread', hne⟩ := (hsmooth hfd).reads hin
  obtain rfl := ReadResult.data.inj (hread.symm.trans hread')
  exact hne

/-- The daemon attends to the client on `fd`, with the bytes since its last command and the replies so far. -/
structure Attends (fd : Nat) (pending : List UInt8) (replies : List (UInt8 × UInt8)) (d : Daemon) :
    Prop where
  slot : d.ioFd0 = fd
  conn : d.cmdConn = .serving pending
  replies : repliesOf d.world.log = replies

section session

variable [Platform] {d d' : Daemon} {i : IoEvent} {is : List IoEvent} {fd pipeFd listenFd : Nat}
  {pending pending' bytes : List UInt8} {replies : List (UInt8 × UInt8)} {s' : Server}

omit [Platform] in
theorem ioFd0_ne_of_serving (h : d.cmdConn = .serving pending) : d.ioFd0 ≠ 0 := by
  intro h0
  rw [Daemon.cmdConn_vacant h0] at h
  cases h

/-- The place for commands is given to another client only after it has been free. -/
theorem IoEffect.ioFd0_eq (h : IoEffect d i d') (h0 : d.ioFd0 ≠ 0) (h0' : d'.ioFd0 ≠ 0) :
    d'.ioFd0 = d.ioFd0 := by
  cases h with
  | turnedAway hconnects htakes haway => exact haway.ioFd0
  | cmdSocket hconnects htakes hfree hrbuf => exact absurd hfree h0
  | cmdErr hsocket herr => exact absurd rfl h0'
  | cmdRead hsocket herr hin hrbuf hread => split <;> rfl
  | _ => rfl

theorem ServerInv.attends_of_step (h : ServerInv pipeFd listenFd d) (hlegal : LegalIo pipeFd listenFd d i)
    (hattends : Attends fd pending replies d)
    (hstep : (d.view listenFd).step (d.input i) = some s') (hcmd : s'.cmd = .serving pending') :
    ∃ d', d.io i = some d' ∧ Attends fd pending' s'.replies d' := by
  rw [(simulation_server pipeFd listenFd).commutes d i h hlegal, Option.map_eq_some_iff] at hstep
  obtain ⟨d', hio, rfl⟩ := hstep
  have hsame := (Daemon.io_effect hio).ioFd0_eq (ioFd0_ne_of_serving hattends.conn)
    (ioFd0_ne_of_serving hcmd)
  exact ⟨d', hio, hsame.trans hattends.slot, hcmd, rfl⟩

theorem step_listenInput {s : Server} (hcmd : s.cmd = .serving pending) (d : Daemon) (i : IoEvent) :
    ∃ s', s.step (d.listenInput i) = some s' ∧ s'.cmd = .serving pending ∧ s'.replies = s.replies := by
  unfold Daemon.listenInput
  split
  · exact ⟨_, rfl, hcmd, rfl⟩
  split
  · cases i.accept with
    | none => exact ⟨_, rfl, hcmd, rfl⟩
    | some fd =>
      simp only [Option.elim_some, Server.step, hcmd]
      exact ⟨_, rfl, rfl, rfl⟩
  · exact ⟨_, rfl, hcmd, rfl⟩

theorem ServerInv.attends_calm (h : ServerInv pipeFd listenFd d) (hlegal : LegalIo pipeFd listenFd d i)
    (hattends : Attends fd pending replies d) (hsmooth : i.fd = fd → i.Smooth)
    (hbrings : i.brings fd = none) : ∃ d', d.io i = some d' ∧ Attends fd pending replies d' := by
  obtain ⟨s', hstep, hcmd, hreplies⟩ : ∃ s', (d.view listenFd).step (d.input i) = some s' ∧
      s'.cmd = .serving pending ∧ s'.replies = replies := by
    have hconn : (d.view listenFd).cmd = .serving pending := hattends.conn
    have hsame : (d.view listenFd).replies = replies := hattends.replies
    unfold Daemon.input
    split
    case h_1 =>
      obtain ⟨s', hstep, hcmd, hreplies⟩ := step_listenInput hconn d i
      exact ⟨s', hstep, hcmd, hreplies.trans hsame⟩
    case h_2 hfunc =>
      obtain ⟨heq, -⟩ := h.control.members.cmd hlegal.1 hfunc
      have hfd : i.fd = fd := heq.trans hattends.slot
      obtain ⟨herr, hreads, -⟩ := hsmooth hfd
      have hin : i.mask &&& epollIn = 0 := by
        by_contra hin
        obtain ⟨bytes, hread, -⟩ := hreads hin
        rw [IoEvent.brings, if_pos ⟨hfd, hin⟩, hread] at hbrings
        cases hbrings
      unfold Daemon.cmdInput
      rw [if_neg (not_not_intro herr), if_neg (not_not_intro hin)]
      exact ⟨_, rfl, hconn, hsame⟩
    case h_3 => exact ⟨_, rfl, hconn, hsame⟩
  rw [← hreplies]
  exact h.attends_of_step hlegal hattends hstep hcmd

theorem ServerInv.step_brings (h : ServerInv pipeFd listenFd d) (hattends : Attends fd pending replies d)
    (hsmooth : i.fd = fd → i.Smooth) (hbrings : i.brings fd = some bytes) :
    (∀ n, i.env.allocates d.world n = true) ∧ (d.view listenFd).step (d.input i)
      = (d.view listenFd).receive (pending ++ bytes) (i.env.allocates d.world) := by
  obtain ⟨heq, hin, hread⟩ := IoEvent.brings_eq_some hbrings
  obtain ⟨herr, -, hmem⟩ := hsmooth heq
  have hserving := ioFd0_ne_of_serving hattends.conn
  have hepoll : d.ioFd0 ∈ d.loop.epoll := by
    by_contra hmem
    cases hattends.conn.symm.trans (Daemon.cmdConn_lost hserving hmem)
  have hfunc : (d.loop.fdState i.fd).func = some .ioFd0Event := by
    rcases h.control.members.epoll d.ioFd0 hepoll with hpipe | hlisten | ⟨-, -, -, hslot⟩
    · exact absurd hpipe (h.slot hserving).1
    · exact absurd hlisten (h.slot hserving).2
    · rw [heq, ← hattends.slot]
      exact hslot.func
  refine ⟨fun n => hmem _, ?_⟩
  unfold Daemon.input
  rw [hfunc]
  dsimp only
  unfold Daemon.cmdInput
  rw [if_neg (not_not_intro herr), if_pos hin, hread]
  show Server.step (d.view listenFd) (.data bytes _) = _
  unfold Server.step
  dsimp only
  rw [show (d.view listenFd).cmd = .serving pending from hattends.conn]

/-- The events of a session. The induction is on them; each either brings nothing, or a part of a
command, or the end of one. -/
theorem ServerInv.run_session {cmds : List Pdu} (h : ServerInv pipeFd listenFd d)
    (hlegal : Along Daemon.io (LegalIo pipeFd listenFd) d is) (hattends : Attends fd pending replies d)
    (hsmooth : ∀ i ∈ is, i.fd = fd → i.Smooth) (hcmds : ∀ cmd ∈ cmds, Unregisters cmd)
    (hpieces : Completes pending (is.filterMap (IoEvent.brings fd)) cmds) :
    ∃ d', run Daemon.io d is = some d' ∧
      Attends fd [] (replies ++ cmds.map fun cmd => (cmd.service, cmd.opcode)) d' := by
  induction is generalizing d pending replies cmds with
  | nil =>
    obtain ⟨rfl, rfl⟩ := hpieces.of_nil
    exact ⟨d, rfl, by rwa [List.map_nil, List.append_nil]⟩
  | cons i is ih =>
    rw [List.forall_mem_cons] at hsmooth
    have hnext : ∀ {pending' replies' cmds'}, (∀ cmd ∈ cmds', Unregisters cmd) →
        Completes pending' (is.filterMap (IoEvent.brings fd)) cmds' →
        (∃ d', d.io i = some d' ∧ Attends fd pending' replies' d') →
        ∃ d', run Daemon.io d (i :: is) = some d' ∧
          Attends fd [] (replies' ++ cmds'.map fun cmd => (cmd.service, cmd.opcode)) d' := by
      rintro pending' replies' cmds' hcmds' hpieces' ⟨d', hio, hattends'⟩
      rw [run_cons, hio, Option.bind_some]
      exact ih (h.step hlegal.1 hio) (hlegal.2 d' hio) hattends' hsmooth.2 hcmds' hpieces'
    rcases hbrings : i.brings fd with _ | bytes
    · rw [List.filterMap_cons_none hbrings] at hpieces
      exact hnext hcmds hpieces (h.attends_calm hlegal.1 hattends hsmooth.1 hbrings)
    · rw [List.filterMap_cons_some hbrings] at hpieces
      obtain ⟨hmem, hstep⟩ := h.step_brings hattends hsmooth.1 hbrings
      have hne : ∀ p ∈ is.filterMap (IoEvent.brings fd), p ≠ [] := by
        intro p hp
        obtain ⟨j, hj, hbrings⟩ := List.mem_filterMap.mp hp
        exact IoEvent.brings_ne_nil (hsmooth.2 j hj) hbrings
      obtain ⟨cmd, later, rfl, ⟨rest, hrest, hwire, hmore⟩ | ⟨hwire, hmore⟩⟩ := hpieces.cons_cases hne
      · have hpart : (d.view listenFd).receive (pending ++ bytes) (i.env.allocates d.world) = some _ :=
          Server.receive_part (hcmds cmd List.mem_cons_self) hwire hrest
        have hsame : (d.view listenFd).replies = replies := hattends.replies
        have hattends' := h.attends_of_step hlegal.1 hattends (hstep.trans hpart) rfl
        rw [← hsame]
        exact hnext hcmds hmore hattends'
      · have hserved : (d.view listenFd).receive cmd.wire (i.env.allocates d.world) = some _ :=
          Server.receive_command (hcmds cmd List.mem_cons_self) hmem
        rw [hwire] at hstep
        have hattends' := h.attends_of_step hlegal.1 hattends (hstep.trans hserved) rfl
        have hrun := hnext (fun c hc => hcmds c (List.mem_cons_of_mem cmd hc)) hmore hattends'
        rwa [show (d.view listenFd).replies = replies from hattends.replies, List.append_assoc] at hrun

/-- **A patient client is served.** From any state that a run reaches and that attends to a client, if
its reads succeed, there is memory, and what is read from it is cut at every PDU boundary of a sequence
of commands that unregister modules, then whatever else happens all events are handled, each of these
commands has been replied to, in order, and the daemon attends to the client still. -/
theorem served_of_session {before : List IoEvent} {cmds : List Pdu} (hpipe : pipeFd < maxNfds)
    (hlisten : listenFd < maxNfds) (hne : pipeFd ≠ listenFd)
    (hbefore : Along Daemon.io (LegalIo pipeFd listenFd) (.init pipeFd listenFd) before)
    (hrun : run Daemon.io (.init pipeFd listenFd) before = some d)
    (hlegal : Along Daemon.io (LegalIo pipeFd listenFd) d is) (hattends : Attends fd [] replies d)
    (hsmooth : ∀ i ∈ is, i.fd = fd → i.Smooth) (hcmds : ∀ cmd ∈ cmds, Unregisters cmd)
    (hcut : Cut (is.filterMap (IoEvent.brings fd)) (cmds.map Pdu.wire)) :
    ∃ d', run Daemon.io d is = some d' ∧
      Attends fd [] (replies ++ cmds.map fun cmd => (cmd.service, cmd.opcode)) d' :=
  (ServerInv.of_run hpipe hlisten hne hbefore hrun).run_session hlegal hattends hsmooth hcmds
    (.of_cut hcut)

end session

/-- A client that has connected unregisters both modules; another one connects meanwhile, and a third
one is turned away. -/
def patientClient : List IoEvent :=
  [⟨5, epollIn, none, .failed, true, .data [serviceCore, 0x02], .obliging, 0⟩,
    ⟨3, epollIn, some 6, .failed, true, .error, .obliging, 0⟩,
    ⟨5, epollIn, none, .failed, true, .data [1, 0], .obliging, 0⟩,
    ⟨5, epollIn, none, .failed, true, .data [serviceBtSock], .obliging, 0⟩,
    ⟨3, epollIn, some 7, .failed, true, .error, .obliging, 0⟩,
    ⟨5, epollIn, none, .failed, true, .data [serviceCore, 0x02, 1, 0], .obliging, 0⟩,
    ⟨5, epollIn, none, .failed, true, .data [serviceBtCore], .obliging, 0⟩]

def unregisterModules : List Pdu :=
  [⟨serviceCore, 0x02, 1, [serviceBtSock], Nat.le_refl 1⟩,
    ⟨serviceCore, 0x02, 1, [serviceBtCore], Nat.le_refl 1⟩]

set_option maxRecDepth 10000 in
theorem served_of_session_patientClient :
    ∃ d d', run (@Daemon.io ilp32) (.init 4 3) (droppedClient.take 1) = some d ∧
      run (@Daemon.io ilp32) d patientClient = some d' ∧
      Attends 5 [] [(serviceCore, 0x02), (serviceCore, 0x02)] d' := by
  obtain ⟨d, hrun, hattends, hlegal⟩ : ∃ d,
      run (@Daemon.io ilp32) (.init 4 3) (droppedClient.take 1) = some d ∧ Attends 5 [] [] d ∧
      Along (@Daemon.io ilp32) (@LegalIo ilp32 4 3) d patientClient :=
    ⟨_, rfl, ⟨rfl, by decide, rfl⟩, by decide +kernel⟩
  have hsmooth : ∀ i ∈ patientClient, i.fd = 5 → i.Smooth := by
    intro i hi hfd
    simp only [patientClient, List.mem_cons, List.not_mem_nil, or_false] at hi
    rcases hi with rfl | rfl | rfl | rfl | rfl | rfl | rfl <;>
      first
        | exact ⟨by decide, fun _ => ⟨_, rfl, by decide⟩, fun _ => rfl⟩
        | cases hfd
  have hcmds : ∀ cmd ∈ unregisterModules, Unregisters cmd := by
    intro cmd hcmd
    simp only [unregisterModules, List.mem_cons, List.not_mem_nil, or_false] at hcmd
    rcases hcmd with rfl | rfl
    · exact ⟨by decide, serviceBtSock, .inr rfl, rfl⟩
    · exact ⟨by decide, serviceBtCore, .inl rfl, rfl⟩
  obtain ⟨d', hrun', hattends'⟩ := @served_of_session ilp32 d patientClient 5 4 3 [] _
    unregisterModules (by decide) (by decide) (by decide) (by decide) hrun hlegal hattends hsmooth hcmds
    ⟨[[_, _, _], [_, _]], rfl, rfl⟩
  exact ⟨d, d', hrun, hrun', hattends'⟩

end Bluetoothd
