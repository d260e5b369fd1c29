import Bluetoothd.CmdSocket.EventIn

/-!
# Reassembly of the command stream

The bytes of consecutive command PDUs reach the command socket in chunks of arbitrary size.
`reassembles_iff` says for which chunkings the PDUs come out of it again: those that cut at every
PDU boundary. After the header the requested count does not stop at the end of the PDU, so a read
that crosses the boundary leaves a length in the buffer at which no PDU is ever found again
(`Overrun`).
-/

namespace Bluetoothd

open Platform Buffer Transition

structure Command where
  service : UInt8
  opcode : UInt8
  payload : List UInt8
  payload_le : payload.length ≤ maxCmdLen

section reassembly

variable [Platform] {σ : Type}

def Command.wire (cmd : Command) : List UInt8 :=
  Pdu.header cmd.service cmd.opcode cmd.payload.length ++ cmd.payload

def stream (cmds : List Command) : List UInt8 := (cmds.map Command.wire).flatten

/-- Every chunk of the run is read within the requested count. -/
def Readable (handlePdu : Pdu → σ → Option (Int × σ)) (s : Session σ) (chunks : List (List UInt8)) :
    Prop :=
  Along (Session.step handlePdu) WithinCount s (chunks.map .data)

/-- The events of the chunks dispatch exactly the commands, byte for byte and in order, and leave
the buffer empty. -/
def Reassembles (handlePdu : Pdu → σ → Option (Int × σ)) (s : Session σ)
    (chunks : List (List UInt8)) (cmds : List Command) : Prop :=
  ∃ s', run (Session.step handlePdu) s (chunks.map .data) = some s' ∧
    s'.dispatched.map Pdu.wire = s.dispatched.map Pdu.wire ++ cmds.map Command.wire ∧
    s'.rbuf.len = 0

/-- The chunks are cut at every PDU boundary: they come in groups, each of which is one PDU. -/
def SplitAtPdus (chunks : List (List UInt8)) (cmds : List Command) : Prop :=
  ∃ groups : List (List (List UInt8)), chunks = groups.flatten ∧
    groups.map List.flatten = cmds.map Command.wire

structure CmdBuffer (rbuf : RBuf) : Prop where
  maxlen : rbuf.maxlen = sizeofPdu + maxCmdLen
  small : rbuf.raw.length < 2 ^ 32

/-- The buffer holds the first bytes of the command, and not yet all of them. -/
structure Receiving (rbuf : RBuf) (cmd : Command) : Prop where
  incomplete : rbuf.len < cmd.wire.length
  bytes : rbuf.raw.take rbuf.len = cmd.wire.take rbuf.len

/-- The buffer holds more bytes than its PDU has. -/
def Overrun (rbuf : RBuf) : Prop := rbuf.hdrSize < rbuf.len

theorem cmdBuffer_create {block : Malloc (Nat → UInt8)} {rbuf : RBuf}
    (h : createPduRbuf maxCmdLen block = some rbuf) : CmdBuffer rbuf ∧ rbuf.len = 0 := by
  obtain ⟨mem, -, rfl⟩ := Option.map_eq_some_iff.mp h
  refine ⟨⟨rfl, ?_⟩, rfl⟩
  show (List.map mem _).length < _
  rw [List.length_map, List.length_range, sizeofPduRbuf, alignUp, sizeofPdu, maxCmdLen]
  rcases wordBytes_eq with h | h <;> rw [h] <;> norm_num

/-! ## The header in the buffer -/

theorem slice_wire (pdu : Pdu) : slice pdu.wire 2 2 = hostBytes 2 pdu.len.toNat := by
  show ((hostBytes 2 pdu.len.toNat) ++ pdu.payload).take 2 = _
  exact List.take_left' (length_hostBytes 2 _)

theorem hdrSize_of_take {rbuf : RBuf} {pdu : Pdu} {k : Nat} (hk : sizeofPdu ≤ k)
    (h : rbuf.raw.take k = pdu.wire.take k) : rbuf.hdrSize = pdu.wire.length := by
  rw [sizeofPdu] at hk
  have hlen : rbuf.hdrLen = pdu.len.toNat := by
    rw [RBuf.hdrLen, ← slice_take (k := k) (by omega), h, slice_take (by omega), slice_wire,
      hostInt_hostBytes 2 pdu.len_lt]
  rw [RBuf.hdrSize_eq, hlen, pdu.length_wire]

theorem wire_pdu {rbuf : RBuf} {pdu : Pdu} (hpdu : rbuf.HasPdu)
    (h : rbuf.raw.take rbuf.len = pdu.wire) : (rbuf.pdu hpdu).wire = pdu.wire := by
  have hlen : rbuf.hdrLen = pdu.len.toNat := by
    have := congrArg List.length h
    rw [List.length_take, min_eq_left rbuf.len_le, hpdu.2, RBuf.hdrSize_eq, pdu.length_wire] at this
    omega
  obtain ⟨a, b, rest, hraw⟩ : ∃ a b rest, rbuf.raw = a :: b :: rest := by
    have h1 := rbuf.hdr_le
    have h2 := rbuf.maxlen_le
    rw [sizeofPdu] at h1
    rcases hr : rbuf.raw with _ | ⟨a, _ | ⟨b, rest⟩⟩
    · simp [hr] at h2
      omega
    · simp [hr] at h2
      omega
    · exact ⟨a, b, rest, rfl⟩
  have hsize : rbuf.len = 2 + 2 + pdu.len.toNat := by
    rw [hpdu.2, RBuf.hdrSize_eq, hlen, sizeofPdu]
  have hrest : a :: b :: rest.take (2 + pdu.len.toNat) =
      pdu.service :: pdu.opcode :: (hostBytes 2 pdu.len.toNat ++ pdu.payload) := by
    rw [hsize, hraw, show 2 + 2 + pdu.len.toNat = (2 + pdu.len.toNat) + 1 + 1 by omega,
      List.take_succ_cons, List.take_succ_cons] at h
    exact h
  obtain ⟨ha, hb, hrest⟩ : a = pdu.service ∧ b = pdu.opcode ∧
      rest.take (2 + pdu.len.toNat) = hostBytes 2 pdu.len.toNat ++ pdu.payload := by
    simpa using hrest
  have hpayload : (rest.drop 2).take pdu.len.toNat = pdu.payload := by
    have := congrArg (List.drop 2) hrest
    rwa [List.drop_take, Nat.add_sub_cancel_left, List.drop_left' (length_hostBytes _ _)] at this
  rw [Pdu.wire, Pdu.payload, RBuf.len_pdu, hlen, Pdu.wire]
  show Pdu.header (rbuf.raw.getD 0 0) (rbuf.raw.getD 1 0) pdu.len.toNat ++
    (rbuf.raw.drop sizeofPdu).take pdu.len.toNat = _
  rw [hraw, ← ha, ← hb, sizeofPdu]
  show Pdu.header a b _ ++ (rest.drop 2).take _ = _
  rw [hpayload]

/-! ## One chunk in the buffer -/

section fill

variable {rbuf rbuf' : RBuf} {pdu : Pdu} {bytes : List UInt8}

/-- What the buffer has received so far are the first bytes of the PDU. -/
def Holds (rbuf : RBuf) (pdu : Pdu) : Prop := rbuf.raw.take rbuf.len = pdu.wire.take rbuf.len

theorem Holds.of_empty (h : rbuf.len = 0) (pdu : Pdu) : Holds rbuf pdu := by
  rw [Holds, h, List.take_zero, List.take_zero]

omit [Platform] in
theorem CmdBuffer.reset (h : CmdBuffer rbuf) : CmdBuffer rbuf.reset := ⟨h.maxlen, h.small⟩

theorem CmdBuffer.fill (h : CmdBuffer rbuf) (hfill : rbuf.fill bytes = some rbuf') :
    CmdBuffer rbuf' where
  maxlen := by rw [(RBuf.fill_eq_some hfill).2.1, h.maxlen]
  small := by
    rw [RBuf.length_raw_fill hfill]
    exact h.small

theorem Holds.fill (hholds : Holds rbuf pdu) (hbuf : CmdBuffer rbuf)
    (hhead : bytes = slice pdu.wire rbuf.len bytes.length) (hfill : rbuf.fill bytes = some rbuf') :
    rbuf'.len = rbuf.len + bytes.length ∧ Holds rbuf' pdu := by
  obtain ⟨hlen, htake⟩ := RBuf.take_fill hfill hbuf.small
  refine ⟨hlen, ?_⟩
  rw [Holds] at hholds ⊢
  rw [htake, hholds, hlen, List.take_add, hhead, slice]
  simp

theorem Holds.not_hasPdu (hholds : Holds rbuf pdu) (hlt : rbuf.len < pdu.wire.length) :
    ¬ rbuf.HasPdu := by
  intro h
  obtain ⟨hhdr, hsize⟩ := h
  rw [hdrSize_of_take hhdr hholds] at hsize
  omega

theorem Holds.hasPdu (hholds : Holds rbuf pdu) (heq : rbuf.len = pdu.wire.length) :
    ∃ hpdu : rbuf.HasPdu, (rbuf.pdu hpdu).wire = pdu.wire := by
  have hhdr : rbuf.HasPduHdr := by
    rw [RBuf.HasPduHdr, heq, pdu.length_wire]
    omega
  have hpdu : rbuf.HasPdu := ⟨hhdr, by rw [hdrSize_of_take hhdr hholds, heq]⟩
  refine ⟨hpdu, wire_pdu hpdu ?_⟩
  rw [Holds] at hholds
  rw [hholds, heq, List.take_length]

theorem Holds.crosses (hholds : Holds rbuf pdu) (hbuf : CmdBuffer rbuf) (hhdr : sizeofPdu ≤ rbuf.len)
    (hpast : pdu.wire.length < rbuf.len + bytes.length) (hfill : rbuf.fill bytes = some rbuf') :
    ¬ rbuf'.HasPdu ∧ sizeofPdu ≤ rbuf'.len ∧ Overrun rbuf' := by
  obtain ⟨hlen, htake⟩ := RBuf.take_fill hfill hbuf.small
  have hfirst : rbuf'.raw.take rbuf.len = pdu.wire.take rbuf.len := by
    have := congrArg (List.take rbuf.len) htake
    rw [List.take_take, min_eq_left (by omega), List.take_left' (by
      rw [List.length_take, min_eq_left rbuf.len_le])] at this
    exact this.trans hholds
  have hsize : rbuf'.hdrSize = pdu.wire.length := hdrSize_of_take hhdr hfirst
  have hover : rbuf'.hdrSize < rbuf'.len := by omega
  exact ⟨fun hpdu => absurd hpdu.2 hover.ne', by omega, hover⟩

theorem header_of_crosses (hpast : pdu.wire.length < rbuf.len + bytes.length)
    (hcount : bytes.length ≤ eventInCount rbuf) : sizeofPdu ≤ rbuf.len := by
  by_contra hlt
  rw [eventInCount_header (by omega)] at hcount
  rw [pdu.length_wire] at hpast
  omega

/-- An overrun buffer stays overrun: its header no longer changes and its length only grows. -/
theorem Overrun.fill (hover : Overrun rbuf) (hbuf : CmdBuffer rbuf) (hhdr : sizeofPdu ≤ rbuf.len)
    (hfill : rbuf.fill bytes = some rbuf') :
    ¬ rbuf'.HasPdu ∧ sizeofPdu ≤ rbuf'.len ∧ Overrun rbuf' := by
  obtain ⟨hlen, htake⟩ := RBuf.take_fill hfill hbuf.small
  have hsame : rbuf'.hdrSize = rbuf.hdrSize := by
    obtain ⟨-, -, -, hraw⟩ := RBuf.fill_eq_some hfill
    rw [sizeofPdu] at hhdr
    rw [RBuf.hdrSize, RBuf.hdrSize, RBuf.hdrLen, RBuf.hdrLen, hraw,
      slice_overwrite_of_le (by omega) rbuf.len_le]
  rw [Overrun] at hover
  have hover' : rbuf'.hdrSize < rbuf'.len := by omega
  exact ⟨fun hpdu => absurd hpdu.2 hover'.ne', by omega, hover'⟩

end fill

/-! ## One event -/

def SucceedsOn (handlePdu : Pdu → σ → Option (Int × σ)) (cmds : List Command) : Prop :=
  ∀ cmd ∈ cmds, ∀ pdu : Pdu, pdu.wire = cmd.wire → ∀ s, ∃ status s',
    handlePdu pdu s = some (status, s') ∧ 0 ≤ status

def Command.pdu (cmd : Command) : Pdu where
  service := cmd.service
  opcode := cmd.opcode
  len := UInt16.ofNat cmd.payload.length
  data := cmd.payload
  fits := by
    rw [UInt16.toNat_ofNat']
    exact Nat.mod_le _ _

theorem Command.wire_pdu (cmd : Command) : cmd.pdu.wire = cmd.wire := by
  have hle := cmd.payload_le
  have hlen : cmd.pdu.len.toNat = cmd.payload.length := by
    rw [maxCmdLen] at hle
    exact Nat.mod_eq_of_lt (show cmd.payload.length < 2 ^ 16 by omega)
  rw [Pdu.wire, Pdu.payload, hlen, Command.wire]
  show Pdu.header cmd.service cmd.opcode _ ++ cmd.payload.take _ = _
  rw [List.take_length]

theorem length_cmd_wire (cmd : Command) : cmd.wire.length = sizeofPdu + cmd.payload.length := by
  rw [Command.wire, List.length_append, Pdu.length_header]

variable {handlePdu : Pdu → σ → Option (Int × σ)} {s s' : Session σ} {cmd : Command}
  {bytes : List UInt8}

theorem Receiving.of_empty {rbuf : RBuf} (h : rbuf.len = 0) (cmd : Command) : Receiving rbuf cmd := by
  refine ⟨?_, by rw [h, List.take_zero, List.take_zero]⟩
  rw [h, length_cmd_wire, sizeofPdu]
  omega

theorem Receiving.holds {rbuf : RBuf} (h : Receiving rbuf cmd) : Holds rbuf cmd.pdu := by
  rw [Holds, cmd.wire_pdu]
  exact h.bytes

theorem fill_command (hbuf : CmdBuffer s.rbuf) (h : s.rbuf.len + bytes.length ≤ cmd.wire.length) :
    (∃ rbuf', s.rbuf.fill bytes = some rbuf') ∧ cmd.wire.length ≤ s.rbuf.maxlen := by
  have h1 := cmd.payload_le
  have h2 := s.rbuf.maxlen_le
  have h3 := hbuf.maxlen
  have h4 := length_cmd_wire cmd
  exact ⟨RBuf.fill_of_le (by omega), by omega⟩

theorem step_inside (handlePdu : Pdu → σ → Option (Int × σ)) (hbuf : CmdBuffer s.rbuf)
    (hrecv : Receiving s.rbuf cmd) (hhead : bytes = slice cmd.wire s.rbuf.len bytes.length)
    (hin : s.rbuf.len + bytes.length < cmd.wire.length) :
    ∃ rbuf', s.step handlePdu (.data bytes) = some ⟨rbuf', s.dispatched, s.handlers⟩ ∧
      CmdBuffer rbuf' ∧ Receiving rbuf' cmd ∧ rbuf'.len = s.rbuf.len + bytes.length := by
  obtain ⟨⟨rbuf', hfill⟩, hle⟩ := fill_command hbuf hin.le
  rw [← cmd.wire_pdu] at hhead hin hle
  obtain ⟨hlen, hholds⟩ := hrecv.holds.fill hbuf hhead hfill
  have hmax : rbuf'.maxlen = s.rbuf.maxlen := (RBuf.fill_eq_some hfill).2.1
  have hfull : ¬ rbuf'.IsFull := by
    rw [RBuf.IsFull]
    omega
  refine ⟨rbuf', Session.step_partial hfill (hholds.not_hasPdu (by omega)) hfull, hbuf.fill hfill,
    ⟨?_, ?_⟩, hlen⟩
  · rw [← cmd.wire_pdu]
    omega
  · rw [← cmd.wire_pdu]
    exact hholds

theorem step_completes (hbuf : CmdBuffer s.rbuf) (hrecv : Receiving s.rbuf cmd)
    (hsucc : SucceedsOn handlePdu [cmd])
    (hhead : bytes = slice cmd.wire s.rbuf.len bytes.length)
    (hend : s.rbuf.len + bytes.length = cmd.wire.length) :
    ∃ rbuf' pdu handlers,
      s.step handlePdu (.data bytes) = some ⟨rbuf', s.dispatched ++ [pdu], handlers⟩ ∧
      CmdBuffer rbuf' ∧ rbuf'.len = 0 ∧ pdu.wire = cmd.wire := by
  obtain ⟨⟨rbuf', hfill⟩, -⟩ := fill_command hbuf hend.le
  rw [← cmd.wire_pdu] at hhead hend
  obtain ⟨hlen, hholds⟩ := hrecv.holds.fill hbuf hhead hfill
  obtain ⟨hpdu, hwire⟩ := hholds.hasPdu (hlen.trans hend)
  rw [cmd.wire_pdu] at hwire
  obtain ⟨status, handlers, hhandle, hstatus⟩ := hsucc cmd List.mem_cons_self _ hwire s.handlers
  exact ⟨_, _, _, Session.step_complete hfill hpdu hhandle hstatus, (hbuf.fill hfill).reset, rfl, hwire⟩

theorem step_crosses (hbuf : CmdBuffer s.rbuf) (hrecv : Receiving s.rbuf cmd)
    (hhdr : sizeofPdu ≤ s.rbuf.len) (hpast : cmd.wire.length < s.rbuf.len + bytes.length)
    (hstep : s.step handlePdu (.data bytes) = some s') :
    CmdBuffer s'.rbuf ∧ sizeofPdu ≤ s'.rbuf.len ∧ Overrun s'.rbuf ∧ s'.dispatched = s.dispatched := by
  obtain ⟨rbuf', hfill, hcase⟩ := Session.step_eq_some hstep
  rw [← cmd.wire_pdu] at hpast
  obtain ⟨hnone, hhdr', hover⟩ := hrecv.holds.crosses hbuf hhdr hpast hfill
  rcases hcase with ⟨-, rfl⟩ | ⟨hpdu, -⟩
  · exact ⟨hbuf.fill hfill, hhdr', hover, rfl⟩
  · exact absurd hpdu hnone

theorem step_overrun (hbuf : CmdBuffer s.rbuf) (hhdr : sizeofPdu ≤ s.rbuf.len)
    (hover : Overrun s.rbuf) (hstep : s.step handlePdu (.data bytes) = some s') :
    CmdBuffer s'.rbuf ∧ sizeofPdu ≤ s'.rbuf.len ∧ Overrun s'.rbuf ∧ s'.dispatched = s.dispatched := by
  obtain ⟨rbuf', hfill, hcase⟩ := Session.step_eq_some hstep
  obtain ⟨hnone, hhdr', hover'⟩ := hover.fill hbuf hhdr hfill
  rcases hcase with ⟨-, rfl⟩ | ⟨hpdu, -⟩
  · exact ⟨hbuf.fill hfill, hhdr', hover', rfl⟩
  · exact absurd hpdu hnone

/-! ## Runs of chunks -/

theorem run_overrun {chunks : List (List UInt8)} (hbuf : CmdBuffer s.rbuf)
    (hhdr : sizeofPdu ≤ s.rbuf.len) (hover : Overrun s.rbuf)
    (hrun : run (Session.step handlePdu) s (chunks.map .data) = some s') :
    s'.dispatched = s.dispatched := by
  induction chunks generalizing s with
  | nil =>
    cases hrun
    rfl
  | cons bytes chunks ih =>
    rw [List.map_cons, run_cons, Option.bind_eq_some_iff] at hrun
    obtain ⟨t, ht, hrun⟩ := hrun
    obtain ⟨hbuf', hhdr', hover', hsame⟩ := step_overrun hbuf hhdr hover ht
    rw [← hsame]
    exact ih hbuf' hhdr' hover' hrun

theorem reassembles_nil {chunks : List (List UInt8)} (hne : ∀ bytes ∈ chunks, bytes ≠ [])
    (hlen : s.rbuf.len = 0) (hstream : chunks.flatten = stream []) :
    Reassembles handlePdu s chunks [] ↔ Cut chunks [] := by
  obtain rfl := eq_nil_of_flatten hne hstream
  exact iff_of_true ⟨s, rfl, by simp, hlen⟩ cut_nil

theorem reassembles_inside {chunks : List (List UInt8)} {cmds : List Command}
    (hstep : s.step handlePdu (.data bytes) = some s') (hdisp : s'.dispatched = s.dispatched) :
    Reassembles handlePdu s (bytes :: chunks) cmds ↔ Reassembles handlePdu s' chunks cmds := by
  unfold Reassembles
  rw [List.map_cons, run_cons, hstep, hdisp]
  rfl

theorem reassembles_completes {chunks : List (List UInt8)} {cmds : List Command}
    (hstep : s.step handlePdu (.data bytes) = some s')
    (hdisp : s'.dispatched.map Pdu.wire = s.dispatched.map Pdu.wire ++ [cmd.wire]) :
    Reassembles handlePdu s (bytes :: chunks) (cmd :: cmds) ↔ Reassembles handlePdu s' chunks cmds := by
  unfold Reassembles
  rw [List.map_cons, run_cons, hstep, hdisp]
  simp

/-- What is dispatched of a stream whose first command has been received in part. The induction is
on the chunks; the next one stays inside that command, ends with it or goes past its end. -/
theorem reassembles_iff_of_receiving {cmds : List Command} {chunks : List (List UInt8)}
    (hbuf : CmdBuffer s.rbuf) (hrecv : Receiving s.rbuf cmd)
    (hsucc : SucceedsOn handlePdu (cmd :: cmds)) (hne : ∀ bytes ∈ chunks, bytes ≠ [])
    (hread : Readable handlePdu s chunks)
    (hstream : chunks.flatten = cmd.wire.drop s.rbuf.len ++ stream cmds) :
    Reassembles handlePdu s chunks (cmd :: cmds) ↔
      Cut chunks (cmd.wire.drop s.rbuf.len :: cmds.map Command.wire) := by
  induction chunks generalizing s cmd cmds with
  | nil =>
    have hlen := congrArg List.length hstream
    have hinc := hrecv.incomplete
    simp at hlen
    omega
  | cons bytes chunks ih =>
    have hinc := hrecv.incomplete
    have hword : cmd.wire.drop s.rbuf.len ≠ [] := by simpa using hinc
    have hne' : ∀ b ∈ chunks, b ≠ [] := fun b hb => hne b (List.mem_cons_of_mem _ hb)
    rw [List.flatten_cons] at hstream
    by_cases hpast : cmd.wire.length < s.rbuf.len + bytes.length
    · have hhdr : sizeofPdu ≤ s.rbuf.len :=
        header_of_crosses (by rw [cmd.wire_pdu]; exact hpast) hread.1
      refine iff_of_false ?_ (not_cut_crosses hword ?_)
      · intro h
        obtain ⟨s', hrun, hdisp, -⟩ := h
        rw [List.map_cons, run_cons, Option.bind_eq_some_iff] at hrun
        obtain ⟨t, hstep, hrun⟩ := hrun
        obtain ⟨hbuf', hhdr', hover, hsame⟩ := step_crosses hbuf hrecv hhdr hpast hstep
        rw [run_overrun hbuf' hhdr' hover hrun, hsame] at hdisp
        simp at hdisp
      · rw [List.length_drop]
        omega
    obtain ⟨hhead, hdrop, hrest⟩ := next_part hstream (by omega)
    rw [hdrop]
    by_cases hend : s.rbuf.len + bytes.length = cmd.wire.length
    · -- the command is complete
      obtain ⟨rbuf', pdu, handlers, hstep, hbuf', hlen', hwire⟩ := step_completes hbuf hrecv
        (fun c hc => hsucc c (by rw [List.mem_singleton.mp hc]; simp)) hhead hend
      rw [hend, List.drop_length, List.nil_append] at hrest
      rw [hend, List.drop_length, List.append_nil, cut_ends (hne bytes List.mem_cons_self) hne',
        reassembles_completes hstep (by simp [hwire])]
      cases cmds with
      | nil => exact reassembles_nil hne' hlen' hrest
      | cons next cmds =>
        have hnext : next.wire.drop rbuf'.len = next.wire := by rw [hlen', List.drop_zero]
        have hiff := ih hbuf' (Receiving.of_empty hlen' next)
          (fun c hc => hsucc c (List.mem_cons_of_mem _ hc)) hne' (hread.2 _ hstep)
          (by rw [hnext]; exact hrest)
        rwa [hnext] at hiff
    · -- a part of the command is missing
      obtain ⟨rbuf', hstep, hbuf', hrecv', hlen'⟩ := step_inside handlePdu hbuf hrecv hhead (by omega)
      rw [← hlen'] at hrest
      rw [← hlen', cut_inside (by simpa using hrecv'.incomplete), reassembles_inside hstep rfl]
      exact ih hbuf' hrecv' hsucc hne' (hread.2 _ hstep) hrest

theorem reassembles_iff_of_empty {cmds : List Command} {chunks : List (List UInt8)}
    (hbuf : CmdBuffer s.rbuf) (hlen : s.rbuf.len = 0) (hsucc : SucceedsOn handlePdu cmds)
    (hne : ∀ bytes ∈ chunks, bytes ≠ []) (hread : Readable handlePdu s chunks)
    (hstream : chunks.flatten = stream cmds) :
    Reassembles handlePdu s chunks cmds ↔ SplitAtPdus chunks cmds := by
  cases cmds with
  | nil => exact reassembles_nil hne hlen hstream
  | cons cmd cmds =>
    have hdrop : cmd.wire.drop s.rbuf.len = cmd.wire := by rw [hlen, List.drop_zero]
    have hiff := reassembles_iff_of_receiving hbuf (Receiving.of_empty hlen cmd) hsucc hne hread
      (by rw [hdrop]; exact hstream)
    rwa [hdrop] at hiff

/-- **Reassembly.** On a fresh buffer, with handlers that succeed, chunks of a stream of commands
come out as exactly these commands if and only if they are cut at every PDU boundary. -/
theorem reassembles_iff {cmds : List Command} {chunks : List (List UInt8)} (hs : s.Fresh)
    (hsucc : SucceedsOn handlePdu cmds) (hne : ∀ bytes ∈ chunks, bytes ≠ [])
    (hread : Readable handlePdu s chunks) (hstream : chunks.flatten = stream cmds) :
    Reassembles handlePdu s chunks cmds ↔ SplitAtPdus chunks cmds := by
  obtain ⟨mem, hcreate, -⟩ := hs
  obtain ⟨hbuf, hlen⟩ := cmdBuffer_create hcreate
  exact reassembles_iff_of_empty hbuf hlen hsucc hne hread hstream

end reassembly

/-! ## Two commands, split in two ways -/

section examples

def twoCommands : List Command := [⟨1, 1, [7], by decide⟩, ⟨0, 2, [], by decide⟩]

def successHandler (_ : Pdu) (s : Unit) : Option (Int × Unit) := some (0, s)

/-- The second read, made after the first header, also returns a byte of the second PDU: neither
PDU is ever dispatched. -/
theorem crossing_read_loses_pdus :
    ∃ s : Session Unit, @Session.Fresh lp64 Unit s ∧ @SucceedsOn lp64 Unit successHandler twoCommands ∧
      @Readable lp64 Unit successHandler s [[1, 1, 1, 0], [7, 0], [2, 0, 0]] ∧
      [[1, 1, 1, 0], [7, 0], [2, 0, 0]].flatten = @stream lp64 twoCommands ∧
      ¬ @Reassembles lp64 Unit successHandler s [[1, 1, 1, 0], [7, 0], [2, 0, 0]] twoCommands := by
  refine ⟨⟨(@createPduRbuf lp64 maxCmdLen (.block (fun _ => 0) false)).get rfl, [], ()⟩, ⟨_, rfl, rfl⟩,
    fun _ _ _ _ _ => ⟨0, (), rfl, le_rfl⟩, by unfold Readable; decide +kernel, by decide, ?_⟩
  intro h
  obtain ⟨s', hrun, hdisp, -⟩ := h
  have hnone : ((run (@Session.step lp64 Unit successHandler) _ _).map fun s' => s'.dispatched.length)
      = some s'.dispatched.length := congrArg _ hrun
  have hzero : s'.dispatched.length = 0 := by
    rw [← Option.some_inj, ← hnone]
    decide +kernel
  have := congrArg List.length hdisp
  simp [hzero, twoCommands] at this

theorem reassembles_iff_twoCommands :
    ∃ s : Session Unit, @Session.Fresh lp64 Unit s ∧
      @Reassembles lp64 Unit successHandler s [[1, 1], [1, 0], [7], [0, 2, 0, 0]] twoCommands := by
  refine ⟨⟨(@createPduRbuf lp64 maxCmdLen (.block (fun _ => 0) false)).get rfl, [], ()⟩, ⟨_, rfl, rfl⟩, ?_⟩
  refine (@reassembles_iff lp64 Unit successHandler _ twoCommands _ ⟨_, rfl, rfl⟩
    (fun _ _ _ _ _ => ⟨0, (), rfl, le_rfl⟩) (by decide) (by unfold Readable; decide +kernel)
    (by decide)).mpr ⟨[[[1, 1], [1, 0], [7]], [[0, 2, 0, 0]]], rfl, by decide⟩

end examples

end Bluetoothd
