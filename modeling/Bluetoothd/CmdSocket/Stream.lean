import Bluetoothd.CmdSocket.Reassembly
import Bluetoothd.Lib.PrefixCode

/-!
# The command stream, however it is cut

`reassembles_iff` says for which chunks all PDUs of a stream are dispatched. The others lose PDUs, or
the connection; but whatever the chunks are and whatever `handle_pdu` returns, the bytes received are
those of the PDUs that were dispatched, followed by what is in the buffer (`stream_conserved`). As
the PDUs are a prefix code, none is ever dispatched that is not the next one of the stream
(`dispatched_inOrder`).
-/

namespace Bluetoothd

open Platform Buffer Transition

/-! ## The bytes of a receive buffer -/

def RBuf.received (rbuf : RBuf) : List UInt8 := rbuf.raw.take rbuf.len

namespace RBuf

variable {rbuf rbuf' : RBuf} {bytes : List UInt8}

@[simp] theorem length_received : rbuf.received.length = rbuf.len := by
  rw [received, List.length_take, min_eq_left rbuf.len_le]

theorem received_reset : rbuf.reset.received = [] := List.take_zero

variable [Platform]

theorem received_fill (h : rbuf.fill bytes = some rbuf') (hsmall : rbuf.raw.length < 2 ^ 32) :
    rbuf'.received = rbuf.received ++ bytes := (take_fill h hsmall).2

theorem wire_received (h : rbuf.HasPdu) : (rbuf.pdu h).wire = rbuf.received := by
  have hhdr : sizeofPdu ≤ rbuf.len := h.1
  have hle := rbuf.len_le
  have hsize : rbuf.len = sizeofPdu + rbuf.hdrLen := by rw [h.2, hdrSize_eq]
  rw [sizeofPdu] at hhdr hsize
  have hfield : (slice rbuf.raw 2 2).length = 2 := length_slice (by omega)
  have hlen : hostBytes 2 rbuf.hdrLen = slice rbuf.raw 2 2 := hostBytes_hostInt hfield
  obtain ⟨a, b, rest, hraw⟩ : ∃ a b rest, rbuf.raw = a :: b :: rest := by
    rcases hr : rbuf.raw with _ | ⟨a, _ | ⟨b, rest⟩⟩ <;> simp [hr] at hle
    · omega
    · omega
    · exact ⟨a, b, rest, rfl⟩
  have hpayload : (rbuf.pdu h).payload = (rbuf.raw.drop sizeofPdu).take rbuf.hdrLen := by
    rw [Pdu.payload, len_pdu]
    rfl
  rw [Pdu.wire, hpayload, len_pdu]
  show rbuf.raw.getD 0 0 :: rbuf.raw.getD 1 0 :: (hostBytes 2 rbuf.hdrLen ++ _) = rbuf.raw.take rbuf.len
  rw [hlen, hsize, hraw, sizeofPdu]
  show a :: b :: (rest.take 2 ++ (rest.drop 2).take rbuf.hdrLen) = _
  rw [← List.take_add, Nat.add_comm 4 rbuf.hdrLen]
  show _ = a :: b :: rest.take (rbuf.hdrLen + 2)
  rw [Nat.add_comm rbuf.hdrLen 2]

end RBuf

section stream

variable [Platform]

/-! ## PDUs as a code -/

/-- The PDUs are a prefix code: the length in the header tells where a PDU ends. -/
theorem prefixCode_wire : PrefixCode (Set.range (Pdu.wire)) where
  ne_nil := by
    rintro _ ⟨pdu, rfl⟩ hnil
    have hlen := congrArg List.length hnil
    rw [pdu.length_wire, sizeofPdu] at hlen
    simp at hlen
  eq_of_prefix := by
    rintro _ ⟨v, rfl⟩ _ ⟨w, rfl⟩ hpre
    obtain ⟨rest, hrest⟩ := hpre
    have hhdr : 2 + 2 ≤ v.wire.length := by
      rw [v.length_wire, sizeofPdu]
      omega
    have hfield : slice v.wire 2 2 = slice w.wire 2 2 := by
      have htake : slice ((v.wire ++ rest).take v.wire.length) 2 2 = slice (v.wire ++ rest) 2 2 :=
        slice_take hhdr
      rw [← hrest, ← htake, List.take_left' rfl]
    rw [slice_wire, slice_wire] at hfield
    have hlen := congrArg hostInt hfield
    rw [hostInt_hostBytes 2 v.len_lt, hostInt_hostBytes 2 w.len_lt] at hlen
    have hsame : v.wire.length = w.wire.length := by
      rw [v.length_wire, w.length_wire, hlen]
    exact List.IsPrefix.eq_of_length ⟨rest, hrest⟩ hsame

/-! ## Runs -/

variable {σ : Type} {handlePdu : Pdu → σ → Option (Int × σ)} {s s' s'' : Session σ}
  {bytes : List UInt8} {chunks : List (List UInt8)} {fate : Fate}

/-- The bytes of the PDUs that were dispatched, and those in the buffer. -/
def Session.consumed (s : Session σ) : List UInt8 :=
  (s.dispatched.map Pdu.wire).flatten ++ s.rbuf.received

/-- An event either adds the bytes to those in the buffer, or dispatches the PDU that they complete. -/
theorem Session.event_bytes (hbuf : CmdBuffer s.rbuf)
    (h : s.event handlePdu (.data bytes) = some (fate, s')) :
    CmdBuffer s'.rbuf ∧ (s'.consumed = s.consumed ++ bytes ∨
      fate = .closed ∧ (s'.dispatched.map Pdu.wire).flatten = s.consumed ++ bytes) := by
  rcases Session.event_eq_some h with ⟨hres, -⟩ | ⟨bytes', rbuf', hres, hfill, hcase⟩
  · cases hres
  cases hres
  have hreceived := RBuf.received_fill hfill hbuf.small
  have hbuf' := hbuf.fill hfill
  have hdispatched : ∀ hpdu : rbuf'.HasPdu,
      ((s.dispatched ++ [rbuf'.pdu hpdu]).map Pdu.wire).flatten = s.consumed ++ bytes := by
    intro hpdu
    rw [List.map_append, List.flatten_append, List.map_singleton, List.flatten_singleton,
      RBuf.wire_received, hreceived, Session.consumed, List.append_assoc]
  rcases hcase with ⟨-, -, rfl⟩ | ⟨hpdu, status, handlers, -, ⟨-, hfate, rfl⟩ | ⟨-, -, rfl⟩⟩
  · refine ⟨hbuf', .inl ?_⟩
    rw [Session.consumed, Session.consumed, List.append_assoc, ← hreceived]
  · exact ⟨hbuf', .inr ⟨hfate, hdispatched hpdu⟩⟩
  · refine ⟨hbuf'.reset, .inl ?_⟩
    rw [Session.consumed, RBuf.received_reset, List.append_nil]
    exact hdispatched hpdu

theorem Session.step_bytes (hbuf : CmdBuffer s.rbuf)
    (h : s.step handlePdu (.data bytes) = some s') :
    CmdBuffer s'.rbuf ∧ s'.consumed = s.consumed ++ bytes := by
  obtain ⟨hbuf', hbytes | ⟨hfate, -⟩⟩ := Session.event_bytes hbuf (Session.step_eq_some_iff.mp h)
  · exact ⟨hbuf', hbytes⟩
  · cases hfate

theorem Session.run_bytes (hbuf : CmdBuffer s.rbuf)
    (hrun : run (Session.step handlePdu) s (chunks.map .data) = some s') :
    CmdBuffer s'.rbuf ∧ s'.consumed = s.consumed ++ chunks.flatten := by
  induction chunks generalizing s with
  | nil =>
    cases hrun
    exact ⟨hbuf, (List.append_nil _).symm⟩
  | cons bytes chunks ih =>
    rw [List.map_cons, run_cons, Option.bind_eq_some_iff] at hrun
    obtain ⟨t, hstep, hrun⟩ := hrun
    obtain ⟨hbuf', hbytes⟩ := Session.step_bytes hbuf hstep
    obtain ⟨hbuf'', hrest⟩ := ih hbuf' hrun
    refine ⟨hbuf'', ?_⟩
    rw [hrest, hbytes, List.flatten_cons, List.append_assoc]

theorem Session.Fresh.consumed (hs : s.Fresh) : CmdBuffer s.rbuf ∧ s.consumed = [] := by
  obtain ⟨mem, hcreate, hnone⟩ := hs
  obtain ⟨hbuf, hlen⟩ := cmdBuffer_create hcreate
  refine ⟨hbuf, ?_⟩
  rw [Session.consumed, hnone, RBuf.received, hlen, List.take_zero]
  rfl

/-- **Nothing is lost, repeated or reordered.** Whatever `read()` returns and whatever becomes of
the commands, while the socket is open the bytes received on it are those of the PDUs that were
dispatched, followed by those in the buffer. -/
theorem stream_conserved (hs : s.Fresh)
    (hrun : run (Session.step handlePdu) s (chunks.map .data) = some s') :
    chunks.flatten = (s'.dispatched.map Pdu.wire).flatten ++ s'.rbuf.received := by
  obtain ⟨hbuf, hnone⟩ := hs.consumed
  obtain ⟨-, hbytes⟩ := Session.run_bytes hbuf hrun
  rw [hnone, List.nil_append] at hbytes
  exact hbytes.symm

/-- **No PDU is ever made up.** However a stream of PDUs is cut into reads, the PDUs that are
dispatched, up to and including the event that closes the socket, are the first ones of the stream. -/
theorem dispatched_inOrder {cmds : List Pdu} (hs : s.Fresh)
    (hrun : run (Session.step handlePdu) s (chunks.map .data) = some s')
    (hevent : s'.event handlePdu (.data bytes) = some (fate, s''))
    (hstream : chunks.flatten ++ bytes <+: (cmds.map Pdu.wire).flatten) :
    s''.dispatched.map Pdu.wire <+: cmds.map Pdu.wire := by
  obtain ⟨hbuf, hnone⟩ := hs.consumed
  obtain ⟨hbuf', hbytes⟩ := Session.run_bytes hbuf hrun
  rw [hnone, List.nil_append] at hbytes
  have hpre : (s''.dispatched.map Pdu.wire).flatten <+: chunks.flatten ++ bytes := by
    obtain ⟨-, hafter | ⟨-, hafter⟩⟩ := Session.event_bytes hbuf' hevent
    · rw [hbytes] at hafter
      rw [← hafter]
      exact List.prefix_append _ _
    · rw [hafter, hbytes]
  have hcode : ∀ pdus : List Pdu, ∀ word ∈ pdus.map Pdu.wire, word ∈ Set.range Pdu.wire := by
    intro pdus word hword
    obtain ⟨pdu, -, rfl⟩ := List.mem_map.mp hword
    exact ⟨pdu, rfl⟩
  exact prefixCode_wire.prefix_of_flatten (hcode _) (hcode _) (hpre.trans hstream)

end stream

/-! ## Two streams -/

def coreHandler (cmd : Pdu) (s : Unit) : Option (Int × Unit) :=
  some (if cmd.service = serviceCore then 0 else -1, s)

def newSession : Session Unit := ⟨(@createPduRbuf lp64 maxCmdLen (.block (fun _ => 0) false)).get rfl, [], ()⟩

/-- The second read goes past the end of the first PDU, and nothing is dispatched; all its bytes are
in the buffer. -/
theorem stream_conserved_crossing :
    ∃ s, run (@Session.step lp64 Unit coreHandler) newSession ([[0, 1, 1, 0], [7, 1, 9]].map .data)
        = some s ∧
      [[0, 1, 1, 0], [7, 1, 9]].flatten
        = (s.dispatched.map (@Pdu.wire lp64)).flatten ++ s.rbuf.received := by
  have hsome : (run (@Session.step lp64 Unit coreHandler) newSession
      ([[0, 1, 1, 0], [7, 1, 9]].map .data)).isSome := by decide +kernel
  obtain ⟨s, hrun⟩ := Option.isSome_iff_exists.mp hsome
  exact ⟨s, hrun, @stream_conserved lp64 Unit coreHandler newSession s _ ⟨_, rfl, rfl⟩ hrun⟩

/-- The second of three PDUs is refused, which closes the socket; the third is never dispatched. -/
theorem dispatched_inOrder_refused :
    ∃ s s', run (@Session.step lp64 Unit coreHandler) newSession ([[0, 2], [0, 0]].map .data) = some s ∧
      @Session.event lp64 Unit coreHandler s (.data [1, 9, 0, 0]) = some (.closed, s') ∧
      s'.dispatched.map (@Pdu.wire lp64) <+:
        [initPdu [] 0 2, initPdu [] 1 9, initPdu [] 0 3].map (@Pdu.wire lp64) := by
  have hclosed : ((run (@Session.step lp64 Unit coreHandler) newSession
      ([[0, 2], [0, 0]].map .data)).bind fun s =>
        @Session.event lp64 Unit coreHandler s (.data [1, 9, 0, 0])).map Prod.fst = some .closed := by
    decide +kernel
  obtain ⟨⟨fate, s'⟩, hboth, rfl⟩ := Option.map_eq_some_iff.mp hclosed
  obtain ⟨s, hrun, hevent⟩ := Option.bind_eq_some_iff.mp hboth
  exact ⟨s, s', hrun, hevent, @dispatched_inOrder lp64 Unit coreHandler newSession s s' [1, 9, 0, 0] _
    .closed _ ⟨_, rfl, rfl⟩ hrun hevent (by decide)⟩

end Bluetoothd
