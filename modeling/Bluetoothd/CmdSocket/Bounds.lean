import Bluetoothd.CmdSocket.Reassembly

/-!
# Bounds of the receive buffer

Whatever a client sends and however `read()` behaves, a request made while the PDU header is still
incomplete stays inside the buffer; every later request asks for more than the buffer has room for.
-/

namespace Bluetoothd

open Platform Buffer Transition

section bounds

variable [Platform] {σ : Type} {handlePdu : Pdu → σ → Option (Int × σ)} {s s' : Session σ}
  {res : ReadResult}

/-- What the bounds of the receive buffer ask of one event: a positive count within the room that
is left, no byte stored past the limit, no oversize PDU dispatched, and the error path once an
oversize PDU has filled the buffer. -/
structure InBounds (handlePdu : Pdu → σ → Option (Int × σ)) (s : Session σ) (res : ReadResult) :
    Prop where
  positive : 0 < eventInCount s.rbuf
  room : s.rbuf.len + eventInCount s.rbuf ≤ s.rbuf.maxlen
  stored : ∀ bytes, res = .data bytes → ∃ rbuf', s.rbuf.fill bytes = some rbuf' ∧
    rbuf'.len ≤ s.rbuf.maxlen
  dispatched : ∀ fate s', s.event handlePdu res = some (fate, s') →
    ∀ pdu ∈ s'.dispatched, pduSize pdu ≤ s.rbuf.maxlen
  oversize : ∀ fate s', s.event handlePdu res = some (fate, s') → s'.rbuf.IsFull →
    s'.rbuf.maxlen < s'.rbuf.hdrSize → fate = .closed

def ReadsHeader (s : Session σ) (_ : ReadResult) : Prop := s.rbuf.len < sizeofPdu

structure HeaderInv (s : Session σ) : Prop where
  buf : CmdBuffer s.rbuf
  len_le : s.rbuf.len ≤ sizeofPdu
  dispatched : ∀ pdu ∈ s.dispatched, pduSize pdu ≤ s.rbuf.maxlen

theorem HeaderInv.of_fresh (hs : s.Fresh) : HeaderInv s := by
  obtain ⟨mem, hcreate, hdisp⟩ := hs
  obtain ⟨hbuf, hlen⟩ := cmdBuffer_create hcreate
  exact ⟨hbuf, by rw [hlen]; exact Nat.zero_le _, by simp [hdisp]⟩

theorem fill_header {bytes : List UInt8} {rbuf' : RBuf} (hinv : HeaderInv s)
    (hhdr : s.rbuf.len < sizeofPdu) (hcount : bytes.length ≤ eventInCount s.rbuf)
    (hfill : s.rbuf.fill bytes = some rbuf') :
    CmdBuffer rbuf' ∧ rbuf'.len ≤ sizeofPdu ∧ rbuf'.maxlen = s.rbuf.maxlen := by
  obtain ⟨hlen, -⟩ := RBuf.take_fill hfill hinv.buf.small
  rw [eventInCount_header hhdr] at hcount
  exact ⟨hinv.buf.fill hfill, by omega, (RBuf.fill_eq_some hfill).2.1⟩

theorem HeaderInv.event {fate : Fate} (hinv : HeaderInv s) (hhdr : s.rbuf.len < sizeofPdu)
    (hcount : WithinCount s res) (hevent : s.event handlePdu res = some (fate, s')) :
    HeaderInv s' ∧ s'.rbuf.maxlen = s.rbuf.maxlen := by
  rcases Session.event_eq_some hevent with ⟨-, -, rfl⟩ | ⟨bytes, rbuf', rfl, hfill, hcase⟩
  · exact ⟨hinv, rfl⟩
  obtain ⟨hbuf, hlen, hmax⟩ := fill_header hinv hhdr hcount hfill
  have hpdus : ∀ hpdu : rbuf'.HasPdu, ∀ pdu ∈ s.dispatched ++ [rbuf'.pdu hpdu],
      pduSize pdu ≤ rbuf'.maxlen := by
    intro hpdu pdu hmem
    rcases List.mem_append.mp hmem with hmem | hmem
    · rw [hmax]
      exact hinv.dispatched pdu hmem
    · rw [List.mem_singleton.mp hmem, RBuf.pduSize_pdu]
      exact le_trans hlen rbuf'.hdr_le
  rcases hcase with ⟨-, -, rfl⟩ | ⟨hpdu, status, handlers, -, ⟨-, -, rfl⟩ | ⟨-, -, rfl⟩⟩
  · exact ⟨⟨hbuf, hlen, by rw [hmax]; exact hinv.dispatched⟩, hmax⟩
  · exact ⟨⟨hbuf, hlen, hpdus hpdu⟩, hmax⟩
  · exact ⟨⟨⟨hbuf.maxlen, hbuf.small⟩, Nat.zero_le _, hpdus hpdu⟩, hmax⟩

theorem inBounds_iff (hinv : HeaderInv s) (hcount : WithinCount s res) :
    InBounds handlePdu s res ↔ ReadsHeader s res := by
  have hmax := hinv.buf.maxlen
  have hsize := ulongSize_ge
  have hlen := hinv.len_le
  unfold ReadsHeader
  constructor
  · intro h
    by_contra hdata
    have hroom := h.room
    rw [eventInCount_data (by omega) (by rw [sizeofPdu] at hlen; omega), hmax, maxCmdLen,
      sizeofPdu] at hroom
    omega
  · intro hhdr
    have hcnt := eventInCount_header hhdr
    have hblock := s.rbuf.maxlen_le
    refine ⟨by omega, by omega, ?_, ?_, ?_⟩
    · rintro bytes rfl
      have hbytes : bytes.length ≤ eventInCount s.rbuf := hcount
      obtain ⟨rbuf', hfill⟩ := RBuf.fill_of_le (show s.rbuf.len + bytes.length ≤ s.rbuf.raw.length by omega)
      obtain ⟨-, hlen', -⟩ := fill_header hinv hhdr hcount hfill
      exact ⟨rbuf', hfill, by omega⟩
    · intro fate s' hevent pdu hmem
      obtain ⟨hinv', hmax'⟩ := hinv.event hhdr hcount hevent
      rw [← hmax']
      exact hinv'.dispatched pdu hmem
    · intro fate s' hevent hfull _
      obtain ⟨hinv', hmax'⟩ := hinv.event hhdr hcount hevent
      have := hinv'.len_le
      rw [RBuf.IsFull, hmax', hmax, maxCmdLen] at hfull
      omega

/-- **Bounds of the receive buffer.** For every stream and every behaviour of `read()`, all events
of a run on a fresh buffer are in bounds if and only if each of its reads is made while the header
is incomplete. -/
theorem along_inBounds_iff {results : List ReadResult} (hs : s.Fresh)
    (hcount : Along (Session.step handlePdu) WithinCount s results) :
    Along (Session.step handlePdu) (InBounds handlePdu) s results ↔
      Along (Session.step handlePdu) ReadsHeader s results := by
  refine along_iff (I := HeaderInv) ?_ ?_ (HeaderInv.of_fresh hs) hcount
  · intro s res s' hinv hcount hhdr hstep
    exact (hinv.event hhdr hcount (Session.step_eq_some_iff.mp hstep)).1
  · intro s res hinv hcount
    exact inBounds_iff hinv hcount

end bounds

section examples

/-- After a header that declares one payload byte, the next read asks for `2 ^ 64 - 4` bytes. -/
theorem data_read_out_of_bounds :
    ∃ s : Session Unit, @Session.Fresh lp64 Unit s ∧
      Along (@Session.step lp64 Unit successHandler) (@WithinCount lp64 Unit) s
        [.data [1, 1, 1, 0], .data [7]] ∧
      ¬ Along (@Session.step lp64 Unit successHandler) (@InBounds lp64 Unit successHandler) s
        [.data [1, 1, 1, 0], .data [7]] := by
  refine ⟨⟨(@createPduRbuf lp64 maxCmdLen (.block (fun _ => 0) false)).get rfl, [], ()⟩, ⟨_, rfl, rfl⟩,
    by decide +kernel, ?_⟩
  intro h
  obtain ⟨-, hrest⟩ := h
  have hroom : (@Session.step lp64 Unit successHandler
      ⟨(@createPduRbuf lp64 maxCmdLen (.block (fun _ => 0) false)).get rfl, [], ()⟩ (.data [1, 1, 1, 0])).all
        (fun t => t.rbuf.len + @eventInCount lp64 t.rbuf ≤ t.rbuf.maxlen) = true := by
    rw [Option.all_eq_true]
    intro t ht
    obtain ⟨⟨-, hroom, -, -, -⟩, -⟩ := hrest t ht
    exact decide_eq_true hroom
  exact absurd hroom (by decide +kernel)

theorem along_inBounds_iff_header :
    ∃ s : Session Unit, @Session.Fresh lp64 Unit s ∧
      Along (@Session.step lp64 Unit successHandler) (@InBounds lp64 Unit successHandler) s
        [.data [1, 1], .data [0, 0], .error] := by
  refine ⟨⟨(@createPduRbuf lp64 maxCmdLen (.block (fun _ => 0) false)).get rfl, [], ()⟩, ⟨_, rfl, rfl⟩, ?_⟩
  apply (@along_inBounds_iff lp64 Unit successHandler _ _ ⟨_, rfl, rfl⟩ (by decide +kernel)).mpr
  unfold ReadsHeader
  decide +kernel

end examples

end Bluetoothd
