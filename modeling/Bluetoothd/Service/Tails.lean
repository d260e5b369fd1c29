import Bluetoothd.Service.Discipline
import Bluetoothd.Service.Notifications

/-!
# The tails of write buffers (`bt-pdubuf.c`)

`create_pdu_wbuf` allocates `taillen` bytes behind the payload, and `pdu_wbuf_tail` says where they
are; the message builders put an `iovec` there, and `build_pdu_wbuf_msg_with_fd` the control data
behind it. `tailSound_iff` and `placed_le_iff` compare the two with what was allocated.
-/

namespace Bluetoothd

open Platform

variable {H α β : Type}

/-! ## What is sent -/

def Sends (build : WBuf → Message) (x : Act H α) : Prop :=
  Emits x fun _ _ evs _ => ∀ msg ∈ sentOf evs, ∃ wbuf, msg = build wbuf

section sends

variable {build : WBuf → Message} {x : Act H α} {f : α → Act H β}

theorem Sends.of_emits {P : Nat → Except Fault α → List Event → Nat → Prop} (h : Emits x P)
    (hsent : ∀ n r evs m, P n r evs m → sentOf evs = []) : Sends build x := by
  refine h.mono ?_
  intro n r evs m hP msg hmsg
  rw [hsent n r evs m hP] at hmsg
  cases hmsg

theorem Sends.bind (hx : Sends build x) (hf : ∀ a, Sends build (f a)) : Sends build (x >>= f) := by
  refine Emits.bind hx hf ?_ ?_
  · intro n a evs m r evs' k hevs hevs' msg hmsg
    rw [sentOf_append] at hmsg
    rcases List.mem_append.mp hmsg with hmsg | hmsg
    · exact hevs msg hmsg
    · exact hevs' msg hmsg
  · intro n e evs m hevs
    exact hevs

theorem Sends.pure (a : α) : Sends build (pure a : Act H α) := by
  refine Emits.pure ?_
  intro n msg hmsg
  cases hmsg

theorem sends_sendPdu (pointer : World H → Option SendPdu) (wbuf : WBuf) :
    Sends build (sendPdu pointer (build wbuf)) := by
  intro w
  rcases hpointer : pointer w with _ | cb
  · rw [run_sendPdu_none hpointer]
    refine ⟨[], by simp, ?_⟩
    intro msg hmsg
    cases hmsg
  · rw [run_sendPdu_some hpointer]
    refine ⟨[.send (build wbuf)], rfl, ?_⟩
    intro msg hmsg
    exact ⟨wbuf, List.mem_singleton.mp hmsg⟩

theorem Releases.sends {release : Act H Unit} {blocks : List Nat} (h : Releases release blocks) :
    Sends build release := by
  intro w
  rw [h w]
  refine ⟨blocks.map .free, rfl, ?_⟩
  intro msg hmsg
  rw [(observe_frees blocks).2.2.2.2] at hmsg
  cases hmsg

theorem Performs.sends {op : Op} {x : Act H Status} (h : Performs x op) : Sends build x := by
  refine Sends.of_emits h ?_
  intro n r evs m hevs
  obtain ⟨-, inner, hinner, hcases⟩ := hevs
  have hsent := (observe_internal hinner).2.2.2.2.2
  rcases hcases with ⟨fault, -, rfl⟩ | ⟨status, res, -, rfl, -⟩
  · exact hsent
  · show sentOf (inner ++ [.result op res]) = []
    rw [sentOf_append, hsent]
    rfl

variable [Platform] (env : Env)

theorem sends_newPduWbuf (maxdatalen : Nat) : Sends build (newPduWbuf env maxdatalen : Act H _) := by
  intro w
  rcases hmem : env.obtained w.mallocs with _ | mem
  · rw [run_newPduWbuf_none hmem]
    refine ⟨[], by simp, ?_⟩
    intro msg hmsg
    cases hmsg
  · rw [run_newPduWbuf_some hmem]
    refine ⟨[.malloc .wbuf w.mallocs], rfl, ?_⟩
    intro msg hmsg
    cases hmsg

theorem IsServe.sends {fmt : String} {cmd : Pdu} {handle : Act Handler Status}
    (h : IsServe env fmt cmd build handle) : Sends build handle := by
  obtain ⟨α, short, noMem, decode, release, held, op, ops, pointer, rfl, -, -, hdecode, hrelease,
    hop⟩ := h
  have hdecodes : Sends build decode := Sends.of_emits hdecode fun n r evs m hd => hd.sent
  refine hdecodes.bind ?_
  intro args
  cases args with
  | none => exact Sends.pure short
  | some args =>
    refine (sends_newPduWbuf env 0).bind ?_
    intro wbuf
    cases wbuf with
    | none => exact (hrelease args).sends.bind fun _ => Sends.pure noMem
    | some wbuf =>
      refine (hop args).sends.bind ?_
      intro status
      unfold conclude
      by_cases hstatus : status ≠ Status.success
      · rw [if_pos hstatus]
        have hcleanup : Releases (cleanupPduWbuf wbuf : Act Handler Unit) [wbuf.block] := fun _ => rfl
        exact hcleanup.sends.bind fun _ => (hrelease args).sends.bind fun _ => Sends.pure status
      · rw [if_neg hstatus]
        refine (hrelease args).sends.bind fun _ => ?_
        exact (sends_sendPdu pointer _).bind fun _ => Sends.pure Status.success

end sends

section tails

variable [Platform]

/-! ## The region of the tail -/

/-- The `i`-th byte from `pdu_wbuf_tail(wbuf)` on, as an offset in the block. -/
def tailByte (wbuf : WBuf) (i : Nat) : Nat := uadd (pduWbufTail wbuf) i

/-- The `t` bytes of the tail are in the block that `create_pdu_wbuf` allocates for `m` bytes of
payload and `t` bytes of tail, and neither in the fields of the structure, whose last is the PDU
header, nor in the payload behind that header. -/
structure TailSound (wbuf : WBuf) (m t : Nat) : Prop where
  inside : ∀ i < t, tailByte wbuf i < sizeofPduWbuf + m + t
  fields : ∀ i < t, ¬ tailByte wbuf i < offsetofTail
  payload : ∀ i < t, ¬ (offsetofTail ≤ tailByte wbuf i ∧ tailByte wbuf i < offsetofTail + m)

instance (wbuf : WBuf) (m t : Nat) : Decidable (TailSound wbuf m t) :=
  decidable_of_iff ((∀ i < t, tailByte wbuf i < sizeofPduWbuf + m + t) ∧
    (∀ i < t, ¬ tailByte wbuf i < offsetofTail) ∧
    ∀ i < t, ¬ (offsetofTail ≤ tailByte wbuf i ∧ tailByte wbuf i < offsetofTail + m))
    ⟨fun h => ⟨h.1, h.2.1, h.2.2⟩, fun h => ⟨h.inside, h.fields, h.payload⟩⟩

theorem offsetofTail_pos : 0 < offsetofTail := by
  rw [offsetofTail, sizeofPdu]
  omega

/-- `tailoff` counts from the start of the block, and is added to the address of `tail`. -/
theorem tailByte_eq (block : Nat) (mem : Nat → UInt8) (m i : Nat) :
    tailByte (createPduWbuf block mem m) i = (offsetofTail + (sizeofPduWbuf + m) + i) % ulongSize := by
  show ((offsetofTail + (sizeofPduWbuf + m)) % ulongSize + i) % ulongSize = _
  rw [Nat.mod_add_mod]

/-- Some byte of a tail that is not empty is behind the block, or wraps around into the fields. -/
theorem not_tailSound (block : Nat) (mem : Nat → UInt8) {m t : Nat}
    (hsize : sizeofPduWbuf + m + t < ulongSize) (ht : 0 < t) :
    ¬ TailSound (createPduWbuf block mem m) m t := by
  intro h
  have hpos := offsetofTail_pos
  have hoffset : offsetofTail < ulongSize := by
    have hle : offsetofTail ≤ sizeofPduWbuf := le_alignUp _ (lt_of_lt_of_le (by norm_num) wordBytes_ge)
    omega
  by_cases hfirst : ulongSize ≤ offsetofTail + (sizeofPduWbuf + m)
  · -- the start of the tail wraps
    have hbyte := h.fields 0 ht
    rw [tailByte_eq, Nat.add_zero, Nat.mod_eq_sub_mod hfirst, Nat.mod_eq_of_lt (by omega)] at hbyte
    omega
  by_cases hlast : ulongSize ≤ offsetofTail + (sizeofPduWbuf + m) + (t - 1)
  · -- a later byte wraps to the start of the block
    have hbyte := h.fields (ulongSize - (offsetofTail + (sizeofPduWbuf + m))) (by omega)
    rw [tailByte_eq, Nat.add_sub_cancel' (by omega), Nat.mod_self] at hbyte
    omega
  · have hbyte := h.inside (t - 1) (by omega)
    rw [tailByte_eq, Nat.mod_eq_of_lt (by omega)] at hbyte
    omega

/-! ## What is placed there -/

/-- `sizeof(int)`. -/
def sizeofInt : Nat := 4

/-- `sizeof(struct cmsghdr)`: a length, and two `int`s. -/
def sizeofCmsghdr : Nat := alignUp (wordBytes + 2 * sizeofInt) wordBytes

/-- `CMSG_SPACE`. -/
def cmsgSpace (len : Nat) : Nat := alignUp sizeofCmsghdr wordBytes + alignUp len wordBytes

/-- The bytes that the builder of a message places in the tail: an `iovec`, and the control data for
a descriptor. -/
def Message.placed (msg : Message) : Nat :=
  sizeofIovec + if msg.fd.isSome then cmsgSpace sizeofInt else 0

/-- The callers of `create_pdu_wbuf`: the opcode handlers of the services, the notification
callbacks, and bt-io for an error reply. -/
inductive WbufCaller where
  | opcode (handler : Handler)
  | notification (cb : Callback)
  | errorReply
  deriving DecidableEq

def WbufCaller.maxdatalen : WbufCaller → Nat
  | .opcode _ => 0
  | .notification cb => cb.notification.maxdatalen
  | .errorReply => 0

/-- The bytes of tail that a caller asks for: `sizeof(*wbuf->msg.msg_iov)` throughout. -/
def WbufCaller.taillen : WbufCaller → Nat
  | .opcode _ => sizeofIovec
  | .notification _ => sizeofIovec
  | .errorReply => sizeofIovec

def WbufCaller.build (env : Env) : WbufCaller → WBuf → Message
  | .opcode handler => handler.build env
  | .notification _ => buildPduWbufMsg
  | .errorReply => buildPduWbufMsg

theorem opcode_sends (env : Env) {handler : Handler} {opcode : UInt8}
    {handle : Pdu → Act Handler Status} (h : handler.table env opcode = some handle) (cmd : Pdu) :
    Sends ((WbufCaller.opcode handler).build env) (handle cmd) :=
  (table_isServe env h cmd).sends

/-- Everything that the caller's builder places in the tail fits in what the caller asked for. -/
def WbufCaller.Fits (env : Env) (caller : WbufCaller) : Prop :=
  ∀ wbuf, (caller.build env wbuf).placed ≤ caller.taillen

theorem cmsgSpace_pos : 0 < cmsgSpace sizeofInt := by
  have hword : 0 < wordBytes := lt_of_lt_of_le (by norm_num) wordBytes_ge
  have hint := le_alignUp sizeofInt hword
  rw [cmsgSpace]
  rw [sizeofInt] at hint ⊢
  omega

theorem placed_buildPduWbufMsg (wbuf : WBuf) : (buildPduWbufMsg wbuf).placed ≤ sizeofIovec :=
  le_refl sizeofIovec

theorem not_placed_buildPduWbufMsgWithFd (wbuf : WBuf) (fd : Int) :
    ¬ (buildPduWbufMsgWithFd wbuf fd).placed ≤ sizeofIovec := by
  have hspace := cmsgSpace_pos
  show ¬ sizeofIovec + cmsgSpace sizeofInt ≤ sizeofIovec
  omega

theorem fits_iff (env : Env) (caller : WbufCaller) :
    caller.Fits env ↔ caller ≠ .opcode .btSock := by
  cases caller with
  | opcode handler =>
    cases handler with
    | core => exact iff_of_true placed_buildPduWbufMsg (by simp)
    | btCore => exact iff_of_true placed_buildPduWbufMsg (by simp)
    | btSock =>
      refine iff_of_false ?_ (by simp)
      intro h
      exact not_placed_buildPduWbufMsgWithFd _ env.sockFd (h (createPduWbuf 0 (fun _ => 0) 0))
  | notification cb => exact iff_of_true placed_buildPduWbufMsg (by simp)
  | errorReply => exact iff_of_true placed_buildPduWbufMsg (by simp)

/-- **The layout of write buffers.** Of all the tails that `create_pdu_wbuf` can be asked for, the
region that `pdu_wbuf_tail` points to is sound for the empty one only, and that is asked for by no
caller; what is placed in it fits in what was asked for except in `opcode_listen` and
`opcode_connect`. The builder of a service is the one that its opcode handlers send with. -/
theorem wbufLayout_iff (env : Env) :
    (∀ block mem m t, sizeofPduWbuf + m + t < ulongSize →
      (TailSound (createPduWbuf block mem m) m t ↔ t = 0)) ∧
    (∀ caller : WbufCaller, caller.taillen ≠ 0) ∧
    (∀ caller : WbufCaller, caller.Fits env ↔ caller ≠ .opcode .btSock) ∧
    ∀ (handler : Handler) (opcode : UInt8) (handle : Pdu → Act Handler Status),
      handler.table env opcode = some handle →
      ∀ cmd, Sends ((WbufCaller.opcode handler).build env) (handle cmd) := by
  refine ⟨?_, ?_, fits_iff env, fun _ _ _ => opcode_sends env⟩
  · intro block mem m t hsize
    constructor
    · intro hsound
      by_contra ht
      exact not_tailSound block mem hsize (Nat.pos_of_ne_zero ht) hsound
    · rintro rfl
      refine ⟨?_, ?_, ?_⟩
      · intro i hi
        exact absurd hi (Nat.not_lt_zero i)
      · intro i hi
        exact absurd hi (Nat.not_lt_zero i)
      · intro i hi
        exact absurd hi (Nat.not_lt_zero i)
  · intro caller
    have hword := wordBytes_ge
    have hiovec : sizeofIovec ≠ 0 := by
      rw [sizeofIovec]
      omega
    cases caller with
    | _ => exact hiovec

end tails

/-- The reply of `opcode_listen`: of a block of 104 bytes the tail would be the bytes from 172 on, and
40 bytes are placed in a tail of 16. -/
theorem listen_reply_overruns :
    let wbuf := @createPduWbuf lp64 0 (fun _ => 0) 0
    @sizeofPduWbuf lp64 + 0 + @sizeofIovec lp64 = 104 ∧ @pduWbufTail lp64 wbuf = 172 ∧
      ¬ @TailSound lp64 wbuf 0 (@sizeofIovec lp64) ∧
      @Message.placed lp64 (@buildPduWbufMsgWithFd lp64 wbuf 7) = 40 ∧
      ¬ @WbufCaller.Fits lp64 .obliging (.opcode .btSock) := by
  refine ⟨by decide, by decide, by decide, by decide, ?_⟩
  rw [@fits_iff lp64]
  simp

theorem wbufLayout_iff_empty_tail :
    @TailSound lp64 (@createPduWbuf lp64 0 (fun _ => 0) 8) 8 0 ∧
      ¬ @TailSound lp64 (@createPduWbuf lp64 0 (fun _ => 0) 8) 8 16 := by
  have hlayout := (@wbufLayout_iff lp64 .obliging).1 0 (fun _ => 0) 8
  refine ⟨(hlayout 0 (by decide)).mpr rfl, ?_⟩
  rw [hlayout 16 (by decide)]
  decide

end Bluetoothd
