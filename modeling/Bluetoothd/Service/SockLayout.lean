import Bluetoothd.Service.Layout

/-!
# The layouts of BT_SOCK commands (`bt-sock-io.c`)

`btSockLayout` describes the payloads of `opcode_listen` and `opcode_connect` as `btCoreLayout` does
those of BT_CORE. Both pass `(size_t)uuid` for the length of the UUID, so what they decode depends
on where the compiler has placed that array. `btSock_decodes_iff` says for which addresses and
payloads they decode the layout all the same.
-/

namespace Bluetoothd

open Platform Buffer

variable {H α β : Type}

/-! ## Decoders that end early -/

def Faults (x : Act H α) : Prop := ∀ w, ∃ w', x.run w = (.error .outOfBounds, w')

section rules

variable {x : Act H (Option α)} {k : Option α → Act H (Option β)} {n len : Nat} {P : α → Prop}

theorem DecodesAs.refuses (h : DecodesAs x n len P) (hlt : n < len) : Refuses x := by
  intro w
  exact (h w).2 hlt

theorem Refuses.bind (hx : Refuses x) (hnone : Refuses (k none)) : Refuses (x >>= k) := by
  intro w
  obtain ⟨w', hrun, hquiet⟩ := hx w
  obtain ⟨w'', hrun', hquiet'⟩ := hnone w'
  rw [Prog.run_bind_ok hrun]
  exact ⟨w'', hrun', hquiet.trans hquiet'⟩

theorem DecodesAs.bind_refuses (hx : DecodesAs x n len P) (hle : len ≤ n)
    (hk : ∀ a, P a → Refuses (k (some a))) : Refuses (x >>= k) := by
  intro w
  obtain ⟨a, w', hrun, hquiet, ha⟩ := (hx w).1 hle
  obtain ⟨w'', hrun', hquiet'⟩ := hk a ha w'
  rw [Prog.run_bind_ok hrun]
  exact ⟨w'', hrun', hquiet.trans hquiet'⟩

theorem Faults.bind {x : Act H α} {f : α → Act H β} (hx : Faults x) : Faults (x >>= f) := by
  intro w
  obtain ⟨w', hrun⟩ := hx w
  exact ⟨w', Prog.run_bind_error hrun⟩

theorem DecodesAs.bind_faults (hx : DecodesAs x n len P) (hle : len ≤ n)
    (hk : ∀ a, P a → Faults (k (some a))) : Faults (x >>= k) := by
  intro w
  obtain ⟨a, w', hrun, -, ha⟩ := (hx w).1 hle
  obtain ⟨w'', hrun'⟩ := hk a ha w'
  rw [Prog.run_bind_ok hrun]
  exact ⟨w'', hrun'⟩

end rules

/-! ## Programs without copies -/

def CopiesInBounds (x : Act H α) : Prop := Prog.Spec x fun _ r _ => r ≠ .error .outOfBounds

theorem CopiesInBounds.pure (a : α) : CopiesInBounds (pure a : Act H α) := by
  intro w
  simp

theorem CopiesInBounds.bind {x : Act H α} {f : α → Act H β} (hx : CopiesInBounds x)
    (hf : ∀ a, CopiesInBounds (f a)) : CopiesInBounds (x >>= f) := by
  refine Prog.Spec.bind hx hf ?_ ?_
  · intro w a w₁ r w₂ _ h
    exact h
  · intro w e w₁ h heq
    apply h
    rw [Except.error.inj heq]

theorem copiesInBounds_emit (e : Event) : CopiesInBounds (emit e : Act H Unit) := by
  intro w
  simp [emit, Prog.modify, Prog.run]

theorem copiesInBounds_sendPdu (pointer : World H → Option SendPdu) (msg : Message) :
    CopiesInBounds (sendPdu pointer msg) := by
  intro w
  rcases h : pointer w with _ | cb
  · rw [run_sendPdu_none h]
    simp
  · rw [run_sendPdu_some h]
    simp

section serve

variable [Platform] (env : Env)

theorem copiesInBounds_newPduWbuf (maxdatalen : Nat) :
    CopiesInBounds (newPduWbuf env maxdatalen : Act H _) := by
  intro w
  rcases h : env.obtained w.mallocs with _ | mem
  · rw [run_newPduWbuf_none h]
    simp
  · rw [run_newPduWbuf_some h]
    simp

omit [Platform] in
theorem copiesInBounds_btsockInterfaceCall (op : Op) :
    CopiesInBounds (btsockInterfaceCall env op : Act H Status) := by
  unfold btsockInterfaceCall
  refine (copiesInBounds_emit _).bind fun _ => ?_
  intro w
  rw [Prog.run_get_bind]
  refine (copiesInBounds_emit _).bind (fun _ => ?_) w
  by_cases h : w.btsockInterface.isNone
  · rw [if_pos h]
    intro w'
    simp [Prog.fault, Prog.run]
  · rw [if_neg h]
    exact (copiesInBounds_emit _).bind fun _ => CopiesInBounds.pure _

theorem run_btSockServe_inBounds (cmd : Pdu) {decode : Act Handler (Option α)} (op : α → Op)
    {w w' : World Handler} {r : Option α} (hrun : decode.run w = (.ok r, w')) :
    ((btSockServe env cmd decode fun a => btsockInterfaceCall env (op a)).run w).1
      ≠ .error .outOfBounds := by
  unfold btSockServe serve
  rw [Prog.run_bind_ok hrun]
  rcases r with _ | args
  · exact CopiesInBounds.pure _ w'
  · refine (copiesInBounds_newPduWbuf env 0).bind (fun wbuf => ?_) w'
    rcases wbuf with _ | wbuf
    · exact (CopiesInBounds.pure ()).bind fun _ => CopiesInBounds.pure _
    · refine (copiesInBounds_btsockInterfaceCall env (op args)).bind fun status => ?_
      unfold conclude
      split
      · refine (copiesInBounds_emit _).bind fun _ => ?_
        exact (CopiesInBounds.pure ()).bind fun _ => CopiesInBounds.pure _
      · refine (CopiesInBounds.pure ()).bind fun _ => ?_
        exact (copiesInBounds_sendPdu _ _).bind fun _ => CopiesInBounds.pure _

end serve

/-! ## Layouts -/

section layouts

variable [Platform] (env : Env)

/-- The length that the payload `p` of an opcode must have, and the call it asks for. -/
def btSockLayout (opcode : UInt8) (p : List UInt8) : Option (Nat × Op) :=
  match opcode with
  | 0x01 => some (276,
      .listen (u8At p 0) (slice p 1 256) (slice p 257 16) (u16At p 273) (u8At p 275))
  | 0x02 => some (26,
      .connect (slice p 0 6) (u8At p 6) (slice p 7 16) (u16At p 23) (u8At p 25))
  | _ => none

/-- The command is decoded as a layout of `len` bytes that asks for `op`. -/
structure DecodesLayout (cmd : Pdu) (len : Nat) (op : Op) : Prop where
  accepts : len ≤ cmd.payload.length → ∀ w,
    callsOf ((Handler.btSock.handle env cmd).run w).2.log = callsOf w.log ++ [op]
  refuses : cmd.payload.length < len → ∀ w, ∃ w',
    (Handler.btSock.handle env cmd).run w = (.ok Status.parmInvalid, w') ∧
      callsOf w'.log = callsOf w.log
  inBounds : ∀ w, ((Handler.btSock.handle env cmd).run w).1 ≠ .error .outOfBounds

def uuidOffset (opcode : UInt8) : Nat := if opcode = 0x01 then 257 else 7

/-- The address of `uuid`, taken for its length, makes no difference for the payload `p` with the
UUID at offset `off`. The payload ends in front of the UUID; or the address is the size; or it is
less, and the payload does not hold the fields that it shifts or has the same values there; or it is
more, and a payload that is too short anyway is refused. -/
def UuidHarmless (p : List UInt8) (off : Nat) : Prop :=
  p.length < off ∨
  env.uuidAddr = 16 ∨
  (env.uuidAddr < 16 ∧ p.length < off + env.uuidAddr + 3) ∨
  (env.uuidAddr < 16 ∧ off + 19 ≤ p.length ∧
    fillLocal env 16 (slice p off env.uuidAddr) = slice p off 16 ∧
    u16At p (off + env.uuidAddr) = u16At p (off + 16) ∧
    u8At p (off + env.uuidAddr + 2) = u8At p (off + 18)) ∨
  (16 < env.uuidAddr ∧ p.length < off + 19 ∧ p.length < off + env.uuidAddr ∧
    off + env.uuidAddr < ulongSize)

omit [Platform] in
theorem fillLocal_of_length {n : Nat} {bytes : List UInt8} (h : bytes.length = n) :
    fillLocal env n bytes = bytes := by
  simp [fillLocal, h]

/-- What a handler decodes whose payload has the UUID at offset `off`, with the address of `uuid` for
its length. -/
structure DecodesUuid (decode : Act Handler (Option α)) (ops : α → Op) (p : List UInt8) (off : Nat)
    (call : List UInt8 → UInt16 → UInt8 → Op) : Prop where
  shifts : env.uuidAddr ≤ 16 → DecodesAs decode p.length (off + env.uuidAddr + 3) fun a =>
    ops a = call (fillLocal env 16 (slice p off env.uuidAddr)) (u16At p (off + env.uuidAddr))
      (u8At p (off + env.uuidAddr + 2))
  refuses : 16 < env.uuidAddr → p.length < off ∨ p.length < uadd off env.uuidAddr → Refuses decode
  faults : 16 < env.uuidAddr → off ≤ p.length → uadd off env.uuidAddr ≤ p.length → Faults decode

section decoders

variable {env} {cmd : Pdu} {decode : Act Handler (Option α)} {ops : α → Op} {len : Nat} {op : Op}

theorem decodesLayout_iff_of_refuses
    (hhandle : Handler.btSock.handle env cmd
      = btSockServe env cmd decode fun a => btsockInterfaceCall env (ops a))
    (hdecode : Refuses decode) : DecodesLayout env cmd len op ↔ cmd.payload.length < len := by
  have hrun : ∀ w, ∃ w', (Handler.btSock.handle env cmd).run w = (.ok Status.parmInvalid, w') ∧
      callsOf w'.log = callsOf w.log := by
    intro w
    obtain ⟨w', hw', hquiet⟩ := hdecode w
    rw [hhandle]
    exact ⟨w', run_serve_refused env cmd hw', hquiet.callsOf⟩
  constructor
  · intro h
    by_contra hlong
    obtain ⟨w', hw', hcalls⟩ := hrun World.empty
    have := h.accepts (Nat.le_of_not_lt hlong) World.empty
    rw [hw', hcalls] at this
    simp at this
  · intro hlong
    refine ⟨fun hle => absurd hle (Nat.not_le.mpr hlong), fun _ => hrun, fun w => ?_⟩
    obtain ⟨w', hw', -⟩ := hrun w
    rw [hw']
    simp

theorem not_decodesLayout_of_faults
    (hhandle : Handler.btSock.handle env cmd
      = btSockServe env cmd decode fun a => btsockInterfaceCall env (ops a))
    (hdecode : Faults decode) : ¬ DecodesLayout env cmd len op := by
  intro h
  obtain ⟨w', hw'⟩ := hdecode World.empty
  apply h.inBounds World.empty
  rw [hhandle]
  unfold btSockServe serve
  rw [Prog.run_bind_error hw']

theorem decodesLayout_iff_of_decodes (halloc : ∀ n, (env.obtained n).isSome) {len' : Nat} {op' : Op}
    (hhandle : Handler.btSock.handle env cmd
      = btSockServe env cmd decode fun a => btsockInterfaceCall env (ops a))
    (hdecode : DecodesAs decode cmd.payload.length len' fun a => ops a = op')
    (hop : ∀ a res, (ops a).Succeeded res ↔ res = Status.success) (hle : len' ≤ cmd.payload.length) :
    DecodesLayout env cmd len op ↔ len ≤ cmd.payload.length ∧ op = op' := by
  have hrun : ∀ w, callsOf ((Handler.btSock.handle env cmd).run w).2.log = callsOf w.log ++ [op'] := by
    intro w
    rw [hhandle]
    exact (serve_decodes env halloc hdecode (fun _ => releases_nothing)
      (fun a => performs_btsockInterfaceCall env (hop a)) (fun _ => rfl) w).1 hle
  constructor
  · intro h
    have hlong : len ≤ cmd.payload.length := by
      by_contra hshort
      obtain ⟨w', hw', hcalls⟩ := h.refuses (Nat.lt_of_not_le hshort) World.empty
      have := hrun World.empty
      rw [hw', hcalls] at this
      simp at this
    have hcalls := h.accepts hlong World.empty
    rw [hrun World.empty, List.append_cancel_left_eq] at hcalls
    exact ⟨hlong, (List.cons_eq_cons.mp hcalls).1.symm⟩
  · rintro ⟨hlong, rfl⟩
    refine ⟨fun _ => hrun, fun hshort => absurd hlong (Nat.not_le.mpr hshort), fun w => ?_⟩
    obtain ⟨a, w', hw', -, -⟩ := (hdecode w).1 hle
    rw [hhandle]
    exact run_btSockServe_inBounds env cmd ops hw'

section uuid

variable {off : Nat} {call : List UInt8 → UInt16 → UInt8 → Op}

/-- A length above the size: the check refuses the payload, or the copy overflows `uuid`. -/
theorem decodesLayout_iff_of_overlong (haddr : env.uuidAddr < ulongSize) (hoff : off ≤ 257)
    (hhandle : Handler.btSock.handle env cmd
      = btSockServe env cmd decode fun a => btsockInterfaceCall env (ops a))
    (hdecode : DecodesUuid env decode ops cmd.payload off call) (hlong : 16 < env.uuidAddr) :
    DecodesLayout env cmd (off + 19) op ↔ UuidHarmless env cmd.payload off := by
  have hsize := ulongSize_ge
  unfold UuidHarmless
  have hrefused : cmd.payload.length < off ∨ cmd.payload.length < uadd off env.uuidAddr ↔
      cmd.payload.length < off ∨
        cmd.payload.length < off + env.uuidAddr ∧ off + env.uuidAddr < ulongSize := by
    by_cases hwrap : off + env.uuidAddr < ulongSize
    · rw [uadd_of_lt hwrap]
      omega
    · have hless : uadd off env.uuidAddr < off :=
        uadd_lt_of_wrap (by omega) haddr (Nat.le_of_not_lt hwrap)
      omega
  by_cases h : cmd.payload.length < off ∨ cmd.payload.length < uadd off env.uuidAddr
  · rw [decodesLayout_iff_of_refuses hhandle (hdecode.refuses hlong h)]
    rw [hrefused] at h
    omega
  · rw [not_or, Nat.not_lt, Nat.not_lt] at h
    apply iff_of_false (not_decodesLayout_of_faults hhandle (hdecode.faults hlong h.1 h.2))
    omega

/-- A length up to the size: the fields behind the UUID are shifted. -/
theorem decodesLayout_iff_of_shifted (halloc : ∀ n, (env.obtained n).isSome)
    (hhandle : Handler.btSock.handle env cmd
      = btSockServe env cmd decode fun a => btsockInterfaceCall env (ops a))
    (hdecode : DecodesUuid env decode ops cmd.payload off call)
    (hop : ∀ a res, (ops a).Succeeded res ↔ res = Status.success)
    (hcall : ∀ u c f u' c' f', call u c f = call u' c' f' ↔ u = u' ∧ c = c' ∧ f = f')
    (hshort : env.uuidAddr ≤ 16) :
    DecodesLayout env cmd (off + 19) (call (slice cmd.payload off 16) (u16At cmd.payload (off + 16))
      (u8At cmd.payload (off + 18))) ↔ UuidHarmless env cmd.payload off := by
  unfold UuidHarmless
  have hdecodes := hdecode.shifts hshort
  by_cases hfits : cmd.payload.length < off + env.uuidAddr + 3
  · rw [decodesLayout_iff_of_refuses hhandle (hdecodes.refuses hfits)]
    omega
  rw [decodesLayout_iff_of_decodes halloc hhandle hdecodes hop (Nat.le_of_not_lt hfits), hcall]
  by_cases hsame : env.uuidAddr = 16
  · have hfill := fillLocal_of_length env
      (length_slice (n := 16) (show off + 16 ≤ cmd.payload.length by omega))
    rw [hsame, hfill]
    refine iff_of_true ⟨by omega, rfl, rfl, rfl⟩ (.inr (.inl rfl))
  · constructor
    · rintro ⟨hle, huuid, hchannel, hflags⟩
      exact .inr (.inr (.inr (.inl ⟨by omega, hle, huuid.symm, hchannel.symm, hflags.symm⟩)))
    · rintro (h | h | h | ⟨-, hle, huuid, hchannel, hflags⟩ | h)
      · omega
      · omega
      · omega
      · exact ⟨hle, huuid.symm, hchannel.symm, hflags.symm⟩
      · omega

theorem decodesLayout_iff_of_uuid (halloc : ∀ n, (env.obtained n).isSome)
    (haddr : env.uuidAddr < ulongSize) (hoff : off ≤ 257)
    (hhandle : Handler.btSock.handle env cmd
      = btSockServe env cmd decode fun a => btsockInterfaceCall env (ops a))
    (hdecode : DecodesUuid env decode ops cmd.payload off call)
    (hop : ∀ a res, (ops a).Succeeded res ↔ res = Status.success)
    (hcall : ∀ u c f u' c' f', call u c f = call u' c' f' ↔ u = u' ∧ c = c' ∧ f = f') :
    DecodesLayout env cmd (off + 19) (call (slice cmd.payload off 16) (u16At cmd.payload (off + 16))
      (u8At cmd.payload (off + 18))) ↔ UuidHarmless env cmd.payload off := by
  by_cases hlong : 16 < env.uuidAddr
  · exact decodesLayout_iff_of_overlong haddr hoff hhandle hdecode hlong
  · exact decodesLayout_iff_of_shifted halloc hhandle hdecode hop hcall (Nat.le_of_not_lt hlong)

end uuid

/-! ## The handlers -/

theorem refuses_readFields {off : Nat} {fmt : String} {args : List Dst}
    (h : ∃ vals, readPduAt cmd off fmt args = some (-1, vals)) :
    Refuses (readFields cmd off fmt args : Act H _) := by
  intro w
  obtain ⟨vals, hread⟩ := h
  rw [run_readFields_some hread]
  exact ⟨_, rfl, (Quiet.refl w).push rfl rfl⟩

theorem faults_readFields {off : Nat} {fmt : String} {args : List Dst}
    (h : readPduAt cmd off fmt args = none) : Faults (readFields cmd off fmt args : Act H _) := by
  intro w
  exact ⟨w, run_readFields_none h w⟩

/-- A read up to the flags, with a length for the UUID that is too large: it ends in front of the
UUID, or at it. -/
theorem readPduAt_uuid {dsts : List Dst} (hroom : ∀ d ∈ dsts, d.HasRoom) {fmt : String} {off len : Nat}
    (hfmt : fmt.toList = dsts.map Dst.fmt ++ ['m', 'S', 'C']) (hoff : off ≤ cmd.payload.length)
    (hsmall : off + total dsts < 2 ^ 32) (hlong : 16 < len) :
    (cmd.payload.length < off + total dsts ∨ cmd.payload.length < uadd (off + total dsts) len →
      ∃ vals, readPduAt cmd off fmt (dsts ++ [.m 16 len, .S, .C]) = some (-1, vals)) ∧
    (off + total dsts ≤ cmd.payload.length → uadd (off + total dsts) len ≤ cmd.payload.length →
      readPduAt cmd off fmt (dsts ++ [.m 16 len, .S, .C]) = none) := by
  rw [Pdu.length_payload] at hoff ⊢
  unfold readPduAt
  rw [hfmt]
  by_cases hfit : off + total dsts ≤ cmd.len.toNat
  · rw [readPduAtVa_append dsts hroom hfit, readPduAtVa_overlong hlong]
    constructor
    · intro h
      rw [if_pos (by omega)]
      exact ⟨_, rfl⟩
    · intro _ h
      rw [if_neg (by omega)]
      rfl
  · constructor
    · intro _
      exact readPduAtVa_append_overflow dsts hroom hoff hsmall (Nat.lt_of_not_le hfit) _ _
    · intro h
      exact absurd h hfit

variable (env cmd) in
theorem opcodeListen_decodes : ∃ (α : Type) (decode : Act Handler (Option α)) (ops : α → Op),
    opcodeListen env cmd = btSockServe env cmd decode (fun a => btsockInterfaceCall env (ops a)) ∧
    DecodesUuid env decode ops cmd.payload 257
      (.listen (u8At cmd.payload 0) (slice cmd.payload 1 256)) ∧
    ∀ a res, (ops a).Succeeded res ↔ res = Status.success := by
  refine ⟨UInt8 × List UInt8 × List UInt8 × UInt16 × UInt8, _,
    fun a => .listen a.1 a.2.1 a.2.2.1 a.2.2.2.1 a.2.2.2.2, rfl, ?_, fun _ _ => Iff.rfl⟩
  have hroom : ∀ d ∈ [Dst.C, .m 256 256], d.HasRoom := by simp [Dst.HasRoom]
  refine ⟨fun hle => ?_, fun hlong h => ?_, fun hlong hoff h => ?_⟩
  · have htotal : 0 + total [.C, .m 256 256, .m 16 env.uuidAddr, .S, .C]
        = 257 + env.uuidAddr + 3 := by
      simp [total, Dst.size]
      omega
    have hread : DecodesAs
        (readFields cmd 0 "CmmSC" [.C, .m 256 256, .m 16 env.uuidAddr, .S, .C] : Act Handler _)
        cmd.payload.length (0 + total [.C, .m 256 256, .m 16 env.uuidAddr, .S, .C]) _ :=
      decodesAs_readFields rfl (by simpa [Dst.HasRoom] using hle) (Nat.zero_le _) (by omega)
    rw [htotal] at hread
    refine hread.bind Refuses.pure le_rfl ?_
    rintro _ rfl hlen
    exact DecodesAs.value hlen rfl
  · exact (refuses_readFields
      ((readPduAt_uuid hroom rfl (Nat.zero_le _) (by decide) hlong).1 h)).bind Refuses.pure
  · exact (faults_readFields
      ((readPduAt_uuid hroom rfl (Nat.zero_le _) (by decide) hlong).2 hoff h)).bind

variable (env cmd) in
theorem opcodeConnect_decodes : ∃ (α : Type) (decode : Act Handler (Option α)) (ops : α → Op),
    opcodeConnect env cmd = btSockServe env cmd decode (fun a => btsockInterfaceCall env (ops a)) ∧
    DecodesUuid env decode ops cmd.payload 7
      (.connect (slice cmd.payload 0 6) (u8At cmd.payload 6)) ∧
    ∀ a res, (ops a).Succeeded res ↔ res = Status.success := by
  refine ⟨List UInt8 × UInt8 × List UInt8 × UInt16 × UInt8, _,
    fun a => .connect a.1 a.2.1 a.2.2.1 a.2.2.2.1 a.2.2.2.2, rfl, ?_, fun _ _ => Iff.rfl⟩
  have hroom : ∀ d ∈ [Dst.C], d.HasRoom := by simp [Dst.HasRoom]
  have haddr : DecodesAs (readBtBdaddr cmd 0 : Act Handler _) cmd.payload.length 6 _ :=
    decodesAs_readBtBdaddr (Nat.zero_le _)
  refine ⟨fun hle => ?_, fun hlong h => ?_, fun hlong hoff h => ?_⟩
  · refine decodesAs_addrThen Refuses.pure (by omega) fun hle' => ?_
    have htotal : 6 + total [.C, .m 16 env.uuidAddr, .S, .C] = 7 + env.uuidAddr + 3 := by
      simp [total, Dst.size]
      omega
    have hread : DecodesAs
        (readFields cmd 6 "CmSC" [.C, .m 16 env.uuidAddr, .S, .C] : Act Handler _)
        cmd.payload.length (6 + total [.C, .m 16 env.uuidAddr, .S, .C]) _ :=
      decodesAs_readFields rfl (by simpa [Dst.HasRoom] using hle) hle' (by omega)
    rw [htotal] at hread
    refine hread.bind Refuses.pure le_rfl ?_
    rintro _ rfl hlen
    exact DecodesAs.value hlen rfl
  · by_cases hle : 6 ≤ cmd.payload.length
    · refine haddr.bind_refuses hle ?_
      rintro _ rfl
      exact (refuses_readFields
        ((readPduAt_uuid hroom rfl hle (by decide) hlong).1 h)).bind Refuses.pure
    · exact (haddr.refuses (Nat.lt_of_not_le hle)).bind Refuses.pure
  · refine haddr.bind_faults (le_trans (by norm_num) hoff) ?_
    rintro _ rfl
    exact (faults_readFields
      ((readPduAt_uuid hroom rfl (le_trans (by norm_num) hoff) (by decide) hlong).2 hoff h)).bind

variable (cmd) in
/-- **Decoding of BT_SOCK commands.** With allocations succeeding and whatever the address of `uuid`
is, a command is decoded by the layout of its opcode (called for exactly the payloads that are long
enough, with their consecutive slices, and without a copy out of bounds) if and only if that address
does no harm as a length. -/
theorem btSock_decodes_iff (halloc : ∀ n, (env.obtained n).isSome) (haddr : env.uuidAddr < ulongSize)
    (hlayout : btSockLayout cmd.opcode cmd.payload = some (len, op)) :
    DecodesLayout env cmd len op ↔ UuidHarmless env cmd.payload (uuidOffset cmd.opcode) := by
  unfold btSockLayout at hlayout
  split at hlayout <;> cases hlayout
  next hopcode =>
    obtain ⟨α, decode, ops, hserve, hdecode, hop⟩ := opcodeListen_decodes env cmd
    have hhandle : Handler.btSock.handle env cmd = opcodeListen env cmd :=
      Handler.handle_eq (by rw [hopcode]; rfl)
    rw [hopcode]
    exact decodesLayout_iff_of_uuid halloc haddr le_rfl (hhandle.trans hserve) hdecode hop (by simp)
  next hopcode =>
    obtain ⟨α, decode, ops, hserve, hdecode, hop⟩ := opcodeConnect_decodes env cmd
    have hhandle : Handler.btSock.handle env cmd = opcodeConnect env cmd :=
      Handler.handle_eq (by rw [hopcode]; rfl)
    rw [hopcode]
    exact decodesLayout_iff_of_uuid halloc haddr (by norm_num) (hhandle.trans hserve) hdecode hop
      (by simp)

end decoders

end layouts

def connectCmd : Pdu := ⟨serviceBtSock, 0x02, 26, (List.range 26).map UInt8.ofNat, by decide⟩

def shortConnectCmd : Pdu := ⟨serviceBtSock, 0x02, 25, (List.range 26).map UInt8.ofNat, by decide⟩

theorem btSock_decodes_iff_short_connect :
    @DecodesLayout lp64 .obliging shortConnectCmd 26 (.connect [0, 1, 2, 3, 4, 5] 6
      [7, 8, 9, 10, 11, 12, 13, 14, 15, 16, 17, 18, 19, 20, 21, 22] 0x1817 0) :=
  (@btSock_decodes_iff lp64 .obliging shortConnectCmd 26 _ (fun _ => rfl) (by decide) rfl).mpr
    (.inr (.inr (.inr (.inr (by decide)))))

/-- With the array `uuid` at an address of the stack, a `connect` command of 26 bytes is refused. -/
theorem complete_connect_refused :
    ¬ ∀ (env : Env) (cmd : Pdu) (len : Nat) (op : Op), (∀ n, (env.obtained n).isSome) →
      env.uuidAddr < @ulongSize lp64 → @btSockLayout lp64 cmd.opcode cmd.payload = some (len, op) →
        @DecodesLayout lp64 env cmd len op := by
  intro h
  obtain ⟨accepts, -, -⟩ := h .obliging connectCmd 26 _ (fun _ => rfl) (by decide) rfl
  have hcalls := accepts (by decide) World.empty
  revert hcalls
  decide

end Bluetoothd
