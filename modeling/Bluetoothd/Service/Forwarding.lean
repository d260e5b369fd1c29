import Bluetoothd.Service.Layout

/-!
# Lengths that are forwarded to the HAL (`bt-core-io.c`)

Five handlers of BT_CORE pass the HAL a buffer together with a length that a client has sent. The
property and test mode handlers fill as many bytes of the buffer as that length says; `pin_reply`
fills the 16 bytes of a PIN code whatever the length is. `described_iff` says what follows.
-/

namespace Bluetoothd

open Platform Buffer

variable {H α β : Type}

/-! ## Decoders -/

def Gives (x : Act H (Option α)) (P : α → Prop) : Prop :=
  Prog.Spec x fun w r w' => callsOf w'.log = callsOf w.log ∧ ∀ a, r = .ok (some a) → P a

section rules

variable {x : Act H (Option α)} {k : Option α → Act H (Option β)} {P : α → Prop} {Q : β → Prop}

theorem Gives.bind (hx : Gives x P) (hnone : Gives (k none) Q) (hk : ∀ a, P a → Gives (k (some a)) Q) :
    Gives (x >>= k) Q := by
  intro w
  obtain ⟨hcalls, hvalue⟩ := hx w
  rcases hrun : x.run w with ⟨fault | _ | a, w₁⟩ <;> rw [hrun] at hcalls hvalue
  · rw [Prog.run_bind_error hrun]
    exact ⟨hcalls, by simp⟩
  · obtain ⟨hcalls', hvalue'⟩ := hnone w₁
    rw [Prog.run_bind_ok hrun]
    exact ⟨hcalls'.trans hcalls, hvalue'⟩
  · obtain ⟨hcalls', hvalue'⟩ := hk a (hvalue a rfl) w₁
    rw [Prog.run_bind_ok hrun]
    exact ⟨hcalls'.trans hcalls, hvalue'⟩

theorem Gives.none : Gives (pure none : Act H (Option α)) P := by
  intro w
  exact ⟨rfl, by simp⟩

theorem Gives.value {a : α} (h : P a) : Gives (pure (some a) : Act H (Option α)) P := by
  intro w
  refine ⟨rfl, ?_⟩
  intro b hb
  cases hb
  exact h

theorem Gives.of_decodesAs {n len : Nat} (h : DecodesAs x n len P) : Gives x fun a => len ≤ n ∧ P a := by
  intro w
  obtain ⟨haccept, hrefuse⟩ := h w
  by_cases hle : len ≤ n
  · obtain ⟨a, w', hrun, hw', ha⟩ := haccept hle
    rw [hrun]
    refine ⟨hw'.callsOf, ?_⟩
    intro b hb
    cases hb
    exact ⟨hle, ha⟩
  · obtain ⟨w', hrun, hw'⟩ := hrefuse (Nat.lt_of_not_le hle)
    rw [hrun]
    exact ⟨hw'.callsOf, by simp⟩

theorem Gives.mono {P' : α → Prop} (h : Gives x P) (himp : ∀ a, P a → P' a) : Gives x P' := by
  intro w
  obtain ⟨hcalls, hvalue⟩ := h w
  exact ⟨hcalls, fun a ha => himp a (hvalue a ha)⟩

theorem gives_malloc (env : Env) (kind : BlockKind) :
    Gives (malloc env kind : Act H _) fun _ => True := by
  intro w
  rcases hmem : env.obtained w.mallocs with _ | mem
  · rw [run_malloc_none hmem]
    exact ⟨rfl, by simp⟩
  · rw [run_malloc_some hmem]
    refine ⟨?_, by simp⟩
    show callsOf (w.log ++ _) = _
    rw [callsOf_append]
    exact List.append_nil _

end rules

/-! ## What the HAL is told -/

def Op.forwarded : Op → Option (Nat × List UInt8)
  | .pinReply _ _ pinLen pinCode => some (pinLen.toNat, pinCode)
  | .dutModeSend _ buf len => some (len.toNat, buf)
  | .leTestMode _ buf len => some (len.toNat, buf)
  | .setAdapterProperty property => some (property.len.toNat, property.val)
  | .setRemoteDeviceProperty _ property => some (property.len.toNat, property.val)
  | _ => none

/-- The length that the call forwards is at most the number of bytes of the buffer that were filled
from the payload of the command. -/
def Op.Described (cmd : Pdu) (op : Op) : Prop :=
  ∀ len buf, op.forwarded = some (len, buf) → ∃ off filled, off + filled ≤ cmd.payload.length ∧
    filled ≤ buf.length ∧ buf.take filled = slice cmd.payload off filled ∧ len ≤ filled

def CallsDescribed (cmd : Pdu) (handle : Act Handler Status) (w : World Handler) : Prop :=
  ∀ ops, callsOf (handle.run w).2.log = callsOf w.log ++ ops → ∀ op ∈ ops, op.Described cmd

section described

variable {cmd : Pdu}

theorem described_of_slice {op : Op} {len off : Nat} {buf : List UInt8}
    (hop : op.forwarded = some (len, buf)) (hle : off + len ≤ cmd.payload.length)
    (hlen : len ≤ buf.length) (hbuf : buf.take len = slice cmd.payload off len) : op.Described cmd := by
  intro len' buf' hop'
  obtain ⟨rfl, rfl⟩ : len = len' ∧ buf = buf' := by
    rw [hop] at hop'
    simpa using hop'
  exact ⟨off, len, hle, hlen, hbuf, le_refl len⟩

theorem CallsDescribed.of_cases {handle : Act Handler Status} {w : World Handler} {P : Op → Prop}
    (hcalls : callsOf (handle.run w).2.log = callsOf w.log ∨
      ∃ op, P op ∧ callsOf (handle.run w).2.log = callsOf w.log ++ [op])
    (hP : ∀ op, P op → op.Described cmd) : CallsDescribed cmd handle w := by
  intro ops hops op hop
  rcases hcalls with hcalls | ⟨o, ho, hcalls⟩
  · rw [hcalls, List.self_eq_append_right] at hops
    rw [hops] at hop
    cases hop
  · rw [hcalls, List.append_cancel_left_eq] at hops
    rw [← hops, List.mem_singleton] at hop
    rw [hop]
    exact hP o ho

end described

/-! ## The handlers -/

section handlers

variable [Platform] (env : Env)

theorem gives_readBtProperty {cmd : Pdu} {off : Nat} (hoff : off ≤ cmd.payload.length) :
    Gives (readBtProperty env cmd off : Act H _) fun a =>
      off + 3 + (u16At cmd.payload (off + 1)).toNat ≤ cmd.payload.length ∧
        a.2.1 = propertyAt cmd.payload off := by
  refine (Gives.of_decodesAs (decodesAs_propertyHeader hoff)).bind Gives.none ?_
  rintro _ ⟨hle, rfl⟩
  refine (gives_malloc env .val).bind Gives.none ?_
  rintro ⟨val, mem⟩ -
  refine (Gives.of_decodesAs (decodesAs_propertyValue _ hle)).bind ?_ ?_
  · intro w
    refine ⟨?_, by simp [free]⟩
    show callsOf (w.log ++ _) = _
    rw [callsOf_append]
    exact List.append_nil _
  · rintro _ ⟨hle', rfl⟩
    exact Gives.value ⟨hle', rfl⟩

theorem serve_calls_cases {cmd : Pdu} {short noMem : Status} {decode : Act Handler (Option α)}
    {release : α → Act Handler Unit} {op : α → Act Handler Status} {ops : α → Op}
    {pointer : World Handler → Option SendPdu} {build : WBuf → Message} {P : α → Prop}
    (hdecode : Gives decode P) (hrelease : ∀ a, ∃ blocks, Releases (release a) blocks)
    (hop : ∀ a, Performs (op a) (ops a)) (hbuild : ∀ wbuf, (build wbuf).wbuf = wbuf)
    (w : World Handler) :
    callsOf ((serve env cmd short noMem decode release op pointer build).run w).2.log = callsOf w.log ∨
    ∃ a, P a ∧ callsOf ((serve env cmd short noMem decode release op pointer build).run w).2.log
      = callsOf w.log ++ [ops a] := by
  obtain ⟨hcalls, hvalue⟩ := hdecode w
  rcases hrun : decode.run w with ⟨fault | _ | a, w₁⟩ <;> rw [hrun] at hcalls hvalue
  · left
    unfold serve
    rw [Prog.run_bind_error hrun]
    exact hcalls
  · left
    rw [run_serve_refused env cmd hrun]
    exact hcalls
  · obtain ⟨blocks, hblocks⟩ := hrelease a
    rcases hmem : env.obtained w₁.mallocs with _ | mem
    · left
      rw [run_serve_noMem env cmd hrun hmem hblocks]
      show callsOf (w₁.log ++ _) = _
      rw [callsOf_append, (observe_frees blocks).2.2.1, List.append_nil, hcalls]
    · right
      refine ⟨a, hvalue a rfl, ?_⟩
      rw [callsOf_serve env cmd hrun hmem hblocks (hop a) hbuild, hcalls]

inductive Forwarding where
  | setAdapterProperty
  | setRemoteDeviceProperty
  | pinReply
  | dutModeSend
  | leTestMode
  deriving DecidableEq

def Forwarding.handle : Forwarding → Pdu → Act Handler Status
  | .setAdapterProperty => Bluetoothd.setAdapterProperty env
  | .setRemoteDeviceProperty => Bluetoothd.setRemoteDeviceProperty env
  | .pinReply => Bluetoothd.pinReply env
  | .dutModeSend => Bluetoothd.dutModeSend env
  | .leTestMode => Bluetoothd.leTestMode env

variable {env} {cmd : Pdu}

theorem described_property {op : Op} {off : Nat}
    (hle : off + 3 + (u16At cmd.payload (off + 1)).toNat ≤ cmd.payload.length)
    (hop : op.forwarded = some ((propertyAt cmd.payload off).len.toNat, (propertyAt cmd.payload off).val)) :
    op.Described cmd := by
  have hlength : (propertyAt cmd.payload off).val.length = (propertyAt cmd.payload off).len.toNat :=
    length_slice hle
  refine described_of_slice hop hle hlength.ge ?_
  rw [List.take_of_length_le hlength.le]
  rfl

theorem CallsDescribed.of_serve {handle : Act Handler Status} {decode : Act Handler (Option α)}
    {release : α → Act Handler Unit} {ops : α → Op}
    (hserve : handle = serve env cmd .parmInvalid .noMem decode release
      (fun a => btInterfaceCall env (ops a)) World.btCoreIoSendPdu buildPduWbufMsg)
    (hdecode : Gives decode fun a => (ops a).Described cmd)
    (hrelease : ∀ a, ∃ blocks, Releases (release a) blocks)
    (hop : ∀ a res, (ops a).Succeeded res ↔ res = Status.success) (w : World Handler) :
    CallsDescribed cmd handle w := by
  refine CallsDescribed.of_cases (P := Op.Described cmd) ?_ fun op h => h
  rw [hserve]
  have hbuild : ∀ wbuf, (buildPduWbufMsg wbuf).wbuf = wbuf := fun _ => rfl
  rcases serve_calls_cases env hdecode hrelease (fun a => performs_btInterfaceCall env (hop a))
    hbuild w with h | ⟨a, ha, h⟩
  · exact Or.inl h
  · exact Or.inr ⟨ops a, ha, h⟩

theorem setAdapterProperty_described (w : World Handler) :
    CallsDescribed cmd (setAdapterProperty env cmd) w := by
  refine CallsDescribed.of_serve rfl ?_ ?_ ?_ w
  rotate_left
  · intro a
    exact ⟨[a.2], releases_val a.2⟩
  · intro a res
    exact Iff.rfl
  have hproperty : Gives (readBtProperty env cmd 0 : Act Handler _) _ :=
    gives_readBtProperty env (Nat.zero_le _)
  refine hproperty.bind Gives.none ?_
  rintro ⟨off, property, val⟩ ⟨hle, rfl⟩
  exact Gives.value (described_property hle rfl)

theorem gives_readBtBdaddr : Gives (readBtBdaddr cmd 0 : Act H _) fun a =>
    6 ≤ cmd.payload.length ∧ a = (6, slice cmd.payload 0 6) :=
  Gives.of_decodesAs (decodesAs_readBtBdaddr (Nat.zero_le _))

theorem setRemoteDeviceProperty_described (w : World Handler) :
    CallsDescribed cmd (setRemoteDeviceProperty env cmd) w := by
  refine CallsDescribed.of_serve rfl ?_ ?_ ?_ w
  rotate_left
  · intro a
    exact ⟨[a.2.2], releases_val a.2.2⟩
  · intro a res
    exact Iff.rfl
  refine gives_readBtBdaddr.bind Gives.none ?_
  rintro _ ⟨hle, rfl⟩
  have hproperty : Gives (readBtProperty env cmd 6 : Act Handler _) _ := gives_readBtProperty env hle
  refine hproperty.bind Gives.none ?_
  rintro ⟨off, property, val⟩ ⟨hle', rfl⟩
  exact Gives.value (described_property hle' rfl)

theorem described_testArgs {op : Op} (hle : 3 + (u8At cmd.payload 2).toNat ≤ cmd.payload.length)
    (hop : op.forwarded = some ((u8At cmd.payload 2).toNat,
      fillLocal env 256 (slice cmd.payload 3 (u8At cmd.payload 2).toNat))) : op.Described cmd := by
  have hlength : (slice cmd.payload 3 (u8At cmd.payload 2).toNat).length = (u8At cmd.payload 2).toNat :=
    length_slice hle
  refine described_of_slice hop hle ?_ ?_
  · rw [fillLocal, List.length_append, hlength]
    omega
  · rw [fillLocal, List.take_left' hlength]

theorem testArgs_described {op : UInt16 × List UInt8 × UInt8 → Op}
    (hop : ∀ a, (op a).forwarded = some (a.2.2.toNat, a.2.1))
    (hsucceeded : ∀ a res, (op a).Succeeded res ↔ res = Status.success) (w : World Handler) :
    CallsDescribed cmd (btCoreServe env cmd (testArgs env cmd) fun a => btInterfaceCall env (op a)) w := by
  refine CallsDescribed.of_serve rfl ?_ (fun _ => ⟨[], releases_nothing⟩) hsucceeded w
  refine (Gives.of_decodesAs (decodesAs_testArgs env)).mono ?_
  rintro _ ⟨hle, rfl⟩
  exact described_testArgs hle (hop _)

theorem dutModeSend_described (w : World Handler) : CallsDescribed cmd (dutModeSend env cmd) w :=
  testArgs_described (fun _ => rfl) (fun _ _ => Iff.rfl) w

theorem leTestMode_described (w : World Handler) : CallsDescribed cmd (leTestMode env cmd) w :=
  testArgs_described (fun _ => rfl) (fun _ _ => Iff.rfl) w

/-! ## The PIN code -/

/-- `pin_reply` makes its call if the payload is long enough and the reply can be allocated. -/
theorem callsOf_pinReply (w : World Handler) :
    callsOf ((pinReply env cmd).run w).2.log =
      if 24 ≤ cmd.payload.length ∧ (env.obtained w.mallocs).isSome then
        callsOf w.log ++ [pinReplyCall cmd.payload]
      else callsOf w.log := by
  obtain ⟨α, decode, ops, hserve, hdecode, hkeeps, hop⟩ := pinReply_serves env cmd
  obtain ⟨haccept, hrefuse⟩ := hdecode w
  rw [hserve]
  by_cases hlen : 24 ≤ cmd.payload.length
  · obtain ⟨a, w₁, hrun, hw₁, ha⟩ := haccept hlen
    have hmallocs := hkeeps w
    rw [hrun] at hmallocs
    rcases hmem : env.obtained w.mallocs with _ | mem
    · rw [if_neg (by simp), run_serve_noMem env cmd hrun (hmallocs.symm ▸ hmem) releases_nothing]
      show callsOf (w₁.log ++ []) = _
      rw [List.append_nil, hw₁.callsOf]
    · rw [if_pos ⟨hlen, rfl⟩, callsOf_serve env cmd hrun (hmallocs.symm ▸ hmem) releases_nothing
        (performs_btInterfaceCall env (hop a)) (fun _ => rfl), hw₁.callsOf, ha]
  · obtain ⟨w₁, hrun, hw₁⟩ := hrefuse (Nat.lt_of_not_le hlen)
    rw [if_neg (fun h => hlen h.1), run_serve_refused env cmd hrun]
    exact hw₁.callsOf

theorem pinReply_described_iff (w : World Handler) :
    CallsDescribed cmd (pinReply env cmd) w ↔
      ¬ (24 ≤ cmd.payload.length ∧ 16 < (u8At cmd.payload 7).toNat ∧ (env.obtained w.mallocs).isSome) := by
  have hcalls := @callsOf_pinReply _ env cmd w
  constructor
  · intro h hx
    obtain ⟨hlen, hpin, hmem⟩ := hx
    rw [if_pos ⟨hlen, hmem⟩] at hcalls
    obtain ⟨off, filled, -, hfilled, -, hle⟩ :=
      h _ hcalls _ (List.mem_singleton_self _) _ _ rfl
    have hlength : (slice cmd.payload 8 16).length = 16 := length_slice hlen
    omega
  · intro hx
    by_cases hcalled : 24 ≤ cmd.payload.length ∧ (env.obtained w.mallocs).isSome
    · rw [if_pos hcalled] at hcalls
      obtain ⟨hlen, hmem⟩ := hcalled
      have hpin : (u8At cmd.payload 7).toNat ≤ 16 := by
        by_contra hlt
        exact hx ⟨hlen, Nat.lt_of_not_le hlt, hmem⟩
      refine CallsDescribed.of_cases (P := fun op => op = pinReplyCall cmd.payload)
        (Or.inr ⟨_, rfl, hcalls⟩) ?_
      intro op hop len buf hforwarded
      rw [hop] at hforwarded
      cases hforwarded
      have hlength : (slice cmd.payload 8 16).length = 16 := length_slice hlen
      exact ⟨8, 16, hlen, hlength.ge, List.take_of_length_le hlength.le, hpin⟩
    · rw [if_neg hcalled] at hcalls
      refine CallsDescribed.of_cases (P := fun _ => False) (Or.inl hcalls) ?_
      intro op hop
      exact hop.elim

/-- **Lengths forwarded to the HAL** are at most the bytes that were filled, whatever a client sends
and whether allocations succeed or not, except in a `pin_reply` that is carried out for a PIN length
above 16. -/
theorem described_iff (env : Env) (handler : Forwarding) (cmd : Pdu) (w : World Handler) :
    CallsDescribed cmd (handler.handle env cmd) w ↔
      ¬ (handler = .pinReply ∧ 24 ≤ cmd.payload.length ∧ 16 < (u8At cmd.payload 7).toNat ∧
        (env.obtained w.mallocs).isSome) := by
  cases handler with
  | setAdapterProperty => exact iff_of_true (setAdapterProperty_described w) (by simp)
  | setRemoteDeviceProperty => exact iff_of_true (setRemoteDeviceProperty_described w) (by simp)
  | pinReply =>
    rw [eq_self, true_and]
    exact pinReply_described_iff w
  | dutModeSend => exact iff_of_true (dutModeSend_described w) (by simp)
  | leTestMode => exact iff_of_true (leTestMode_described w) (by simp)

end handlers

def longPinCmd : Pdu := ⟨serviceBtCore, 0x10, 24, [1, 2, 3, 4, 5, 6, 1, 200] ++ List.replicate 16 48, by decide⟩

/-- The HAL is told that the 16 bytes of the PIN code are 200. -/
theorem long_pin_forwarded :
    callsOf ((@pinReply lp64 .obliging longPinCmd).run .registered).2.log =
        [.pinReply [1, 2, 3, 4, 5, 6] 1 200 (List.replicate 16 48)] ∧
      ¬ CallsDescribed longPinCmd (@pinReply lp64 .obliging longPinCmd) .registered := by
  have hcalls : callsOf ((@pinReply lp64 .obliging longPinCmd).run .registered).2.log =
      [.pinReply [1, 2, 3, 4, 5, 6] 1 200 (List.replicate 16 48)] := by
    decide +kernel
  refine ⟨hcalls, ?_⟩
  intro h
  obtain ⟨off, filled, -, hfilled, -, hle⟩ := h _ hcalls _ (List.mem_singleton_self _) _ _ rfl
  exact absurd (hle.trans hfilled) (by decide)

end Bluetoothd
