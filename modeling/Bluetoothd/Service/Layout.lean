import Bluetoothd.Service.Discipline

/-!
# The layouts of BT_CORE commands

`btCoreLayout` describes every BT_CORE payload by the length it must have and the HAL call made
from its consecutive slices. `btCore_decodes` says that `bt_core_handler` decodes by this table:
it makes that call when the payload is long enough, and no call when it is not.
-/

namespace Bluetoothd

open Platform Buffer

variable {H α β : Type}

/-! ## Decoders -/

/-- The worlds differ in their logs and in the blocks allocated. -/
def SameGlobals (w w' : World H) : Prop := ∃ log m, w' = { w with log := log, mallocs := m }

theorem SameGlobals.refl (w : World H) : SameGlobals w w := ⟨w.log, w.mallocs, rfl⟩

theorem SameGlobals.trans {w₁ w₂ w₃ : World H} (h : SameGlobals w₁ w₂) (h' : SameGlobals w₂ w₃) :
    SameGlobals w₁ w₃ := by
  obtain ⟨log, m, rfl⟩ := h
  obtain ⟨log', m', rfl⟩ := h'
  exact ⟨log', m', rfl⟩

/-- `w'` is `w` after some more events, none of which is a call or a reply. -/
def Quiet (w w' : World H) : Prop :=
  ∃ evs m, w' = { w with log := w.log ++ evs, mallocs := m } ∧ callsOf evs = [] ∧ sentOf evs = []

theorem Quiet.refl (w : World H) : Quiet w w := ⟨[], w.mallocs, by rw [List.append_nil], rfl, rfl⟩

theorem Quiet.trans {w₁ w₂ w₃ : World H} (h : Quiet w₁ w₂) (h' : Quiet w₂ w₃) : Quiet w₁ w₃ := by
  obtain ⟨evs, m, rfl, hcalls, hsent⟩ := h
  obtain ⟨evs', m', rfl, hcalls', hsent'⟩ := h'
  refine ⟨evs ++ evs', m', ?_, ?_, ?_⟩
  · rw [← List.append_assoc]
  · rw [callsOf_append, hcalls, hcalls', List.append_nil]
  · rw [sentOf_append, hsent, hsent', List.append_nil]

theorem Quiet.push {w w' : World H} (h : Quiet w w') {e : Event} (hcalls : callsOf [e] = [])
    (hsent : sentOf [e] = []) : Quiet w (w'.push e) :=
  h.trans ⟨[e], w'.mallocs, rfl, hcalls, hsent⟩

theorem Quiet.callsOf {w w' : World H} (h : Quiet w w') :
    Bluetoothd.callsOf w'.log = Bluetoothd.callsOf w.log := by
  obtain ⟨evs, m, rfl, hcalls, -⟩ := h
  show Bluetoothd.callsOf (w.log ++ evs) = _
  rw [callsOf_append, hcalls, List.append_nil]

theorem Quiet.sameGlobals {w w' : World H} (h : Quiet w w') : SameGlobals w w' := by
  obtain ⟨evs, m, rfl, -, -⟩ := h
  exact ⟨_, m, rfl⟩

/-- On a payload of `n` bytes the decoder requires `len` and yields a value with `P`. -/
def DecodesAs (x : Act H (Option α)) (n len : Nat) (P : α → Prop) : Prop :=
  ∀ w, (len ≤ n → ∃ a w', x.run w = (.ok (some a), w') ∧ Quiet w w' ∧ P a) ∧
    (n < len → ∃ w', x.run w = (.ok none, w') ∧ Quiet w w')

def Refuses (x : Act H (Option α)) : Prop := ∀ w, ∃ w', x.run w = (.ok none, w') ∧ Quiet w w'

theorem Refuses.pure : Refuses (pure none : Act H (Option α)) := fun w => ⟨w, rfl, Quiet.refl w⟩

section rules

variable {x : Act H (Option α)} {k : Option α → Act H (Option β)} {n l₁ l₂ : Nat} {P : α → Prop}
  {Q : β → Prop}

theorem DecodesAs.value {a : α} (hle : l₁ ≤ n) (h : P a) :
    DecodesAs (pure (some a) : Act H (Option α)) n l₁ P := fun w =>
  ⟨fun _ => ⟨a, w, rfl, Quiet.refl w, h⟩, fun hlt => absurd hle (Nat.not_le.mpr hlt)⟩

theorem DecodesAs.bind (hx : DecodesAs x n l₁ P) (hnone : Refuses (k none)) (hle : l₁ ≤ l₂)
    (hk : ∀ a, P a → l₁ ≤ n → DecodesAs (k (some a)) n l₂ Q) : DecodesAs (x >>= k) n l₂ Q := by
  intro w
  obtain ⟨haccept, hrefuse⟩ := hx w
  by_cases hn : l₁ ≤ n
  · obtain ⟨a, w', hrun, hquiet, ha⟩ := haccept hn
    obtain ⟨haccept', hrefuse'⟩ := hk a ha hn w'
    rw [Prog.run_bind_ok hrun]
    constructor
    · intro hl
      obtain ⟨b, w'', hrun', hquiet', hb⟩ := haccept' hl
      exact ⟨b, w'', hrun', hquiet.trans hquiet', hb⟩
    · intro hl
      obtain ⟨w'', hrun', hquiet'⟩ := hrefuse' hl
      exact ⟨w'', hrun', hquiet.trans hquiet'⟩
  · obtain ⟨w', hrun, hquiet⟩ := hrefuse (Nat.lt_of_not_le hn)
    obtain ⟨w'', hrun', hquiet'⟩ := hnone w'
    rw [Prog.run_bind_ok hrun]
    exact ⟨fun hl => absurd (le_trans hle hl) hn, fun _ => ⟨w'', hrun', hquiet.trans hquiet'⟩⟩

theorem DecodesAs.mono {P' : α → Prop} (h : DecodesAs x n l₁ P) (himp : ∀ a, P a → P' a) :
    DecodesAs x n l₁ P' := fun w =>
  ⟨fun hl => by
    obtain ⟨a, w', hrun, hquiet, ha⟩ := (h w).1 hl
    exact ⟨a, w', hrun, hquiet, himp a ha⟩, (h w).2⟩

end rules

def KeepsMallocs (x : Act H α) : Prop := Prog.Spec x fun w _ w' => w'.mallocs = w.mallocs

theorem KeepsMallocs.pure (a : α) : KeepsMallocs (pure a : Act H α) := by
  intro w
  rfl

theorem KeepsMallocs.bind {x : Act H α} {f : α → Act H β} (hx : KeepsMallocs x)
    (hf : ∀ a, KeepsMallocs (f a)) : KeepsMallocs (x >>= f) := by
  refine Prog.Spec.bind hx hf ?_ ?_
  · intro w a w₁ r w₂ h h'
    exact h'.trans h
  · intro w e w₁ h
    exact h

theorem decodesAs_noArgs {n : Nat} : DecodesAs (noArgs : Act H _) n 0 fun _ => True :=
  DecodesAs.value (Nat.zero_le _) trivial

/-! ## Layouts -/

section layouts

variable [Platform] (env : Env)

def u8At (p : List UInt8) (off : Nat) : UInt8 := UInt8.ofNat (hostInt (slice p off 1))
def u16At (p : List UInt8) (off : Nat) : UInt16 := UInt16.ofNat (hostInt (slice p off 2))
def u32At (p : List UInt8) (off : Nat) : UInt32 := UInt32.ofNat (hostInt (slice p off 4))

def propertyAt (p : List UInt8) (off : Nat) : Property where
  type := u8At p off
  len := u16At p (off + 1)
  val := slice p (off + 3) (u16At p (off + 1)).toNat

/-- The length that the payload `p` of an opcode must have, and the call it asks for. -/
def btCoreLayout (opcode : UInt8) (p : List UInt8) : Option (Nat × Op) :=
  match opcode with
  | 0x01 => some (0, .enable)
  | 0x02 => some (0, .disable)
  | 0x03 => some (0, .getAdapterProperties)
  | 0x04 => some (1, .getAdapterProperty (u8At p 0))
  | 0x05 => some (3 + (u16At p 1).toNat, .setAdapterProperty (propertyAt p 0))
  | 0x06 => some (6, .getRemoteDeviceProperties (slice p 0 6))
  | 0x07 => some (7, .getRemoteDeviceProperty (slice p 0 6) (u8At p 6))
  | 0x08 => some (9 + (u16At p 7).toNat, .setRemoteDeviceProperty (slice p 0 6) (propertyAt p 6))
  | 0x09 => some (22, .getRemoteServiceRecord (slice p 0 6) (slice p 6 16))
  | 0x0a => some (6, .getRemoteServices (slice p 0 6))
  | 0x0b => some (0, .startDiscovery)
  | 0x0c => some (0, .cancelDiscovery)
  | 0x0d => some (6, .createBond (slice p 0 6))
  | 0x0e => some (6, .removeBond (slice p 0 6))
  | 0x0f => some (6, .cancelBond (slice p 0 6))
  | 0x10 => some (24, .pinReply (slice p 0 6) (u8At p 6) (u8At p 7) (slice p 8 16))
  | 0x11 => some (12, .sspReply (slice p 0 6) (u8At p 6) (u8At p 7) (u32At p 8))
  | 0x12 => some (1, .dutModeConfigure (u8At p 0))
  | 0x13 => some (3 + (u8At p 2).toNat,
      .dutModeSend (u16At p 0) (fillLocal env 256 (slice p 3 (u8At p 2).toNat)) (u8At p 2))
  | 0x14 => some (3 + (u8At p 2).toNat,
      .leTestMode (u16At p 0) (fillLocal env 256 (slice p 3 (u8At p 2).toNat)) (u8At p 2))
  | _ => none

theorem decodesAs_readFields {cmd : Pdu} {off : Nat} {fmt : String} {dsts : List Dst}
    (hfmt : fmt.toList = dsts.map Dst.fmt) (hroom : ∀ d ∈ dsts, d.HasRoom)
    (hoff : off ≤ cmd.payload.length) (hsmall : total dsts < 2 ^ 31) :
    DecodesAs (readFields cmd off fmt dsts : Act H _) cmd.payload.length (off + total dsts)
      fun a => a = (off + total dsts, fieldsAt cmd.payload off dsts) := by
  intro w
  constructor
  · intro h
    rw [run_readFields_some (readPduAt_fits hfmt hroom h)]
    exact ⟨_, _, by rw [if_neg (by omega)]; rfl, (Quiet.refl w).push rfl rfl, rfl⟩
  · intro h
    obtain ⟨vals, hread⟩ := readPduAt_overflow hfmt hroom hoff hsmall h
    rw [run_readFields_some hread]
    exact ⟨_, by rw [if_pos (by omega)], (Quiet.refl w).push rfl rfl⟩

section decoders

variable {cmd : Pdu} {off : Nat}

theorem decodesAs_block {n : Nat} (hoff : off ≤ cmd.payload.length) (hn : n < 2 ^ 31) :
    DecodesAs (do
      let some (off, [.m block]) ← readFields cmd off "m" [.m n n] | return none
      return some (off, block) : Act H (Option (Nat × List UInt8))) cmd.payload.length (off + n)
      fun a => a = (off + n, slice cmd.payload off n) := by
  have hread : DecodesAs (readFields cmd off "m" [.m n n] : Act H _) cmd.payload.length (off + n) _ :=
    decodesAs_readFields rfl (by simp [Dst.HasRoom]) hoff (by simpa [total, Dst.size] using hn)
  refine hread.bind Refuses.pure le_rfl ?_
  rintro _ rfl hle
  exact DecodesAs.value hle rfl

theorem keepsMallocs_readFields (off : Nat) (fmt : String) (args : List Dst) :
    KeepsMallocs (readFields cmd off fmt args : Act H _) := by
  intro w
  rcases hread : readPduAt cmd off fmt args with _ | ⟨res, vals⟩
  · rw [run_readFields_none hread]
  · rw [run_readFields_some hread]
    rfl

theorem keepsMallocs_block (off n : Nat) :
    KeepsMallocs (do
      let some (off, [.m block]) ← readFields cmd off "m" [.m n n] | return none
      return some (off, block) : Act H (Option (Nat × List UInt8))) := by
  refine (keepsMallocs_readFields off "m" _).bind fun r => ?_
  split
  · exact KeepsMallocs.pure _
  · exact KeepsMallocs.pure _

theorem decodesAs_readBtBdaddr (hoff : off ≤ cmd.payload.length) :
    DecodesAs (readBtBdaddr cmd off : Act H _) cmd.payload.length (off + 6)
      fun a => a = (off + 6, slice cmd.payload off 6) := decodesAs_block hoff (by norm_num)

theorem decodesAs_readBtUuid (hoff : off ≤ cmd.payload.length) :
    DecodesAs (readBtUuid cmd off : Act H _) cmd.payload.length (off + 16)
      fun a => a = (off + 16, slice cmd.payload off 16) := decodesAs_block hoff (by norm_num)

theorem decodesAs_readBtPinCode (hoff : off ≤ cmd.payload.length) :
    DecodesAs (readBtPinCode cmd off : Act H _) cmd.payload.length (off + 16)
      fun a => a = (off + 16, slice cmd.payload off 16) := decodesAs_block hoff (by norm_num)

theorem decodesAs_propertyHeader (hoff : off ≤ cmd.payload.length) :
    DecodesAs (readFields cmd off "CS" [.C, .S] : Act H _) cmd.payload.length (off + 3)
      fun a => a = (off + 3, [.C (u8At cmd.payload off), .S (u16At cmd.payload (off + 1))]) :=
  decodesAs_readFields rfl (by simp [Dst.HasRoom]) hoff (by decide)

theorem decodesAs_propertyValue (len : UInt16) (hoff : off ≤ cmd.payload.length) :
    DecodesAs (readFields cmd off "m" [.m len.toNat len.toNat] : Act H _) cmd.payload.length
      (off + len.toNat) fun a => a = (off + len.toNat, [.m (slice cmd.payload off len.toNat)]) :=
  decodesAs_readFields rfl (by simp [Dst.HasRoom]) hoff (lt_of_lt_of_le len.toNat_lt (by norm_num))

theorem decodesAs_readBtProperty (halloc : ∀ n, (env.obtained n).isSome) (hoff : off ≤ cmd.payload.length) :
    DecodesAs (readBtProperty env cmd off : Act H _) cmd.payload.length
      (off + 3 + (u16At cmd.payload (off + 1)).toNat)
      fun a => a.1 = off + 3 + (u16At cmd.payload (off + 1)).toNat ∧
        a.2.1 = propertyAt cmd.payload off := by
  refine (decodesAs_propertyHeader hoff).bind Refuses.pure (Nat.le_add_right _ _) ?_
  rintro _ rfl hle
  have hmalloc : DecodesAs (malloc env .val : Act H _) cmd.payload.length 0 fun _ => True := by
    intro w
    obtain ⟨mem, hmem⟩ := Option.isSome_iff_exists.mp (halloc w.mallocs)
    refine ⟨fun _ => ⟨_, _, run_malloc_some hmem, ?_, trivial⟩, fun h => absurd h (Nat.not_lt_zero _)⟩
    exact ⟨[.malloc .val w.mallocs], w.mallocs + 1, rfl, rfl, rfl⟩
  refine hmalloc.bind Refuses.pure (Nat.zero_le _) ?_
  rintro ⟨val, mem⟩ - -
  apply (decodesAs_propertyValue _ hle).bind (fun w => ⟨_, rfl, (Quiet.refl w).push rfl rfl⟩) le_rfl
  rintro _ rfl hle'
  exact DecodesAs.value hle' ⟨rfl, rfl⟩

theorem decodesAs_addrArg :
    DecodesAs (addrArg cmd : Act H _) cmd.payload.length 6 fun a => a = slice cmd.payload 0 6 := by
  have haddr : DecodesAs (readBtBdaddr cmd 0 : Act H _) cmd.payload.length 6 _ :=
    decodesAs_readBtBdaddr (Nat.zero_le _)
  refine haddr.bind Refuses.pure le_rfl ?_
  rintro _ rfl hle
  exact DecodesAs.value hle rfl

theorem decodesAs_byteArg :
    DecodesAs (byteArg cmd : Act H _) cmd.payload.length 1 fun a => a = u8At cmd.payload 0 := by
  have hread : DecodesAs (readFields cmd 0 "C" [.C] : Act H _) cmd.payload.length 1 _ :=
    decodesAs_readFields rfl (by simp [Dst.HasRoom]) (Nat.zero_le _) (by decide)
  refine hread.bind Refuses.pure le_rfl ?_
  rintro _ rfl hle
  exact DecodesAs.value hle rfl

theorem decodesAs_testArgs :
    DecodesAs (testArgs env cmd : Act H _) cmd.payload.length (3 + (u8At cmd.payload 2).toNat)
      fun a => a = (u16At cmd.payload 0,
        fillLocal env 256 (slice cmd.payload 3 (u8At cmd.payload 2).toNat), u8At cmd.payload 2) := by
  have hread : DecodesAs (readFields cmd 0 "SC" [.S, .C] : Act H _) cmd.payload.length 3
      fun a => a = (3, [.S (u16At cmd.payload 0), .C (u8At cmd.payload 2)]) :=
    decodesAs_readFields rfl (by simp [Dst.HasRoom]) (Nat.zero_le _) (by decide)
  refine hread.bind Refuses.pure (Nat.le_add_right _ _) ?_
  rintro _ rfl hle
  have hlt := (u8At cmd.payload 2).toNat_lt
  have hbuf : DecodesAs (readFields cmd 3 "m" [.m 256 (u8At cmd.payload 2).toNat] : Act H _)
      cmd.payload.length (3 + (u8At cmd.payload 2).toNat) _ :=
    decodesAs_readFields rfl (by simp [Dst.HasRoom]; omega) hle
      (lt_of_lt_of_le hlt (by norm_num))
  refine hbuf.bind Refuses.pure le_rfl ?_
  rintro _ rfl hle'
  exact DecodesAs.value hle' rfl

theorem decodesAs_addrThen {k : Option (Nat × List UInt8) → Act H (Option β)} {len : Nat}
    {Q : β → Prop} (hnone : Refuses (k none)) (hlen : 6 ≤ len)
    (hk : 6 ≤ cmd.payload.length →
      DecodesAs (k (some (6, slice cmd.payload 0 6))) cmd.payload.length len Q) :
    DecodesAs (readBtBdaddr cmd 0 >>= k) cmd.payload.length len Q := by
  have haddr : DecodesAs (readBtBdaddr cmd 0 : Act H _) cmd.payload.length 6
      fun a => a = (6, slice cmd.payload 0 6) := decodesAs_readBtBdaddr (Nat.zero_le _)
  apply haddr.bind hnone hlen
  rintro _ rfl hle
  exact hk hle

end decoders

/-! ## The common sequence -/

section serve

variable {short noMem : Status} {decode : Act Handler (Option α)} {release : α → Act Handler Unit}
  {held : α → List Nat} {op : α → Act Handler Status} {ops : α → Op}
  {pointer : World Handler → Option SendPdu} {build : WBuf → Message} {w w₁ : World Handler}

theorem run_serve_refused (cmd : Pdu) (hrun : decode.run w = (.ok none, w₁)) :
    (serve env cmd short noMem decode release op pointer build).run w = (.ok short, w₁) := by
  unfold serve
  rw [Prog.run_bind_ok hrun]
  rfl

theorem run_serve_noMem (cmd : Pdu) {a : α} {blocks : List Nat} (hrun : decode.run w = (.ok (some a), w₁))
    (hmem : env.obtained w₁.mallocs = none) (hrelease : Releases (release a) blocks) :
    (serve env cmd short noMem decode release op pointer build).run w
      = (.ok noMem, { w₁ with mallocs := w₁.mallocs + 1, log := w₁.log ++ blocks.map .free }) := by
  unfold serve
  rw [Prog.run_bind_ok hrun]
  dsimp only
  rw [Prog.run_bind_ok (run_newPduWbuf_none hmem)]
  dsimp only
  rw [Prog.run_bind_ok (hrelease _)]
  rfl

/-- With arguments and a reply buffer, an observer who sees neither blocks nor messages sees of a
handler what he sees of its operation. -/
theorem observe_serve {γ : Type} {observe : List Event → List γ}
    (happend : ∀ xs ys, observe (xs ++ ys) = observe xs ++ observe ys)
    (hmalloc : ∀ block, observe [.malloc .wbuf block] = [])
    (hfrees : ∀ blocks : List Nat, observe (blocks.map .free) = [])
    (hsend : ∀ msg, observe [.send msg] = []) {seen : List γ} (cmd : Pdu) {a : α}
    {blocks : List Nat} {mem : Nat → UInt8} (hrun : decode.run w = (.ok (some a), w₁))
    (hmem : env.obtained w₁.mallocs = some mem) (hrelease : Releases (release a) blocks)
    (hbuild : ∀ wbuf, (build wbuf).wbuf = wbuf)
    (hop : ∀ w₂, SameGlobals w₁ w₂ → observe ((op a).run w₂).2.log = observe w₂.log ++ seen) :
    observe ((serve env cmd short noMem decode release op pointer build).run w).2.log
      = observe w₁.log ++ seen := by
  unfold serve
  rw [Prog.run_bind_ok hrun]
  dsimp only
  rw [Prog.run_bind_ok (run_newPduWbuf_some hmem)]
  dsimp only
  generalize hw₂ : World.push { w₁ with mallocs := w₁.mallocs + 1 } (.malloc .wbuf w₁.mallocs) = w₂
  have hseen₂ : observe w₂.log = observe w₁.log := by
    rw [← hw₂]
    show observe (w₁.log ++ _) = _
    rw [happend, hmalloc, List.append_nil]
  have hseen₃ := hop w₂ (hw₂ ▸ ⟨_, _, rfl⟩)
  rcases hoprun : (op a).run w₂ with ⟨fault | status, w₃⟩ <;> rw [hoprun] at hseen₃
  · rw [Prog.run_bind_error hoprun, hseen₃, hseen₂]
  · rw [Prog.run_bind_ok hoprun]
    obtain ⟨evs, hlog, hconclude⟩ := conclude_emits hrelease hbuild w₃
    have hnone : observe evs = [] := by
      rcases hconclude with ⟨-, -, rfl⟩ | ⟨-, -, rfl⟩ | ⟨-, -, msg, -, -, rfl⟩
      · exact hfrees (_ :: blocks)
      · exact hfrees blocks
      · rw [happend, hfrees, hsend, List.append_nil]
    rw [hlog, happend, hnone, List.append_nil, hseen₃, hseen₂]

theorem callsOf_serve (cmd : Pdu) {a : α} {blocks : List Nat} {mem : Nat → UInt8}
    (hrun : decode.run w = (.ok (some a), w₁)) (hmem : env.obtained w₁.mallocs = some mem)
    (hrelease : Releases (release a) blocks) (hop : Performs (op a) (ops a))
    (hbuild : ∀ wbuf, (build wbuf).wbuf = wbuf) :
    callsOf ((serve env cmd short noMem decode release op pointer build).run w).2.log
      = callsOf w₁.log ++ [ops a] :=
  observe_serve env callsOf_append (fun _ => rfl) (fun blocks => (observe_frees blocks).2.2.1)
    (fun _ => rfl) cmd hrun hmem hrelease hbuild fun w₂ _ => hop.callsOf w₂

/-- A handler whose decoder accepts makes the call it decoded, and no other; one whose decoder
refuses makes none. -/
theorem serve_decodes {cmd : Pdu} {n len : Nat} {o : Op} (halloc : ∀ n, (env.obtained n).isSome)
    (hdecode : DecodesAs decode n len fun a => ops a = o)
    (hrelease : ∀ a, Releases (release a) (held a)) (hop : ∀ a, Performs (op a) (ops a))
    (hbuild : ∀ wbuf, (build wbuf).wbuf = wbuf) (w : World Handler) :
    (len ≤ n → callsOf ((serve env cmd short noMem decode release op pointer build).run w).2.log
      = callsOf w.log ++ [o]) ∧
    (n < len → ∃ w', (serve env cmd short noMem decode release op pointer build).run w
      = (.ok short, w') ∧ callsOf w'.log = callsOf w.log) := by
  obtain ⟨haccept, hrefuse⟩ := hdecode w
  constructor
  · intro hlen
    obtain ⟨a, w₁, hrun, hw₁, rfl⟩ := haccept hlen
    obtain ⟨mem, hmem⟩ := Option.isSome_iff_exists.mp (halloc w₁.mallocs)
    rw [callsOf_serve env cmd hrun hmem (hrelease a) (hop a) hbuild, hw₁.callsOf]
  · intro hlen
    obtain ⟨w₁, hrun, hw₁⟩ := hrefuse hlen
    exact ⟨w₁, run_serve_refused env cmd hrun, hw₁.callsOf⟩

end serve

/-! ## The handlers -/

variable {env} {cmd : Pdu}

/-- `handler` is the common sequence with a decoder for the layout, whose result names the call. -/
def ServesLayout (env : Env) (layout : Nat × Op) (cmd : Pdu) (handler : Act Handler Status) : Prop :=
  ∃ (α : Type) (decode : Act Handler (Option α)) (release : α → Act Handler Unit)
    (held : α → List Nat) (ops : α → Op),
    handler = serve env cmd .parmInvalid .noMem decode release (fun a => btInterfaceCall env (ops a))
      World.btCoreIoSendPdu buildPduWbufMsg ∧
    DecodesAs decode cmd.payload.length layout.1 (fun a => ops a = layout.2) ∧
    (∀ a, Releases (release a) (held a)) ∧
    ∀ a res, (ops a).Succeeded res ↔ res = Status.success

theorem btCoreServe_serves {decode : Act Handler (Option α)} {op : α → Op} {len : Nat} {o : Op}
    (hdecode : DecodesAs decode cmd.payload.length len fun a => op a = o)
    (hop : ∀ a res, (op a).Succeeded res ↔ res = Status.success) :
    ServesLayout env (len, o) cmd (btCoreServe env cmd decode fun a => btInterfaceCall env (op a)) :=
  ⟨α, decode, _, _, op, rfl, hdecode, fun _ => releases_nothing, hop⟩

def pinReplyCall (p : List UInt8) : Op :=
  .pinReply (slice p 0 6) (u8At p 6) (u8At p 7) (slice p 8 16)

variable (env cmd) in
theorem pinReply_serves : ∃ (α : Type) (decode : Act Handler (Option α)) (ops : α → Op),
    pinReply env cmd = serve env cmd .parmInvalid .noMem decode (fun _ => pure ())
      (fun a => btInterfaceCall env (ops a)) World.btCoreIoSendPdu buildPduWbufMsg ∧
    DecodesAs decode cmd.payload.length 24 (fun a => ops a = pinReplyCall cmd.payload) ∧
    KeepsMallocs decode ∧ ∀ a res, (ops a).Succeeded res ↔ res = Status.success := by
  refine ⟨_, _, _, rfl, ?_, ?_, fun _ _ => Iff.rfl⟩
  · refine decodesAs_addrThen Refuses.pure (by norm_num) ?_
    intro hle
    have hread : DecodesAs (readFields cmd 6 "CC" [.C, .C] : Act Handler _) cmd.payload.length 8 _ :=
      decodesAs_readFields rfl (by simp [Dst.HasRoom]) hle (by decide)
    refine hread.bind Refuses.pure (by norm_num) ?_
    rintro _ rfl hle'
    have hpin : DecodesAs (readBtPinCode cmd 8 : Act Handler _) cmd.payload.length 24
        fun a => a = (24, slice cmd.payload 8 16) := decodesAs_readBtPinCode hle'
    refine hpin.bind Refuses.pure (le_refl 24) ?_
    rintro _ rfl hle''
    exact DecodesAs.value hle'' rfl
  · refine (keepsMallocs_block 0 6).bind fun r => ?_
    split
    · refine (keepsMallocs_readFields _ "CC" _).bind fun r => ?_
      split
      · refine (keepsMallocs_block _ 16).bind fun r => ?_
        split
        · exact KeepsMallocs.pure _
        · exact KeepsMallocs.pure _
      · exact KeepsMallocs.pure _
    · exact KeepsMallocs.pure _

theorem btCoreTable_serves (halloc : ∀ n, (env.obtained n).isSome) (cmd : Pdu) {opcode : UInt8}
    {handler : Pdu → Act Handler Status} (h : btCoreTable env opcode = some handler) :
    ∃ layout, btCoreLayout env opcode cmd.payload = some layout ∧
      ServesLayout env layout cmd (handler cmd) := by
  have hnoArgs : ∀ {o : Op}, (∀ res, o.Succeeded res ↔ res = Status.success) →
      ServesLayout env (0, o) cmd (btCoreServe env cmd noArgs fun _ => btInterfaceCall env o) :=
    fun hop =>
    btCoreServe_serves (decodesAs_noArgs.mono fun _ _ => rfl) fun _ => hop
  have haddr : ∀ {op : List UInt8 → Op}, (∀ a res, (op a).Succeeded res ↔ res = Status.success) →
      ServesLayout env (6, op (slice cmd.payload 0 6)) cmd
        (btCoreServe env cmd (addrArg cmd) fun addr => btInterfaceCall env (op addr)) := fun hop =>
    btCoreServe_serves (decodesAs_addrArg.mono fun _ h => by rw [h]) hop
  have hbyte : ∀ {op : UInt8 → Op}, (∀ a res, (op a).Succeeded res ↔ res = Status.success) →
      ServesLayout env (1, op (u8At cmd.payload 0)) cmd
        (btCoreServe env cmd (byteArg cmd) fun byte => btInterfaceCall env (op byte)) := fun hop =>
    btCoreServe_serves (decodesAs_byteArg.mono fun _ h => by rw [h]) hop
  unfold btCoreTable at h
  split at h <;> cases h <;> refine ⟨_, rfl, ?_⟩
  · exact hnoArgs fun _ => Iff.rfl
  · exact hnoArgs fun _ => Iff.rfl
  · exact hnoArgs fun _ => Iff.rfl
  · exact hbyte fun _ _ => Iff.rfl
  · -- set_adapter_property
    refine ⟨_, _, _, _, _, rfl, ?_, fun a => releases_val a.2, fun _ _ => Iff.rfl⟩
    have hproperty : DecodesAs (readBtProperty env cmd 0 : Act Handler _) cmd.payload.length
        (3 + (u16At cmd.payload 1).toNat) fun a => a.2.1 = propertyAt cmd.payload 0 :=
      (decodesAs_readBtProperty env halloc (Nat.zero_le _)).mono fun _ h => h.2
    refine hproperty.bind Refuses.pure le_rfl ?_
    rintro ⟨off, property, val⟩ hprop hle
    exact DecodesAs.value hle (congrArg Op.setAdapterProperty hprop)
  · exact haddr fun _ _ => Iff.rfl
  · -- get_remote_device_property
    refine btCoreServe_serves ?_ fun _ _ => Iff.rfl
    refine decodesAs_addrThen Refuses.pure (by norm_num) fun hle => ?_
    have hread : DecodesAs (readFields cmd 6 "C" [.C] : Act Handler _) cmd.payload.length 7 _ :=
      decodesAs_readFields rfl (by simp [Dst.HasRoom]) hle (by decide)
    refine hread.bind Refuses.pure le_rfl ?_
    rintro _ rfl hle'
    exact DecodesAs.value hle' rfl
  · -- set_remote_device_property
    refine ⟨_, _, _, _, _, rfl, ?_, fun a => releases_val a.2.2, fun _ _ => Iff.rfl⟩
    refine decodesAs_addrThen Refuses.pure (by omega) fun hle => ?_
    have hproperty : DecodesAs (readBtProperty env cmd 6 : Act Handler _) cmd.payload.length
        (9 + (u16At cmd.payload 7).toNat) fun a => a.2.1 = propertyAt cmd.payload 6 :=
      (decodesAs_readBtProperty env halloc hle).mono fun _ h => h.2
    refine hproperty.bind Refuses.pure le_rfl ?_
    rintro ⟨off, property, val⟩ hprop hle'
    exact DecodesAs.value hle' (congrArg (Op.setRemoteDeviceProperty _) hprop)
  · -- get_remote_service_record
    refine btCoreServe_serves ?_ fun _ _ => Iff.rfl
    refine decodesAs_addrThen Refuses.pure (by norm_num) fun hle => ?_
    have huuid : DecodesAs (readBtUuid cmd 6 : Act Handler _) cmd.payload.length 22
        fun a => a = (22, slice cmd.payload 6 16) := decodesAs_readBtUuid hle
    refine huuid.bind Refuses.pure le_rfl ?_
    rintro _ rfl hle'
    exact DecodesAs.value hle' rfl
  · exact haddr fun _ _ => Iff.rfl
  · exact hnoArgs fun _ => Iff.rfl
  · exact hnoArgs fun _ => Iff.rfl
  · exact haddr fun _ _ => Iff.rfl
  · exact haddr fun _ _ => Iff.rfl
  · exact haddr fun _ _ => Iff.rfl
  · -- pin_reply
    obtain ⟨α, decode, ops, hserve, hdecode, -, hop⟩ := pinReply_serves env cmd
    exact ⟨α, decode, _, _, ops, hserve, hdecode, fun _ => releases_nothing, hop⟩
  · -- ssp_reply
    refine btCoreServe_serves ?_ fun _ _ => Iff.rfl
    refine decodesAs_addrThen Refuses.pure (by norm_num) fun hle => ?_
    have hread : DecodesAs (readFields cmd 6 "CCI" [.C, .C, .I] : Act Handler _)
        cmd.payload.length 12 _ :=
      decodesAs_readFields rfl (by simp [Dst.HasRoom]) hle (by decide)
    refine hread.bind Refuses.pure le_rfl ?_
    rintro _ rfl hle'
    exact DecodesAs.value hle' rfl
  · exact hbyte fun _ _ => Iff.rfl
  · exact btCoreServe_serves ((decodesAs_testArgs env).mono fun _ h => by rw [h])
      fun _ _ => Iff.rfl
  · exact btCoreServe_serves ((decodesAs_testArgs env).mono fun _ h => by rw [h])
      fun _ _ => Iff.rfl

/-- A layout exists for exactly the opcodes of the table. -/
theorem btCoreLayout_isSome (opcode : UInt8) (p : List UInt8) :
    (btCoreLayout env opcode p).isSome ↔ (btCoreTable env opcode).isSome := by
  unfold btCoreLayout btCoreTable
  split <;> simp

/-! ## Bytes left over from an earlier PDU -/

/-- The two PDUs have the same header and the same payload; behind it their storages may differ. -/
structure SamePdu (pdu pdu' : Pdu) : Prop where
  service : pdu'.service = pdu.service
  opcode : pdu'.opcode = pdu.opcode
  len : pdu'.len = pdu.len
  payload : pdu'.payload = pdu.payload

theorem readFields_congr {cmd' : Pdu} (h : SamePdu cmd cmd') :
    (readFields cmd' : Nat → String → List Dst → Act H _) = readFields cmd := by
  funext off fmt args
  unfold readFields readPduAt
  rw [readPduAtVa_congr h.len h.payload]

theorem btCoreTable_congr {cmd' : Pdu} (h : SamePdu cmd cmd') {opcode : UInt8}
    {handler : Pdu → Act Handler Status} (hhandler : btCoreTable env opcode = some handler) :
    handler cmd' = handler cmd := by
  have hread := readFields_congr (H := Handler) h
  unfold btCoreTable at hhandler
  split at hhandler <;> cases hhandler <;>
    simp only [enable, disable, getAdapterProperties, getAdapterProperty, setAdapterProperty,
      getRemoteDeviceProperties, getRemoteDeviceProperty, setRemoteDeviceProperty,
      getRemoteServiceRecord, getRemoteServices, startDiscovery, cancelDiscovery, createBond,
      removeBond, cancelBond, pinReply, sspReply, dutModeConfigure, dutModeSend, leTestMode,
      btCoreServe, serve, conclude, byteArg, addrArg, testArgs, readBtBdaddr, readBtUuid,
      readBtPinCode, readBtProperty, hread, h.service, h.opcode]

/-- **Exact decoding of BT_CORE commands.** With allocations succeeding, every opcode of
`bt_core_handler` has a layout, by whose length the payload is accepted and by whose slices the
HAL is called; and nothing behind the payload has an effect. -/
theorem btCore_decodes (halloc : ∀ n, (env.obtained n).isSome) (cmd : Pdu)
    (hopcode : (btCoreTable env cmd.opcode).isSome) :
    (∃ len op, btCoreLayout env cmd.opcode cmd.payload = some (len, op) ∧ ∀ w,
      (len ≤ cmd.payload.length →
        callsOf ((Handler.btCore.handle env cmd).run w).2.log = callsOf w.log ++ [op]) ∧
      (cmd.payload.length < len → ∃ w',
        (Handler.btCore.handle env cmd).run w = (.ok Status.parmInvalid, w') ∧
          callsOf w'.log = callsOf w.log)) ∧
    ∀ cmd', SamePdu cmd cmd' → Handler.btCore.handle env cmd' = Handler.btCore.handle env cmd := by
  obtain ⟨handler, hhandler⟩ := Option.isSome_iff_exists.mp hopcode
  have hhandle : Handler.btCore.handle env cmd = handler cmd := Handler.handle_eq hhandler
  obtain ⟨⟨len, op⟩, hlayout, α, decode, release, held, ops, hserve, hdecode, hrelease, hop⟩ :=
    btCoreTable_serves halloc cmd hhandler
  refine ⟨⟨len, op, hlayout, fun w => ?_⟩, fun cmd' hsame => ?_⟩
  · rw [hhandle, hserve]
    exact serve_decodes env halloc hdecode hrelease
      (fun a => performs_btInterfaceCall env (hop a)) (fun _ => rfl) w
  · have hhandle' : Handler.btCore.handle env cmd' = handler cmd' :=
      Handler.handle_eq (by rw [hsame.opcode]; exact hhandler)
    rw [hhandle, hhandle', btCoreTable_congr hsame hhandler]

end layouts

/-- A `pin_reply` command, with two bytes of an earlier command behind its payload. -/
def pinReplyCmd : Pdu := ⟨serviceBtCore, 0x10, 24, (List.range 26).map UInt8.ofNat, by decide⟩

theorem btCore_decodes_pinReply :
    (∃ len op, @btCoreLayout lp64 .obliging 0x10 pinReplyCmd.payload = some (len, op) ∧ ∀ w,
      (len ≤ pinReplyCmd.payload.length →
        callsOf ((@Handler.handle lp64 .obliging .btCore pinReplyCmd).run w).2.log
          = callsOf w.log ++ [op]) ∧
      (pinReplyCmd.payload.length < len → ∃ w',
        (@Handler.handle lp64 .obliging .btCore pinReplyCmd).run w = (.ok Status.parmInvalid, w') ∧
          callsOf w'.log = callsOf w.log)) ∧
    ∀ cmd', SamePdu pinReplyCmd cmd' → @Handler.handle lp64 .obliging .btCore cmd'
      = @Handler.handle lp64 .obliging .btCore pinReplyCmd :=
  @btCore_decodes lp64 .obliging (fun _ => rfl) pinReplyCmd rfl

end Bluetoothd
