import Bluetoothd.Service.Layout

/-!
# The outcome of the opcode handlers

`Handler.request` is the operation that a command asks a service for, if its payload decodes, and
`Op.Succeeds` says in which states an operation succeeds. `handle_success_iff` derives from the two
which commands a handler answers with a success.
-/

namespace Bluetoothd

open Platform Buffer

variable {H α β γ : Type} (env : Env)

/-! ## Operations -/

/-- The operation succeeds in a world: a module can be registered if the slot is taken and the
module's own set-up succeeds, and a call of the HAL needs its interface. -/
def Op.Succeeds (w : World Handler) : Op → Prop
  | .registerModule service _ => (w.serviceHandler service).isSome ∧
    (service = serviceBtCore ∧ w.btDevice = none ∧ w.btInterface = none ∧ env.hwGetModule = 0 ∧
        env.openDevice.isSome ∧ env.getBluetoothInterface.isSome ∨
      service = serviceBtSock ∧ w.btsockInterface = none ∧ w.btInterface.isSome)
  | .unregisterModule service => IsModule service
  | .listen type serviceName uuid channel flags => w.btsockInterface.isSome ∧
    env.hal (.listen type serviceName uuid channel flags) = Status.success
  | .connect bdAddr type uuid channel flags => w.btsockInterface.isSome ∧
    env.hal (.connect bdAddr type uuid channel flags) = Status.success
  | op => w.btInterface.isSome ∧ env.hal op = Status.success

def Handler.pointer : Handler → World Handler → Option SendPdu
  | .core => World.coreIoSendPdu
  | .btCore => World.btCoreIoSendPdu
  | .btSock => World.btSockIoSendPdu

theorem Handler.pointer_congr (handler : Handler) {w w' : World Handler} (h : SameGlobals w w') :
    handler.pointer w' = handler.pointer w := by
  obtain ⟨log, m, rfl⟩ := h
  cases handler <;> rfl

theorem Op.succeeds_congr (op : Op) {w w' : World Handler} (h : SameGlobals w w') :
    op.Succeeds env w' ↔ op.Succeeds env w := by
  obtain ⟨log, m, rfl⟩ := h
  cases op <;> rfl

/-- `x` returns a success if and only if the operation succeeds, and keeps the pointer that its
handler replies through. -/
def Decides (handler : Handler) (x : Act Handler Status) (op : Op) : Prop :=
  ∀ w, ((x.run w).1 = .ok Status.success ↔ op.Succeeds env w) ∧
    handler.pointer (x.run w).2 = handler.pointer w

variable {env}

theorem decides_interface {handler : Handler} {op : Op} {interface : World Handler → Option Nat}
    (hop : ∀ w, op.Succeeds env w ↔ (interface w).isSome ∧ env.hal op = Status.success)
    (hinterface : ∀ w e, interface (World.push w e) = interface w) :
    Decides env handler (do
      emit (.call op)
      let w ← Prog.get
      emit (.asserted (interface w))
      if (interface w).isNone then Prog.fault .nullPointer
      else
        emit (.result op (env.hal op))
        return env.hal op) op := by
  intro w
  rw [run_emit_bind, Prog.run_get_bind, run_emit_bind, hinterface, hop]
  rcases interface w with _ | address
  · exact ⟨iff_of_false nofun nofun, handler.pointer_congr ⟨_, _, rfl⟩⟩
  · refine ⟨⟨fun h => ⟨rfl, Except.ok.inj h⟩, fun h => congrArg Except.ok h.2⟩, ?_⟩
    exact handler.pointer_congr ⟨_, _, rfl⟩

theorem decides_btInterfaceCall {handler : Handler} {op : Op}
    (hop : ∀ w, op.Succeeds env w ↔ w.btInterface.isSome ∧ env.hal op = Status.success) :
    Decides env handler (btInterfaceCall env op) op :=
  decides_interface hop fun _ _ => rfl

theorem decides_btsockInterfaceCall {handler : Handler} {op : Op}
    (hop : ∀ w, op.Succeeds env w ↔ w.btsockInterface.isSome ∧ env.hal op = Status.success) :
    Decides env handler (btsockInterfaceCall env op) op :=
  decides_interface hop fun _ _ => rfl

def ReturnsOk (x : Act H Int) (w : World H) : Prop := ∃ res w', x.run w = (.ok res, w') ∧ ¬ res < 0

theorem not_returnsOk_of_run {x : Act H Int} {w w' : World H} (hrun : x.run w = (.ok (-1), w')) :
    ¬ ReturnsOk x w := by
  intro h
  obtain ⟨res, w'', hret, hneg⟩ := h
  rw [hrun] at hret
  cases hret
  omega

theorem not_returnsOk_neg (w : World H) : ¬ ReturnsOk (pure (-1) : Act H Int) w :=
  not_returnsOk_of_run rfl

/-- `init_bt_core` succeeds if neither the device nor the interface is there and both can be had. -/
theorem returnsOk_initBtCore (env : Env) (w : World H) : ReturnsOk (initBtCore env) w ↔
    w.btDevice = none ∧ w.btInterface = none ∧ env.hwGetModule = 0 ∧ env.openDevice.isSome ∧
      env.getBluetoothInterface.isSome := by
  rcases run_initBtCore_cases env w with ⟨hnot, hrun⟩ | ⟨device, -, -, hget, hrun⟩ |
    ⟨device, interface, hdevice, hinterface, hmodule, hopen, hget, hrun⟩
  · refine iff_of_false (not_returnsOk_of_run hrun) ?_
    rintro ⟨hdevice, hinterface, hmodule, hopen, -⟩
    exact hnot ⟨hdevice, hinterface, hmodule, hopen⟩
  · refine iff_of_false (not_returnsOk_of_run hrun) ?_
    simp [hget]
  · refine iff_of_true ⟨0, _, hrun, by decide⟩ ⟨hdevice, hinterface, hmodule, ?_, ?_⟩
    · simp [hopen]
    · simp [hget]

theorem run_btCoreGetProfileInterface (env : Env) (w : World H) :
    (btCoreGetProfileInterface env).run w
      = (if w.btInterface.isNone then .error .nullPointer else .ok env.getProfileInterface,
        w.push (.asserted w.btInterface)) := by
  unfold btCoreGetProfileInterface
  rw [Prog.run_get_bind, run_emit_bind]
  split <;> rfl

/-- `init_bt_sock` also needs the Bluetooth interface, through which it goes without a test. -/
theorem returnsOk_initBtSock (env : Env) (w : World H) : ReturnsOk (initBtSock env) w ↔
    w.btsockInterface = none ∧ w.btInterface.isSome := by
  unfold initBtSock ReturnsOk
  rw [Prog.run_get_bind]
  rcases hsock : w.btsockInterface with _ | interface
  case some => exact iff_of_false (not_returnsOk_neg w) nofun
  have hget := run_btCoreGetProfileInterface env w
  rcases hinterface : w.btInterface with _ | interface <;> rw [hinterface] at hget
  · refine iff_of_false ?_ nofun
    intro h
    obtain ⟨res, w', hrun, -⟩ := h
    cases (Prog.run_bind_error hget).symm.trans hrun
  · exact iff_of_true ⟨0, _, Prog.run_bind_ok hget, by decide⟩ ⟨rfl, rfl⟩

theorem run_register_iff (init : Act H Int) (g : World H → World H) (handler : H) (w : World H) :
    (∃ handler' w', (do
      let res ← init
      if res < 0 then
        return none
      Prog.modify g
      return some handler : Act H (Option H)).run w = (.ok (some handler'), w')) ↔
      ReturnsOk init w := by
  unfold ReturnsOk
  rcases hinit : init.run w with ⟨fault | res, w₁⟩
  · rw [Prog.run_bind_error hinit]
    exact iff_of_false nofun nofun
  · rw [Prog.run_bind_ok hinit]
    by_cases hneg : res < 0
    · rw [if_pos hneg]
      apply iff_of_false nofun
      intro h
      obtain ⟨res', w', hret, hpos⟩ := h
      cases hret
      exact hpos hneg
    · rw [if_neg hneg]
      exact iff_of_true ⟨handler, _, rfl⟩ ⟨res, w₁, rfl, hneg⟩

theorem run_registerBtCore_iff (mode : UInt8) (sendPduCb : Option SendPdu) (w : World Handler) :
    (∃ handler w', (registerBtCore env mode sendPduCb).run w = (.ok (some handler), w')) ↔
      w.btDevice = none ∧ w.btInterface = none ∧ env.hwGetModule = 0 ∧ env.openDevice.isSome ∧
        env.getBluetoothInterface.isSome := by
  rw [← returnsOk_initBtCore]
  exact run_register_iff _ _ _ w

theorem run_registerBtSock_iff (mode : UInt8) (sendPduCb : Option SendPdu) (w : World Handler) :
    (∃ handler w', (registerBtSock env mode sendPduCb).run w = (.ok (some handler), w')) ↔
      w.btsockInterface = none ∧ w.btInterface.isSome := by
  rw [← returnsOk_initBtSock env]
  exact run_register_iff _ _ _ w

theorem returnsOk_install (x : Act H (Option H)) (service : UInt8) (w : World H) :
    ReturnsOk (do
      let handler ← x
      match handler with
      | none => return -1
      | some handler =>
        Prog.modify fun w => w.setHandler service (some handler)
        return 0) w ↔
      ∃ handler w', x.run w = (.ok (some handler), w') := by
  unfold ReturnsOk
  rcases hrun : x.run w with ⟨fault | _ | handler, w₁⟩
  · rw [Prog.run_bind_error hrun]
    exact iff_of_false nofun nofun
  · rw [Prog.run_bind_ok hrun]
    exact iff_of_false (not_returnsOk_neg w₁) nofun
  · rw [Prog.run_bind_ok hrun]
    exact iff_of_true ⟨0, _, rfl, by decide⟩ ⟨handler, w₁, rfl⟩

theorem returnsOk_coreRegisterModule (service mode : UInt8) (w : World Handler) :
    ReturnsOk (coreRegisterModule (serviceFuncs env) service mode) w ↔
      (Op.registerModule service mode).Succeeds env w := by
  have hsucceeds : (Op.registerModule service mode).Succeeds env w ↔
      (w.serviceHandler service).isSome ∧ _ := Iff.rfl
  unfold coreRegisterModule registerService ReturnsOk
  rw [Prog.run_get_bind, hsucceeds]
  rcases hslot : w.serviceHandler service with _ | handler
  · exact iff_of_false (not_returnsOk_neg w) fun h => Bool.noConfusion h.1
  rw [if_neg (by simp)]
  by_cases hcore : service = serviceBtCore
  · have hsock : service ≠ serviceBtSock := by rw [hcore]; decide
    rw [if_pos hcore]
    refine (returnsOk_install _ service w).trans ((run_registerBtCore_iff mode _ w).trans ?_)
    exact ⟨fun h => ⟨rfl, .inl ⟨hcore, h⟩⟩, fun h => h.2.elim (·.2) fun h => absurd h.1 hsock⟩
  · rw [if_neg hcore]
    by_cases hsock : service = serviceBtSock
    · rw [if_pos hsock]
      refine (returnsOk_install _ service w).trans ((run_registerBtSock_iff mode _ w).trans ?_)
      exact ⟨fun h => ⟨rfl, .inr ⟨hsock, h⟩⟩, fun h => h.2.elim (fun h => absurd h.1 hcore) (·.2)⟩
    · rw [if_neg hsock]
      apply iff_of_false (not_returnsOk_neg w)
      simp [hcore, hsock]

/-- `core_unregister_module` succeeds for every module, as both unregister functions do. -/
theorem returnsOk_coreUnregisterModule (service : UInt8) (w : World Handler) :
    ReturnsOk (coreUnregisterModule (serviceFuncs env) service) w ↔
      (Op.unregisterModule service).Succeeds env w := by
  show _ ↔ IsModule service
  unfold coreUnregisterModule unregisterService
  by_cases hmodule : IsModule service
  · refine iff_of_true ?_ hmodule
    rw [if_neg hmodule.ne_core]
    rcases hmodule with rfl | rfl
    · exact ⟨0, _, rfl, by decide⟩
    · exact ⟨0, _, rfl, by decide⟩
  · refine iff_of_false ?_ hmodule
    rw [IsModule, not_or] at hmodule
    rw [if_neg hmodule.1, if_neg hmodule.2]
    split <;> exact not_returnsOk_neg w

theorem decides_moduleCall {op : Op} {act : Act Handler Int} (hact : Silent act)
    (hop : ∀ w, ReturnsOk act w ↔ op.Succeeds env w) :
    Decides env .core (do
      let res ← moduleCall op act
      return if res < 0 then Status.fail else Status.success) op := by
  intro w
  obtain ⟨-, hpointer, -⟩ := hact (w.push (.call op))
  have hsame : SameGlobals w (w.push (.call op)) := ⟨_, _, rfl⟩
  rw [← op.succeeds_congr env hsame, ← hop, ReturnsOk]
  rcases hrun : act.run (w.push (.call op)) with ⟨fault | res, w₁⟩ <;> rw [hrun] at hpointer
  · rw [Prog.run_bind_error (run_moduleCall_error hrun)]
    exact ⟨iff_of_false nofun nofun, hpointer⟩
  · rw [Prog.run_bind_ok (run_moduleCall_ok hrun)]
    refine ⟨?_, hpointer⟩
    by_cases hneg : res < 0
    · rw [if_pos hneg]
      apply iff_of_false nofun
      intro h
      obtain ⟨res', w', hret, hres⟩ := h
      cases hret
      exact hres hneg
    · rw [if_neg hneg]
      exact iff_of_true rfl ⟨res, w₁, rfl, hneg⟩

/-! ## Decoders -/

/-- The decoder yields a value for what is asked, without effect, and none if nothing is asked. -/
def Yields (x : Act H (Option α)) (f : α → β) (r : Option β) : Prop :=
  ∀ w, (∀ b, r = some b → ∃ a w', x.run w = (.ok (some a), w') ∧ Quiet w w' ∧ f a = b) ∧
    (r = none → ∀ a w', x.run w ≠ (.ok (some a), w'))

theorem Yields.of_decodesAs {x : Act H (Option α)} {f : α → β} {n len : Nat} {b : β}
    (h : DecodesAs x n len fun a => f a = b) : Yields x f (if len ≤ n then some b else none) := by
  intro w
  obtain ⟨haccept, hrefuse⟩ := h w
  by_cases hle : len ≤ n
  · rw [if_pos hle]
    refine ⟨fun b' hb => ?_, nofun⟩
    obtain rfl := Option.some_inj.mp hb
    exact haccept hle
  · rw [if_neg hle]
    refine ⟨nofun, fun _ a w' hrun => ?_⟩
    obtain ⟨w'', hrun', -⟩ := hrefuse (Nat.lt_of_not_le hle)
    cases hrun.symm.trans hrun'

theorem Yields.value (a : α) (f : α → β) :
    Yields (pure (some a) : Act H (Option α)) f (some (f a)) := fun w =>
  ⟨fun _ hb => ⟨a, w, rfl, Quiet.refl w, Option.some_inj.mp hb⟩, nofun⟩

theorem Yields.refuse {x : Act H (Option α)} (h : Refuses x) (f : α → β) : Yields x f none := by
  intro w
  obtain ⟨w', hrun, -⟩ := h w
  refine ⟨nofun, fun _ a w'' hrun' => ?_⟩
  cases hrun.symm.trans hrun'

theorem Yields.bind {x : Act H (Option α)} {k : Option α → Act H (Option β)} {r : Option α}
    {g : β → γ} {s : α → Option γ} (hx : Yields x id r) (hnone : Refuses (k none))
    (hk : ∀ a, Yields (k (some a)) g (s a)) : Yields (x >>= k) g (r >>= s) := by
  intro w
  obtain ⟨hsome, hrefuse⟩ := hx w
  rcases r with _ | a
  · refine ⟨nofun, fun _ b w' hrun => ?_⟩
    rcases hrunx : x.run w with ⟨fault | _ | a, w₁⟩
    · rw [Prog.run_bind_error hrunx] at hrun
      cases hrun
    · obtain ⟨w₂, hrunk, -⟩ := hnone w₁
      rw [Prog.run_bind_ok hrunx, hrunk] at hrun
      cases hrun
    · exact hrefuse rfl a w₁ hrunx
  · obtain ⟨a', w₁, hrun, hquiet, rfl⟩ := hsome a rfl
    obtain ⟨hsome', hrefuse'⟩ := hk a' w₁
    rw [Prog.run_bind_ok hrun]
    refine ⟨fun c hc => ?_, hrefuse'⟩
    obtain ⟨b, w₂, hrun', hquiet', hb⟩ := hsome' c hc
    exact ⟨b, w₂, hrun', hquiet.trans hquiet', hb⟩

/-! ## The common sequence -/

theorem run_conclude_iff {handler : Handler} {cmd : Pdu} {release : Act Handler Unit}
    {blocks : List Nat} {build : WBuf → Message} {wbuf : WBuf} {status : Status}
    (hrelease : Releases release blocks) (w : World Handler) :
    ((conclude cmd release handler.pointer build wbuf status).run w).1 = .ok Status.success ↔
      status = Status.success ∧ (handler.pointer w).isSome := by
  unfold conclude
  by_cases hstatus : status = Status.success
  · rw [if_neg (not_not_intro hstatus), Prog.run_bind_ok (hrelease w)]
    have hcongr : handler.pointer { w with log := w.log ++ blocks.map .free } = handler.pointer w :=
      handler.pointer_congr ⟨_, _, rfl⟩
    rcases hpointer : handler.pointer w with _ | cb <;> rw [hpointer] at hcongr
    · rw [Prog.run_bind_error (run_sendPdu_none hcongr _)]
      exact iff_of_false nofun nofun
    · rw [Prog.run_bind_ok (run_sendPdu_some hcongr _)]
      exact iff_of_true rfl ⟨hstatus, rfl⟩
  · have hcleanup : (cleanupPduWbuf wbuf).run w = (.ok (), w.push (.free wbuf.block)) := rfl
    rw [if_pos hstatus, Prog.run_bind_ok hcleanup, Prog.run_bind_ok (hrelease _), Prog.run_pure]
    exact iff_of_false (fun h => hstatus (Except.ok.inj h)) fun h => hstatus h.1

section handlers

variable [Platform]

/-- A handler returns a success if its payload asks for an operation, that succeeds, and its file
can reply. -/
theorem run_serve_iff {h : Handler} {cmd : Pdu} {short noMem : Status}
    {decode : Act Handler (Option α)} {release : α → Act Handler Unit} {held : α → List Nat}
    {op : α → Act Handler Status} {ops : α → Op} {build : WBuf → Message} {request : Option Op}
    (halloc : ∀ n, (env.obtained n).isSome) (hshort : short ≠ Status.success)
    (hdecode : Yields decode ops request) (hrelease : ∀ a, Releases (release a) (held a))
    (hop : ∀ a, request = some (ops a) → Decides env h (op a) (ops a)) (w : World Handler) :
    ((serve env cmd short noMem decode release op h.pointer build).run w).1
        = .ok Status.success ↔
      ∃ op, request = some op ∧ op.Succeeds env w ∧ (h.pointer w).isSome := by
  obtain ⟨hsome, hnone⟩ := hdecode w
  unfold serve
  rcases request with _ | o
  · refine iff_of_false ?_ nofun
    rcases hrun : decode.run w with ⟨fault | _ | args, w₁⟩
    · rw [Prog.run_bind_error hrun]
      exact nofun
    · rw [Prog.run_bind_ok hrun]
      exact fun h => hshort (Except.ok.inj h)
    · exact absurd hrun (hnone rfl args w₁)
  · obtain ⟨args, w₁, hrun, hquiet, rfl⟩ := hsome o rfl
    obtain ⟨mem, hmem⟩ := Option.isSome_iff_exists.mp (halloc w₁.mallocs)
    rw [Prog.run_bind_ok hrun]
    dsimp only
    rw [Prog.run_bind_ok (run_newPduWbuf_some hmem)]
    dsimp only
    generalize hw₂ : World.push { w₁ with mallocs := w₁.mallocs + 1 } (.malloc .wbuf w₁.mallocs) = w₂
    have hsame : SameGlobals w w₂ := hquiet.sameGlobals.trans ⟨_, _, hw₂.symm⟩
    obtain ⟨hdecides, hpointer⟩ := hop args rfl w₂
    rw [(ops args).succeeds_congr env hsame] at hdecides
    rw [h.pointer_congr hsame] at hpointer
    have hexists : (∃ op, some (ops args) = some op ∧ op.Succeeds env w ∧
        (h.pointer w).isSome) ↔ (ops args).Succeeds env w ∧ (h.pointer w).isSome := by
      simp
    rw [hexists, ← hdecides]
    rcases hoprun : (op args).run w₂ with ⟨fault | status, w₃⟩ <;> rw [hoprun] at hpointer
    · rw [Prog.run_bind_error hoprun]
      exact iff_of_false nofun nofun
    · rw [Prog.run_bind_ok hoprun, run_conclude_iff (hrelease args), hpointer]
      exact and_congr_left' ⟨congrArg Except.ok, Except.ok.inj⟩

/-! ## Requests -/

variable (env)

def fieldsRead (cmd : Pdu) (off : Nat) (fmt : String) (args : List Dst) :
    Option (Nat × List Val) := do
  let (res, vals) ← readPduAt cmd off fmt args
  if res < 0 then none else some (res.toNat, vals)

def bdaddrRead (cmd : Pdu) (off : Nat) : Option (Nat × List UInt8) := do
  let (off, [.m address]) ← fieldsRead cmd off "m" [.m 6 6] | none
  some (off, address)

/-- The operation that a CORE command asks for, if its payload decodes. -/
def coreRequest (cmd : Pdu) : Option Op :=
  let p := cmd.payload
  match cmd.opcode with
  | 0x01 => if 2 ≤ p.length then some (.registerModule (u8At p 0) (u8At p 1)) else none
  | 0x02 => if 1 ≤ p.length then some (.unregisterModule (u8At p 0)) else none
  | _ => none

def btCoreRequest (cmd : Pdu) : Option Op := do
  let (len, op) ← btCoreLayout env cmd.opcode cmd.payload
  if len ≤ cmd.payload.length then some op else none

/-- The number of bytes read for the UUID is an address, so there is no layout to refer to. -/
def btSockRequest (cmd : Pdu) : Option Op :=
  match cmd.opcode with
  | 0x01 => do
    let (_, [.C type, .m serviceName, .m uuid, .S channel, .C flags]) ←
      fieldsRead cmd 0 "CmmSC" [.C, .m 256 256, .m 16 env.uuidAddr, .S, .C] | none
    some (.listen type serviceName (fillLocal env 16 uuid) channel flags)
  | 0x02 => do
    let (off, bdAddr) ← bdaddrRead cmd 0
    let (_, [.C type, .m uuid, .S channel, .C flags]) ←
      fieldsRead cmd off "CmSC" [.C, .m 16 env.uuidAddr, .S, .C] | none
    some (.connect bdAddr type (fillLocal env 16 uuid) channel flags)
  | _ => none

def Handler.request : Handler → Pdu → Option Op
  | .core => coreRequest
  | .btCore => btCoreRequest env
  | .btSock => btSockRequest env

variable {env}

theorem fieldsRead_none {cmd : Pdu} {off : Nat} {fmt : String} {args : List Dst}
    (h : readPduAt cmd off fmt args = none) : fieldsRead cmd off fmt args = none := by
  unfold fieldsRead
  rw [h]
  rfl

theorem fieldsRead_some {cmd : Pdu} {off : Nat} {fmt : String} {args : List Dst} {res : Int}
    {vals : List Val} (h : readPduAt cmd off fmt args = some (res, vals)) :
    fieldsRead cmd off fmt args = if res < 0 then none else some (res.toNat, vals) := by
  unfold fieldsRead
  rw [h]
  rfl

theorem yields_readFields (cmd : Pdu) (off : Nat) (fmt : String) (args : List Dst) :
    Yields (readFields cmd off fmt args : Act H _) id (fieldsRead cmd off fmt args) := by
  intro w
  rcases hread : readPduAt cmd off fmt args with _ | ⟨res, vals⟩
  · rw [run_readFields_none hread, fieldsRead_none hread]
    refine ⟨nofun, fun _ a w' hrun => ?_⟩
    cases hrun
  · rw [run_readFields_some hread, fieldsRead_some hread]
    by_cases hneg : res < 0
    · rw [if_pos hneg]
      refine ⟨nofun, fun _ a w' hrun => ?_⟩
      cases hrun
    · rw [if_neg hneg]
      refine ⟨fun b hb => ?_, nofun⟩
      exact ⟨_, _, rfl, (Quiet.refl w).push rfl rfl, Option.some_inj.mp hb⟩

theorem yields_readBtBdaddr (cmd : Pdu) (off : Nat) :
    Yields (readBtBdaddr cmd off : Act H _) id (bdaddrRead cmd off) := by
  refine (yields_readFields cmd off "m" _).bind Refuses.pure fun a => ?_
  split
  next heq =>
    cases heq
    exact Yields.value _ _
  next hother =>
    split
    next => exact absurd rfl (hother _ _)
    next => exact Yields.refuse Refuses.pure _

/-! ## The handlers -/

theorem btCoreLayout_succeeds {opcode : UInt8} {p : List UInt8} {len : Nat} {op : Op}
    (h : btCoreLayout env opcode p = some (len, op)) (w : World Handler) :
    op.Succeeds env w ↔ w.btInterface.isSome ∧ env.hal op = Status.success := by
  unfold btCoreLayout at h
  split at h <;> cases h <;> exact Iff.rfl

def Serves (env : Env) (handler : Handler) (cmd : Pdu) (w : World Handler) : Prop :=
  ∃ op, handler.request env cmd = some op ∧ op.Succeeds env w ∧ (handler.pointer w).isSome

theorem core_serves_iff (halloc : ∀ n, (env.obtained n).isSome) {cmd : Pdu}
    {handle : Pdu → Act Handler Status} (h : coreTable env cmd.opcode = some handle)
    (w : World Handler) :
    ((handle cmd).run w).1 = .ok Status.success ↔ Serves env .core cmd w := by
  have hserve : ∀ {α : Type} {decode : Act Handler (Option α)} {op : α → Act Handler Int}
      (ops : α → Op), Yields decode ops (coreRequest cmd) →
      (∀ a, Decides env .core (do
        let res ← op a
        return if res < 0 then Status.fail else Status.success) (ops a)) →
      (((coreServe env cmd decode op).run w).1 = .ok Status.success ↔ Serves env .core cmd w) :=
    fun _ hdecode hop => run_serve_iff (h := .core) halloc (by decide) hdecode
      (fun _ => releases_nothing) (fun a _ => hop a) w
  unfold coreTable at h
  unfold coreRequest at hserve
  split at h <;> cases h
  next hopcode =>
    rw [hopcode] at hserve
    refine hserve (fun a => .registerModule a.1 a.2) (Yields.of_decodesAs ?_) fun a =>
      decides_moduleCall (silent_coreRegisterModule env a.1 a.2) fun w =>
        returnsOk_coreRegisterModule a.1 a.2 w
    have hread : DecodesAs (readFields cmd 0 "CC" [.C, .C] : Act Handler _) cmd.payload.length 2 _ :=
      decodesAs_readFields rfl (by simp [Dst.HasRoom]) (Nat.zero_le _) (by decide)
    refine hread.bind Refuses.pure le_rfl ?_
    rintro _ rfl hle
    exact DecodesAs.value hle rfl
  next hopcode =>
    rw [hopcode] at hserve
    refine hserve .unregisterModule (Yields.of_decodesAs ?_) fun service =>
      decides_moduleCall (silent_coreUnregisterModule env service) fun w =>
        returnsOk_coreUnregisterModule service w
    exact decodesAs_byteArg.mono fun _ h => by rw [h]

theorem btCore_serves_iff (halloc : ∀ n, (env.obtained n).isSome) {cmd : Pdu}
    {handle : Pdu → Act Handler Status} (h : btCoreTable env cmd.opcode = some handle)
    (w : World Handler) :
    ((handle cmd).run w).1 = .ok Status.success ↔ Serves env .btCore cmd w := by
  obtain ⟨⟨len, op⟩, hlayout, α, decode, release, held, ops, hserve, hdecode, hrelease, -⟩ :=
    btCoreTable_serves halloc cmd h
  have hrequest : btCoreRequest env cmd = if len ≤ cmd.payload.length then some op else none := by
    unfold btCoreRequest
    rw [hlayout]
    rfl
  have hyields : Yields decode ops (Handler.btCore.request env cmd) := by
    show Yields decode ops (btCoreRequest env cmd)
    rw [hrequest]
    exact Yields.of_decodesAs hdecode
  rw [hserve]
  refine run_serve_iff (h := .btCore) halloc (by decide) hyields hrelease (fun a ha => ?_) w
  -- the operation asked for is the one of the layout
  have hop : ops a = op := by
    have hsome : btCoreRequest env cmd = some (ops a) := ha
    rw [hrequest] at hsome
    split at hsome
    · exact (Option.some_inj.mp hsome).symm
    · cases hsome
  rw [hop]
  exact decides_btInterfaceCall (btCoreLayout_succeeds hlayout)

theorem btSock_serves_iff (halloc : ∀ n, (env.obtained n).isSome) {cmd : Pdu}
    {handle : Pdu → Act Handler Status} (h : btSockTable env cmd.opcode = some handle)
    (w : World Handler) :
    ((handle cmd).run w).1 = .ok Status.success ↔ Serves env .btSock cmd w := by
  have hserve : ∀ {α : Type} {decode : Act Handler (Option α)} {op : α → Act Handler Status}
      (ops : α → Op), Yields decode ops (btSockRequest env cmd) →
      (∀ a, Decides env .btSock (op a) (ops a)) →
      (((btSockServe env cmd decode op).run w).1 = .ok Status.success ↔ Serves env .btSock cmd w) :=
    fun _ hdecode hop => run_serve_iff (h := .btSock) halloc (by decide) hdecode
      (fun _ => releases_nothing) (fun a _ => hop a) w
  unfold btSockTable at h
  unfold btSockRequest at hserve
  split at h <;> cases h
  next hopcode =>
    rw [hopcode] at hserve
    refine hserve (fun a => .listen a.1 a.2.1 a.2.2.1 a.2.2.2.1 a.2.2.2.2) ?_ fun a =>
      decides_btsockInterfaceCall fun _ => Iff.rfl
    refine (yields_readFields cmd 0 "CmmSC" _).bind Refuses.pure fun a => ?_
    split
    next heq =>
      cases heq
      exact Yields.value _ _
    next hother =>
      split
      next => exact absurd rfl (hother _ _ _ _ _ _)
      next => exact Yields.refuse Refuses.pure _
  next hopcode =>
    rw [hopcode] at hserve
    refine hserve (fun a => .connect a.1 a.2.1 a.2.2.1 a.2.2.2.1 a.2.2.2.2) ?_ fun a =>
      decides_btsockInterfaceCall fun _ => Iff.rfl
    refine (yields_readBtBdaddr cmd 0).bind Refuses.pure fun a => ?_
    refine (yields_readFields cmd a.1 "CmSC" _).bind Refuses.pure fun b => ?_
    split
    next heq =>
      cases heq
      exact Yields.value _ _
    next hother =>
      split
      next => exact absurd rfl (hother _ _ _ _ _)
      next => exact Yields.refuse Refuses.pure _

theorem Handler.table_isSome {handler : Handler} {cmd : Pdu} {op : Op}
    (h : handler.request env cmd = some op) : (handler.table env cmd.opcode).isSome := by
  cases handler with
  | core =>
    change coreRequest cmd = some op at h
    show (coreTable env cmd.opcode).isSome
    unfold coreRequest at h
    split at h
    next hopcode =>
      rw [hopcode]
      rfl
    next hopcode =>
      rw [hopcode]
      rfl
    next => cases h
  | btCore =>
    change btCoreRequest env cmd = some op at h
    unfold btCoreRequest at h
    rw [Option.bind_eq_bind, Option.bind_eq_some_iff] at h
    obtain ⟨layout, hlayout, -⟩ := h
    exact (btCoreLayout_isSome cmd.opcode cmd.payload).mp (Option.isSome_iff_exists.mpr ⟨_, hlayout⟩)
  | btSock =>
    change btSockRequest env cmd = some op at h
    show (btSockTable env cmd.opcode).isSome
    unfold btSockRequest at h
    split at h
    next hopcode =>
      rw [hopcode]
      rfl
    next hopcode =>
      rw [hopcode]
      rfl
    next => cases h

theorem handle_success_iff (halloc : ∀ n, (env.obtained n).isSome) (handler : Handler) (cmd : Pdu)
    (w : World Handler) :
    ((handler.handle env cmd).run w).1 = .ok Status.success ↔ Serves env handler cmd w := by
  rcases h : handler.table env cmd.opcode with _ | handle
  · rw [Handler.handle_unsupported h]
    apply iff_of_false (fun hrun => absurd (Except.ok.inj hrun) (by decide))
    intro hx
    obtain ⟨op, hrequest, -⟩ := hx
    have hsome := Handler.table_isSome hrequest
    rw [h] at hsome
    cases hsome
  · rw [Handler.handle_eq h]
    cases handler with
    | core => exact core_serves_iff halloc h w
    | btCore => exact btCore_serves_iff halloc h w
    | btSock => exact btSock_serves_iff halloc h w

end handlers

end Bluetoothd
