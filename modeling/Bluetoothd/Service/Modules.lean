import Bluetoothd.Service.Registry

/-!
# The modules behind the services (`bt-core.c`, `bt-sock.c`)

The wrappers of `bt-core.c` call the function of the same name in the Bluetooth interface of the
HAL, those of `bt-sock.c` the one in the socket interface. The assertions in front of the calls
name variables that do not exist, so they are compiled out: a wrapper called without its interface
goes through a null pointer. The log says which of them are come to, with which pointer.
-/

namespace Bluetoothd

variable {H : Type} (env : Env)

/-! ## bt-core.c -/

def initBtCore : Act H Int := do
  let w ← Prog.get
  if w.btDevice.isSome then
    return -1 -- Bluetooth device already open
  if w.btInterface.isSome then
    return -1 -- Bluetooth interface already set up
  if env.hwGetModule ≠ 0 then
    return -1
  match env.openDevice with
  | none => return -1
  | some device =>
    emit (.opened device)
    Prog.modify fun w => { w with btDevice := some device, btInterface := env.getBluetoothInterface }
    if env.getBluetoothInterface.isNone then
      emit (.closed device)
      Prog.modify fun w => { w with btDevice := none }
      return -1
    return 0

/-- `uninit_bt_core`, which asserts that there is a device. The result `err` of its `close` is only
logged. -/
def uninitBtCore (_err : Int) : Act H Unit := do
  let w ← Prog.get
  emit (.asserted w.btDevice)
  match w.btDevice with
  | none => Prog.fault .nullPointer
  | some device =>
    Prog.modify fun w => { w with btInterface := none }
    emit (.closed device)
    Prog.modify fun w => { w with btDevice := none }

/-- A failing `init_bt_core` has done nothing, or has closed the device that it had opened. -/
theorem run_initBtCore_cases (w : World H) :
    (¬ (w.btDevice = none ∧ w.btInterface = none ∧ env.hwGetModule = 0 ∧ env.openDevice.isSome) ∧
      (initBtCore env).run w = (.ok (-1), w)) ∨
    (∃ device, w.btDevice = none ∧ w.btInterface = none ∧ env.getBluetoothInterface = none ∧
      (initBtCore env).run w = (.ok (-1), (w.push (.opened device)).push (.closed device))) ∨
    (∃ device interface, w.btDevice = none ∧ w.btInterface = none ∧ env.hwGetModule = 0 ∧
      env.openDevice = some device ∧ env.getBluetoothInterface = some interface ∧
      (initBtCore env).run w = (.ok 0, { w.push (.opened device) with
        btDevice := some device, btInterface := some interface })) := by
  unfold initBtCore
  rw [Prog.run_get_bind]
  rcases hdevice : w.btDevice with _ | device
  case some =>
    left
    exact ⟨nofun, rfl⟩
  rcases hinterface : w.btInterface with _ | interface
  case some =>
    left
    exact ⟨nofun, rfl⟩
  by_cases hmodule : env.hwGetModule = 0
  case neg =>
    left
    simp [hmodule]
  rcases hopen : env.openDevice with _ | device
  case none =>
    left
    simp [hmodule]
  rcases hget : env.getBluetoothInterface with _ | interface
  · right
    left
    refine ⟨device, rfl, rfl, rfl, ?_⟩
    simp [hmodule, World.push, hdevice, hinterface]
  · right
    right
    refine ⟨device, interface, rfl, rfl, hmodule, rfl, rfl, ?_⟩
    simp [hmodule, World.push]

theorem run_uninitBtCore {w : World H} {device : Nat} (h : w.btDevice = some device) (err : Int) :
    (uninitBtCore err).run w = (.ok (), { (w.push (.asserted (some device))).push (.closed device) with
      btDevice := none, btInterface := none }) := by
  unfold uninitBtCore
  rw [Prog.run_get_bind, run_emit_bind, h]
  rfl

def btInterfaceCall (op : Op) : Act H Status := do
  emit (.call op)
  let w ← Prog.get
  emit (.asserted w.btInterface)
  if w.btInterface.isNone then
    Prog.fault .nullPointer
  else
    emit (.result op (env.hal op))
    return env.hal op

def btCoreEnable : Act H Status := btInterfaceCall env .enable

def btCoreDisable : Act H Status := btInterfaceCall env .disable

def btCoreGetAdapterProperties : Act H Status := btInterfaceCall env .getAdapterProperties

def btCoreGetAdapterProperty (type : UInt8) : Act H Status :=
  btInterfaceCall env (.getAdapterProperty type)

def btCoreSetAdapterProperty (property : Property) : Act H Status :=
  btInterfaceCall env (.setAdapterProperty property)

def btCoreGetRemoteDeviceProperties (remoteAddr : List UInt8) : Act H Status :=
  btInterfaceCall env (.getRemoteDeviceProperties remoteAddr)

def btCoreGetRemoteDeviceProperty (remoteAddr : List UInt8) (type : UInt8) : Act H Status :=
  btInterfaceCall env (.getRemoteDeviceProperty remoteAddr type)

def btCoreSetRemoteDeviceProperty (remoteAddr : List UInt8) (property : Property) : Act H Status :=
  btInterfaceCall env (.setRemoteDeviceProperty remoteAddr property)

def btCoreGetRemoteServiceRecord (remoteAddr uuid : List UInt8) : Act H Status :=
  btInterfaceCall env (.getRemoteServiceRecord remoteAddr uuid)

def btCoreGetRemoteServices (remoteAddr : List UInt8) : Act H Status :=
  btInterfaceCall env (.getRemoteServices remoteAddr)

def btCoreStartDiscovery : Act H Status := btInterfaceCall env .startDiscovery

def btCoreCancelDiscovery : Act H Status := btInterfaceCall env .cancelDiscovery

def btCoreCreateBond (bdAddr : List UInt8) : Act H Status := btInterfaceCall env (.createBond bdAddr)

def btCoreRemoveBond (bdAddr : List UInt8) : Act H Status := btInterfaceCall env (.removeBond bdAddr)

def btCoreCancelBond (bdAddr : List UInt8) : Act H Status := btInterfaceCall env (.cancelBond bdAddr)

def btCorePinReply (bdAddr : List UInt8) (accept pinLen : UInt8) (pinCode : List UInt8) :
    Act H Status :=
  btInterfaceCall env (.pinReply bdAddr accept pinLen pinCode)

def btCoreSspReply (bdAddr : List UInt8) (variant accept : UInt8) (passkey : UInt32) :
    Act H Status :=
  btInterfaceCall env (.sspReply bdAddr variant accept passkey)

def btCoreDutModeConfigure (enable : UInt8) : Act H Status :=
  btInterfaceCall env (.dutModeConfigure enable)

def btCoreDutModeSend (opcode : UInt16) (buf : List UInt8) (len : UInt8) : Act H Status :=
  btInterfaceCall env (.dutModeSend opcode buf len)

def btCoreLeTestMode (opcode : UInt16) (buf : List UInt8) (len : UInt8) : Act H Status :=
  btInterfaceCall env (.leTestMode opcode buf len)

/-- `bt_core_get_profile_interface(BT_PROFILE_SOCKETS_ID)`. -/
def btCoreGetProfileInterface : Act H (Option Nat) := do
  let w ← Prog.get
  emit (.asserted w.btInterface)
  if w.btInterface.isNone then
    Prog.fault .nullPointer
  else
    return env.getProfileInterface

/-! ## bt-sock.c -/

def btsockInterfaceCall (op : Op) : Act H Status := do
  emit (.call op)
  let w ← Prog.get
  emit (.asserted w.btsockInterface)
  if w.btsockInterface.isNone then
    Prog.fault .nullPointer
  else
    emit (.result op (env.hal op))
    return env.hal op

def btSockListen (type : UInt8) (serviceName serviceUuid : List UInt8) (channel : UInt16)
    (flags : UInt8) : Act H Status :=
  btsockInterfaceCall env (.listen type serviceName serviceUuid channel flags)

def btSockConnect (bdAddr : List UInt8) (type : UInt8) (uuid : List UInt8) (channel : UInt16)
    (flags : UInt8) : Act H Status :=
  btsockInterfaceCall env (.connect bdAddr type uuid channel flags)

def initBtSock : Act H Int := do
  let w ← Prog.get
  if w.btsockInterface.isSome then
    return -1 -- Socket interface already set up
  let interface ← btCoreGetProfileInterface env
  Prog.modify fun w => { w with btsockInterface := interface }
  return 0

def uninitBtSock : Act H Unit := do
  let w ← Prog.get
  emit (.asserted w.btsockInterface)
  Prog.modify fun w => { w with btsockInterface := none }

/-! ## Registration -/

/-- The functions that `service_handler` can point to: `core_handler`, `bt_core_handler` and
`bt_sock_handler`. -/
inductive Handler where
  | core
  | btCore
  | btSock
  deriving DecidableEq, Repr

def World.registered : World Handler where
  serviceHandler service :=
    if service = serviceCore then some .core
    else if service = serviceBtCore then some .btCore
    else if service = serviceBtSock then some .btSock
    else none
  coreSendPdu := some .btIo
  coreIoSendPdu := some .btIo
  btCoreIoSendPdu := some .btIo
  btSockIoSendPdu := some .btIo
  btDevice := some 1
  btInterface := some 2
  btsockInterface := some 3
  mallocs := 0
  log := []

def registerBtCore (_mode : UInt8) (sendPduCb : Option SendPdu) : Act Handler (Option Handler) := do
  let res ← initBtCore env
  if res < 0 then
    return none
  Prog.modify fun w => { w with btCoreIoSendPdu := sendPduCb }
  return some .btCore

def unregisterBtCore : Act H Int := return 0

def registerBtSock (_mode : UInt8) (sendPduCb : Option SendPdu) : Act Handler (Option Handler) := do
  let res ← initBtSock env
  if res < 0 then
    return none
  Prog.modify fun w => { w with btSockIoSendPdu := sendPduCb }
  return some .btSock

def unregisterBtSock : Act H Int := do
  uninitBtSock
  return 0

/-- The tables of `service.c`. -/
def serviceFuncs : ServiceFuncs Handler where
  registerBtCore := registerBtCore env
  registerBtSock := registerBtSock env
  unregisterBtCore := unregisterBtCore
  unregisterBtSock := unregisterBtSock

/-- The module calls of core-io, with the events that delimit them. -/
def moduleCall (op : Op) (act : Act H Int) : Act H Int := do
  emit (.call op)
  let res ← act
  emit (.result op res)
  return res

variable {op : Op} {act : Act H Int} {w w' : World H}

theorem run_moduleCall_ok {res : Int} (h : act.run (w.push (.call op)) = (.ok res, w')) :
    (moduleCall op act).run w = (.ok res, w'.push (.result op res)) := by
  unfold moduleCall
  rw [run_emit_bind, Prog.run_bind_ok h, run_emit_bind, Prog.run_pure]

theorem run_moduleCall_error {fault : Fault} (h : act.run (w.push (.call op)) = (.error fault, w')) :
    (moduleCall op act).run w = (.error fault, w') := by
  unfold moduleCall
  rw [run_emit_bind, Prog.run_bind_error h]

end Bluetoothd
