import Bluetoothd.Service.Modules
import Bluetoothd.Proto.Append

/-!
# The opcode handlers (`core-io.c`, `bt-core-io.c`, `bt-sock-io.c`)

Every handler decodes its payload, allocates the reply, performs its operation and hands the reply
to `send_pdu`; its `goto` labels undo what has been done so far. `serve` is that sequence, and the
handlers are its instances. What follows is the dispatch: by opcode within a service, and by
service in `handle_pdu` of bt-io.
-/

namespace Bluetoothd

variable [Platform] {H : Type} (env : Env)

/-! ## Decoding -/

/-- A `read_pdu_at` with the test for a negative result behind it: the next offset and the values. -/
def readFields (cmd : Pdu) (off : Nat) (fmt : String) (args : List Dst) :
    Act H (Option (Nat × List Val)) :=
  match readPduAt cmd off fmt args with
  | none => Prog.fault .outOfBounds
  | some (res, vals) => do
    emit (.read fmt res)
    return if res < 0 then none else some (res.toNat, vals)

theorem run_readFields_none {cmd : Pdu} {off : Nat} {fmt : String} {args : List Dst}
    (h : readPduAt cmd off fmt args = none) (w : World H) :
    (readFields cmd off fmt args).run w = (.error .outOfBounds, w) := by
  unfold readFields
  rw [h]
  rfl

theorem run_readFields_some {cmd : Pdu} {off : Nat} {fmt : String} {args : List Dst} {res : Int}
    {vals : List Val} (h : readPduAt cmd off fmt args = some (res, vals)) (w : World H) :
    (readFields cmd off fmt args).run w
      = (.ok (if res < 0 then none else some (res.toNat, vals)), w.push (.read fmt res)) := by
  unfold readFields
  rw [h]
  rfl

/-- `read_bt_bdaddr_t`. -/
def readBtBdaddr (cmd : Pdu) (off : Nat) : Act H (Option (Nat × List UInt8)) := do
  let some (off, [.m address]) ← readFields cmd off "m" [.m 6 6] | return none
  return some (off, address)

/-- `read_bt_uuid_t`. -/
def readBtUuid (cmd : Pdu) (off : Nat) : Act H (Option (Nat × List UInt8)) := do
  let some (off, [.m uu]) ← readFields cmd off "m" [.m 16 16] | return none
  return some (off, uu)

/-- `read_bt_pin_code_t`. -/
def readBtPinCode (cmd : Pdu) (off : Nat) : Act H (Option (Nat × List UInt8)) := do
  let some (off, [.m pin]) ← readFields cmd off "m" [.m 16 16] | return none
  return some (off, pin)

/-- `read_bt_property_t`: the property, and the block that its `val` points to. -/
def readBtProperty (cmd : Pdu) (off : Nat) : Act H (Option (Nat × Property × Nat)) := do
  let some (off, [.C type, .S len]) ← readFields cmd off "CS" [.C, .S] | return none
  let some (val, _) ← malloc env .val | return none
  let some (off, [.m bytes]) ← readFields cmd off "m" [.m len.toNat len.toNat]
    | do
      free val
      return none
  return some (off, ⟨type, len, bytes⟩, val)

/-- A local array of `n` bytes whose first ones were read from a PDU. -/
def fillLocal (n : Nat) (bytes : List UInt8) : List UInt8 :=
  bytes ++ ((List.range n).map env.stack).drop bytes.length

/-! ## The common sequence -/

/-- The end of a handler whose operation returned `status`: everything is released, and a success
is answered through the `send_pdu` pointer of the file. -/
def conclude (cmd : Pdu) (release : Act Handler Unit) (pointer : World Handler → Option SendPdu)
    (build : WBuf → Message) (wbuf : WBuf) (status : Status) : Act Handler Status :=
  if status ≠ Status.success then do
    cleanupPduWbuf wbuf
    release
    return status
  else do
    release
    sendPdu pointer (build (wbuf.initPdu cmd.service cmd.opcode))
    return Status.success

/-- Decode the arguments, allocate the reply, perform the operation, conclude. `short` and `noMem`
are the statuses for a payload that does not decode and for a reply that cannot be allocated. -/
def serve {α : Type} (cmd : Pdu) (short noMem : Status) (decode : Act Handler (Option α))
    (release : α → Act Handler Unit) (op : α → Act Handler Status)
    (pointer : World Handler → Option SendPdu) (build : WBuf → Message) : Act Handler Status := do
  let some args ← decode | return short
  let some wbuf ← newPduWbuf env 0
    | do
      release args
      return noMem
  let status ← op args
  conclude cmd (release args) pointer build wbuf status

/-! ## core-io.c -/

def coreServe {α : Type} (cmd : Pdu) (decode : Act Handler (Option α)) (op : α → Act Handler Int) :
    Act Handler Status :=
  serve env cmd .fail .fail decode (fun _ => pure ())
    (fun args => do
      let res ← op args
      return if res < 0 then Status.fail else Status.success)
    World.coreIoSendPdu buildPduWbufMsg

def registerModule (cmd : Pdu) : Act Handler Status :=
  coreServe env cmd
    (do
      let some (_, [.C service, .C mode]) ← readFields cmd 0 "CC" [.C, .C] | return none
      return some (service, mode))
    fun (service, mode) =>
      moduleCall (.registerModule service mode) (coreRegisterModule (serviceFuncs env) service mode)

def unregisterModule (cmd : Pdu) : Act Handler Status :=
  coreServe env cmd
    (do
      let some (_, [.C service]) ← readFields cmd 0 "C" [.C] | return none
      return some service)
    fun service =>
      moduleCall (.unregisterModule service) (coreUnregisterModule (serviceFuncs env) service)

/-! ## bt-core-io.c -/

def btCoreServe {α : Type} (cmd : Pdu) (decode : Act Handler (Option α))
    (op : α → Act Handler Status) : Act Handler Status :=
  serve env cmd .parmInvalid .noMem decode (fun _ => pure ()) op World.btCoreIoSendPdu
    buildPduWbufMsg

def noArgs : Act H (Option Unit) := return some ()

def addrArg (cmd : Pdu) : Act H (Option (List UInt8)) := do
  let some (_, addr) ← readBtBdaddr cmd 0 | return none
  return some addr

def byteArg (cmd : Pdu) : Act H (Option UInt8) := do
  let some (_, [.C byte]) ← readFields cmd 0 "C" [.C] | return none
  return some byte

/-- The test mode handlers: an opcode, a length and that many bytes in a local `buf[256]`. The length
is passed as an `int` where `va_arg` fetches a `size_t`; it is modelled as that value. -/
def testArgs (cmd : Pdu) : Act H (Option (UInt16 × List UInt8 × UInt8)) := do
  let some (off, [.S opcode, .C len]) ← readFields cmd 0 "SC" [.S, .C] | return none
  let some (_, [.m bytes]) ← readFields cmd off "m" [.m 256 len.toNat] | return none
  return some (opcode, fillLocal env 256 bytes, len)

def enable (cmd : Pdu) : Act Handler Status := btCoreServe env cmd noArgs fun _ => btCoreEnable env

def disable (cmd : Pdu) : Act Handler Status := btCoreServe env cmd noArgs fun _ => btCoreDisable env

def getAdapterProperties (cmd : Pdu) : Act Handler Status :=
  btCoreServe env cmd noArgs fun _ => btCoreGetAdapterProperties env

def getAdapterProperty (cmd : Pdu) : Act Handler Status :=
  btCoreServe env cmd (byteArg cmd) fun type => btCoreGetAdapterProperty env type

/-- `set_adapter_property` also releases the value of the property, on every path behind its
allocation. -/
def setAdapterProperty (cmd : Pdu) : Act Handler Status :=
  serve env cmd .parmInvalid .noMem
    (do
      let some (_, property, val) ← readBtProperty env cmd 0 | return none
      return some (property, val))
    (fun (_, val) => free val) (fun (property, _) => btCoreSetAdapterProperty env property)
    World.btCoreIoSendPdu buildPduWbufMsg

def getRemoteDeviceProperties (cmd : Pdu) : Act Handler Status :=
  btCoreServe env cmd (addrArg cmd) fun remoteAddr => btCoreGetRemoteDeviceProperties env remoteAddr

def getRemoteDeviceProperty (cmd : Pdu) : Act Handler Status :=
  btCoreServe env cmd
    (do
      let some (off, remoteAddr) ← readBtBdaddr cmd 0 | return none
      let some (_, [.C type]) ← readFields cmd off "C" [.C] | return none
      return some (remoteAddr, type))
    fun (remoteAddr, type) => btCoreGetRemoteDeviceProperty env remoteAddr type

def setRemoteDeviceProperty (cmd : Pdu) : Act Handler Status :=
  serve env cmd .parmInvalid .noMem
    (do
      let some (off, remoteAddr) ← readBtBdaddr cmd 0 | return none
      let some (_, property, val) ← readBtProperty env cmd off | return none
      return some (remoteAddr, property, val))
    (fun (_, _, val) => free val)
    (fun (remoteAddr, property, _) => btCoreSetRemoteDeviceProperty env remoteAddr property)
    World.btCoreIoSendPdu buildPduWbufMsg

def getRemoteServiceRecord (cmd : Pdu) : Act Handler Status :=
  btCoreServe env cmd
    (do
      let some (off, remoteAddr) ← readBtBdaddr cmd 0 | return none
      let some (_, uuid) ← readBtUuid cmd off | return none
      return some (remoteAddr, uuid))
    fun (remoteAddr, uuid) => btCoreGetRemoteServiceRecord env remoteAddr uuid

def getRemoteServices (cmd : Pdu) : Act Handler Status :=
  btCoreServe env cmd (addrArg cmd) fun remoteAddr => btCoreGetRemoteServices env remoteAddr

def startDiscovery (cmd : Pdu) : Act Handler Status :=
  btCoreServe env cmd noArgs fun _ => btCoreStartDiscovery env

def cancelDiscovery (cmd : Pdu) : Act Handler Status :=
  btCoreServe env cmd noArgs fun _ => btCoreCancelDiscovery env

def createBond (cmd : Pdu) : Act Handler Status :=
  btCoreServe env cmd (addrArg cmd) fun bdAddr => btCoreCreateBond env bdAddr

def removeBond (cmd : Pdu) : Act Handler Status :=
  btCoreServe env cmd (addrArg cmd) fun bdAddr => btCoreRemoveBond env bdAddr

def cancelBond (cmd : Pdu) : Act Handler Status :=
  btCoreServe env cmd (addrArg cmd) fun bdAddr => btCoreCancelBond env bdAddr

def pinReply (cmd : Pdu) : Act Handler Status :=
  btCoreServe env cmd
    (do
      let some (off, bdAddr) ← readBtBdaddr cmd 0 | return none
      let some (off, [.C accept, .C pinLen]) ← readFields cmd off "CC" [.C, .C] | return none
      let some (_, pinCode) ← readBtPinCode cmd off | return none
      return some (bdAddr, accept, pinLen, pinCode))
    fun (bdAddr, accept, pinLen, pinCode) => btCorePinReply env bdAddr accept pinLen pinCode

def sspReply (cmd : Pdu) : Act Handler Status :=
  btCoreServe env cmd
    (do
      let some (off, bdAddr) ← readBtBdaddr cmd 0 | return none
      let some (_, [.C variant, .C accept, .I passkey]) ← readFields cmd off "CCI" [.C, .C, .I]
        | return none
      return some (bdAddr, variant, accept, passkey))
    fun (bdAddr, variant, accept, passkey) => btCoreSspReply env bdAddr variant accept passkey

def dutModeConfigure (cmd : Pdu) : Act Handler Status :=
  btCoreServe env cmd (byteArg cmd) fun enable => btCoreDutModeConfigure env enable

def dutModeSend (cmd : Pdu) : Act Handler Status :=
  btCoreServe env cmd (testArgs env cmd)
    fun (opcode, buf, len) => btCoreDutModeSend env opcode buf len

def leTestMode (cmd : Pdu) : Act Handler Status :=
  btCoreServe env cmd (testArgs env cmd)
    fun (opcode, buf, len) => btCoreLeTestMode env opcode buf len

/-! ## bt-sock-io.c -/

def btSockServe {α : Type} (cmd : Pdu) (decode : Act Handler (Option α))
    (op : α → Act Handler Status) : Act Handler Status :=
  serve env cmd .parmInvalid .noMem decode (fun _ => pure ()) op World.btSockIoSendPdu
    fun wbuf => buildPduWbufMsgWithFd wbuf env.sockFd

/-- The length that is passed for `uuid` is its address. -/
def opcodeListen (cmd : Pdu) : Act Handler Status :=
  btSockServe env cmd
    (do
      let some (_, [.C type, .m serviceName, .m uuid, .S channel, .C flags]) ←
        readFields cmd 0 "CmmSC" [.C, .m 256 256, .m 16 env.uuidAddr, .S, .C] | return none
      return some (type, serviceName, fillLocal env 16 uuid, channel, flags))
    fun (type, serviceName, uuid, channel, flags) =>
      btSockListen env type serviceName uuid channel flags

def opcodeConnect (cmd : Pdu) : Act Handler Status :=
  btSockServe env cmd
    (do
      let some (off, bdAddr) ← readBtBdaddr cmd 0 | return none
      let some (_, [.C type, .m uuid, .S channel, .C flags]) ←
        readFields cmd off "CmSC" [.C, .m 16 env.uuidAddr, .S, .C] | return none
      return some (bdAddr, type, fillLocal env 16 uuid, channel, flags))
    fun (bdAddr, type, uuid, channel, flags) => btSockConnect env bdAddr type uuid channel flags

/-! ## Dispatch -/

/-- `handle_pdu` of bt-proto, which indexes a table by the service or the opcode of a command. -/
def handlePduBy (value : UInt8) (cmd : Pdu) (handler : UInt8 → Option (Pdu → Act H Status)) :
    Act H Status :=
  match handler value with
  | none => return Status.unsupported
  | some handle => handle cmd

def handlePduByService (cmd : Pdu) (handler : UInt8 → Option (Pdu → Act H Status)) : Act H Status :=
  handlePduBy cmd.service cmd handler

def handlePduByOpcode (cmd : Pdu) (handler : UInt8 → Option (Pdu → Act H Status)) : Act H Status :=
  handlePduBy cmd.opcode cmd handler

/-- The table of `core_handler`. -/
def coreTable : UInt8 → Option (Pdu → Act Handler Status)
  | 0x01 => some (registerModule env)
  | 0x02 => some (unregisterModule env)
  | _ => none

/-- The table of `bt_core_handler`. -/
def btCoreTable : UInt8 → Option (Pdu → Act Handler Status)
  | 0x01 => some (enable env)
  | 0x02 => some (disable env)
  | 0x03 => some (getAdapterProperties env)
  | 0x04 => some (getAdapterProperty env)
  | 0x05 => some (setAdapterProperty env)
  | 0x06 => some (getRemoteDeviceProperties env)
  | 0x07 => some (getRemoteDeviceProperty env)
  | 0x08 => some (setRemoteDeviceProperty env)
  | 0x09 => some (getRemoteServiceRecord env)
  | 0x0a => some (getRemoteServices env)
  | 0x0b => some (startDiscovery env)
  | 0x0c => some (cancelDiscovery env)
  | 0x0d => some (createBond env)
  | 0x0e => some (removeBond env)
  | 0x0f => some (cancelBond env)
  | 0x10 => some (pinReply env)
  | 0x11 => some (sspReply env)
  | 0x12 => some (dutModeConfigure env)
  | 0x13 => some (dutModeSend env)
  | 0x14 => some (leTestMode env)
  | _ => none

/-- The table of `bt_sock_handler`. -/
def btSockTable : UInt8 → Option (Pdu → Act Handler Status)
  | 0x01 => some (opcodeListen env)
  | 0x02 => some (opcodeConnect env)
  | _ => none

def Handler.table : Handler → UInt8 → Option (Pdu → Act Handler Status)
  | .core => coreTable env
  | .btCore => btCoreTable env
  | .btSock => btSockTable env

/-- `core_handler`, `bt_core_handler` and `bt_sock_handler`. -/
def Handler.handle (handler : Handler) (cmd : Pdu) : Act Handler Status :=
  handlePduByOpcode cmd (handler.table env)

variable {env}

theorem Handler.handle_eq {handler : Handler} {cmd : Pdu} {handle : Pdu → Act Handler Status}
    (h : handler.table env cmd.opcode = some handle) : handler.handle env cmd = handle cmd := by
  unfold Handler.handle handlePduByOpcode handlePduBy
  rw [h]

theorem Handler.handle_unsupported {handler : Handler} {cmd : Pdu}
    (h : handler.table env cmd.opcode = none) :
    handler.handle env cmd = pure Status.unsupported := by
  unfold Handler.handle handlePduByOpcode handlePduBy
  rw [h]

variable (env)

/-- `handle_pdu` of bt-io; `calls` bounds the depth of calls in `append_to_pdu`. -/
def handlePdu (calls : Nat) (cmd : Pdu) : Act Handler Int := do
  let w ← Prog.get
  let status ← handlePduByService cmd fun service => (w.serviceHandler service).map (·.handle env)
  if status = Status.success then
    return 0
  -- reply with an error
  let some wbuf ← newPduWbuf env 0 | return -1
  let wbuf := wbuf.initPdu cmd.service 0
  match appendToPdu calls wbuf.pdu none [.str "C", .val (.C (UInt8.ofInt status))] with
  | none => Prog.fault .callDepth
  | some (_, pdu) =>
    emit (.send (buildPduWbufMsg { wbuf with pdu := pdu }))
    return -1

end Bluetoothd
