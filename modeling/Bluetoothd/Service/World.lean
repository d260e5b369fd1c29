import Bluetoothd.Lib.Prog
import Bluetoothd.PduWbuf

/-!
# The globals of the daemon and what happens to them

`World` collects the global variables of the service layer, with a log of the events that are of
interest to a client or to the Bluetooth stack. Everything the code gets from outside while it
serves one command (`malloc`, the HAL, uninitialised memory, addresses) comes from an `Env`; the
programs here take one such environment for each command.
-/

namespace Bluetoothd

/-- A `bt_status_t`, or the `int` that stands for one. -/
abbrev Status := Int

namespace Status

def success : Status := 0
def fail : Status := 1
def noMem : Status := 3
def unsupported : Status := 6
def parmInvalid : Status := 7

end Status

/-- What makes the rest of a run meaningless. -/
inductive Fault where
  | nullPointer
  | outOfBounds
  | callDepth
  deriving DecidableEq, Repr

/-- `bt_property_t`, with the bytes that `val` points to. -/
structure Property where
  type : UInt8
  len : UInt16
  val : List UInt8
  deriving DecidableEq, Repr

/-- The operations underlying the opcodes, with their arguments: `core_*_module`, the `bt_core_*`
wrappers and the `bt_sock_*` wrappers. -/
inductive Op where
  | registerModule (service mode : UInt8)
  | unregisterModule (service : UInt8)
  | enable
  | disable
  | getAdapterProperties
  | getAdapterProperty (type : UInt8)
  | setAdapterProperty (property : Property)
  | getRemoteDeviceProperties (remoteAddr : List UInt8)
  | getRemoteDeviceProperty (remoteAddr : List UInt8) (type : UInt8)
  | setRemoteDeviceProperty (remoteAddr : List UInt8) (property : Property)
  | getRemoteServiceRecord (remoteAddr uuid : List UInt8)
  | getRemoteServices (remoteAddr : List UInt8)
  | startDiscovery
  | cancelDiscovery
  | createBond (bdAddr : List UInt8)
  | removeBond (bdAddr : List UInt8)
  | cancelBond (bdAddr : List UInt8)
  | pinReply (bdAddr : List UInt8) (accept pinLen : UInt8) (pinCode : List UInt8)
  | sspReply (bdAddr : List UInt8) (variant accept : UInt8) (passkey : UInt32)
  | dutModeConfigure (enable : UInt8)
  | dutModeSend (opcode : UInt16) (buf : List UInt8) (len : UInt8)
  | leTestMode (opcode : UInt16) (buf : List UInt8) (len : UInt8)
  | listen (type : UInt8) (serviceName uuid : List UInt8) (channel : UInt16) (flags : UInt8)
  | connect (bdAddr : List UInt8) (type : UInt8) (uuid : List UInt8) (channel : UInt16)
      (flags : UInt8)
  deriving DecidableEq, Repr

/-- What a block of `malloc` is for: the value of a property, or a write buffer. -/
inductive BlockKind where
  | val
  | wbuf
  deriving DecidableEq, Repr

inductive Event where
  | read (fmt : String) (res : Int)
  | malloc (kind : BlockKind) (block : Nat)
  | free (block : Nat)
  | call (op : Op)
  | result (op : Op) (status : Status)
  | send (msg : Message)
  | opened (device : Nat)
  | closed (device : Nat)
  /-- An `assert` on `bt_device`, `bt_interface` or `btsock_interface`, which has this value. -/
  | asserted (pointer : Option Nat)
  deriving DecidableEq, Repr

inductive SendPdu where
  | btIo
  deriving DecidableEq, Repr

/-- The globals; `H` is the type of the function pointers in `service_handler`. The objects of the
HAL are opaque and stand for their addresses. -/
structure World (H : Type) where
  /-- service.c -/
  serviceHandler : UInt8 → Option H
  /-- The static `send_pdu` of core.c, core-io.c, bt-core-io.c and bt-sock-io.c. -/
  coreSendPdu : Option SendPdu
  coreIoSendPdu : Option SendPdu
  btCoreIoSendPdu : Option SendPdu
  btSockIoSendPdu : Option SendPdu
  /-- bt-core.c -/
  btDevice : Option Nat
  btInterface : Option Nat
  /-- bt-sock.c -/
  btsockInterface : Option Nat
  /-- The number of calls of `malloc` so far. -/
  mallocs : Nat
  log : List Event

/-- The outside of the daemon during one command, in which it calls each function of the HAL at
most once. -/
structure Env where
  /-- The n-th call of `malloc`; a block has some contents. -/
  malloc : Nat → Malloc (Nat → UInt8)
  /-- The results of the interface functions, and the descriptor that `listen` and `connect` store. -/
  hal : Op → Status
  sockFd : Int
  /-- `hw_get_module`, and the `open` of the module: the device, unless it fails. -/
  hwGetModule : Int
  openDevice : Option Nat
  getBluetoothInterface : Option Nat
  getProfileInterface : Option Nat
  /-- The contents of an uninitialised local array. -/
  stack : Nat → UInt8
  /-- The address of the local `uuid` of `opcode_listen` and `opcode_connect`. -/
  uuidAddr : Nat

abbrev Act (H α : Type) := Prog Fault (World H) α

variable {H : Type}

def World.empty : World H where
  serviceHandler _ := none
  coreSendPdu := none
  coreIoSendPdu := none
  btCoreIoSendPdu := none
  btSockIoSendPdu := none
  btDevice := none
  btInterface := none
  btsockInterface := none
  mallocs := 0
  log := []

def Env.obliging : Env where
  malloc _ := .block (fun _ => 0) false
  hal _ := Status.success
  sockFd := 7
  hwGetModule := 0
  openDevice := some 1
  getBluetoothInterface := some 2
  getProfileInterface := some 3
  stack _ := 0
  uuidAddr := 2 ^ 31 - 16

/-- The n-th block of `malloc`, where it can be used. -/
def Env.obtained (env : Env) (n : Nat) : Option (Nat → UInt8) := (env.malloc n).obtained

def World.push (w : World H) (e : Event) : World H := { w with log := w.log ++ [e] }

def emit (e : Event) : Act H Unit := Prog.modify fun w => w.push e

@[simp] theorem run_emit_bind {α : Type} (e : Event) (f : Unit → Act H α) (w : World H) :
    (emit e >>= f).run w = (f ()).run (w.push e) := Prog.run_bind_ok rfl

/-- `malloc`, with the test of `errno` behind it: a block is named by the number of the call that
returned it, and there is no event of one that is lost. -/
def malloc (env : Env) (kind : BlockKind) : Act H (Option (Nat × (Nat → UInt8))) := do
  let w ← Prog.get
  Prog.modify fun w => { w with mallocs := w.mallocs + 1 }
  match env.obtained w.mallocs with
  | none => return none
  | some mem =>
    emit (.malloc kind w.mallocs)
    return some (w.mallocs, mem)

theorem run_malloc_none {env : Env} {kind : BlockKind} {w : World H} (h : env.obtained w.mallocs = none) :
    (malloc env kind).run w = (.ok none, { w with mallocs := w.mallocs + 1 }) := by
  unfold malloc
  rw [Prog.run_get_bind, Prog.run_modify_bind, h]
  rfl

theorem run_malloc_some {env : Env} {kind : BlockKind} {w : World H} {mem : Nat → UInt8}
    (h : env.obtained w.mallocs = some mem) :
    (malloc env kind).run w = (.ok (some (w.mallocs, mem)),
      World.push { w with mallocs := w.mallocs + 1 } (.malloc kind w.mallocs)) := by
  unfold malloc
  rw [Prog.run_get_bind, Prog.run_modify_bind, h]
  rfl

def free (block : Nat) : Act H Unit := emit (.free block)

def sendPdu (pointer : World H → Option SendPdu) (msg : Message) : Act H Unit := do
  let w ← Prog.get
  match pointer w with
  | none => Prog.fault .nullPointer
  | some .btIo => emit (.send msg)

theorem run_sendPdu_none {pointer : World H → Option SendPdu} {w : World H} (h : pointer w = none)
    (msg : Message) : (sendPdu pointer msg).run w = (.error .nullPointer, w) := by
  unfold sendPdu
  rw [Prog.run_get_bind, h]
  rfl

theorem run_sendPdu_some {pointer : World H → Option SendPdu} {w : World H} {cb : SendPdu}
    (h : pointer w = some cb) (msg : Message) :
    (sendPdu pointer msg).run w = (.ok (), w.push (.send msg)) := by
  unfold sendPdu
  rw [Prog.run_get_bind, h]
  cases cb
  rfl

/-- `create_pdu_wbuf(maxdatalen, sizeof(struct iovec))`. -/
def newPduWbuf [Platform] (env : Env) (maxdatalen : Nat) : Act H (Option WBuf) := do
  let some (block, mem) ← malloc env .wbuf | return none
  return some (createPduWbuf block mem maxdatalen)

theorem run_newPduWbuf_none [Platform] {env : Env} {maxdatalen : Nat} {w : World H}
    (h : env.obtained w.mallocs = none) :
    (newPduWbuf env maxdatalen).run w = (.ok none, { w with mallocs := w.mallocs + 1 }) := by
  unfold newPduWbuf
  rw [Prog.run_bind_ok (run_malloc_none h)]
  rfl

theorem run_newPduWbuf_some [Platform] {env : Env} {maxdatalen : Nat} {w : World H}
    {mem : Nat → UInt8} (h : env.obtained w.mallocs = some mem) :
    (newPduWbuf env maxdatalen).run w = (.ok (some (createPduWbuf w.mallocs mem maxdatalen)),
      World.push { w with mallocs := w.mallocs + 1 } (.malloc .wbuf w.mallocs)) := by
  unfold newPduWbuf
  rw [Prog.run_bind_ok (run_malloc_some h)]
  rfl

def cleanupPduWbuf (wbuf : WBuf) : Act H Unit := free wbuf.block

end Bluetoothd
