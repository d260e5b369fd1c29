import Bluetoothd.Service.Handlers

/-!
# Notifications (`bt-core-io.c`)

The callbacks that the HAL calls with an event encode it as a PDU of BT_CORE. They all proceed
alike: a write buffer of a certain capacity is allocated, fields are appended, and the message is
handed to the I/O thread. A `Notification` holds what is particular to a callback.

`describes_injective_iff` says which events a client can tell apart: all of them, except for a
found device whose properties spell the fields of a remote device's, since `device_found_cb` uses
the opcode of `remote_device_properties_cb`.
-/

namespace Bluetoothd

open Platform

/-! ## Arguments of the callbacks -/

/-- `bt_property_t` as the HAL passes it; its `len` is that of `val`. -/
@[ext]
structure HalProperty where
  type : Int
  val : List UInt8
  deriving DecidableEq, Repr

/-- `bt_bdaddr_t`. -/
@[ext]
structure BtBdaddr where
  address : List UInt8
  length_address : address.length = 6
  deriving DecidableEq, Repr

/-- `bt_bdname_t`. -/
@[ext]
structure BtBdname where
  name : List UInt8
  length_name : name.length = 249
  deriving DecidableEq, Repr

/-! ## What the callbacks describe -/

structure AppendCall where
  fmt : String
  args : List Val
  deriving DecidableEq, Repr

/-- What a callback passes to `create_pdu_wbuf`, `init_pdu` and the append functions. -/
structure Notification where
  opcode : UInt8
  maxdatalen : Nat
  appends : List AppendCall
  deriving DecidableEq, Repr

/-- `append_bt_property_t`; the length is narrowed to 16 bits. -/
def appendBtProperty (property : HalProperty) : AppendCall :=
  let len := UInt16.ofNat property.val.length
  ⟨"CSm", [.C (UInt8.ofInt property.type), .S len, .m (property.val.take len.toNat)]⟩

/-- `append_bt_bdaddr_t`. -/
def appendBtBdaddr (addr : BtBdaddr) : AppendCall := ⟨"m", [.m addr.address]⟩

/-- `append_bt_bdname_t`. -/
def appendBtBdname (name : BtBdname) : AppendCall := ⟨"m", [.m name.name]⟩

/-- A status, a state or a count that is cast to `uint8_t`. -/
def byteField (x : Int) : Val := .C (UInt8.ofInt x)

theorem dst_address (addr : BtBdaddr) : (Val.m addr.address).dst = .m 6 6 := by
  rw [Val.dst, addr.length_address]

theorem dst_name (name : BtBdname) : (Val.m name.name).dst = .m 249 249 := by
  rw [Val.dst, name.length_name]

/-- `properties_length`; the count is multiplied as an `int`. -/
def propertiesLength [Platform] (properties : List HalProperty) : Nat :=
  properties.foldl (fun len property => uadd len property.val.length) (3 * properties.length)

/-! ## Narrowing -/

def IsByte (x : Int) : Prop := 0 ≤ x ∧ x < 256

def ValidProperties (properties : List HalProperty) : Prop :=
  properties.length ≤ 255 ∧
    ∀ property ∈ properties, IsByte property.type ∧ property.val.length ≤ 65535

theorem toNat_ofInt {x : Int} (h : IsByte x) : ((UInt8.ofInt x).toNat : Int) = x := by
  obtain ⟨hnonneg, hlt⟩ := h
  rw [UInt8.ofInt, UInt8.toNat_ofNat']
  omega

theorem ofInt_inj {x y : Int} (hx : IsByte x) (hy : IsByte y) :
    UInt8.ofInt x = UInt8.ofInt y ↔ x = y := by
  refine ⟨fun h => ?_, congrArg UInt8.ofInt⟩
  rw [← toNat_ofInt hx, ← toNat_ofInt hy, h]

theorem byteField_inj {x y : Int} (hx : IsByte x) (hy : IsByte y) (h : byteField x = byteField y) :
    x = y := by
  apply (ofInt_inj hx hy).mp
  simpa [byteField] using h

theorem isByte_length {properties : List HalProperty} (h : ValidProperties properties) :
    IsByte properties.length := by
  have hle := h.1
  exact ⟨by omega, by omega⟩

theorem toNat_length {val : List UInt8} (h : val.length ≤ 65535) :
    (UInt16.ofNat val.length).toNat = val.length := by
  rw [UInt16.toNat_ofNat']
  omega

/-! ## The callbacks -/

section callbacks

variable [Platform]

def adapterStateChangedCb (state : Int) : Notification where
  opcode := 0x81
  maxdatalen := 1
  appends := [⟨"C", [byteField state]⟩]

def adapterPropertiesCb (status : Int) (properties : List HalProperty) : Notification where
  opcode := 0x82
  maxdatalen := uadd 2 (propertiesLength properties)
  appends := ⟨"CC", [byteField status, byteField properties.length]⟩ ::
    properties.map appendBtProperty

def remoteDevicePropertiesCb (status : Int) (bdAddr : BtBdaddr) (properties : List HalProperty) :
    Notification where
  opcode := 0x83
  maxdatalen := uadd 8 (propertiesLength properties)
  appends := ⟨"C", [byteField status]⟩ :: appendBtBdaddr bdAddr ::
    ⟨"C", [byteField properties.length]⟩ :: properties.map appendBtProperty

/-- The opcode is not the one defined for this notification, `OPCODE_DEVICE_FOUND_NTF` (0x84). -/
def deviceFoundCb (properties : List HalProperty) : Notification where
  opcode := 0x83
  maxdatalen := uadd 1 (propertiesLength properties)
  appends := ⟨"C", [byteField properties.length]⟩ :: properties.map appendBtProperty

def discoveryStateChangedCb (state : Int) : Notification where
  opcode := 0x85
  maxdatalen := 1
  appends := [⟨"C", [byteField state]⟩]

def pinRequestCb (remoteBdAddr : BtBdaddr) (bdName : BtBdname) (cod : UInt32) : Notification where
  opcode := 0x86
  maxdatalen := 259
  appends := [appendBtBdaddr remoteBdAddr, appendBtBdname bdName, ⟨"I", [.I cod]⟩]

def sspRequestCb (remoteBdAddr : BtBdaddr) (bdName : BtBdname) (cod : UInt32)
    (pairingVariant : Int) (passKey : UInt32) : Notification where
  opcode := 0x87
  maxdatalen := 264
  appends := [appendBtBdaddr remoteBdAddr, appendBtBdname bdName,
    ⟨"ICI", [.I cod, byteField pairingVariant, .I passKey]⟩]

def bondStateChangedCb (status : Int) (remoteBdAddr : BtBdaddr) (state : Int) : Notification where
  opcode := 0x88
  maxdatalen := 8
  appends := [⟨"C", [byteField status]⟩, appendBtBdaddr remoteBdAddr, ⟨"C", [byteField state]⟩]

def aclStateChangedCb (status : Int) (remoteBdAddr : BtBdaddr) (state : Int) : Notification where
  opcode := 0x89
  maxdatalen := 8
  appends := [⟨"C", [byteField status]⟩, appendBtBdaddr remoteBdAddr, ⟨"C", [byteField state]⟩]

/-- `buf` are the bytes that the HAL passes with their number. -/
def dutModeRecvCb (opcode : UInt16) (buf : List UInt8) : Notification :=
  let len := UInt8.ofNat buf.length
  { opcode := 0x8a
    maxdatalen := 3 + len.toNat
    appends := [⟨"SCm", [.S opcode, .C len, .m (buf.take len.toNat)]⟩] }

def leTestModeCb (status : Int) (numPackets : UInt16) : Notification where
  opcode := 0x8b
  maxdatalen := 3
  appends := [⟨"CS", [byteField status, .S numPackets]⟩]

inductive Callback where
  | adapterStateChanged (state : Int)
  | adapterProperties (status : Int) (properties : List HalProperty)
  | remoteDeviceProperties (status : Int) (bdAddr : BtBdaddr) (properties : List HalProperty)
  | deviceFound (properties : List HalProperty)
  | discoveryStateChanged (state : Int)
  | pinRequest (remoteBdAddr : BtBdaddr) (bdName : BtBdname) (cod : UInt32)
  | sspRequest (remoteBdAddr : BtBdaddr) (bdName : BtBdname) (cod : UInt32) (pairingVariant : Int)
      (passKey : UInt32)
  | bondStateChanged (status : Int) (remoteBdAddr : BtBdaddr) (state : Int)
  | aclStateChanged (status : Int) (remoteBdAddr : BtBdaddr) (state : Int)
  | dutModeRecv (opcode : UInt16) (buf : List UInt8)
  | leTestMode (status : Int) (numPackets : UInt16)
  deriving DecidableEq, Repr

def Callback.notification : Callback → Notification
  | .adapterStateChanged state => adapterStateChangedCb state
  | .adapterProperties status properties => adapterPropertiesCb status properties
  | .remoteDeviceProperties status bdAddr properties =>
    remoteDevicePropertiesCb status bdAddr properties
  | .deviceFound properties => deviceFoundCb properties
  | .discoveryStateChanged state => discoveryStateChangedCb state
  | .pinRequest remoteBdAddr bdName cod => pinRequestCb remoteBdAddr bdName cod
  | .sspRequest remoteBdAddr bdName cod pairingVariant passKey =>
    sspRequestCb remoteBdAddr bdName cod pairingVariant passKey
  | .bondStateChanged status remoteBdAddr state => bondStateChangedCb status remoteBdAddr state
  | .aclStateChanged status remoteBdAddr state => aclStateChangedCb status remoteBdAddr state
  | .dutModeRecv opcode buf => dutModeRecvCb opcode buf
  | .leTestMode status numPackets => leTestModeCb status numPackets

def Notification.fields (n : Notification) : List Val := n.appends.flatMap AppendCall.args

def Notification.payload (n : Notification) : List UInt8 := encode n.fields

def Notification.describes (n : Notification) : UInt8 × UInt8 × List UInt8 :=
  (serviceBtCore, n.opcode, n.payload)

/-! ## The common sequence -/

def appendAll (calls : Nat) (pdu : Pdu) : List AppendCall → Option (Int × Pdu)
  | [] => some (0, pdu)
  | append :: appends => do
    let (res, pdu) ← appendToPdu calls pdu (some append.fmt) (append.args.map .val)
    if res < 0 then
      return (-1, pdu)
    else
      appendAll calls pdu appends

/-- The sequence of a callback: the message that it hands to `run_task`. -/
def notify (env : Env) (calls : Nat) (n : Notification) : Act Handler (Option Message) := do
  let some wbuf ← newPduWbuf env n.maxdatalen | return none
  let wbuf := wbuf.initPdu serviceBtCore n.opcode
  match appendAll calls wbuf.pdu n.appends with
  | none => Prog.fault .callDepth
  | some (res, pdu) =>
    if res < 0 then
      cleanupPduWbuf wbuf
      return none
    else
      return some (buildPduWbufMsg { wbuf with pdu := pdu })

/-- Every callback appends something, and so none gets as far as `run_task`. -/
theorem notify_stuck {env : Env} {w : World Handler} {mem : Nat → UInt8}
    (h : env.obtained w.mallocs = some mem) (calls : Nat) (cb : Callback) :
    ((notify env calls cb.notification).run w).1 = .error .callDepth := by
  have hstuck : ∀ pdu, appendAll calls pdu cb.notification.appends = none := by
    intro pdu
    cases cb <;> simp [Callback.notification, adapterStateChangedCb, adapterPropertiesCb,
      remoteDevicePropertiesCb, deviceFoundCb, discoveryStateChangedCb, pinRequestCb, sspRequestCb,
      bondStateChangedCb, aclStateChangedCb, dutModeRecvCb, leTestModeCb, appendAll,
      appendToPdu_eq_none]
  unfold notify
  rw [Prog.run_bind_ok (run_newPduWbuf_some h)]
  dsimp only
  rw [hstuck]
  rfl

/-! ## Distinct events -/

def Callback.Valid : Callback → Prop
  | .adapterStateChanged state => IsByte state
  | .adapterProperties status properties => IsByte status ∧ ValidProperties properties
  | .remoteDeviceProperties status _ properties => IsByte status ∧ ValidProperties properties
  | .deviceFound properties => ValidProperties properties
  | .discoveryStateChanged state => IsByte state
  | .pinRequest _ _ _ => True
  | .sspRequest _ _ _ pairingVariant _ => IsByte pairingVariant
  | .bondStateChanged status _ state => IsByte status ∧ IsByte state
  | .aclStateChanged status _ state => IsByte status ∧ IsByte state
  | .dutModeRecv _ buf => buf.length ≤ 255
  | .leTestMode status _ => IsByte status

def encodeProperties (properties : List HalProperty) : List UInt8 :=
  encode (properties.flatMap fun property => (appendBtProperty property).args)

/-- The properties of a found device spell what follows the status of a remote device, and their
number is that status. -/
def Confusable : Callback → Callback → Prop
  | .deviceFound found, .remoteDeviceProperties status bdAddr properties =>
    status = found.length ∧ encodeProperties found =
      bdAddr.address ++ UInt8.ofInt properties.length :: encodeProperties properties
  | _, _ => False

/-! ## Decoding the fields -/

theorem encodeProperties_cons (property : HalProperty) (properties : List HalProperty) :
    encodeProperties (property :: properties) =
      encode [byteField property.type, .S (UInt16.ofNat property.val.length)] ++
        (property.val.take (UInt16.ofNat property.val.length).toNat ++
          encodeProperties properties) := by
  simp [encodeProperties, appendBtProperty, byteField, Val.bytes]

@[simp] theorem bytes_block (block : List UInt8) : (Val.m block).bytes = block := rfl

@[simp] theorem bytes_short (v : UInt16) : (Val.S v).bytes = hostBytes 2 v.toNat := rfl

@[simp] theorem bytes_byteField (x : Int) : (byteField x).bytes = [UInt8.ofInt x] := hostBytes_one _

/-- Property lists are uniquely decodable: every property starts with its length. -/
theorem encodeProperties_inj {properties properties' : List HalProperty}
    (hvalid : ∀ property ∈ properties, IsByte property.type ∧ property.val.length ≤ 65535)
    (hvalid' : ∀ property ∈ properties', IsByte property.type ∧ property.val.length ≤ 65535)
    (h : encodeProperties properties = encodeProperties properties') : properties = properties' := by
  induction properties generalizing properties' with
  | nil =>
    cases properties' with
    | nil => rfl
    | cons property' properties' =>
      rw [encodeProperties_cons] at h
      simp [encodeProperties] at h
  | cons property properties ih =>
    cases properties' with
    | nil =>
      rw [encodeProperties_cons] at h
      simp [encodeProperties] at h
    | cons property' properties' =>
      obtain ⟨htype, hlen⟩ := hvalid property List.mem_cons_self
      obtain ⟨htype', hlen'⟩ := hvalid' property' List.mem_cons_self
      rw [encodeProperties_cons, encodeProperties_cons] at h
      obtain ⟨hhead, hrest⟩ := encode_append_inj (by rfl) h
      simp only [List.cons.injEq, Val.S.injEq, and_true] at hhead
      rw [toNat_length hlen, toNat_length hlen', List.take_length, List.take_length] at hrest
      have hlength : property.val.length = property'.val.length := by
        rw [← toNat_length hlen, ← toNat_length hlen', hhead.2]
      obtain ⟨hval, htail⟩ := List.append_inj hrest hlength
      rw [HalProperty.ext (byteField_inj htype htype' hhead.1) hval,
        ih (fun q hq => hvalid q (List.mem_cons_of_mem _ hq))
          (fun q hq => hvalid' q (List.mem_cons_of_mem _ hq)) htail]

theorem payload_adapterProperties (status : Int) (properties : List HalProperty) :
    (adapterPropertiesCb status properties).payload =
      encode [byteField status, byteField properties.length] ++ encodeProperties properties := by
  simp [Notification.payload, Notification.fields, adapterPropertiesCb, encodeProperties,
    List.flatMap_map]

theorem payload_remoteDeviceProperties (status : Int) (bdAddr : BtBdaddr)
    (properties : List HalProperty) :
    (remoteDevicePropertiesCb status bdAddr properties).payload =
      encode [byteField status, .m bdAddr.address, byteField properties.length] ++
        encodeProperties properties := by
  simp [Notification.payload, Notification.fields, remoteDevicePropertiesCb, encodeProperties,
    List.flatMap_map, appendBtBdaddr]

theorem payload_deviceFound (properties : List HalProperty) :
    (deviceFoundCb properties).payload =
      encode [byteField properties.length] ++ encodeProperties properties := by
  simp [Notification.payload, Notification.fields, deviceFoundCb, encodeProperties,
    List.flatMap_map]

/-! ## Notifications are unambiguous -/

theorem list_payload_inj {fixed fixed' : List Val} {properties properties' : List HalProperty}
    (hdst : fixed.map Val.dst = fixed'.map Val.dst) (hvalid : ValidProperties properties)
    (hvalid' : ValidProperties properties')
    (h : encode fixed ++ encodeProperties properties = encode fixed' ++ encodeProperties properties') :
    fixed = fixed' ∧ properties = properties' := by
  obtain ⟨hfixed, hproperties⟩ := encode_append_inj hdst h
  exact ⟨hfixed, encodeProperties_inj hvalid.2 hvalid'.2 hproperties⟩

theorem confusable_iff {found properties : List HalProperty} {status : Int} {bdAddr : BtBdaddr}
    (hfound : ValidProperties found) (hstatus : IsByte status) :
    (deviceFoundCb found).payload = (remoteDevicePropertiesCb status bdAddr properties).payload ↔
      Confusable (.deviceFound found) (.remoteDeviceProperties status bdAddr properties) := by
  have hcount := ofInt_inj hstatus (isByte_length hfound)
  rw [Confusable, ← hcount, @eq_comm _ (UInt8.ofInt status)]
  simp [payload_deviceFound, payload_remoteDeviceProperties]

theorem byte_payload_inj {state state' : Int} (hvalid : IsByte state) (hvalid' : IsByte state')
    (h : encode [byteField state] = encode [byteField state']) : state = state' := by
  have hfields : [byteField state] = [byteField state'] := encode_inj rfl h
  simp only [List.cons.injEq, and_true] at hfields
  exact byteField_inj hvalid hvalid' hfields

theorem adapterProperties_payload_inj {status status' : Int} {properties properties' : List HalProperty}
    (hvalid : IsByte status ∧ ValidProperties properties)
    (hvalid' : IsByte status' ∧ ValidProperties properties')
    (h : (adapterPropertiesCb status properties).payload =
      (adapterPropertiesCb status' properties').payload) :
    status = status' ∧ properties = properties' := by
  rw [payload_adapterProperties, payload_adapterProperties] at h
  obtain ⟨hfixed, hproperties⟩ := list_payload_inj (by rfl) hvalid.2 hvalid'.2 h
  simp only [List.cons.injEq, and_true] at hfixed
  exact ⟨byteField_inj hvalid.1 hvalid'.1 hfixed.1, hproperties⟩

theorem remoteDeviceProperties_payload_inj {status status' : Int} {addr addr' : BtBdaddr}
    {properties properties' : List HalProperty} (hvalid : IsByte status ∧ ValidProperties properties)
    (hvalid' : IsByte status' ∧ ValidProperties properties')
    (h : (remoteDevicePropertiesCb status addr properties).payload =
      (remoteDevicePropertiesCb status' addr' properties').payload) :
    status = status' ∧ addr = addr' ∧ properties = properties' := by
  rw [payload_remoteDeviceProperties, payload_remoteDeviceProperties] at h
  have hdst : List.map Val.dst [byteField status, .m addr.address, byteField properties.length]
      = List.map Val.dst [byteField status', .m addr'.address, byteField properties'.length] := by
    simp only [List.map_cons, dst_address]
    rfl
  obtain ⟨hfixed, hproperties⟩ := list_payload_inj hdst hvalid.2 hvalid'.2 h
  simp only [List.cons.injEq, Val.m.injEq, and_true] at hfixed
  obtain ⟨hstatus, haddr, -⟩ := hfixed
  exact ⟨byteField_inj hvalid.1 hvalid'.1 hstatus, BtBdaddr.ext haddr, hproperties⟩

theorem deviceFound_payload_inj {properties properties' : List HalProperty}
    (hvalid : ValidProperties properties) (hvalid' : ValidProperties properties')
    (h : (deviceFoundCb properties).payload = (deviceFoundCb properties').payload) :
    properties = properties' := by
  rw [payload_deviceFound, payload_deviceFound] at h
  exact (list_payload_inj (by rfl) hvalid hvalid' h).2

theorem pinRequest_payload_inj {addr addr' : BtBdaddr} {name name' : BtBdname} {cod cod' : UInt32}
    (h : (pinRequestCb addr name cod).payload = (pinRequestCb addr' name' cod').payload) :
    addr = addr' ∧ name = name' ∧ cod = cod' := by
  have hfields : [Val.m addr.address, .m name.name, .I cod]
      = [.m addr'.address, .m name'.name, .I cod'] :=
    encode_inj (by simp only [List.map_cons, dst_address, dst_name]; rfl) h
  simp only [List.cons.injEq, Val.m.injEq, Val.I.injEq, and_true] at hfields
  obtain ⟨haddr, hname, hcod⟩ := hfields
  exact ⟨BtBdaddr.ext haddr, BtBdname.ext hname, hcod⟩

theorem sspRequest_payload_inj {addr addr' : BtBdaddr} {name name' : BtBdname}
    {cod cod' passKey passKey' : UInt32} {pairingVariant pairingVariant' : Int}
    (hvalid : IsByte pairingVariant) (hvalid' : IsByte pairingVariant')
    (h : (sspRequestCb addr name cod pairingVariant passKey).payload =
      (sspRequestCb addr' name' cod' pairingVariant' passKey').payload) :
    addr = addr' ∧ name = name' ∧ cod = cod' ∧ pairingVariant = pairingVariant' ∧
      passKey = passKey' := by
  have hfields : [Val.m addr.address, .m name.name, .I cod, byteField pairingVariant, .I passKey]
      = [.m addr'.address, .m name'.name, .I cod', byteField pairingVariant', .I passKey'] :=
    encode_inj (by simp only [List.map_cons, dst_address, dst_name]; rfl) h
  simp only [List.cons.injEq, Val.m.injEq, Val.I.injEq, and_true] at hfields
  obtain ⟨haddr, hname, hcod, hvariant, hpassKey⟩ := hfields
  exact ⟨BtBdaddr.ext haddr, BtBdname.ext hname, hcod, byteField_inj hvalid hvalid' hvariant, hpassKey⟩

theorem state_payload_inj {status status' state state' : Int} {addr addr' : BtBdaddr}
    (hvalid : IsByte status ∧ IsByte state) (hvalid' : IsByte status' ∧ IsByte state')
    (h : encode [byteField status, .m addr.address, byteField state]
      = encode [byteField status', .m addr'.address, byteField state']) :
    status = status' ∧ addr = addr' ∧ state = state' := by
  have hfields := encode_inj (by simp only [List.map_cons, dst_address]; rfl) h
  simp only [List.cons.injEq, Val.m.injEq, and_true] at hfields
  obtain ⟨hstatus, haddr, hstate⟩ := hfields
  exact ⟨byteField_inj hvalid.1 hvalid'.1 hstatus, BtBdaddr.ext haddr,
    byteField_inj hvalid.2 hvalid'.2 hstate⟩

theorem dutModeRecv_payload_inj {opcode opcode' : UInt16} {buf buf' : List UInt8}
    (hvalid : buf.length ≤ 255) (hvalid' : buf'.length ≤ 255)
    (h : (dutModeRecvCb opcode buf).payload = (dutModeRecvCb opcode' buf').payload) :
    opcode = opcode' ∧ buf = buf' := by
  have hpayload : ∀ (opcode : UInt16) (buf : List UInt8), buf.length ≤ 255 →
      (dutModeRecvCb opcode buf).payload =
        encode [.S opcode, .C (UInt8.ofNat buf.length)] ++ buf := by
    intro opcode buf hle
    have hlen : (UInt8.ofNat buf.length).toNat = buf.length := by
      rw [UInt8.toNat_ofNat']
      omega
    simp [Notification.payload, Notification.fields, dutModeRecvCb, hlen]
  rw [hpayload opcode buf hvalid, hpayload opcode' buf' hvalid'] at h
  obtain ⟨hfixed, hbuf⟩ := encode_append_inj (by rfl) h
  simp only [List.cons.injEq, Val.S.injEq] at hfixed
  exact ⟨hfixed.1, hbuf⟩

theorem leTestMode_payload_inj {status status' : Int} {numPackets numPackets' : UInt16}
    (hvalid : IsByte status) (hvalid' : IsByte status')
    (h : (leTestModeCb status numPackets).payload = (leTestModeCb status' numPackets').payload) :
    status = status' ∧ numPackets = numPackets' := by
  have hfields : [byteField status, Val.S numPackets] = [byteField status', .S numPackets'] :=
    encode_inj rfl h
  simp only [List.cons.injEq, Val.S.injEq, and_true] at hfields
  exact ⟨byteField_inj hvalid hvalid' hfields.1, hfields.2⟩

/-- Callbacks of different kinds have different opcodes, except for the two that can be confused. -/
theorem eq_of_describes {a b : Callback} (ha : a.Valid) (hb : b.Valid)
    (h : a.notification.describes = b.notification.describes) :
    a = b ∨ Confusable a b ∨ Confusable b a := by
  simp only [Notification.describes, Prod.mk.injEq, true_and] at h
  obtain ⟨hopcode, hpayload⟩ := h
  cases a with
  | adapterStateChanged state =>
    cases b with
    | adapterStateChanged state' =>
      obtain rfl := byte_payload_inj ha hb hpayload
      exact .inl rfl
    | _ => exact absurd hopcode (of_decide_eq_false rfl)
  | adapterProperties status properties =>
    cases b with
    | adapterProperties status' properties' =>
      obtain ⟨rfl, rfl⟩ := adapterProperties_payload_inj ha hb hpayload
      exact .inl rfl
    | _ => exact absurd hopcode (of_decide_eq_false rfl)
  | remoteDeviceProperties status bdAddr properties =>
    cases b with
    | remoteDeviceProperties status' bdAddr' properties' =>
      obtain ⟨rfl, rfl, rfl⟩ := remoteDeviceProperties_payload_inj ha hb hpayload
      exact .inl rfl
    | deviceFound found => exact .inr (.inr ((confusable_iff hb ha.1).mp hpayload.symm))
    | _ => exact absurd hopcode (of_decide_eq_false rfl)
  | deviceFound found =>
    cases b with
    | deviceFound found' =>
      obtain rfl := deviceFound_payload_inj ha hb hpayload
      exact .inl rfl
    | remoteDeviceProperties status bdAddr properties =>
      exact .inr (.inl ((confusable_iff ha hb.1).mp hpayload))
    | _ => exact absurd hopcode (of_decide_eq_false rfl)
  | discoveryStateChanged state =>
    cases b with
    | discoveryStateChanged state' =>
      obtain rfl := byte_payload_inj ha hb hpayload
      exact .inl rfl
    | _ => exact absurd hopcode (of_decide_eq_false rfl)
  | pinRequest addr name cod =>
    cases b with
    | pinRequest addr' name' cod' =>
      obtain ⟨rfl, rfl, rfl⟩ := pinRequest_payload_inj hpayload
      exact .inl rfl
    | _ => exact absurd hopcode (of_decide_eq_false rfl)
  | sspRequest addr name cod pairingVariant passKey =>
    cases b with
    | sspRequest addr' name' cod' pairingVariant' passKey' =>
      obtain ⟨rfl, rfl, rfl, rfl, rfl⟩ := sspRequest_payload_inj ha hb hpayload
      exact .inl rfl
    | _ => exact absurd hopcode (of_decide_eq_false rfl)
  | bondStateChanged status addr state =>
    cases b with
    | bondStateChanged status' addr' state' =>
      obtain ⟨rfl, rfl, rfl⟩ := state_payload_inj ha hb hpayload
      exact .inl rfl
    | _ => exact absurd hopcode (of_decide_eq_false rfl)
  | aclStateChanged status addr state =>
    cases b with
    | aclStateChanged status' addr' state' =>
      obtain ⟨rfl, rfl, rfl⟩ := state_payload_inj ha hb hpayload
      exact .inl rfl
    | _ => exact absurd hopcode (of_decide_eq_false rfl)
  | dutModeRecv opcode buf =>
    cases b with
    | dutModeRecv opcode' buf' =>
      obtain ⟨rfl, rfl⟩ := dutModeRecv_payload_inj ha hb hpayload
      exact .inl rfl
    | _ => exact absurd hopcode (of_decide_eq_false rfl)
  | leTestMode status numPackets =>
    cases b with
    | leTestMode status' numPackets' =>
      obtain ⟨rfl, rfl⟩ := leTestMode_payload_inj ha hb hpayload
      exact .inl rfl
    | _ => exact absurd hopcode (of_decide_eq_false rfl)

theorem Confusable.describes {a b : Callback} (ha : a.Valid) (hb : b.Valid) (h : Confusable a b) :
    a.notification.describes = b.notification.describes ∧ a ≠ b := by
  cases a with
  | deviceFound found =>
    cases b with
    | remoteDeviceProperties status bdAddr properties =>
      refine ⟨?_, by simp⟩
      rw [Notification.describes, Notification.describes, Callback.notification,
        Callback.notification, (confusable_iff ha hb.1).mpr h]
      rfl
    | _ => exact h.elim
  | _ => exact h.elim

/-- **Notifications are unambiguous**: for two events with arguments in their widths, equal PDUs
come from equal events if and only if the two are not confusable. -/
theorem describes_injective_iff {a b : Callback} (ha : a.Valid) (hb : b.Valid) :
    (a.notification.describes = b.notification.describes → a = b) ↔
      ¬ (Confusable a b ∨ Confusable b a) := by
  constructor
  · intro hinj h
    rcases h with h | h
    · obtain ⟨hsame, hne⟩ := h.describes ha hb
      exact hne (hinj hsame)
    · obtain ⟨hsame, hne⟩ := h.describes hb ha
      exact hne (hinj hsame.symm).symm
  · intro h hsame
    exact (eq_of_describes ha hb hsame).resolve_right h

end callbacks

/-- The properties of a remote device with status 1 and no properties, and a found device with one
property of four zero bytes. -/
theorem found_device_confused :
    let a := Callback.deviceFound [⟨0, [0, 0, 0, 0]⟩]
    let b := Callback.remoteDeviceProperties 1 ⟨[0, 4, 0, 0, 0, 0], rfl⟩ []
    a.Valid ∧ b.Valid ∧
      @Notification.describes lp64 (@Callback.notification lp64 a) =
        @Notification.describes lp64 (@Callback.notification lp64 b) ∧ a ≠ b := by
  refine ⟨?_, ?_, by decide, by decide⟩
  · simp [Callback.Valid, ValidProperties, IsByte]
  · simp [Callback.Valid, ValidProperties, IsByte]

theorem describes_injective_iff_acl :
    let a := Callback.bondStateChanged 0 ⟨[1, 2, 3, 4, 5, 6], rfl⟩ 1
    let b := Callback.aclStateChanged 0 ⟨[1, 2, 3, 4, 5, 6], rfl⟩ 1
    (@Notification.describes lp64 (@Callback.notification lp64 a) =
        @Notification.describes lp64 (@Callback.notification lp64 b) → a = b) ↔
      ¬ (@Confusable lp64 a b ∨ @Confusable lp64 b a) := by
  intro a b
  have hbyte : IsByte 0 ∧ IsByte 1 := by simp [IsByte]
  exact @describes_injective_iff lp64 a b hbyte hbyte

end Bluetoothd
