import Bluetoothd.Service.PropertyLists

/-!
# The sizes of notification buffers (`bt-core-io.c`)

A callback passes `create_pdu_wbuf` the number of payload bytes before it appends any field: a
constant, or a constant and what `properties_length` adds up. `sizedExactly_iff` compares that number
with the fields that follow.
-/

namespace Bluetoothd

open Platform

def Callback.properties : Callback → List HalProperty
  | .adapterProperties _ properties => properties
  | .remoteDeviceProperties _ _ properties => properties
  | .deviceFound properties => properties
  | _ => []

def Callback.fixedLength : Callback → Nat
  | .adapterStateChanged _ => 1
  | .adapterProperties _ _ => 2
  | .remoteDeviceProperties _ _ _ => 8
  | .deviceFound _ => 1
  | .discoveryStateChanged _ => 1
  | .pinRequest _ _ _ => 259
  | .sspRequest _ _ _ _ _ => 264
  | .bondStateChanged _ _ _ => 8
  | .aclStateChanged _ _ _ => 8
  | .dutModeRecv _ buf => 3 + (UInt8.ofNat buf.length).toNat
  | .leTestMode _ _ => 3

def listLength (properties : List HalProperty) : Nat :=
  (properties.map fun property => 3 + property.val.length).sum

/-- The arguments that the HAL may pass: lengths of 16 bits, and a count that can be multiplied by 3
as an `int`. -/
structure Callback.InRange (cb : Callback) : Prop where
  count : 3 * cb.properties.length < 2 ^ 31
  lengths : ∀ property ∈ cb.properties, property.val.length ≤ 65535

instance (cb : Callback) : Decidable cb.InRange :=
  decidable_of_iff (3 * cb.properties.length < 2 ^ 31 ∧
    ∀ property ∈ cb.properties, property.val.length ≤ 65535)
    ⟨fun h => ⟨h.1, h.2⟩, fun h => ⟨h.1, h.2⟩⟩

/-- The fields have together the size of the buffer, and none of them goes beyond it. -/
structure SizedExactly [Platform] (n : Notification) : Prop where
  total : n.payload.length = n.maxdatalen
  inside : ∀ k, (encode (n.fields.take k)).length ≤ n.maxdatalen

theorem listLength_cons (property : HalProperty) (properties : List HalProperty) :
    listLength (property :: properties) = 3 + property.val.length + listLength properties := by
  simp [listLength]

theorem sum_lengths (properties : List HalProperty) :
    3 * properties.length + (properties.map fun property => property.val.length).sum =
      listLength properties := by
  induction properties with
  | nil => rfl
  | cons property properties ih =>
    rw [listLength_cons, ← ih, List.length_cons, List.map_cons, List.sum_cons]
    omega

theorem listLength_le (cb : Callback) (h : cb.InRange) :
    listLength cb.properties ≤ cb.properties.length * 65538 := by
  have hlengths := h.lengths
  generalize cb.properties = properties at hlengths ⊢
  induction properties with
  | nil => simp [listLength]
  | cons property properties ih =>
    rw [List.forall_mem_cons] at hlengths
    have hrest := ih hlengths.2
    rw [listLength_cons, List.length_cons]
    omega

theorem fixedLength_le (cb : Callback) : cb.fixedLength ≤ 264 := by
  cases cb with
  | dutModeRecv opcode buf =>
    have hlen := (UInt8.ofNat buf.length).toNat_lt
    show 3 + (UInt8.ofNat buf.length).toNat ≤ 264
    omega
  | _ => simp [Callback.fixedLength]

section sizes

variable [Platform]

/-- The loop of `properties_length` adds modulo the size of an `unsigned long`. -/
theorem foldl_uadd (properties : List HalProperty) {a : Nat} (ha : a < ulongSize) :
    properties.foldl (fun len property => uadd len property.val.length) a =
      (a + (properties.map fun property => property.val.length).sum) % ulongSize := by
  induction properties generalizing a with
  | nil => simp [Nat.mod_eq_of_lt ha]
  | cons property properties ih =>
    have hpos : 0 < ulongSize := by omega
    have hadd : uadd a property.val.length < ulongSize := Nat.mod_lt _ hpos
    rw [List.foldl_cons, ih hadd, uadd, Nat.mod_add_mod, List.map_cons, List.sum_cons, Nat.add_assoc]

theorem propertiesLength_eq {cb : Callback} (h : cb.InRange) :
    propertiesLength cb.properties = listLength cb.properties % ulongSize := by
  have hcount := h.count
  have hsize := ulongSize_ge
  rw [propertiesLength, foldl_uadd _ (by omega), sum_lengths]

theorem maxdatalen_eq {cb : Callback} (h : cb.InRange) :
    cb.notification.maxdatalen = (cb.fixedLength + listLength cb.properties) % ulongSize := by
  have hlist := propertiesLength_eq h
  have hsize := ulongSize_ge
  have hfixed := fixedLength_le cb
  have hsmall : cb.properties = [] →
      (cb.fixedLength + listLength cb.properties) % ulongSize = cb.fixedLength := by
    intro hnil
    rw [hnil, Nat.mod_eq_of_lt]
    · rfl
    · show cb.fixedLength + 0 < ulongSize
      omega
  have hsum : ∀ k, uadd k (propertiesLength cb.properties) =
      (k + listLength cb.properties) % ulongSize := by
    intro k
    rw [hlist, uadd, Nat.add_mod_mod]
  cases cb with
  | adapterProperties status properties => exact hsum 2
  | remoteDeviceProperties status bdAddr properties => exact hsum 8
  | deviceFound properties => exact hsum 1
  | _ => exact (hsmall rfl).symm

@[simp] theorem bytes_byte (v : UInt8) : (Val.C v).bytes = [v] := hostBytes_one v

@[simp] theorem bytes_word (v : UInt32) : (Val.I v).bytes = hostBytes 4 v.toNat := rfl

theorem length_payload_eq {cb : Callback} (h : cb.InRange) :
    cb.notification.payload.length = cb.fixedLength + listLength cb.properties := by
  have hlist := length_encodeProperties h.lengths
  cases cb with
  | adapterProperties status properties =>
    rw [Callback.notification, payload_adapterProperties, List.length_append]
    exact congrArg₂ (· + ·) (by simp [Callback.fixedLength]) hlist
  | remoteDeviceProperties status bdAddr properties =>
    rw [Callback.notification, payload_remoteDeviceProperties, List.length_append]
    exact congrArg₂ (· + ·) (by simp [Callback.fixedLength, bdAddr.length_address]) hlist
  | deviceFound properties =>
    rw [Callback.notification, payload_deviceFound, List.length_append]
    exact congrArg₂ (· + ·) (by simp [Callback.fixedLength]) hlist
  | dutModeRecv opcode buf =>
    have hlen : buf.length % 2 ^ 8 ≤ buf.length := Nat.mod_le _ _
    simp [Callback.notification, dutModeRecvCb, Notification.payload, Notification.fields,
      Callback.fixedLength, Callback.properties, listLength]
    omega
  | _ =>
    simp [Callback.notification, adapterStateChangedCb, discoveryStateChangedCb, pinRequestCb,
      sspRequestCb, bondStateChangedCb, aclStateChangedCb, leTestModeCb, Notification.payload,
      Notification.fields, appendBtBdaddr, appendBtBdname, BtBdaddr.length_address,
      BtBdname.length_name, Callback.fixedLength, Callback.properties, listLength]

theorem length_encode_take_le (args : List Val) (k : Nat) :
    (encode (args.take k)).length ≤ (encode args).length := by
  conv_rhs => rw [← List.take_append_drop k args, encode_append, List.length_append]
  exact Nat.le_add_right _ _

/-- **Notification buffers are sized exactly** by a callback if and only if the fields that it
describes do not need more bytes than an `unsigned long` counts; where that has 64 bits, always. -/
theorem sizedExactly_iff (cb : Callback) (h : cb.InRange) :
    (SizedExactly cb.notification ↔ cb.fixedLength + listLength cb.properties < ulongSize) ∧
      (wordBytes = 8 → SizedExactly cb.notification) := by
  have hmax := maxdatalen_eq h
  have hpayload := length_payload_eq h
  have hiff : SizedExactly cb.notification ↔
      cb.fixedLength + listLength cb.properties < ulongSize := by
    constructor
    · intro hsized
      have hsize := ulongSize_ge
      rw [← hpayload, hsized.total, hmax]
      exact Nat.mod_lt _ (by omega)
    · intro hlt
      rw [Nat.mod_eq_of_lt hlt, ← hpayload] at hmax
      refine ⟨hmax.symm, ?_⟩
      intro k
      rw [hmax]
      exact length_encode_take_le _ k
  refine ⟨hiff, ?_⟩
  intro hword
  have hfixed := fixedLength_le cb
  have hlist := listLength_le cb h
  have hcount := h.count
  have hsize : ulongSize = 2 ^ 64 := by rw [ulongSize, hword]; norm_num
  rw [hiff, hsize]
  omega

end sizes

/-- As many properties of 65535 bytes as make the sum of their sizes exceed 32 bits. -/
def hugeProperties : List HalProperty := List.replicate 65538 ⟨1, List.replicate 65535 0⟩

theorem listLength_hugeProperties : listLength hugeProperties = 4295229444 := by
  simp only [listLength, hugeProperties, List.map_replicate, List.length_replicate,
    List.sum_replicate_nat]

theorem inRange_hugeProperties : (Callback.deviceFound hugeProperties).InRange := by
  refine ⟨?_, ?_⟩
  · simp only [Callback.properties, hugeProperties, List.length_replicate]
    norm_num
  · intro property hproperty
    rw [List.eq_of_mem_replicate hproperty, List.length_replicate]

/-- With an `unsigned long` of 32 bits the callback asks for 262149 bytes and then describes a
payload of more than 4 GiB. -/
theorem size_wraps_in_32_bits :
    let cb := Callback.deviceFound hugeProperties
    cb.InRange ∧ (@Callback.notification ilp32 cb).maxdatalen = 262149 ∧
      (@Notification.payload ilp32 (@Callback.notification ilp32 cb)).length = 4295229445 ∧
      ¬ @SizedExactly ilp32 (@Callback.notification ilp32 cb) := by
  intro cb
  have hlist : cb.fixedLength + listLength cb.properties = 4295229445 := by
    show 1 + listLength hugeProperties = 4295229445
    rw [listLength_hugeProperties]
  have hmax : (@Callback.notification ilp32 cb).maxdatalen = 262149 := by
    rw [@maxdatalen_eq ilp32 cb inRange_hugeProperties, hlist]
    rfl
  have hpayload : (@Notification.payload ilp32 (@Callback.notification ilp32 cb)).length = 4295229445 := by
    rw [@length_payload_eq ilp32 cb inRange_hugeProperties, hlist]
  refine ⟨inRange_hugeProperties, hmax, hpayload, ?_⟩
  intro h
  obtain ⟨htotal, -⟩ := h
  rw [hmax, hpayload] at htotal
  exact absurd htotal (by decide)

theorem sizedExactly_iff_one_property :
    @SizedExactly lp64 (@Callback.notification lp64 (.deviceFound [⟨1, [104, 105]⟩])) :=
  (@sizedExactly_iff lp64 (.deviceFound [⟨1, [104, 105]⟩]) (by decide)).2 rfl

end Bluetoothd
