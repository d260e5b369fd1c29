import Mathlib.Data.List.Forall2
import Bluetoothd.Service.Layout
import Bluetoothd.Service.Notifications

/-!
# Property lists on the wire

Three notifications end with a list of properties: its length as one byte, and each property with
its length in 16 bits; the payload as a whole has a length of 16 bits. Nothing in the callbacks
checks any of these. `survives_iff` says for which lists a client reads back what the HAL passed.
-/

namespace Bluetoothd

open Platform Buffer

variable {H : Type}

inductive ListCallback where
  | adapterProperties (status : Int)
  | remoteDeviceProperties (status : Int) (bdAddr : BtBdaddr)
  | deviceFound

def ListCallback.countAt : ListCallback → Nat
  | .adapterProperties _ => 1
  | .remoteDeviceProperties _ _ => 7
  | .deviceFound => 0

structure Property.Matches (property : Property) (passed : HalProperty) : Prop where
  type : (property.type.toNat : Int) = passed.type
  len : property.len.toNat = passed.val.length
  val : property.val = passed.val

theorem valid_of_matches {read : List Property} {properties : List HalProperty}
    (h : List.Forall₂ Property.Matches read properties) :
    ∀ property ∈ properties, IsByte property.type ∧ property.val.length ≤ 65535 := by
  induction h with
  | nil => simp
  | @cons value property read properties hmatches _ ih =>
    intro p hp
    rcases List.mem_cons.mp hp with rfl | hp
    · have htype := value.type.toNat_lt
      have hlen := value.len.toNat_lt
      rw [IsByte, ← hmatches.type, ← hmatches.len]
      omega
    · exact ih p hp

def pduOf (payload : List UInt8) (h : payload.length ≤ 65535) : Pdu where
  service := serviceBtCore
  opcode := 0
  len := UInt16.ofNat payload.length
  data := payload
  fits := by rw [toNat_length h]

theorem payload_pduOf {payload : List UInt8} (h : payload.length ≤ 65535) :
    (pduOf payload h).payload = payload := by
  show payload.take (UInt16.ofNat payload.length).toNat = payload
  rw [toNat_length h, List.take_length]

section lists

variable [Platform]

def ListCallback.notification (properties : List HalProperty) : ListCallback → Notification
  | .adapterProperties status => adapterPropertiesCb status properties
  | .remoteDeviceProperties status bdAddr => remoteDevicePropertiesCb status bdAddr properties
  | .deviceFound => deviceFoundCb properties

/-! ## Reading back -/

/-- So many calls of `read_bt_property_t`, each at the end of the one before: the last end, and the
properties. -/
def readProperties (env : Env) (pdu : Pdu) : Nat → Nat → Act H (Option (Nat × List Property))
  | 0, off => return some (off, [])
  | count + 1, off => do
    let some (off, property, _) ← readBtProperty env pdu off | return none
    let some (off, properties) ← readProperties env pdu count off | return none
    return some (off, property :: properties)

def readPropertyList (env : Env) (pdu : Pdu) (off : Nat) : Act H (Option (Nat × List Property)) := do
  let some (off, [.C count]) ← readFields pdu off "C" [.C] | return none
  readProperties env pdu count.toNat off

/-- The payload has a length of 16 bits and, where allocations succeed, is read back to its end as
exactly the properties that were passed. -/
structure Survives (H : Type) (cb : ListCallback) (properties : List HalProperty) : Prop where
  size : (cb.notification properties).payload.length ≤ 65535
  readBack : ∀ (pdu : Pdu) (env : Env) (w : World H),
    pdu.payload = (cb.notification properties).payload → (∀ n, (env.obtained n).isSome) →
      ∃ off read w', (readPropertyList env pdu cb.countAt).run w = (.ok (some (off, read)), w') ∧
        List.Forall₂ Property.Matches read properties ∧ off = pdu.payload.length

/-! ## The layout of a list -/

theorem ListCallback.payload (cb : ListCallback) (properties : List HalProperty) :
    ∃ fixed : List UInt8, fixed.length = cb.countAt ∧ (cb.notification properties).payload =
      fixed ++ UInt8.ofInt properties.length :: encodeProperties properties := by
  cases cb with
  | adapterProperties status =>
    refine ⟨[UInt8.ofInt status], rfl, ?_⟩
    simp [ListCallback.notification, payload_adapterProperties]
  | remoteDeviceProperties status bdAddr =>
    refine ⟨UInt8.ofInt status :: bdAddr.address, ?_, ?_⟩
    · simp [ListCallback.countAt, bdAddr.length_address]
    · simp [ListCallback.notification, payload_remoteDeviceProperties]
  | deviceFound =>
    refine ⟨[], rfl, ?_⟩
    simp [ListCallback.notification, payload_deviceFound]

theorem length_encodeProperties {properties : List HalProperty}
    (h : ∀ property ∈ properties, property.val.length ≤ 65535) :
    (encodeProperties properties).length =
      (properties.map fun property => 3 + property.val.length).sum := by
  induction properties with
  | nil => rfl
  | cons property properties ih =>
    rw [encodeProperties_cons, toNat_length (h property List.mem_cons_self)]
    simp [ih fun p hp => h p (List.mem_cons_of_mem _ hp)]
    omega

theorem u8At_append (pre rest : List UInt8) (b : UInt8) : u8At (pre ++ b :: rest) pre.length = b := by
  have hslice : slice (pre ++ b :: rest) pre.length 1 = [b] := by simp [slice]
  rw [u8At, hslice, ← hostBytes_one, hostInt_hostBytes 1 b.toNat_lt]
  simp

theorem u16At_append (pre rest : List UInt8) (n : UInt16) :
    u16At (pre ++ (hostBytes 2 n.toNat ++ rest)) pre.length = n := by
  have hslice : slice (pre ++ (hostBytes 2 n.toNat ++ rest)) pre.length 2 = hostBytes 2 n.toNat := by
    rw [slice, List.drop_left, List.take_left' (length_hostBytes 2 _)]
  rw [u16At, hslice, hostInt_hostBytes 2 n.toNat_lt]
  simp

theorem propertyAt_encode {pre rest : List UInt8} {property : HalProperty}
    {properties : List HalProperty} (htype : IsByte property.type) (hlen : property.val.length ≤ 65535)
    (hrest : rest = pre ++ encodeProperties (property :: properties)) :
    (u16At rest (pre.length + 1)).toNat = property.val.length ∧
      (propertyAt rest pre.length).Matches property := by
  have htoNat := toNat_length hlen
  have hbytes : rest = pre ++ UInt8.ofInt property.type :: (hostBytes 2
      (UInt16.ofNat property.val.length).toNat ++ (property.val ++ encodeProperties properties)) := by
    rw [hrest, encodeProperties_cons, htoNat, List.take_length]
    simp [htoNat]
  have htypeAt : u8At rest pre.length = UInt8.ofInt property.type := by rw [hbytes, u8At_append]
  have hlenAt : u16At rest (pre.length + 1) = UInt16.ofNat property.val.length := by
    have h := u16At_append (pre ++ [UInt8.ofInt property.type])
      (property.val ++ encodeProperties properties) (UInt16.ofNat property.val.length)
    rw [List.append_assoc, List.singleton_append, ← hbytes] at h
    rwa [List.length_append, List.length_singleton] at h
  have hvalAt : slice rest (pre.length + 3) property.val.length = property.val := by
    have hsplit : rest = (pre ++ UInt8.ofInt property.type :: hostBytes 2
        (UInt16.ofNat property.val.length).toNat) ++ (property.val ++ encodeProperties properties) := by
      rw [hbytes]
      simp
    rw [slice, hsplit, List.drop_left' (by simp), List.take_left]
  rw [hlenAt, htoNat]
  refine ⟨rfl, ?_, ?_, ?_⟩
  · rw [propertyAt, htypeAt, toNat_ofInt htype]
  · rw [propertyAt, hlenAt, htoNat]
  · rw [propertyAt, hlenAt, htoNat, hvalAt]

/-! ## Reading a list -/

/-- A list that lies behind a prefix is read to the end of the payload. The induction moves each
property that has been read into the prefix. -/
theorem run_readProperties {env : Env} (halloc : ∀ n, (env.obtained n).isSome) {pdu : Pdu}
    {properties : List HalProperty}
    (hvalid : ∀ property ∈ properties, IsByte property.type ∧ property.val.length ≤ 65535)
    {pre : List UInt8} (hpayload : pdu.payload = pre ++ encodeProperties properties) (w : World H) :
    ∃ off read w', (readProperties env pdu properties.length pre.length).run w
        = (.ok (some (off, read)), w') ∧
      List.Forall₂ Property.Matches read properties ∧ off = pdu.payload.length := by
  induction properties generalizing pre w with
  | nil =>
    refine ⟨pre.length, [], w, rfl, .nil, ?_⟩
    simp [hpayload, encodeProperties]
  | cons property properties ih =>
    obtain ⟨htype, hlen⟩ := hvalid property List.mem_cons_self
    obtain ⟨hlenAt, hmatches⟩ := propertyAt_encode htype hlen hpayload
    -- the prefix of the properties behind this one
    obtain ⟨pre', hpre', hpayload'⟩ : ∃ pre' : List UInt8,
        pre'.length = pre.length + 3 + property.val.length ∧
          pdu.payload = pre' ++ encodeProperties properties := by
      refine ⟨pre ++ (encode [byteField property.type, .S (UInt16.ofNat property.val.length)] ++
        property.val), ?_, ?_⟩
      · simp
        omega
      · rw [hpayload, encodeProperties_cons, toNat_length hlen, List.take_length]
        simp
    have hroom : pre.length + 3 + property.val.length ≤ pdu.payload.length := by
      rw [hpayload', List.length_append]
      omega
    have hoff : pre.length ≤ pdu.payload.length := by omega
    have hread := (decodesAs_readBtProperty env halloc hoff w).1
    rw [hlenAt] at hread
    obtain ⟨⟨off, value, block⟩, w₁, hrun, -, hoff₁, hvalue⟩ := hread hroom
    obtain ⟨off', read, w₂, hrun', hrest, hend⟩ :=
      ih (fun p hp => hvalid p (List.mem_cons_of_mem _ hp)) hpayload' w₁
    rw [← hvalue] at hmatches
    refine ⟨off', value :: read, w₂, ?_, .cons hmatches hrest, hend⟩
    rw [List.length_cons, readProperties, Prog.run_bind_ok hrun]
    dsimp only at hoff₁ ⊢
    rw [hoff₁, ← hpre', Prog.run_bind_ok hrun']
    rfl

theorem length_readProperties {env : Env} {pdu : Pdu} {count off off' : Nat} {read : List Property}
    {w w' : World H}
    (h : (readProperties env pdu count off).run w = (.ok (some (off', read)), w')) :
    read.length = count := by
  induction count generalizing off off' read w w' with
  | zero =>
    simp only [readProperties, Prog.run_pure, Prod.mk.injEq, Except.ok.injEq, Option.some.injEq] at h
    simp [← h.1.2]
  | succ count ih =>
    rw [readProperties] at h
    obtain ⟨first, w₁, -, h⟩ := Prog.run_bind_eq_ok h
    rcases first with _ | ⟨off₁, value, block⟩
    · simp at h
    · obtain ⟨rest, w₂, hrun, h⟩ := Prog.run_bind_eq_ok h
      rcases rest with _ | ⟨off₂, values⟩
      · simp at h
      · simp only [Prog.run_pure, Prod.mk.injEq, Except.ok.injEq, Option.some.injEq] at h
        rw [← h.1.2, List.length_cons, ih hrun]

theorem run_readPropertyList (env : Env) {pdu : Pdu} {fixed rest : List UInt8} {count : UInt8}
    (h : pdu.payload = fixed ++ count :: rest) (w : World H) :
    ∃ w₁, (readPropertyList env pdu fixed.length).run w =
      (readProperties env pdu count.toNat (fixed.length + 1)).run w₁ := by
  have hcount : u8At pdu.payload fixed.length = count := by rw [h, u8At_append]
  have hroom : fixed.length + total [.C] ≤ pdu.payload.length := by
    rw [h, List.length_append]
    simp [Dst.size]
  have hread := readPduAt_fits (show "C".toList = [Dst.C].map Dst.fmt from rfl) (by simp [Dst.HasRoom]) hroom
  have hnonneg : ¬ ((fixed.length + total [.C] : Nat) : Int) < 0 := by omega
  rw [readPropertyList, Prog.run_bind_ok (run_readFields_some hread w), if_neg hnonneg,
    Int.toNat_natCast]
  rw [← hcount]
  exact ⟨_, rfl⟩

/-- A list that survives is within the widths of its fields: its count is a byte that was read. -/
theorem Survives.valid {cb : ListCallback} {properties : List HalProperty}
    (h : Survives H cb properties) : ValidProperties properties := by
  obtain ⟨fixed, hfixed, hpayload⟩ := cb.payload properties
  have hpdu := payload_pduOf h.size
  obtain ⟨off, read, w', hrun, hmatches, -⟩ := h.readBack _ .obliging .empty hpdu fun _ => rfl
  obtain ⟨w₁, hrun₁⟩ := run_readPropertyList .obliging (hpdu.trans hpayload) (.empty : World H)
  rw [← hfixed, hrun₁] at hrun
  have hcount := length_readProperties hrun
  have hlength := hmatches.length_eq
  have hlt := (UInt8.ofInt properties.length).toNat_lt
  exact ⟨by omega, valid_of_matches hmatches⟩

theorem length_list_payload (cb : ListCallback) {properties : List HalProperty}
    (h : ∀ property ∈ properties, property.val.length ≤ 65535) :
    (cb.notification properties).payload.length =
      cb.countAt + 1 + (properties.map fun property => 3 + property.val.length).sum := by
  obtain ⟨fixed, hfixed, hpayload⟩ := cb.payload properties
  rw [hpayload, List.length_append, List.length_cons, length_encodeProperties h]
  omega

/-- **Property lists survive the wire** if and only if they have at most 255 properties, whose types
and lengths are within their fields, and the payload fits the 16 bits of its length. -/
theorem survives_iff (cb : ListCallback) (properties : List HalProperty) :
    Survives H cb properties ↔ ValidProperties properties ∧
      cb.countAt + 1 + (properties.map fun property => 3 + property.val.length).sum ≤ 65535 := by
  constructor
  · intro h
    have hvalid := h.valid
    refine ⟨hvalid, ?_⟩
    rw [← length_list_payload cb fun p hp => (hvalid.2 p hp).2]
    exact h.size
  · intro h
    obtain ⟨hvalid, hsize⟩ := h
    rw [← length_list_payload cb fun p hp => (hvalid.2 p hp).2] at hsize
    refine ⟨hsize, fun pdu env w hpdu halloc => ?_⟩
    obtain ⟨fixed, hfixed, hpayload⟩ := cb.payload properties
    rw [hpayload] at hpdu
    obtain ⟨w₁, hrun⟩ := run_readPropertyList env hpdu w
    have hcount : (UInt8.ofInt properties.length).toNat = properties.length := by
      have hbyte := toNat_ofInt (isByte_length hvalid)
      omega
    obtain ⟨off, read, w', hread, hmatches, hend⟩ := run_readProperties halloc hvalid.2
      (show pdu.payload = (fixed ++ [UInt8.ofInt properties.length]) ++ encodeProperties properties by
        simp [hpdu]) w₁
    refine ⟨off, read, w', ?_, hmatches, hend⟩
    rw [← hfixed, hrun, hcount]
    simpa using hread

end lists

def tooMany : List HalProperty := List.replicate 256 ⟨1, []⟩

/-- The count of 256 properties is sent as 0. -/
theorem count_wraps :
    let n := @ListCallback.notification lp64 tooMany .deviceFound
    (@Notification.payload lp64 n).length = 769 ∧ (@Notification.payload lp64 n).head? = some 0 ∧
      ¬ @Survives lp64 Handler .deviceFound tooMany := by
  refine ⟨by decide +kernel, by decide +kernel, ?_⟩
  intro h
  have hcount := (@Survives.valid Handler lp64 _ _ h).1
  rw [tooMany, List.length_replicate] at hcount
  omega

end Bluetoothd
