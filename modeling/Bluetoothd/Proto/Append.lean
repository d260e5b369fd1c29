import Bluetoothd.Proto.Codec

/-!
# The variadic writers (`bt-proto.c`)

`write_pdu_at` and `append_to_pdu` collect their variadic arguments in a `va_list` and pass that on,
as one argument, to another variadic function: `append_to_pdu` to `write_pdu_at`, and `write_pdu_at`
to itself. The parameter `calls` bounds the depth of nested calls; `none` means that they did not
suffice for the function to return.
-/

namespace Bluetoothd

open Platform Buffer

/-- A variadic argument: a value of the format language, a string, or a `va_list`. -/
inductive VaArg where
  | val (v : Val)
  | str (s : String)
  | vaList (ap : List VaArg)

/-- `write_pdu_at`; `fmt` is `none` for a null pointer. -/
def writePduAt (calls : Nat) (pdu : Pdu) (off : Nat) (fmt : Option String) (args : List VaArg) :
    Option (Int × Pdu) :=
  match calls with
  | 0 => none
  | calls + 1 => writePduAt calls pdu off fmt [.vaList args]

/-- `pdu->len = res`, where the storage has room for that payload. -/
def Pdu.setLen (pdu : Pdu) (res : Int) : Option Pdu :=
  if h : (UInt16.ofInt res).toNat ≤ pdu.data.length then
    some { pdu with len := UInt16.ofInt res, fits := h }
  else none

def appendToPdu (calls : Nat) (pdu : Pdu) (fmt : Option String) (args : List VaArg) :
    Option (Int × Pdu) := do
  let (res, pdu) ← writePduAt calls pdu pdu.len.toNat fmt [.vaList args]
  if res > 0 then
    let pdu ← pdu.setLen res
    return (res, pdu)
  else
    return (res, pdu)

/-- No depth of calls is enough for `write_pdu_at`. -/
theorem writePduAt_eq_none (calls : Nat) (pdu : Pdu) (off : Nat) (fmt : Option String)
    (args : List VaArg) : writePduAt calls pdu off fmt args = none := by
  induction calls generalizing args with
  | zero => rfl
  | succ calls ih => exact ih [.vaList args]

theorem appendToPdu_eq_none (calls : Nat) (pdu : Pdu) (fmt : Option String) (args : List VaArg) :
    appendToPdu calls pdu fmt args = none := by
  rw [appendToPdu, writePduAt_eq_none]
  rfl

/-! ## The wrappers as the callers see them -/

section wrappers

variable [Platform]

/-- What the readers have, `read_pdu_at` being `read_pdu_at_va` on the same arguments, for the
writers: after finitely many calls `write_pdu_at` returns what `write_pdu_at_va` does and leaves
the PDU as that does, and `append_to_pdu` returns. -/
structure WriteRefines (pdu : Pdu) (off : Nat) (fmt : String) (args : List Val) : Prop where
  write : ∃ calls res, writePduAt calls pdu off (some fmt) (args.map .val) = some res ∧
    writePduAtVa pdu off fmt.toList args = some res
  append : ∃ calls res, appendToPdu calls pdu (some fmt) (args.map .val) = some res

/-- **The writers never return.** Whatever the PDU, the offset, the format string and the
arguments, neither `write_pdu_at` nor `append_to_pdu` returns after finitely many calls. -/
theorem write_never_refines (pdu : Pdu) (off : Nat) (fmt : String) (args : List Val) :
    ¬ WriteRefines pdu off fmt args ∧
      (∀ calls, writePduAt calls pdu off (some fmt) (args.map .val) = none) ∧
      ∀ calls, appendToPdu calls pdu (some fmt) (args.map .val) = none := by
  refine ⟨?_, fun calls => writePduAt_eq_none calls pdu off _ _,
    fun calls => appendToPdu_eq_none calls pdu _ _⟩
  intro h
  obtain ⟨calls, res, hwrite, -⟩ := h.write
  rw [writePduAt_eq_none] at hwrite
  cases hwrite

end wrappers

/-- `write_pdu_at_va` stores an integer in a payload of four bytes and returns; `write_pdu_at` does
not. -/
theorem write_int_not_refines :
    let pdu : Pdu := ⟨serviceCore, 0, 4, [0, 0, 0, 0], Nat.le_refl 4⟩
    Matches "I".toList [.I 6] ∧
      @readPduAt lp64 pdu 0 "I" [.I] = @readPduAtVa lp64 pdu 0 "I".toList [.I] ∧
      @writePduAtVa lp64 pdu 0 "I".toList [.I 6]
        = some (4, ⟨serviceCore, 0, 4, [6, 0, 0, 0], Nat.le_refl 4⟩) ∧
      ¬ @WriteRefines lp64 pdu 0 "I" [.I 6] := by
  refine ⟨by decide, rfl, by decide, ?_⟩
  intro h
  obtain ⟨⟨calls, res, hwrite, -⟩, -⟩ := h
  rw [writePduAt_eq_none] at hwrite
  cases hwrite

/-! ## Appending -/

section appending

variable [Platform]

/-- The checked write that `append_to_pdu` is there to perform: at offset `pdu->len`. -/
def AppendAccepted (pdu : Pdu) (fmt : String) (args : List Val) : Prop :=
  ∃ res pdu', writePduAtVa pdu pdu.len.toNat fmt.toList args = some (res, pdu') ∧ 0 ≤ res

/-- Appending extends the PDU: the checked write accepts, and `append_to_pdu` returns the new
length, stores it, keeps the old payload and puts the encoded arguments behind it. -/
structure AppendExtends (pdu : Pdu) (fmt : String) (args : List Val) : Prop where
  accepted : AppendAccepted pdu fmt args
  returns : ∃ calls pdu', appendToPdu calls pdu (some fmt) (args.map .val)
      = some (((pdu.len.toNat + (encode args).length : Nat) : Int), pdu') ∧
    pdu'.len.toNat = pdu.len.toNat + (encode args).length ∧
    pdu'.payload = pdu.payload ++ encode args

theorem not_narrow_of_encode {args : List Val} (hnil : encode args = []) :
    ∀ v ∈ args, ¬ v.dst.Narrow := by
  intro v hv hnarrow
  have hbytes : v.bytes = [] := List.flatMap_eq_nil_iff.mp hnil v hv
  have hsize := v.size_dst
  rw [hbytes] at hsize
  cases v <;> first | cases hsize | exact hnarrow

/-- The bound test compares against `pdu->len`, the offset itself: only nothing can be appended. -/
theorem appendAccepted_iff {pdu : Pdu} {fmt : String} {args : List Val}
    (hm : Matches fmt.toList args) (hsmall : pdu.len.toNat + (encode args).length ≤ 65535) :
    AppendAccepted pdu fmt args ↔ encode args = [] := by
  rw [Matches] at hm
  rw [AppendAccepted, hm]
  constructor
  · intro h
    obtain ⟨res, pdu', hw, hres⟩ := h
    by_contra hne
    have hpos := List.length_pos_iff.mpr hne
    have hres' := writePduAtVa_overflow args (le_refl pdu.len.toNat) (by omega) (by omega) hw
    omega
  · intro hnil
    obtain ⟨pdu', hw, -⟩ := writePduAtVa_fits args (not_narrow_of_encode hnil)
      (show pdu.len.toNat + (encode args).length ≤ pdu.len.toNat by
        rw [hnil, List.length_nil, Nat.add_zero])
    exact ⟨_, pdu', hw, Int.natCast_nonneg _⟩

/-- **No append ever extends the PDU.** Whatever was appended before and however much room the
buffer has, `append_to_pdu` does not return, and the bound test alone would already reject every
non-empty append. -/
theorem append_never_extends (pdu : Pdu) (fmt : String) (args : List Val)
    (hm : Matches fmt.toList args) (hlen : pdu.len.toNat + (encode args).length ≤ 65535) :
    ¬ AppendExtends pdu fmt args ∧
      (∀ calls, appendToPdu calls pdu (some fmt) (args.map .val) = none) ∧
      (AppendAccepted pdu fmt args ↔ encode args = []) := by
  refine ⟨?_, fun calls => appendToPdu_eq_none calls pdu _ _, appendAccepted_iff hm hlen⟩
  intro h
  obtain ⟨-, calls, pdu', happend, -⟩ := h
  rw [appendToPdu_eq_none] at happend
  cases happend

end appending

/-- The device class of a pairing request, in a buffer with room for it. -/
theorem append_int_fails :
    let pdu := initPdu [0, 0, 0, 0] serviceCore 0
    pdu.len.toNat + (@encode lp64 [.I 6]).length ≤ pdu.data.length ∧
      @writePduAtVa lp64 pdu pdu.len.toNat "I".toList [.I 6] = some (-1, pdu) ∧
      ¬ @AppendExtends lp64 pdu "I" [.I 6] := by
  refine ⟨by decide, by decide, ?_⟩
  intro h
  obtain ⟨-, calls, pdu', happend, -⟩ := h
  rw [appendToPdu_eq_none] at happend
  cases happend

theorem append_never_extends_int :
    ¬ @AppendExtends lp64 (initPdu [0, 0, 0, 0] serviceCore 0) "I" [.I 6] :=
  (@append_never_extends lp64 _ "I" [.I 6] (by decide) (by decide)).1

end Bluetoothd
