import Mathlib.Data.Nat.ModEq
import Mathlib.Tactic.NormNum

/-!
# Fixed-width integers as bytes

A machine stores an integer of `w` bytes in memory in one of two orders. `ByteOrder.encode` is
what a `memcpy` from such an integer yields and `ByteOrder.decode` what a `memcpy` into one
leaves there; on `w` bytes the two are inverse to each other, whatever the order.
-/

namespace Bytes

/-- The `w` low-order base-256 digits of `n`, least significant first. -/
def digits : Nat → Nat → List UInt8
  | 0, _ => []
  | w + 1, n => UInt8.ofNat n :: digits w (n / 256)

/-- The number with the given base-256 digits, least significant first. -/
def value : List UInt8 → Nat
  | [] => 0
  | b :: bs => b.toNat + 256 * value bs

@[simp] theorem length_digits (w n : Nat) : (digits w n).length = w := by
  induction w generalizing n with
  | zero => rfl
  | succ w ih => rw [digits, List.length_cons, ih]

theorem value_digits {w n : Nat} (hn : n < 256 ^ w) : value (digits w n) = n := by
  induction w generalizing n with
  | zero =>
    rw [pow_zero] at hn
    show 0 = n
    omega
  | succ w ih =>
    have hdiv : n / 256 < 256 ^ w := by
      rw [Nat.div_lt_iff_lt_mul (by norm_num), ← pow_succ]
      exact hn
    rw [digits, value, ih hdiv, UInt8.toNat_ofNat']
    omega

theorem digits_value (bs : List UInt8) : digits bs.length (value bs) = bs := by
  induction bs with
  | nil => rfl
  | cons b bs ih =>
    have hb : b.toNat < 256 := b.toNat_lt
    have hlow : UInt8.ofNat (b.toNat + 256 * value bs) = b := by
      apply UInt8.toNat_inj.mp
      rw [UInt8.toNat_ofNat']
      omega
    have hhigh : (b.toNat + 256 * value bs) / 256 = value bs := by omega
    rw [List.length_cons, digits, value, hlow, hhigh, ih]

theorem value_lt (bs : List UInt8) : value bs < 256 ^ bs.length := by
  induction bs with
  | nil => simp [value]
  | cons b bs ih =>
    have hb : b.toNat < 256 := b.toNat_lt
    rw [value, List.length_cons, pow_succ]
    omega

end Bytes

/-- The order in which a machine stores the bytes of an integer. -/
inductive ByteOrder where
  | little
  | big
  deriving DecidableEq, Repr

namespace ByteOrder

/-- The bytes in memory of the `w`-byte integer `n`. -/
def encode : ByteOrder → Nat → Nat → List UInt8
  | little, w, n => Bytes.digits w n
  | big, w, n => (Bytes.digits w n).reverse

/-- The integer whose bytes in memory are `bs`. -/
def decode : ByteOrder → List UInt8 → Nat
  | little, bs => Bytes.value bs
  | big, bs => Bytes.value bs.reverse

variable (order : ByteOrder)

@[simp] theorem length_encode (w n : Nat) : (order.encode w n).length = w := by
  cases order <;> simp [encode]

theorem decode_encode {w n : Nat} (hn : n < 256 ^ w) : order.decode (order.encode w n) = n := by
  cases order with
  | little => exact Bytes.value_digits hn
  | big =>
    rw [encode, decode, List.reverse_reverse]
    exact Bytes.value_digits hn

theorem encode_decode {w : Nat} {bs : List UInt8} (hw : bs.length = w) :
    order.encode w (order.decode bs) = bs := by
  subst hw
  cases order with
  | little => exact Bytes.digits_value bs
  | big =>
    have hrev := Bytes.digits_value bs.reverse
    rw [List.length_reverse] at hrev
    rw [decode, encode, hrev, List.reverse_reverse]

theorem decode_lt {w : Nat} {bs : List UInt8} (hw : bs.length = w) : order.decode bs < 256 ^ w := by
  subst hw
  cases order with
  | little => exact Bytes.value_lt bs
  | big => simpa [decode] using Bytes.value_lt bs.reverse

end ByteOrder
