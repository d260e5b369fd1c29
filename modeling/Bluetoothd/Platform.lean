import Bluetoothd.Lib.Bytes

/-!
# The target machine

The daemon is compiled for 32-bit and 64-bit targets of either byte order. Everything it computes
in `unsigned long` or `size_t` (both the size of a pointer there) is computed modulo
`ulongSize = 2 ^ w`. Its callers of `malloc` clear `errno` before the call and test it afterwards, in
place of the pointer.
-/

namespace Bluetoothd

/-- What the compilation target fixes: the byte order and `sizeof(unsigned long)`. -/
class Platform where
  byteOrder : ByteOrder
  wordBytes : Nat
  wordBytes_eq : wordBytes = 4 ∨ wordBytes = 8

namespace Platform

/-- The 64-bit little-endian targets. -/
@[reducible] def lp64 : Platform := ⟨.little, 8, .inr rfl⟩

/-- The 32-bit little-endian targets. -/
@[reducible] def ilp32 : Platform := ⟨.little, 4, .inl rfl⟩

variable [Platform]

/-- The number of values of an `unsigned long`. -/
def ulongSize : Nat := 256 ^ wordBytes

theorem wordBytes_ge : 4 ≤ wordBytes := by
  rcases wordBytes_eq with h | h <;> omega

theorem ulongSize_ge : 2 ^ 32 ≤ ulongSize :=
  Nat.pow_le_pow_right (n := 256) (by norm_num) wordBytes_ge

/-- `a + b` in `unsigned long`. -/
def uadd (a b : Nat) : Nat := (a + b) % ulongSize

/-- `a - b` in `unsigned long`. -/
def usub (a b : Nat) : Nat := (a + (ulongSize - b % ulongSize)) % ulongSize

/-- An `unsigned long` converted to `long`. -/
def toLong (n : Nat) : Int := if 2 * n < ulongSize then n else n - ulongSize

theorem uadd_of_lt {a b : Nat} (h : a + b < ulongSize) : uadd a b = a + b := Nat.mod_eq_of_lt h

theorem uadd_lt_of_wrap {a b : Nat} (ha : a < ulongSize) (hb : b < ulongSize)
    (h : ulongSize ≤ a + b) : uadd a b < a := by
  rw [uadd, Nat.mod_eq_sub_mod h, Nat.mod_eq_of_lt (by omega)]
  omega

theorem usub_of_le {a b : Nat} (hb : b ≤ a) (ha : a < ulongSize) : usub a b = a - b := by
  rw [usub, Nat.mod_eq_of_lt (lt_of_le_of_lt hb ha),
    show a + (ulongSize - b) = (a - b) + ulongSize by omega, Nat.add_mod_right,
    Nat.mod_eq_of_lt (lt_of_le_of_lt (Nat.sub_le a b) ha)]

theorem usub_of_lt {a b : Nat} (hab : a < b) (hb : b < ulongSize) :
    usub a b = ulongSize - (b - a) := by
  rw [usub, Nat.mod_eq_of_lt hb, Nat.mod_eq_of_lt (by omega)]
  omega

theorem toLong_of_lt {n : Nat} (h : n < 2 ^ 31) : toLong n = n := by
  have hsize := ulongSize_ge
  rw [toLong, if_pos (by omega)]

end Platform

/-- What a call of `malloc` does: it fails and sets `errno`, or returns a block, with `errno` set as
well or not. -/
inductive Malloc (α : Type) where
  | failed
  | block (a : α) (errno : Bool)

def Malloc.pointer {α : Type} : Malloc α → Option α
  | .failed => none
  | .block a _ => some a

/-- The block that is left to a caller which takes `errno` for the failure. One that comes with `errno`
set is lost. -/
def Malloc.obtained {α : Type} : Malloc α → Option α
  | .failed => none
  | .block a errno => if errno then none else some a

end Bluetoothd
