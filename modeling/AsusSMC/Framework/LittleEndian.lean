import Mathlib.Algebra.Order.Ring.Nat
import Mathlib.Tactic.Ring
import Mathlib.Tactic.Common

/-!
# Little-endian words

The memory image of a fixed-width word on a little-endian machine, as a byte
list: `bytes w n` are the `w` bytes of `n`, least significant first, and `value`
reads a byte list back. Reading what was written gives the word back modulo
`256 ^ w` (`value_bytes`).

`ofInt` and `toInt` are the instance at the C type `int` (32 bits, two's
complement); `toInt_ofInt` is the round trip that two programs on one machine
rely on when one copies an `int` into a buffer and the other casts the buffer.
-/

namespace LittleEndian

/-- The `w` bytes of `n`, least significant first. -/
def bytes : ℕ → ℕ → List UInt8
  | 0, _ => []
  | w + 1, n => UInt8.ofNat n :: bytes w (n / 256)

/-- The number a byte list stands for. -/
def value : List UInt8 → ℕ
  | [] => 0
  | b :: bs => b.toNat + 256 * value bs

@[simp] theorem length_bytes (w n : ℕ) : (bytes w n).length = w := by
  induction w generalizing n with
  | zero => rfl
  | succ w ih => simp only [bytes, List.length_cons, ih]

/-- Reading back what was written. -/
theorem value_bytes (w n : ℕ) : value (bytes w n) = n % 256 ^ w := by
  induction w generalizing n with
  | zero => simp [bytes, value, Nat.mod_one]
  | succ w ih =>
    have hhead : (UInt8.ofNat n).toNat = n % 256 := UInt8.toNat_ofNat'
    rw [bytes, value, ih, hhead, pow_succ', Nat.mod_mul]

theorem value_bytes_of_lt {w n : ℕ} (h : n < 256 ^ w) : value (bytes w n) = n := by
  rw [value_bytes, Nat.mod_eq_of_lt h]

/-- A byte list is the bytes of the number it stands for. -/
theorem bytes_value (bs : List UInt8) : bytes bs.length (value bs) = bs := by
  induction bs with
  | nil => rfl
  | cons b bs ih =>
    have hb := b.toNat_lt
    have hhead : UInt8.ofNat (b.toNat + 256 * value bs) = b := by
      apply UInt8.toNat.inj
      rw [UInt8.toNat_ofNat', Nat.add_mul_mod_self_left, Nat.mod_eq_of_lt hb]
    have htail : (b.toNat + 256 * value bs) / 256 = value bs := by omega
    rw [List.length_cons, value, bytes, hhead, htail, ih]

theorem value_lt (bs : List UInt8) : value bs < 256 ^ bs.length := by
  induction bs with
  | nil => simp [value]
  | cons b bs ih =>
    have hb := b.toNat_lt
    rw [value, List.length_cons, pow_succ']
    omega

/-- The bytes of two lists: those of the second weigh more. -/
theorem value_append (bs cs : List UInt8) :
    value (bs ++ cs) = value bs + 256 ^ bs.length * value cs := by
  induction bs with
  | nil => simp [value]
  | cons b bs ih =>
    simp only [List.cons_append, value, ih, List.length_cons]
    ring

/-- The memory image of an unsigned 32-bit word. -/
def ofWord (u : UInt32) : List UInt8 := bytes 4 u.toNat

/-- The unsigned 32-bit word stored in the first four bytes. -/
def toWord (bs : List UInt8) : UInt32 := UInt32.ofNat (value (bs.take 4))

@[simp] theorem length_ofWord (u : UInt32) : (ofWord u).length = 4 := length_bytes 4 _

theorem toWord_ofWord_append (u : UInt32) (bs : List UInt8) : toWord (ofWord u ++ bs) = u := by
  have htake : (ofWord u ++ bs).take 4 = ofWord u := List.take_left' (length_ofWord u)
  rw [toWord, htake, ofWord, value_bytes_of_lt u.toNat_lt, UInt32.ofNat_toNat]

theorem toWord_ofWord (u : UInt32) : toWord (ofWord u) = u := by
  have h := toWord_ofWord_append u []
  rwa [List.append_nil] at h

/-- The word is in the first four bytes. -/
theorem toWord_take {n : ℕ} (hn : 4 ≤ n) (bs : List UInt8) : toWord (bs.take n) = toWord bs := by
  rw [toWord, toWord, List.take_take, min_eq_left hn]

/-- The memory image of an `int`. -/
def ofInt (i : Int32) : List UInt8 := ofWord i.toUInt32

/-- The `int` stored in the first four bytes. -/
def toInt (bs : List UInt8) : Int32 := (toWord bs).toInt32

@[simp] theorem length_ofInt (i : Int32) : (ofInt i).length = 4 := length_ofWord _

/-- **Round trip**: the cast recovers the `int` the bytes were copied from. -/
theorem toInt_ofInt_append (i : Int32) (bs : List UInt8) : toInt (ofInt i ++ bs) = i := by
  rw [toInt, ofInt, toWord_ofWord_append]
  rfl

theorem toInt_ofInt (i : Int32) : toInt (ofInt i) = i := by
  have h := toInt_ofInt_append i []
  rwa [List.append_nil] at h

theorem toInt_take {n : ℕ} (hn : 4 ≤ n) (bs : List UInt8) : toInt (bs.take n) = toInt bs :=
  congrArg UInt32.toInt32 (toWord_take hn bs)

theorem drop_ofWord_append (u : UInt32) (bs : List UInt8) : (ofWord u ++ bs).drop 4 = bs :=
  List.drop_left' (length_ofWord u)

theorem drop_ofInt_append (i : Int32) (bs : List UInt8) : (ofInt i ++ bs).drop 4 = bs :=
  List.drop_left' (length_ofInt i)

end LittleEndian
