import AsusSMC.Framework.LittleEndian
import Mathlib.Data.Nat.Bitwise

/-!
# Big-endian words

The number a byte list stands for when its most significant byte comes first,
and the facts about shifts and masks by which a byte swap is taken apart: a mask
of one byte selects a digit to the base 256 (`and_byte`), and a disjunction of
digits at their places is their sum (`or_shiftLeft`).
-/

namespace BigEndian

/-- The number a byte list stands for, most significant byte first. -/
def value (bs : List UInt8) : ℕ := LittleEndian.value bs.reverse

/-- The byte that is least significant in memory is most significant here. -/
theorem value_bytes_succ (w n : ℕ) :
    value (LittleEndian.bytes (w + 1) n)
      = n % 256 * 256 ^ w + value (LittleEndian.bytes w (n / 256)) := by
  have hbyte : (UInt8.ofNat n).toNat = n % 256 := UInt8.toNat_ofNat'
  rw [value, LittleEndian.bytes, List.reverse_cons, LittleEndian.value_append, List.length_reverse,
    LittleEndian.length_bytes]
  simp only [LittleEndian.value, hbyte, value]
  ring

@[simp] theorem value_bytes_zero (n : ℕ) : value (LittleEndian.bytes 0 n) = 0 := rfl

/-- **Swapping twice** gives the word back. -/
theorem value_bytes_value (w n : ℕ) :
    value (LittleEndian.bytes w (value (LittleEndian.bytes w n))) = n % 256 ^ w := by
  have hlength : (LittleEndian.bytes w n).reverse.length = w := by simp
  -- the bytes of a big-endian word are those of the word, reversed
  have hreverse : LittleEndian.bytes w (value (LittleEndian.bytes w n))
      = (LittleEndian.bytes w n).reverse := by
    have h := LittleEndian.bytes_value (LittleEndian.bytes w n).reverse
    rwa [hlength] at h
  calc value (LittleEndian.bytes w (value (LittleEndian.bytes w n)))
      = LittleEndian.value (LittleEndian.bytes w n) := by
        rw [hreverse, value, List.reverse_reverse]
    _ = n % 256 ^ w := LittleEndian.value_bytes w n

/-- A mask of one byte selects a digit to the base 256. -/
theorem and_byte (n k : ℕ) :
    n &&& (255 <<< (8 * k)) = (n / 2 ^ (8 * k) % 256) <<< (8 * k) := by
  have hmask : 255 = 2 ^ 8 - 1 := rfl
  have hbase : 256 = 2 ^ 8 := rfl
  apply Nat.eq_of_testBit_eq
  intro i
  rw [Nat.testBit_and, Nat.testBit_shiftLeft, Nat.testBit_shiftLeft, hmask, hbase,
    Nat.testBit_mod_two_pow, Nat.testBit_two_pow_sub_one, Nat.testBit_div_two_pow]
  by_cases hi : 8 * k ≤ i
  · simp [hi, Bool.and_comm]
  · simp [hi]

/-- A digit at its place, over a smaller number; `p` is what the place is worth. -/
theorem or_shiftLeft {low k p : ℕ} (high : ℕ) (hp : p = 2 ^ k) (hlow : low < p) :
    low ||| high <<< k = high * p + low := by
  subst hp
  rw [Nat.or_comm, ← Nat.shiftLeft_add_eq_or_of_lt hlow, Nat.shiftLeft_eq]

/-- Four digits at their places. -/
theorem or_digits {a b c : ℕ} (d : ℕ) (ha : a < 256) (hb : b < 256) (hc : c < 256) :
    a ||| b <<< 8 ||| c <<< 16 ||| d <<< 24 = d * 16777216 + (c * 65536 + (b * 256 + a)) := by
  -- what stands below a digit is smaller than its place is worth
  obtain ⟨hb', hc'⟩ : b * 256 + a < 65536 ∧ c * 65536 + (b * 256 + a) < 16777216 := by
    constructor <;> omega
  rw [or_shiftLeft b (by norm_num) ha, or_shiftLeft c (by norm_num) hb',
    or_shiftLeft d (by norm_num) hc']

end BigEndian
