import Mathlib.Data.List.Infix
import Mathlib.Logic.Function.Iterate
import Mathlib.Tactic.Common

/-!
# Counted loops on a machine integer

`countdown body n` is the loop `while (n--) body` on a signed 32-bit counter.
The test reads the counter before the decrement and only compares it with `0`,
so the sign is never looked at: the loop makes as many passes as the counter is
worth *unsigned* (`countdown_eq_iterate`). A count that is non-negative as an
`int` is that many passes (`countdown_of_nonneg`), a negative one wraps through
the whole range.
-/

namespace Countdown

variable {σ : Type*}

theorem pred_toNat_lt {n : Int32} (h : n ≠ 0) :
    (n - 1).toUInt32.toNat + 1 = n.toUInt32.toNat := by
  have hne : n.toUInt32 ≠ 0 := by
    intro h0
    exact h (by simpa using congrArg UInt32.toInt32 h0)
  have hpos : n.toUInt32.toNat ≠ 0 := fun h0 => hne (UInt32.toNat.inj h0)
  have hlt := n.toUInt32.toNat_lt
  -- the subtraction is the unsigned one, and does not wrap below a nonzero value
  have hsub : (n - 1).toUInt32 = n.toUInt32 - 1 := rfl
  have hone : (1 : UInt32).toNat = 1 := rfl
  rw [hsub, UInt32.toNat_sub, hone]
  omega

/-- `while (n--) body`, started in `s`. -/
def countdown (body : σ → σ) (n : Int32) (s : σ) : σ :=
  if n = 0 then s else countdown body (n - 1) (body s)
termination_by n.toUInt32.toNat
decreasing_by
  have := pred_toNat_lt ‹_›
  omega

variable (body : σ → σ)

@[simp] theorem countdown_zero (s : σ) : countdown body 0 s = s := by
  rw [countdown, if_pos rfl]

theorem countdown_of_ne_zero {n : Int32} (h : n ≠ 0) (s : σ) :
    countdown body n s = countdown body (n - 1) (body s) := by
  rw [countdown, if_neg h]

/-- The loop makes as many passes as its counter is worth unsigned. -/
theorem countdown_eq_iterate (n : Int32) (s : σ) :
    countdown body n s = body^[n.toUInt32.toNat] s := by
  induction n, s using countdown.induct body with
  | case1 s => rw [countdown_zero]; rfl
  | case2 n s hn ih =>
    rw [countdown_of_ne_zero body hn, ih, ← pred_toNat_lt hn, Function.iterate_succ_apply]

/-- The number of passes of a count that is non-negative as an `int`. -/
theorem toUInt32_toNat_of_nonneg {n : Int32} (h : 0 ≤ n.toInt) :
    n.toUInt32.toNat = n.toInt.toNat := by
  have hlt := n.toUInt32.toNat_lt
  change 0 ≤ n.toBitVec.toInt at h
  change n.toBitVec.toNat = n.toBitVec.toInt.toNat
  -- the two readings differ only where the sign bit is set
  rw [BitVec.toInt_eq_toNat_cond] at h ⊢
  split at h <;> split <;> omega

theorem countdown_of_nonneg {n : Int32} (h : 0 ≤ n.toInt) (s : σ) :
    countdown body n s = body^[n.toInt.toNat] s := by
  rw [countdown_eq_iterate, toUInt32_toNat_of_nonneg h]

/-- An unsigned value below `2 ^ 31` keeps its value as an `int`. -/
theorem toInt_toInt32_of_lt {u : UInt32} (h : u.toNat < 0x80000000) :
    u.toInt32.toInt = u.toNat := by
  change u.toBitVec.toInt = u.toBitVec.toNat
  rw [BitVec.toInt_eq_toNat_cond, if_pos]
  change 2 * u.toNat < 0x100000000
  omega

/-- A body that preserves `P` preserves it over the loop. -/
theorem countdown_induction {P : σ → Prop} (hbody : ∀ s, P s → P (body s)) (n : Int32) {s : σ}
    (hs : P s) : P (countdown body n s) := by
  induction n, s using countdown.induct body with
  | case1 s => simpa using hs
  | case2 n s hn ih =>
    rw [countdown_of_ne_zero body hn]
    exact ih (hbody s hs)

end Countdown
