import Mathlib.Data.List.Basic
import Mathlib.Tactic.Common

/-!
# HID input reports

`Global/HIDReport.hpp`: the 32-slot key array `keys` and the two input reports
that carry one, and the usages of `Global/HIDUsageTables.h` the driver
dispatches.

A slot holding `0` is free, and `0` is a legal argument of every operation, so
`insert 0` and `erase 0` are defined like any other call. What the driver's
loops rely on is `Keys.insert_new` and `Keys.erase_single`: pressing a nonzero
key on a free array occupies exactly one slot, and releasing it frees the array
again.
-/

namespace AsusSMC

/-- The key array of an input report: 32 slots. -/
structure Keys where
  raw : List UInt8
  length_raw : raw.length = 32
  deriving DecidableEq, Repr

namespace Keys

/-- A fresh array: every slot is free. -/
def new : Keys := ⟨List.replicate 32 0, rfl⟩

/-- `exists(key)`. -/
def existsKey (ks : Keys) (key : UInt8) : Bool := ks.raw.contains key

def empty (ks : Keys) : Bool := ks.raw.all (· == 0)

def clear (_ : Keys) : Keys := new

/-- `insert(key)`: unless the key is there already, it goes to the first free
slot. -/
def insert (ks : Keys) (key : UInt8) : Keys :=
  if ks.existsKey key then ks
  -- `replace` rewrites the first slot that holds `0`, and none if the array is full
  else ⟨ks.raw.replace 0 key, by rw [List.length_replace, ks.length_raw]⟩

/-- `erase(key)`: every slot holding the key is freed. -/
def erase (ks : Keys) (key : UInt8) : Keys :=
  ⟨ks.raw.map fun k => if k == key then 0 else k, by rw [List.length_map, ks.length_raw]⟩

def count (ks : Keys) : Nat := ks.raw.countP (· != 0)

theorem ext {ks ls : Keys} (h : ks.raw = ls.raw) : ks = ls := by
  cases ks
  cases ls
  cases h
  rfl

/-- The keys of the occupied slots, in slot order. -/
def pressed (ks : Keys) : List UInt8 := ks.raw.filter (· != 0)

@[simp] theorem pressed_new : new.pressed = [] := by decide

/-- All slots are free exactly when no key is pressed. -/
theorem pressed_eq_nil_iff {ks : Keys} : ks.pressed = [] ↔ ks = new := by
  constructor
  · intro h
    have hzero : ∀ k ∈ ks.raw, k = 0 := by
      simpa [pressed, List.filter_eq_nil_iff] using h
    exact ext (List.eq_replicate_iff.mpr ⟨ks.length_raw, hzero⟩)
  · rintro rfl
    exact pressed_new

/-- The array with one key, in the first slot. -/
def single (key : UInt8) : Keys := ⟨key :: List.replicate 31 0, rfl⟩

/-- Pressing a nonzero key on a free array occupies the first slot. -/
theorem insert_new {key : UInt8} (h : key ≠ 0) : new.insert key = single key := by
  have hfree : new.existsKey key = false := by simp [existsKey, new, h]
  rw [insert, hfree, if_neg Bool.false_ne_true]
  rfl

/-- Releasing the only pressed key frees the array. -/
theorem erase_single (key : UInt8) : (single key).erase key = new := by
  refine pressed_eq_nil_iff.mp ?_
  rw [pressed, erase, single]
  simp

end Keys

/-- An input report: the id byte and the keys. `consumer_input` and
`apple_vendor_top_case_input` differ in the id their constructors set. -/
structure Report where
  reportId : UInt8
  keys : Keys
  deriving DecidableEq, Repr

/-- `consumer_input()`. -/
def consumerInput : Report := ⟨2, Keys.new⟩

/-- `apple_vendor_top_case_input()`. -/
def appleVendorTopCaseInput : Report := ⟨3, Keys.new⟩

/-- `sizeof` of either report: the id byte and 32 slots. -/
def Report.size : Nat := 33

/-! ### Usages of the AppleVendor top case page -/

def kHIDUsage_AV_TopCase_BrightnessUp : Int32 := 0x0004
def kHIDUsage_AV_TopCase_BrightnessDown : Int32 := 0x0005
def kHIDUsage_AV_TopCase_VideoMirror : Int32 := 0x0006
def kHIDUsage_AV_TopCase_IlluminationUp : Int32 := 0x0008
def kHIDUsage_AV_TopCase_IlluminationDown : Int32 := 0x0009

/-- The implicit conversion of an `int` key code to `uint8_t`. -/
def keyByte (code : Int32) : UInt8 := code.toUInt32.toUInt8

/-- A code that fits a byte is not narrowed to `0`. -/
theorem keyByte_ne_zero {code : Int32} (hpos : 0 < code.toInt) (hlt : code.toInt < 256) :
    keyByte code ≠ 0 := by
  intro h
  have hnat : code.toUInt32.toNat % 256 = 0 := by
    have := congrArg UInt8.toNat h
    simpa [keyByte] using this
  -- below `256` the unsigned value is the signed one, and its own residue
  have hcond : code.toInt = if 2 * code.toUInt32.toNat < 2 ^ 32
      then (code.toUInt32.toNat : Int) else code.toUInt32.toNat - (2 ^ 32 : ℕ) :=
    BitVec.toInt_eq_toNat_cond _
  split at hcond <;> omega

end AsusSMC
