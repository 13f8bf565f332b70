import AsusSMC.Framework.EventSystem
import AsusSMC.Framework.SlotArray
import AsusSMC.Model.HIDReport

/-!
# The key array is a set

The key array of a report against what it stands for: a set of at most 32
nonzero bytes (`KeySet`). Every run of `insert`, `erase` and `clear` from a fresh
array keeps the two together (`keys_refine_set`), whatever bytes the calls are
given.

The array is a slot array with the marker `0` (`Framework/SlotArray`); this module
says that its operations are the slot operations, and what a caller of `exists`,
`count` and `empty` sees.
-/

namespace AsusSMC

open EventSystem

/-- What a key array stands for. -/
abbrev KeySet := SlotArray.BoundedSet (0 : UInt8) 32

/-- The calls that change a key array. -/
inductive KeyOp
  | insert (key : UInt8)
  | erase (key : UInt8)
  | clear
  deriving DecidableEq, Repr

def Keys.step (ks : Keys) : KeyOp → Keys
  | .insert key => ks.insert key
  | .erase key => ks.erase key
  | .clear => ks.clear

def KeySet.step (S : KeySet) : KeyOp → KeySet
  | .insert key => S.insert key
  | .erase key => S.erase key
  | .clear => .empty

namespace Keys

variable {ks : Keys} {S : KeySet}

/-- The array holds the members of the set, each in one slot. -/
def Represents (ks : Keys) (S : KeySet) : Prop := SlotArray.Represents ks.raw S

/-- What a caller sees of the array is what the set says. -/
structure Shows (ks : Keys) (S : KeySet) : Prop where
  pressed_nodup : ks.pressed.Nodup
  existsKey_iff : ∀ key, key ≠ 0 → (ks.existsKey key = true ↔ key ∈ S.elems)
  count_eq : ks.count = S.elems.card
  empty_iff : ks.empty = true ↔ S.elems = ∅

/-- What the next call does to the slots. -/
structure NextCall (ks : Keys) (S : KeySet) : Prop where
  insert_of_not_fits : ∀ key, ¬ S.Fits key → ks.insert key = ks
  erase_slot : ∀ (key : UInt8) (i : ℕ) (b : UInt8), ks.raw[i]? = some b →
    (ks.erase key).raw[i]? = some (if b = key then 0 else b)
  insert_zero : ks.insert 0 = ks
  erase_zero : ks.erase 0 = ks
  erase_insert : ∀ key, key ∉ S.elems → S.Fits key → (ks.insert key).erase key = ks

/-! ### The operations are slot operations -/

theorem raw_insert (ks : Keys) (key : UInt8) :
    (ks.insert key).raw = SlotArray.insert 0 key ks.raw := by
  simp only [insert, existsKey, SlotArray.insert, List.contains_iff_mem]
  split <;> rfl

theorem raw_erase (ks : Keys) (key : UInt8) :
    (ks.erase key).raw = SlotArray.erase 0 key ks.raw := by
  simp only [erase, SlotArray.erase, beq_iff_eq]

theorem pressed_eq (ks : Keys) : ks.pressed = SlotArray.occupied 0 ks.raw := by
  refine List.filter_congr fun x _ => ?_
  by_cases hx : x = 0 <;> simp [hx]

theorem represents_step (h : ks.Represents S) (op : KeyOp) :
    (ks.step op).Represents (S.step op) := by
  cases op with
  | insert key =>
    rw [Represents, step, raw_insert]
    exact h.insert key
  | erase key =>
    rw [Represents, step, raw_erase]
    exact h.erase key
  | clear => exact SlotArray.represents_replicate 0 32

theorem represents_run (ops : List KeyOp) :
    (run step new ops).Represents (run KeySet.step SlotArray.BoundedSet.empty ops) := by
  -- the relation holds of the fresh array, and each call carries it
  have hnew : new.Represents SlotArray.BoundedSet.empty := SlotArray.represents_replicate 0 32
  exact run_related Represents hnew (fun _ _ op h => represents_step h op) ops

/-! ### What a caller sees -/

theorem Represents.shows (h : ks.Represents S) : ks.Shows S where
  pressed_nodup := by
    rw [pressed_eq]
    exact h.nodup
  existsKey_iff key hkey := by
    rw [existsKey, List.contains_iff_mem]
    exact h.mem key hkey
  count_eq := by
    rw [count, List.countP_eq_length_filter]
    exact (congrArg List.length (pressed_eq ks)).trans h.length_occupied
  empty_iff := by
    rw [← Finset.card_eq_zero, ← h.length_occupied, ← pressed_eq, List.length_eq_zero_iff]
    simp [empty, pressed, List.filter_eq_nil_iff]

theorem Represents.nextCall (h : ks.Represents S) : ks.NextCall S where
  insert_of_not_fits key hkey := by
    apply ext
    rw [raw_insert]
    exact h.insert_eq_self hkey
  erase_slot key i b hb := by
    rw [raw_erase, SlotArray.getElem?_erase, hb]
    rfl
  insert_zero := by
    apply ext
    rw [raw_insert, SlotArray.insert_marker]
  erase_zero := by
    apply ext
    rw [raw_erase, SlotArray.erase_marker]
  erase_insert key hkey hfits := by
    apply ext
    rw [raw_erase, raw_insert]
    -- the key fits and is no member, so a slot is free for it
    have hnew : key ∉ ks.raw := fun hmem => hkey ((h.mem key hfits.1).mp hmem)
    exact SlotArray.erase_insert 0 ((((h.fits_iff key).mp hfits).2).resolve_left hnew) hnew

/-- **The keys report is a bounded set.** After every sequence of calls on a fresh
array, the array shows the set the same calls make of the empty set, and the next
call changes the slots as the set says. -/
theorem keys_refine_set (ops : List KeyOp) :
    let ks := run step new ops
    let S := run KeySet.step SlotArray.BoundedSet.empty ops
    ks.Shows S ∧ ks.NextCall S :=
  ⟨(represents_run ops).shows, (represents_run ops).nextCall⟩

end Keys

end AsusSMC
