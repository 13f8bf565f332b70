import Mathlib.Data.Finset.Card
import Mathlib.Data.Finset.Insert
import Mathlib.Data.List.Nodup

/-!
# Slot arrays

An array of `n` slots in which one value, the marker `z`, means *free*, used as
a set. Inserting writes to the first free slot, erasing turns every slot that
holds the value into a free one, so free slots may be anywhere.

What such an array stands for is a `BoundedSet`: at most `n` values, none of them
the marker. `Represents` relates the two, and each operation carries it
(`Represents.insert`, `Represents.erase`). The marker is a legal argument
of both operations and changes nothing, and a value that does not fit is dropped.
-/

namespace SlotArray

variable {α : Type*} [DecidableEq α]

/-- Write to the first free slot, unless the value is there already. -/
def insert (z k : α) (slots : List α) : List α :=
  if k ∈ slots then slots else slots.replace z k

/-- Free every slot that holds the value. -/
def erase (z k : α) (slots : List α) : List α := slots.map fun x => if x = k then z else x

/-- The values in the occupied slots, in slot order. -/
def occupied (z : α) (slots : List α) : List α := slots.filter (· ≠ z)

/-- A set of at most `n` values other than `z`. -/
structure BoundedSet (z : α) (n : ℕ) where
  elems : Finset α
  marker_notMem : z ∉ elems
  card_le : elems.card ≤ n

namespace BoundedSet

variable {z : α} {n : ℕ}

def empty : BoundedSet z n := ⟨∅, Finset.notMem_empty z, Nat.zero_le n⟩

/-- The value is a member, or may become one. -/
def Fits (S : BoundedSet z n) (k : α) : Prop := k ≠ z ∧ (k ∈ S.elems ∨ S.elems.card < n)

instance (S : BoundedSet z n) (k : α) : Decidable (S.Fits k) :=
  inferInstanceAs (Decidable (_ ∧ _))

theorem card_insert_le {S : BoundedSet z n} {k : α} (h : S.Fits k) :
    (Insert.insert k S.elems).card ≤ n := by
  obtain ⟨-, hmem | hlt⟩ := h
  · rw [Finset.insert_eq_of_mem hmem]
    exact S.card_le
  · exact (Finset.card_insert_le k S.elems).trans hlt

/-- Add a value that fits. -/
def insert (S : BoundedSet z n) (k : α) : BoundedSet z n :=
  if h : S.Fits k then
    ⟨Insert.insert k S.elems, by
      rw [Finset.mem_insert]
      rintro (rfl | hz)
      · exact h.1 rfl
      · exact S.marker_notMem hz,
      card_insert_le h⟩
  else S

def erase (S : BoundedSet z n) (k : α) : BoundedSet z n :=
  ⟨S.elems.erase k, fun h => S.marker_notMem (Finset.mem_of_mem_erase h),
    (Finset.card_erase_le).trans S.card_le⟩

theorem mem_insert (S : BoundedSet z n) (k x : α) :
    x ∈ (S.insert k).elems ↔ x ∈ S.elems ∨ x = k ∧ S.Fits k := by
  unfold insert
  split
  · next h => simp [h, or_comm]
  · next h => simp [h]

theorem mem_erase (S : BoundedSet z n) (k x : α) :
    x ∈ (S.erase k).elems ↔ x ≠ k ∧ x ∈ S.elems := Finset.mem_erase

end BoundedSet

/-! ### The operations on slots -/

section Slots

variable (z k : α) (slots : List α)

/-- A value that is not there goes between the slots before the first free one
and those after it. -/
theorem insert_append {k : α} {before after : List α} (hbefore : z ∉ before)
    (hk : k ∉ before ++ z :: after) :
    insert z k (before ++ z :: after) = before ++ k :: after := by
  rw [insert, if_neg hk, List.replace_append_right hbefore, List.replace_cons_self]

/-- Where no slot is free, nothing is inserted. -/
theorem insert_of_full {slots : List α} (h : z ∉ slots) : insert z k slots = slots := by
  rw [insert, List.replace_of_not_mem h, ite_self]

theorem insert_of_mem {k : α} {slots : List α} (h : k ∈ slots) : insert z k slots = slots :=
  if_pos h

/-- The marker is found in any array that has room. -/
theorem insert_marker : insert z z slots = slots := by
  -- where a slot is free the marker is found, and elsewhere nothing is inserted
  by_cases h : z ∈ slots
  · exact insert_of_mem z h
  · exact insert_of_full z z h

theorem erase_of_notMem {k : α} {slots : List α} (h : k ∉ slots) : erase z k slots = slots := by
  have hid : ∀ x ∈ slots, (if x = k then z else x) = id x := by
    intro x hx
    rw [if_neg]
    · rfl
    · rintro rfl
      exact h hx
  calc erase z k slots = slots.map id := List.map_congr_left hid
    _ = slots := List.map_id slots

theorem erase_marker : erase z z slots = slots := by
  have hid : ∀ x ∈ slots, (if x = z then z else x) = id x := by
    intro x _
    split
    · next h => exact h.symm
    · rfl
  calc erase z z slots = slots.map id := List.map_congr_left hid
    _ = slots := List.map_id slots

@[simp] theorem length_insert : (insert z k slots).length = slots.length := by
  unfold insert
  split
  · rfl
  · exact List.length_replace

@[simp] theorem length_erase : (erase z k slots).length = slots.length := List.length_map _

/-- Erasing does nothing to the slots that hold another value. -/
theorem getElem?_erase (i : ℕ) :
    (erase z k slots)[i]? = slots[i]?.map fun x => if x = k then z else x := by
  rw [erase, List.getElem?_map]

/-- **Undo**: erasing a value that has just been inserted restores every slot. -/
theorem erase_insert {k : α} {slots : List α} (hfree : z ∈ slots) (hk : k ∉ slots) :
    erase z k (insert z k slots) = slots := by
  obtain ⟨before, after, rfl, hbefore⟩ := List.eq_append_cons_of_mem hfree
  -- the slots around the new value hold other values, and it goes back to the marker
  have hk' : k ∉ before ∧ k ≠ z ∧ k ∉ after := by simpa using hk
  have hb := erase_of_notMem z hk'.1
  have ha := erase_of_notMem z hk'.2.2
  calc erase z k (insert z k (before ++ z :: after))
      = erase z k (before ++ k :: after) := by rw [insert_append z hbefore hk]
    _ = erase z k before ++ z :: erase z k after := by
        rw [erase, List.map_append, List.map_cons, if_pos rfl]
        rfl
    _ = before ++ z :: after := by rw [hb, ha]

/-- Who is there after an insertion. -/
theorem mem_insert {k x : α} {slots : List α} (hx : x ≠ z) :
    x ∈ insert z k slots ↔ x ∈ slots ∨ x = k ∧ z ∈ slots := by
  -- there already, added to a free slot, or dropped
  by_cases hk : k ∈ slots
  · rw [insert_of_mem z hk]
    constructor
    · exact Or.inl
    · rintro (h | ⟨rfl, -⟩)
      · exact h
      · exact hk
  · by_cases hfree : z ∈ slots
    · obtain ⟨before, after, rfl, hbefore⟩ := List.eq_append_cons_of_mem hfree
      rw [insert_append z hbefore hk]
      simp only [List.mem_append, List.mem_cons, hx, false_or, true_or, or_true, and_true]
      tauto
    · rw [insert_of_full z k hfree]
      simp [hfree]

theorem mem_erase {k x : α} {slots : List α} (hx : x ≠ z) :
    x ∈ erase z k slots ↔ x ≠ k ∧ x ∈ slots := by
  rw [erase, List.mem_map]
  constructor
  · rintro ⟨y, hy, hyx⟩
    split at hyx
    · exact absurd hyx.symm hx
    · next hne =>
      subst hyx
      exact ⟨hne, hy⟩
  · rintro ⟨hne, hmem⟩
    exact ⟨x, hmem, if_neg hne⟩

/-- What is left in the slots is what was there without `k`. -/
theorem occupied_erase : occupied z (erase z k slots) = (occupied z slots).filter (· ≠ k) := by
  induction slots with
  | nil => rfl
  | cons x rest ih =>
    simp only [occupied, erase] at ih
    simp only [occupied, erase, List.map_cons, List.filter_cons, ih]
    -- a slot that is freed was occupied by `k`, or was free before
    by_cases hk : x = k
    · subst hk
      by_cases hz : x = z <;> simp [hz]
    · by_cases hz : x = z <;> simp [hz, hk]

end Slots

/-! ### Slots and sets -/

variable {z : α} {n : ℕ} {slots : List α} {S : BoundedSet z n}

/-- The slots hold the members of the set, each in one slot. -/
structure Represents (slots : List α) (S : BoundedSet z n) : Prop where
  length : slots.length = n
  nodup : (occupied z slots).Nodup
  mem : ∀ k, k ≠ z → (k ∈ slots ↔ k ∈ S.elems)

theorem mem_occupied {k : α} : k ∈ occupied z slots ↔ k ≠ z ∧ k ∈ slots := by
  simp [occupied, and_comm]

theorem Represents.toFinset_occupied (h : Represents slots S) :
    (occupied z slots).toFinset = S.elems := by
  ext k
  rw [List.mem_toFinset, mem_occupied]
  constructor
  · rintro ⟨hk, hmem⟩
    exact (h.mem k hk).mp hmem
  · intro hmem
    -- a member of the set is not the marker
    have hk : k ≠ z := fun heq => S.marker_notMem (heq ▸ hmem)
    exact ⟨hk, (h.mem k hk).mpr hmem⟩

/-- As many slots are occupied as the set has members. -/
theorem Represents.length_occupied (h : Represents slots S) :
    (occupied z slots).length = S.elems.card := by
  rw [← h.toFinset_occupied, List.toFinset_card_of_nodup h.nodup]

/-- A slot is free exactly if the set is not full. -/
theorem Represents.marker_mem_iff (h : Represents slots S) : z ∈ slots ↔ S.elems.card < n := by
  rw [← h.length_occupied, ← h.length, occupied, List.length_filter_lt_length_iff_exists]
  simp

/-- A value fits exactly if it is there, or there is a free slot. -/
theorem Represents.fits_iff (h : Represents slots S) (k : α) :
    S.Fits k ↔ k ≠ z ∧ (k ∈ slots ∨ z ∈ slots) := by
  rw [BoundedSet.Fits, h.marker_mem_iff]
  constructor
  · rintro ⟨hk, hmem⟩
    exact ⟨hk, hmem.imp_left (h.mem k hk).mpr⟩
  · rintro ⟨hk, hmem⟩
    exact ⟨hk, hmem.imp_left (h.mem k hk).mp⟩

/-- An array of free slots is the empty set. -/
theorem represents_replicate (z : α) (n : ℕ) :
    Represents (List.replicate n z) (BoundedSet.empty : BoundedSet z n) where
  length := List.length_replicate
  nodup := by simp [occupied]
  mem k hk := by simp [BoundedSet.empty, hk]

/-- A value that does not fit changes no slot. -/
theorem Represents.insert_eq_self (h : Represents slots S) {k : α} (hk : ¬ S.Fits k) :
    SlotArray.insert z k slots = slots := by
  rw [h.fits_iff, not_and_or, not_not] at hk
  rcases hk with rfl | hk
  · exact insert_marker k slots
  · exact insert_of_full z k fun hz => hk (Or.inr hz)

theorem Represents.insert (h : Represents slots S) (k : α) :
    Represents (SlotArray.insert z k slots) (S.insert k) := by
  by_cases hfits : S.Fits k
  · refine ⟨(length_insert z k slots).trans h.length, ?_, ?_⟩
    · by_cases hk : k ∈ slots
      · rw [insert_of_mem z hk]
        exact h.nodup
      · -- the new value stands where the first free slot was
        have hfree : z ∈ slots := (((h.fits_iff k).mp hfits).2).resolve_left hk
        obtain ⟨before, after, rfl, hbefore⟩ := List.eq_append_cons_of_mem hfree
        have hnodup := h.nodup
        rw [insert_append z hbefore hk]
        simp only [occupied, List.filter_append, List.filter_cons] at hnodup ⊢
        rw [if_neg (by simp)] at hnodup
        rw [if_pos (by simpa using hfits.1), List.nodup_middle, List.nodup_cons]
        refine ⟨?_, hnodup⟩
        intro hmem
        rw [← List.filter_append] at hmem
        have hk' : k ∈ before ++ after := (List.mem_filter.mp hmem).1
        apply hk
        rw [List.mem_append, List.mem_cons]
        exact (List.mem_append.mp hk').imp_right Or.inr
    · intro x hx
      rw [mem_insert z hx, BoundedSet.mem_insert, h.mem x hx]
      constructor
      · exact Or.imp_right fun hxk => ⟨hxk.1, hfits⟩
      · rintro (hmem | ⟨rfl, -⟩)
        · exact Or.inl hmem
        · rcases ((h.fits_iff x).mp hfits).2 with hmem | hfree
          · exact Or.inl ((h.mem x hx).mp hmem)
          · exact Or.inr ⟨rfl, hfree⟩
  · rw [h.insert_eq_self hfits, BoundedSet.insert, dif_neg hfits]
    exact h

theorem Represents.erase (h : Represents slots S) (k : α) :
    Represents (SlotArray.erase z k slots) (S.erase k) := by
  refine ⟨(length_erase z k slots).trans h.length, ?_, ?_⟩
  · rw [occupied_erase]
    exact h.nodup.filter _
  · intro x hx
    rw [mem_erase z hx, BoundedSet.mem_erase, h.mem x hx]

end SlotArray
