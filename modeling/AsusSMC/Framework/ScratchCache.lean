import Mathlib.Data.List.Basic
import Mathlib.Tactic.Common

/-!
# A cache that is its own scratch space

A cell remembers the last value that passed a test. A lookup tests the cell first. If
the cell fails, the lookup writes one candidate after the other into it, up to the first
that passes, so that a lookup in vain leaves the last candidate in the cell.

The test may be another one at each lookup. `Outcome` says what a lookup can do
(`lookup_outcome`), and `Known` what the cell can hold: a blank value, or one of the
candidates. Every lookup keeps this (`Outcome.known`). As long as the blank value never
passes, what such a cell holds does not decide whether something is found
(`Outcome.found_iff_of_known`).
-/

namespace ScratchCache

variable {α : Type*}

/-- Write candidates into the cell, up to the first that passes. -/
def probe (p : α → Bool) : List α → α → Bool × α
  | [], cell => (false, cell)
  | c :: cands, _ => if p c then (true, c) else probe p cands c

/-- Test the cell, and probe the candidates if it fails. -/
def lookup (p : α → Bool) (cands : List α) (cell : α) : Bool × α :=
  if p cell then (true, cell) else probe p cands cell

/-- The cell holds the blank value or a candidate. -/
def Known (blank : α) (cands : List α) (cell : α) : Prop := cell = blank ∨ cell ∈ cands

/-- What a lookup can do. -/
inductive Outcome (p : α → Bool) (cands : List α) (cell : α) : Bool × α → Prop
  | cached : p cell = true → Outcome p cands cell (true, cell)
  | found (before : List α) (c : α) (after : List α) :
      p cell = false → cands = before ++ c :: after → (∀ b ∈ before, p b = false) →
      p c = true → Outcome p cands cell (true, c)
  | missing :
      p cell = false → (∀ c ∈ cands, p c = false) →
      Outcome p cands cell (false, cands.getLastD cell)

section Lookup

variable {p : α → Bool} {cands : List α} {cell : α}

/-- A candidate that fails is overwritten by the next one. -/
theorem probe_append {before : List α} (h : ∀ b ∈ before, p b = false) (rest : List α) :
    probe p (before ++ rest) cell = probe p rest (before.getLastD cell) := by
  induction before generalizing cell with
  | nil => rfl
  | cons b before ih =>
    obtain ⟨hb, hrest⟩ := List.forall_mem_cons.mp h
    rw [List.cons_append, probe, hb, List.getLastD_cons]
    exact ih hrest

/-- **What a lookup does.** -/
theorem lookup_outcome (p : α → Bool) (cands : List α) (cell : α) :
    Outcome p cands cell (lookup p cands cell) := by
  unfold lookup
  cases hcell : p cell with
  | true => exact .cached hcell
  | false =>
    rw [if_neg Bool.false_ne_true]
    cases hfind : cands.find? p with
    | none =>
      have hnone : ∀ c ∈ cands, p c = false := fun c hc =>
        Bool.eq_false_iff.mpr (List.find?_eq_none.mp hfind c hc)
      have hprobe : probe p (cands ++ []) cell = probe p [] (cands.getLastD cell) :=
        probe_append hnone []
      rw [List.append_nil] at hprobe
      rw [hprobe]
      exact .missing hcell hnone
    | some c =>
      obtain ⟨hc, before, after, rfl, hbefore⟩ := List.find?_eq_some_iff_append.mp hfind
      have hnone : ∀ b ∈ before, p b = false := fun b hb => by simpa using hbefore b hb
      rw [probe_append hnone, probe, if_pos hc]
      exact .found before c after hcell rfl hnone hc

end Lookup

namespace Outcome

variable {p : α → Bool} {cands : List α} {cell blank : α} {r : Bool × α}

/-- A lookup finds something if there is something to be found. -/
theorem found_iff (h : Outcome p cands cell r) :
    r.1 = true ↔ p cell = true ∨ ∃ c ∈ cands, p c = true := by
  cases h with
  | cached hcell => exact iff_of_true rfl (Or.inl hcell)
  | found before c after _ hcands _ hc =>
    refine iff_of_true rfl (Or.inr ⟨c, ?_, hc⟩)
    rw [hcands]
    exact List.mem_append_right before List.mem_cons_self
  | missing hcell hnone =>
    refine iff_of_false Bool.false_ne_true ?_
    rintro (h | ⟨c, hc, h⟩)
    · exact Bool.false_ne_true (hcell.symm.trans h)
    · exact Bool.false_ne_true ((hnone c hc).symm.trans h)

/-- What a lookup finds passes. -/
theorem sound (h : Outcome p cands cell r) (hr : r.1 = true) : p r.2 = true := by
  cases h with
  | cached hcell => exact hcell
  | found _ c _ _ _ _ hc => exact hc
  | missing => exact absurd hr Bool.false_ne_true

/-- A cell that fails makes room for the first candidate that passes. -/
theorem first (h : Outcome p cands cell r) (hcell : p cell = false) (hr : r.1 = true) :
    ∃ before after, cands = before ++ r.2 :: after ∧ (∀ b ∈ before, p b = false) ∧
      p r.2 = true := by
  cases h with
  | cached hpasses => exact absurd (hcell.symm.trans hpasses) Bool.false_ne_true
  | found before c after _ hcands hbefore hc => exact ⟨before, after, hcands, hbefore, hc⟩
  | missing => exact absurd hr Bool.false_ne_true

/-- **Invariant**: no lookup writes anything but candidates. -/
theorem known (h : Outcome p cands cell r) (hcell : Known blank cands cell) :
    Known blank cands r.2 := by
  cases h with
  | cached => exact hcell
  | found before c after _ hcands =>
    right
    rw [hcands]
    exact List.mem_append_right before List.mem_cons_self
  | missing =>
    -- the last candidate, or what was there if there are no candidates
    obtain hlast | hlast := List.mem_cons.mp (List.getLastD_mem_cons (l := cands) (a := cell))
    · rwa [hlast]
    · exact Or.inr hlast

/-- **The past does not matter**: a cell that holds the blank value or a candidate finds
something exactly if a candidate passes. -/
theorem found_iff_of_known (h : Outcome p cands cell r) (hblank : p blank = false)
    (hcell : Known blank cands cell) : r.1 = true ↔ ∃ c ∈ cands, p c = true := by
  rw [h.found_iff, or_iff_right_of_imp]
  intro hpasses
  obtain rfl | hmem := hcell
  · exact absurd (hblank.symm.trans hpasses) Bool.false_ne_true
  · exact ⟨cell, hmem, hpasses⟩

end Outcome

end ScratchCache
