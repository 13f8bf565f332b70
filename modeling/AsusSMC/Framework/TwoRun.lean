import AsusSMC.Framework.EventSystem
import Mathlib.Data.List.Forall2

/-!
# Two runs on events that look alike

An event may carry more than its sender means it to: a value nobody chose. If
`R e e'` says that two events look alike, apart from such values, then a step
function that does not depend on them takes look-alike events to one state
(`Independent`), and a whole run that does not depend on them agrees, at every
position, with every run on look-alike events (`Agrees`).

The two are the same thing event by event (`agrees_iff_throughout`): agreement
is lost at the first event whose hidden part is read, and not before.
-/

namespace TwoRun

open EventSystem

variable {σ ε : Type*} (step : σ → ε → σ) (R : ε → ε → Prop)

/-- In `s`, an event that looks like `e` leads where `e` leads. -/
def Independent (s : σ) (e : ε) : Prop := ∀ e', R e e' → step s e' = step s e

/-- A run on events that look like those of `es` is in the same state at every
position. -/
def Agrees (s : σ) (es : List ε) : Prop :=
  ∀ pre fs, pre <+: es → List.Forall₂ R pre fs → run step s fs = run step s pre

variable {step R} {s : σ} {e : ε} {es : List ε}

theorem agrees_nil : Agrees step R s [] := by
  intro pre fs hpre hfs
  obtain rfl := List.prefix_nil.mp hpre
  obtain rfl := List.forall₂_nil_left_iff.mp hfs
  rfl

/-- Agreement unfolds along the list. -/
theorem agrees_cons (hR : ∀ e, R e e) :
    Agrees step R s (e :: es) ↔ Independent step R s e ∧ Agrees step R (step s e) es := by
  constructor
  · intro h
    refine ⟨fun e' he' => ?_, fun pre fs hpre hfs => ?_⟩
    · -- the runs of one event
      exact h [e] [e'] (List.prefix_append [e] es) (.cons he' .nil)
    · -- the runs that start with the very same event
      exact h (e :: pre) (e :: fs) ((List.prefix_cons_inj e).mpr hpre) (.cons (hR e) hfs)
  · rintro ⟨hstep, hrest⟩ pre fs hpre hfs
    cases hfs with
    | nil => rfl
    | @cons a b pre fs hab hfs =>
      obtain ⟨rfl, htail⟩ := List.cons_prefix_cons.mp hpre
      rw [run_cons, run_cons, hstep b hab]
      exact hrest pre fs htail hfs

/-- **Exact rule.** A run agrees with all its look-alikes exactly if every event
is independent in the state it is handled in. -/
theorem agrees_iff_throughout (hR : ∀ e, R e e) :
    Agrees step R s es ↔ Throughout step (Independent step R) s es := by
  induction es generalizing s with
  | nil => exact iff_of_true agrees_nil (throughout_nil.mpr trivial)
  | cons e es ih => rw [agrees_cons hR, throughout_cons, ih]

end TwoRun
