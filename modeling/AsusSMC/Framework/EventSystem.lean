import Mathlib.Data.List.Infix
import Mathlib.Tactic.Common

/-!
# Deterministic event systems

A component that reacts to one event at a time is a step function
`σ → ε → σ`, and a run of it is a finite list of events. Two predicates on a
run are all that the safety results need:

* `Always step P s es` — `P` holds in `s` and after every event of `es`;
* `Throughout step G s es` — every event of `es` meets the guard `G` in the
  state it is handled in.

Both are read at *positions* of the run (prefixes, and prefixes followed by an
event), and both unfold along `List.cons` (`always_cons`, `throughout_cons`),
so the rules below are inductions on the event list.

`Always.of_step` and `Always.of_guarded` are the two invariant rules.
`always_iff_throughout` is the exact form: when a step out of a `P`-state lands
in a `P`-state exactly if its event meets `G`, a run stays in `P` exactly if it
meets `G` throughout.
-/

namespace EventSystem

variable {σ ε : Type*} {step : σ → ε → σ}

/-- The state reached from `s` by handling the events of `es` in order. -/
def run (step : σ → ε → σ) (s : σ) (es : List ε) : σ := es.foldl step s

@[simp] theorem run_nil (s : σ) : run step s [] = s := rfl

@[simp] theorem run_cons (s : σ) (e : ε) (es : List ε) :
    run step s (e :: es) = run step (step s e) es := rfl

theorem run_append (s : σ) (es fs : List ε) :
    run step s (es ++ fs) = run step (run step s es) fs := List.foldl_append

/-- `P` holds at every position of the run. -/
def Always (step : σ → ε → σ) (P : σ → Prop) (s : σ) (es : List ε) : Prop :=
  ∀ pre, pre <+: es → P (run step s pre)

/-- Every event of the run meets `G` in the state it is handled in. -/
def Throughout (step : σ → ε → σ) (G : σ → ε → Prop) (s : σ) (es : List ε) : Prop :=
  ∀ pre e post, es = pre ++ e :: post → G (run step s pre) e

section Positions

variable {P Q : σ → Prop} {G H : σ → ε → Prop} {s : σ} {e : ε} {es fs : List ε}

@[simp] theorem always_nil : Always step P s [] ↔ P s := by
  constructor
  · intro h; exact h [] List.prefix_rfl
  · intro h pre hpre
    obtain rfl := List.prefix_nil.mp hpre
    exact h

theorem always_cons : Always step P s (e :: es) ↔ P s ∧ Always step P (step s e) es := by
  constructor
  · intro h
    -- a position of the tail is one of the whole, an event later
    refine ⟨h [] List.nil_prefix, fun pre hpre => ?_⟩
    exact h (e :: pre) ((List.prefix_cons_inj e).mpr hpre)
  · rintro ⟨h0, h⟩ pre hpre
    cases pre with
    | nil => exact h0
    | cons a pre =>
      obtain ⟨rfl, htail⟩ := List.cons_prefix_cons.mp hpre
      exact h pre htail

theorem Always.head (h : Always step P s es) : P s := h [] List.nil_prefix

theorem Always.last (h : Always step P s es) : P (run step s es) := h es List.prefix_rfl

theorem Always.mono (h : Always step P s es) (hPQ : ∀ s, P s → Q s) : Always step Q s es :=
  fun pre hpre => hPQ _ (h pre hpre)

@[simp] theorem throughout_nil : Throughout step G s [] ↔ True := by
  refine iff_true_intro fun pre e post h => ?_
  exact absurd h (by simp)

theorem throughout_cons :
    Throughout step G s (e :: es) ↔ G s e ∧ Throughout step G (step s e) es := by
  constructor
  · intro h
    refine ⟨h [] e es rfl, fun pre a post hsplit => ?_⟩
    exact h (e :: pre) a post (by rw [hsplit]; rfl)
  · rintro ⟨h0, h⟩ pre a post hsplit
    cases pre with
    | nil =>
      obtain ⟨rfl, -⟩ := List.cons.inj hsplit
      exact h0
    | cons b pre =>
      obtain ⟨rfl, htail⟩ := List.cons.inj hsplit
      exact h pre a post htail

/-- A guard of a run is one of its two parts. -/
theorem throughout_append :
    Throughout step G s (es ++ fs) ↔
      Throughout step G s es ∧ Throughout step G (run step s es) fs := by
  induction es generalizing s with
  | nil => simp
  | cons a es ih =>
    rw [List.cons_append, throughout_cons, throughout_cons, ih, run_cons, and_assoc]

theorem Throughout.mono (h : Throughout step G s es) (hGH : ∀ s e, G s e → H s e) :
    Throughout step H s es :=
  fun pre e post hsplit => hGH _ _ (h pre e post hsplit)

/-- A guard that does not look at the state is a condition on the events alone. -/
theorem throughout_const_iff {g : ε → Prop} :
    Throughout step (fun _ e => g e) s es ↔ ∀ e ∈ es, g e := by
  induction es generalizing s with
  | nil => simp
  | cons a es ih => rw [throughout_cons, ih, List.forall_mem_cons]

/-- Guards that agree wherever the invariant holds. -/
theorem throughout_congr (hP : Always step P s es) (hGH : ∀ s e, P s → (G s e ↔ H s e)) :
    Throughout step G s es ↔ Throughout step H s es := by
  constructor
  · intro h pre e post hsplit
    exact (hGH _ e (hP pre ⟨_, hsplit.symm⟩)).mp (h pre e post hsplit)
  · intro h pre e post hsplit
    exact (hGH _ e (hP pre ⟨_, hsplit.symm⟩)).mpr (h pre e post hsplit)

theorem throughout_and :
    Throughout step (fun s e => G s e ∧ H s e) s es ↔
      Throughout step G s es ∧ Throughout step H s es := by
  induction es generalizing s with
  | nil => simp
  | cons a es ih =>
    rw [throughout_cons, throughout_cons, throughout_cons, ih]
    tauto

end Positions

section Rules

variable {I P : σ → Prop} {G : σ → ε → Prop} {s : σ}

/-- **Invariant rule.** -/
theorem Always.of_step (hs : P s) (hstep : ∀ s e, P s → P (step s e)) (es : List ε) :
    Always step P s es := by
  induction es generalizing s with
  | nil => exact always_nil.mpr hs
  | cons e es ih => exact always_cons.mpr ⟨hs, ih (hstep s e hs)⟩

/-- **Guarded invariant rule**: `P` need only be preserved by events that meet `G`. -/
theorem Always.of_guarded (hs : P s) (hstep : ∀ s e, P s → G s e → P (step s e))
    {es : List ε} (hG : Throughout step G s es) : Always step P s es := by
  induction es generalizing s with
  | nil => exact always_nil.mpr hs
  | cons e es ih =>
    obtain ⟨h0, hrest⟩ := throughout_cons.mp hG
    exact always_cons.mpr ⟨hs, ih (hstep s e hs h0) hrest⟩

/-- **Exact guard rule.** `I` is an unconditional invariant of the system. If
out of every state with `I` and `P` an event leads back to `P` exactly when it
meets `G`, then a run stays in `P` exactly when it meets `G` throughout. -/
theorem always_iff_throughout (hI : I s) (hIstep : ∀ s e, I s → I (step s e)) (hs : P s)
    (hiff : ∀ s e, I s → P s → (P (step s e) ↔ G s e)) (es : List ε) :
    Always step P s es ↔ Throughout step G s es := by
  induction es generalizing s with
  | nil => simp [hs]
  | cons e es ih =>
    rw [always_cons, throughout_cons]
    constructor
    · -- the state after the first event is one of the positions
      rintro ⟨-, h⟩
      have hP : P (step s e) := h.head
      exact ⟨(hiff s e hI hs).mp hP, (ih (hIstep s e hI) hP).mp h⟩
    · -- and the guard of the first event is what brings `P` there
      rintro ⟨hG, h⟩
      have hP : P (step s e) := (hiff s e hI hs).mpr hG
      exact ⟨hs, (ih (hIstep s e hI) hP).mpr h⟩

/-- **Backward rule.** What no step brings about held all along if it holds in the end. -/
theorem Always.of_last (hI : I s) (hIstep : ∀ s e, I s → I (step s e))
    (hback : ∀ s e, I s → P (step s e) → P s) {es : List ε} (h : P (run step s es)) :
    Always step P s es := by
  induction es generalizing s with
  | nil => exact always_nil.mpr h
  | cons e es ih =>
    have hrest : Always step P (step s e) es := ih (hIstep s e hI) h
    exact always_cons.mpr ⟨hback s e hI hrest.head, hrest⟩

/-- **Simulation rule.** Two systems that keep a relation event by event keep it
over every run. -/
theorem run_related {τ : Type*} {step' : τ → ε → τ} (R : σ → τ → Prop) {t : τ} (hst : R s t)
    (hstep : ∀ s t e, R s t → R (step s e) (step' t e)) (es : List ε) :
    R (run step s es) (run step' t es) := by
  induction es generalizing s t with
  | nil => exact hst
  | cons e es ih => exact ih (hstep s t e hst)

end Rules

end EventSystem
