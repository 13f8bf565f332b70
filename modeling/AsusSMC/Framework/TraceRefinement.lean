import AsusSMC.Framework.EventSystem
import Mathlib.Data.List.Forall2

/-!
# Refinement by traces

A concrete system refines an abstract one when each of its events is, in the state it is
handled in, some number of abstract events (`label`), and the two systems stay related. The
abstract events of a whole run are its `trace`.

`run_refines` lifts the relation to runs, `trace_refines` what the events put out, and
`run_accumulates` is the case of an abstract system that only lists its events. So what the
abstract system says about a run is known from the trace alone, and the other two rules
compare traces: `trace_filter` of a run and of the same run without the events that stand
for nothing, `trace_forall₂` of runs of two systems whose events correspond.
-/

namespace TraceRefinement

open EventSystem

variable {σ σ' τ ε ε' α : Type*}

/-- The abstract events of a run. -/
def trace (step : σ → ε → σ) (label : σ → ε → List α) : σ → List ε → List α
  | _, [] => []
  | s, e :: es => label s e ++ trace step label (step s e) es

variable {step : σ → ε → σ} {label : σ → ε → List α}

@[simp] theorem trace_nil (s : σ) : trace step label s [] = [] := rfl

theorem trace_cons (s : σ) (e : ε) (es : List ε) :
    trace step label s (e :: es) = label s e ++ trace step label (step s e) es := rfl

theorem trace_append (s : σ) (es fs : List ε) :
    trace step label s (es ++ fs)
      = trace step label s es ++ trace step label (run step s es) fs := by
  induction es generalizing s with
  | nil => rfl
  | cons e es ih => rw [List.cons_append, trace_cons, trace_cons, ih, run_cons, List.append_assoc]

variable (step) in
/-- Events that stand for the same in every state. -/
theorem trace_const {g : ε → List α} (s : σ) (es : List ε) :
    trace step (fun _ e => g e) s es = es.flatMap g := by
  induction es generalizing s with
  | nil => rfl
  | cons e es ih => rw [trace_cons, ih, List.flatMap_cons]

/-- Events that stand for nothing may be left out. -/
theorem flatMap_filter {visible : ε → Bool} {g : ε → List α}
    (h : ∀ e, visible e = false → g e = []) (es : List ε) :
    (es.filter visible).flatMap g = es.flatMap g := by
  induction es with
  | nil => rfl
  | cons e es ih =>
    cases hv : visible e with
    | true => rw [List.filter_cons_of_pos hv, List.flatMap_cons, List.flatMap_cons, ih]
    | false => rw [List.filter_cons_of_neg (by simp [hv]), List.flatMap_cons, h e hv, ih,
        List.nil_append]

/-- What the events stand for, read further. -/
theorem trace_flatMap {β : Type*} (g : α → List β) (s : σ) (es : List ε) :
    trace step (fun s e => (label s e).flatMap g) s es = (trace step label s es).flatMap g := by
  induction es generalizing s with
  | nil => rfl
  | cons e es ih => rw [trace_cons, trace_cons, ih, List.flatMap_append]

/-- What holds of all that the events stand for. -/
theorem forall_mem_trace {P : α → Prop} {s : σ} {es : List ε}
    (h : Throughout step (fun s e => ∀ a ∈ label s e, P a) s es) :
    ∀ a ∈ trace step label s es, P a := by
  induction es generalizing s with
  | nil => exact fun a ha => absurd ha List.not_mem_nil
  | cons e es ih =>
    obtain ⟨hhead, htail⟩ := throughout_cons.mp h
    intro a ha
    rcases List.mem_append.mp ha with ha | ha
    · exact hhead a ha
    · exact ih htail a ha

/-- **Refinement rule.** -/
theorem run_refines {astep : τ → α → τ} (R : σ → τ → Prop)
    (hstep : ∀ s t e, R s t → R (step s e) (run astep t (label s e))) {s : σ} {t : τ}
    (h : R s t) (es : List ε) : R (run step s es) (run astep t (trace step label s es)) := by
  induction es generalizing s t with
  | nil => exact h
  | cons e es ih =>
    rw [run_cons, trace_cons, run_append]
    exact ih (hstep s t e h)

/-- **Output rule.** Where the abstract events put out what the concrete event does, a run
puts out what its trace does. -/
theorem trace_refines {β : Type*} {astep : τ → α → τ} {out : σ → ε → List β}
    {aout : τ → α → List β} (R : σ → τ → Prop)
    (hstep : ∀ s t e, R s t → R (step s e) (run astep t (label s e)) ∧
      out s e = trace astep aout t (label s e)) {s : σ} {t : τ} (h : R s t) (es : List ε) :
    trace step out s es = trace astep aout t (trace step label s es) := by
  induction es generalizing s t with
  | nil => rfl
  | cons e es ih =>
    obtain ⟨hnext, hout⟩ := hstep s t e h
    rw [trace_cons, trace_cons, trace_append, hout, ih hnext]

/-- **Accumulation rule.** A list that every event prolongs by what it stands for. -/
theorem run_accumulates {f : σ → List α} (I : σ → Prop) (hI : ∀ s e, I s → I (step s e))
    (hf : ∀ s e, I s → f (step s e) = f s ++ label s e) {s : σ} (hs : I s) (es : List ε) :
    f (run step s es) = f s ++ trace step label s es := by
  induction es generalizing s with
  | nil => exact (List.append_nil _).symm
  | cons e es ih => rw [run_cons, ih (hI s e hs), hf s e hs, trace_cons, List.append_assoc]

/-- **Separation rule.** Events that stand for nothing may be left out, if what the others
stand for does not depend on them. -/
theorem trace_filter {visible : ε → Bool} (R : σ → σ → Prop)
    (hhidden : ∀ s t e, R s t → visible e = false → label s e = [] ∧ R (step s e) t)
    (hvisible : ∀ s t e, R s t → visible e = true →
      label s e = label t e ∧ R (step s e) (step t e)) {s t : σ} (h : R s t) (es : List ε) :
    trace step label s es = trace step label t (es.filter visible) := by
  induction es generalizing s t with
  | nil => rfl
  | cons e es ih =>
    rw [trace_cons]
    cases hv : visible e with
    | true =>
      obtain ⟨hlabel, hnext⟩ := hvisible s t e h hv
      rw [List.filter_cons_of_pos hv, trace_cons, hlabel, ih hnext]
    | false =>
      obtain ⟨hlabel, hnext⟩ := hhidden s t e h hv
      rw [List.filter_cons_of_neg (by simp [hv]), hlabel, List.nil_append, ih hnext]

/-- **Correspondence rule.** Events that correspond stand for the same. -/
theorem trace_forall₂ {step' : σ' → ε' → σ'} {label' : σ' → ε' → List α} (R : σ → σ' → Prop)
    (Q : ε → ε' → Prop)
    (hstep : ∀ s t e e', R s t → Q e e' → label s e = label' t e' ∧ R (step s e) (step' t e'))
    {s : σ} {t : σ'} (h : R s t) {es : List ε} {es' : List ε'} (hes : List.Forall₂ Q es es') :
    trace step label s es = trace step' label' t es' := by
  induction hes generalizing s t with
  | nil => rfl
  | cons he _ ih =>
    obtain ⟨hlabel, hnext⟩ := hstep s t _ _ h he
    rw [trace_cons, trace_cons, hlabel, ih hnext]

end TraceRefinement
