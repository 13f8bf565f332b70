import AsusSMC.Framework.EventSystem

/-!
# A mode that saves and restores

A switch with a mode: entering it saves the value of something and sets it to `off`,
leaving it sets it back to the value saved. Setting may fail or do something else: what it
makes of the value, given the one asked for, comes with each event. Others may change the
value at any time (`Event.change`).

`run_bracket`: whatever happens while the mode is on, leaving it asks for the value it was
entered with.
-/

namespace SaveRestore

open EventSystem

variable {ρ : Type*}

/-- The value, and the one saved while the mode is on. -/
structure State (ρ : Type*) where
  current : ρ
  saved : Option ρ := none

inductive Event (ρ : Type*)
  /-- `set asked value` is what setting makes of `value`. -/
  | toggle (set : ρ → ρ → ρ)
  | change (value : ρ)

namespace Event

def isToggle : Event ρ → Bool
  | toggle _ => true
  | change _ => false

end Event

/-- What the next toggle asks for. -/
def State.asked (off : ρ) (s : State ρ) : ρ := s.saved.getD off

def step (off : ρ) (s : State ρ) : Event ρ → State ρ
  | .toggle set =>
    { current := set (s.asked off) s.current
      saved := if s.saved.isSome then none else some s.current }
  | .change value => { s with current := value }

variable {off : ρ} {s : State ρ}

/-- Changes leave the saved value alone. -/
theorem saved_run_of_changes {es : List (Event ρ)} (h : ∀ e ∈ es, e.isToggle = false) :
    (run (step off) s es).saved = s.saved := by
  induction es generalizing s with
  | nil => rfl
  | cons e es ih =>
    obtain ⟨he, hes⟩ := List.forall_mem_cons.mp h
    rw [run_cons, ih hes]
    cases e with
    | toggle set => exact Bool.noConfusion he
    | change value => rfl

/-- While the mode is on, the value it was entered with is the one that will be asked for. -/
theorem asked_run_of_entered (h : s.saved = none) (set : ρ → ρ → ρ) {mid : List (Event ρ)}
    (hmid : ∀ e ∈ mid, e.isToggle = false) :
    (run (step off) s (.toggle set :: mid)).saved = some s.current ∧
      (run (step off) s (.toggle set :: mid)).asked off = s.current := by
  have hsaved : (run (step off) s (.toggle set :: mid)).saved = some s.current := by
    rw [run_cons, saved_run_of_changes hmid, step, h]
    rfl
  exact ⟨hsaved, by rw [State.asked, hsaved]; rfl⟩

/-- **Bracket.** -/
theorem run_bracket (h : s.saved = none) (set set' : ρ → ρ → ρ) {mid : List (Event ρ)}
    (hmid : ∀ e ∈ mid, e.isToggle = false) :
    run (step off) s (.toggle set :: mid ++ [.toggle set'])
      = { current := set' s.current (run (step off) s (.toggle set :: mid)).current } := by
  obtain ⟨hsaved, hasked⟩ : _ = some s.current ∧ State.asked off _ = s.current :=
    asked_run_of_entered h set hmid
  rw [run_append, run_cons, run_nil, step, hasked, hsaved]
  rfl

end SaveRestore
