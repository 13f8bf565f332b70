import AsusSMC.Model.History

/-!
# A `start` that fails

`start` acquires a virtual keyboard, a reference to the work loop and a command gate,
and can still return `false` after each of them. `stop`, which gives them back, is not
called then. `start_all_or_nothing_iff` says for every outcome of the calls that `start`
makes when it has nevertheless given back everything: only if it fails before it has
acquired anything that stays.
-/

namespace AsusSMC

namespace Driver

/-- What is done with an acquired object. -/
def resourceCall : Effect → Option (Resource × ResourceCall)
  | .resource object call => some (object, call)
  | _ => none

/-- The calls that acquire objects and give them back, in order. -/
def resourceCalls (d : Driver) : List (Resource × ResourceCall) := d.log.filterMap resourceCall

/-- The work loops retained, and those released. -/
def retained (calls : List (Resource × ResourceCall)) : List Object :=
  calls.filterMap fun | (.workLoop loop, .retain) => some loop | _ => none

def released (calls : List (Resource × ResourceCall)) : List Object :=
  calls.filterMap fun | (.workLoop loop, .release) => some loop | _ => none

/-- The work loops the command gate has been added to, and those it has been removed from. -/
def addedTo (calls : List (Resource × ResourceCall)) : List (Option Object) :=
  calls.filterMap fun | (.commandGate, .addEventSource loop) => some loop | _ => none

def removedFrom (calls : List (Resource × ResourceCall)) : List (Option Object) :=
  calls.filterMap fun | (.commandGate, .removeEventSource loop) => some loop | _ => none

/-- Everything acquired has been given back, each work loop as often as it was taken. A
keyboard that has been attached and started stays so: nothing detaches it. -/
@[mk_iff] structure GivenBack (calls : List (Resource × ResourceCall)) : Prop where
  keyboard : ¬ ((.virtualKeyboard, .attach) ∈ calls ∧ (.virtualKeyboard, .start) ∈ calls)
  keyboardReference : calls.count (.virtualKeyboard, .create)
    = calls.count (.virtualKeyboard, .release)
  workLoop : (retained calls).Perm (released calls)
  commandGate : calls.count (.commandGate, .create) = calls.count (.commandGate, .release)
  eventSource : (addedTo calls).Perm (removedFrom calls)

theorem retained_append (calls others : List (Resource × ResourceCall)) :
    retained (calls ++ others) = retained calls ++ retained others := List.filterMap_append

theorem released_append (calls others : List (Resource × ResourceCall)) :
    released (calls ++ others) = released calls ++ released others := List.filterMap_append

theorem addedTo_append (calls others : List (Resource × ResourceCall)) :
    addedTo (calls ++ others) = addedTo calls ++ addedTo others := List.filterMap_append

theorem removedFrom_append (calls others : List (Resource × ResourceCall)) :
    removedFrom (calls ++ others) = removedFrom calls ++ removedFrom others :=
  List.filterMap_append

instance (calls : List (Resource × ResourceCall)) : Decidable (GivenBack calls) :=
  decidable_of_iff _ (givenBack_iff calls).symm

/-- The virtual keyboard is made and attached. -/
def KeyboardAttaches (senv : StartEnv) : Prop :=
  senv.newKeyboard.isSome ∧ senv.keyboardInit = true ∧ senv.keyboardAttach = true

/-- And started. -/
def KeyboardStarts (senv : StartEnv) : Prop := KeyboardAttaches senv ∧ senv.keyboardStart = true

/-! ### The calls of `start` -/

/-- What `initVirtualKeyboard` does with the keyboard. -/
def keyboardCalls (senv : StartEnv) : List (Resource × ResourceCall) :=
  if !senv.newKeyboard.isSome then []
  else if !senv.keyboardInit then [(.virtualKeyboard, .create), (.virtualKeyboard, .release)]
  else if !senv.keyboardAttach then [(.virtualKeyboard, .create), (.virtualKeyboard, .release)]
  else if !senv.keyboardStart then
    [(.virtualKeyboard, .create), (.virtualKeyboard, .attach), (.virtualKeyboard, .release)]
  else [(.virtualKeyboard, .create), (.virtualKeyboard, .attach), (.virtualKeyboard, .start)]

section Calls

variable (senv : StartEnv) (d : Driver)

theorem resourceCalls_evaluating {k : StartStatement} (hk : Evaluating k) :
    (StartStatement.exec senv k d).2.resourceCalls = d.resourceCalls := by
  have hinteger : ∀ field method args,
      resourceCall (d.integerEffect senv.env field method args) = none := by
    intro field method args
    rw [integerEffect]
    split <;> rfl
  have hobject : ∀ field method args, resourceCall (d.objectEffect field method args) = none := by
    intro field method args
    rw [objectEffect]
    split <;> rfl
  refine Grows.filterMap_eq (evaluating_grows senv ?_ hk)
  exact ⟨hobject _ _ _, fun _ _ _ => hinteger _ _ _, fun _ => rfl, fun _ => rfl⟩

theorem resourceCalls_initVirtualKeyboard :
    (StartStatement.exec senv .initVirtualKeyboard d).2.resourceCalls
      = d.resourceCalls ++ keyboardCalls senv := by
  rw [StartStatement.exec]
  cases hnew : senv.newKeyboard with
  | none => simp [initVirtualKeyboard, keyboardCalls, hnew, releaseKeyboard, resourceCalls]
  | some kbd =>
    -- one case for each outcome of the three calls that can fail
    cases hinit : senv.keyboardInit <;> cases hattach : senv.keyboardAttach <;>
      cases hstart : senv.keyboardStart <;>
      simp [initVirtualKeyboard, keyboardCalls, hnew, hinit, hattach, hstart, releaseKeyboard,
        resourceCalls, resourceCall]

/-- The statements that can end `start`, and those after them. -/
def failingStatements : List StartStatement :=
  [.getWorkLoop, .commandGate, .setProperties, .registerNotifications, .registerVSMC]

/-- Up to the work loop `start` has acquired the keyboard. -/
theorem start_eq (h : senv.superStart = true) (provider : ACPIDevice) :
    ∃ d', start senv provider d = Thread.runAll (StartStatement.exec senv) failingStatements d' ∧
      d'.resourceCalls = d.resourceCalls ++ keyboardCalls senv := by
  have hstart : start senv provider d = Thread.runAll (StartStatement.exec senv)
      StartStatement.program (d.setAtkDevice (some provider)) := by
    rw [start, h]
    rfl
  -- none of the statements before the work loop can fail
  refine ⟨_, hstart.trans rfl, ?_⟩
  simp (disch := decide) only [resourceCalls_evaluating, resourceCalls_initVirtualKeyboard]
  rfl

/-- What `start` has acquired besides the keyboard when it fails. -/
def failureCalls : List (Resource × ResourceCall) :=
  match senv.getWorkLoop with
  | none => []
  | some loop =>
    (.workLoop loop, .retain) ::
      if !senv.commandGate.isSome then [] else [(.commandGate, .create)]

/-- `start` succeeds if it gets its work loop and its command gate. -/
theorem failing_fst :
    (Thread.runAll (StartStatement.exec senv) failingStatements d).1 = true ↔
      senv.getWorkLoop.isSome ∧ senv.commandGate.isSome ∧ senv.addEventSource = true := by
  cases hloop : senv.getWorkLoop <;> cases hgate : senv.commandGate <;>
    cases hadd : senv.addEventSource <;>
    simp [failingStatements, Thread.runAll, StartStatement.exec, hloop, hgate, hadd]

/-- If it fails it gives back nothing of what it has acquired. -/
theorem failing_calls
    (h : (Thread.runAll (StartStatement.exec senv) failingStatements d).1 = false) :
    (Thread.runAll (StartStatement.exec senv) failingStatements d).2.resourceCalls
      = d.resourceCalls ++ failureCalls senv := by
  -- the two registrations are reached only where all three calls succeed
  revert h
  cases hloop : senv.getWorkLoop <;> cases hgate : senv.commandGate <;>
    cases hadd : senv.addEventSource <;>
    simp [failingStatements, Thread.runAll, StartStatement.exec, failureCalls, resourceCalls,
      resourceCall, hloop, hgate, hadd]

end Calls

section Balance

variable (senv : StartEnv)

/-- No work loop is touched. -/
theorem keyboardCalls_workLoop :
    retained (keyboardCalls senv) = [] ∧ released (keyboardCalls senv) = [] ∧
      addedTo (keyboardCalls senv) = [] ∧ removedFrom (keyboardCalls senv) = [] := by
  unfold keyboardCalls
  repeat' split
  all_goals exact ⟨rfl, rfl, rfl, rfl⟩

/-- What the four outcomes of `initVirtualKeyboard` make of the keyboard: it is given back
unless it has been started, and attached whether or not it has. -/
theorem keyboardCalls_outcomes :
    (GivenBack (keyboardCalls senv) ↔ ¬ KeyboardStarts senv) ∧
      ((.virtualKeyboard, .attach) ∈ keyboardCalls senv ↔ KeyboardAttaches senv) := by
  unfold keyboardCalls KeyboardStarts KeyboardAttaches
  -- all sixteen cases are tried
  generalize senv.newKeyboard.isSome = made
  generalize senv.keyboardInit = init
  generalize senv.keyboardAttach = attach
  generalize senv.keyboardStart = start
  revert made init attach start
  decide

/-- A work loop that has been retained is never released. -/
theorem not_givenBack_of_workLoop (h : senv.getWorkLoop ≠ none) :
    ¬ GivenBack (keyboardCalls senv ++ failureCalls senv) := by
  obtain ⟨w, hw⟩ := Option.ne_none_iff_exists'.mp h
  intro hback
  obtain ⟨hretained, hreleased, -⟩ := keyboardCalls_workLoop senv
  -- one retain and no release, whatever is recorded of the keyboard and the gate
  have hfailure : retained (failureCalls senv) = [w] ∧ released (failureCalls senv) = [] := by
    rw [failureCalls, hw]
    dsimp only
    split <;> exact ⟨rfl, rfl⟩
  have hloops := hback.workLoop
  rw [retained_append, released_append, hretained, hreleased, hfailure.1, hfailure.2] at hloops
  exact absurd hloops.length_eq Nat.one_ne_zero

/-- What a failing `start` has acquired is given back exactly if it is a keyboard that was
not started. -/
theorem givenBack_iff_of_failure :
    GivenBack (keyboardCalls senv ++ failureCalls senv) ↔
      senv.getWorkLoop = none ∧ ¬ KeyboardStarts senv := by
  by_cases hloop : senv.getWorkLoop = none
  · have hnothing : failureCalls senv = [] := by rw [failureCalls, hloop]
    rw [hnothing, List.append_nil, (keyboardCalls_outcomes senv).1]
    exact (and_iff_right hloop).symm
  · -- the work loop has been retained
    exact iff_of_false (not_givenBack_of_workLoop senv hloop) fun h => hloop h.1

theorem attach_mem_of_failure :
    (.virtualKeyboard, .attach) ∈ keyboardCalls senv ++ failureCalls senv ↔
      KeyboardAttaches senv := by
  have hother : (.virtualKeyboard, .attach) ∉ failureCalls senv := by
    unfold failureCalls
    repeat' split
    all_goals simp
  rw [List.mem_append, or_iff_left hother, (keyboardCalls_outcomes senv).2]

end Balance

/-- A driver as `init` has made it. -/
def initialized (vendor : Option UInt32) : Driver := (({} : Driver).init true vendor).2

section Outcome

variable {senv : StartEnv} (vendor : Option UInt32) (provider : ACPIDevice)

theorem start_fst (h : senv.superStart = true) :
    (start senv provider (initialized vendor)).1 = true ↔
      senv.getWorkLoop.isSome ∧ senv.commandGate.isSome ∧ senv.addEventSource = true := by
  obtain ⟨d, hstart, -⟩ := start_eq senv (initialized vendor) h provider
  rw [hstart, failing_fst]

/-- When `start` fails, what it has acquired is known call by call. -/
theorem start_calls (h : senv.superStart = true)
    (hfails : (start senv provider (initialized vendor)).1 = false) :
    (start senv provider (initialized vendor)).2.resourceCalls
      = keyboardCalls senv ++ failureCalls senv := by
  have hfresh : (initialized vendor).resourceCalls = [] := rfl
  obtain ⟨d, hstart, hcalls⟩ := start_eq senv (initialized vendor) h provider
  rw [hstart] at hfails ⊢
  rw [failing_calls senv d hfails, hcalls, hfresh, List.nil_append]

end Outcome

/-- **Theorem.** For every outcome of the calls it makes, a `start` that returns `false`
has given back what it acquired exactly if it does not return `false` at all, or fails
before it acquires anything, or gets no work loop and has not started its keyboard. To
have detached the keyboard as well, it must not have attached it. -/
theorem start_all_or_nothing_iff (senv : StartEnv) (vendor : Option UInt32)
    (provider : ACPIDevice) :
    (((start senv provider (initialized vendor)).1 = false →
        GivenBack (start senv provider (initialized vendor)).2.resourceCalls) ↔
      senv.superStart = false ∨
        (senv.getWorkLoop.isSome ∧ senv.commandGate.isSome ∧ senv.addEventSource = true) ∨
        senv.getWorkLoop = none ∧ ¬ KeyboardStarts senv) ∧
    (((start senv provider (initialized vendor)).1 = false →
        GivenBack (start senv provider (initialized vendor)).2.resourceCalls ∧
          (.virtualKeyboard, .attach)
            ∉ (start senv provider (initialized vendor)).2.resourceCalls) ↔
      senv.superStart = false ∨
        (senv.getWorkLoop.isSome ∧ senv.commandGate.isSome ∧ senv.addEventSource = true) ∨
        senv.getWorkLoop = none ∧ ¬ KeyboardAttaches senv) := by
  cases hsuper : senv.superStart with
  | false =>
    -- nothing has been acquired
    have hstart : start senv provider (initialized vendor) = (false, initialized vendor) := by
      rw [start, hsuper]
      rfl
    have hfresh : (initialized vendor).resourceCalls = [] := rfl
    rw [hstart, hfresh]
    exact ⟨iff_of_true (fun _ => by decide) (Or.inl rfl),
      iff_of_true (fun _ => ⟨by decide, by decide⟩) (Or.inl rfl)⟩
  | true =>
    have hfst := start_fst vendor provider hsuper
    cases hreturns : (start senv provider (initialized vendor)).1 with
    | true =>
      -- `start` succeeds, so there is nothing to show
      have hgo := hfst.mp hreturns
      exact ⟨iff_of_true (fun h => absurd h (by decide)) (Or.inr (Or.inl hgo)),
        iff_of_true (fun h => absurd h (by decide)) (Or.inr (Or.inl hgo))⟩
    | false =>
      have hstops : ¬ (senv.getWorkLoop.isSome ∧ senv.commandGate.isSome ∧
          senv.addEventSource = true) := by
        rw [← hfst, hreturns]
        decide
      rw [start_calls vendor provider hsuper hreturns, givenBack_iff_of_failure,
        attach_mem_of_failure]
      simp only [hstops, forall_const, Bool.true_eq_false, false_or, true_and]
      -- a keyboard that has not been attached has not been started
      have hattach : ¬ KeyboardAttaches senv → ¬ KeyboardStarts senv := fun h hstarts => h hstarts.1
      tauto

/-- A machine that hands out no work loop: the keyboard stays attached and started, and
the driver keeps its reference. -/
theorem keyboard_left_running :
    (start { StartEnv.bare with getWorkLoop := none } 0 (initialized none)).1 = false ∧
      ¬ GivenBack (start { StartEnv.bare with getWorkLoop := none } 0
        (initialized none)).2.resourceCalls := by
  decide

end Driver

end AsusSMC
