import AsusSMC.Safety.Outputs
import AsusSMC.Safety.StoppedPoller

/-!
# What `stop` gives back

`stop` is called for a driver that has started, with whatever else happens between its
statements and those of `start`. `stop_gives_back_iff` says for every schedule of such a life
whether everything `start` has acquired has been given back in the end. There are two ways
for it not to be. The virtual keyboard is released and not detached, so a keyboard that has
been started stays. And `stop` needs the pointer to the work loop twice, which the handler
of VirtualSMC overwrites with what it is given: null, or another work loop.

The invariant is the `Ledger`: what has been recorded is what the statements that have run
record, each once and in order (`calls`). Up to the registration of the handler the pointer
is the one `start` has got (`LoopKept`).
-/

namespace AsusSMC

open EventSystem Driver

namespace Driver

/-- A call on one of the objects that `start` acquires. The poller is not among them. -/
def objectCall (e : Effect) : Option (Resource × ResourceCall) :=
  (resourceCall e).filter (·.1 ≠ .poller)

/-- The calls on these objects, in order. -/
def objectCalls (d : Driver) : List (Resource × ResourceCall) := d.log.filterMap objectCall

theorem objectCalls_eq_filter (d : Driver) :
    d.objectCalls = d.resourceCalls.filter (·.1 ≠ .poller) := by
  rw [objectCalls, resourceCalls, List.filter_filterMap]
  rfl

@[simp] theorem objectCalls_emit (d : Driver) (e : Effect) :
    (d.emit e).objectCalls = d.objectCalls ++ (objectCall e).toList := by
  rw [objectCalls, emit_log, List.filterMap_append]
  cases h : objectCall e <;> simp [objectCalls, h]

@[simp] theorem objectCall_resource {object : Resource} (hobject : object ≠ .poller)
    (call : ResourceCall) : objectCall (.resource object call) = some (object, call) :=
  Option.filter_some_pos (by simpa using hobject)

@[simp] theorem objectCalls_setWorkloop (d : Driver) (loop : Option Object) :
    (d.setWorkloop loop).objectCalls = d.objectCalls := rfl

@[simp] theorem objectCalls_setCommandGate (d : Driver) (gate : Option Object) :
    (d.setCommandGate gate).objectCalls = d.objectCalls := rfl

@[simp] theorem objectCalls_setKbdDevice (d : Driver) (kbd : Option Object) :
    (d.setKbdDevice kbd).objectCalls = d.objectCalls := rfl

/-- Whether everything has been given back does not depend on the poller. -/
theorem givenBack_objectCalls (d : Driver) :
    GivenBack d.objectCalls ↔ GivenBack d.resourceCalls := by
  have hcount : ∀ object call, object ≠ .poller →
      d.objectCalls.count (object, call) = d.resourceCalls.count (object, call) := by
    intro object call hobject
    rw [objectCalls_eq_filter]
    exact List.count_filter (by simpa using hobject)
  have hmem : ∀ object call, object ≠ .poller →
      ((object, call) ∈ d.objectCalls ↔ (object, call) ∈ d.resourceCalls) := by
    intro object call hobject
    rw [objectCalls_eq_filter, List.mem_filter]
    exact and_iff_left (by simpa using hobject)
  -- nor is the poller among the loops, or what is put on one
  have hpicked : ∀ {β : Type} (f : Resource × ResourceCall → Option β),
      (∀ call, f (.poller, call) = none) →
      d.objectCalls.filterMap f = d.resourceCalls.filterMap f := by
    intro β f hf
    rw [objectCalls_eq_filter, List.filterMap_filter]
    refine List.filterMap_congr fun p _ => ?_
    by_cases hp : p.1 = .poller
    · obtain ⟨object, call⟩ := p
      obtain rfl : object = .poller := hp
      exact (hf call).symm
    · rw [if_pos (by simpa using hp)]
  have hloops : retained d.objectCalls = retained d.resourceCalls ∧
      released d.objectCalls = released d.resourceCalls ∧
      addedTo d.objectCalls = addedTo d.resourceCalls ∧
      removedFrom d.objectCalls = removedFrom d.resourceCalls :=
    ⟨hpicked _ fun _ => rfl, hpicked _ fun _ => rfl, hpicked _ fun _ => rfl,
      hpicked _ fun _ => rfl⟩
  simp (disch := decide) only [givenBack_iff, hcount, hmem, hloops]

/-- What the firmware is asked is no call on an object. -/
theorem evaluationEffects_objectCall : EvaluationEffects (objectCall · = none) where
  integer _ _ _ _ := rfl
  object _ _ _ := rfl
  nullCall _ := rfl

instance (senv : StartEnv) : Decidable (KeyboardStarts senv) :=
  inferInstanceAs (Decidable ((_ ∧ _ ∧ _) ∧ _))

theorem keyboardCalls_virtualKeyboard (senv : StartEnv) :
    ∀ p ∈ keyboardCalls senv, p.1 = .virtualKeyboard := by
  unfold keyboardCalls
  repeat' split
  all_goals decide

theorem objectCalls_initVirtualKeyboard (senv : StartEnv) (d : Driver) :
    (d.initVirtualKeyboard senv).objectCalls = d.objectCalls ++ keyboardCalls senv := by
  have hcalls := resourceCalls_initVirtualKeyboard senv d
  have hkeyboard : (keyboardCalls senv).filter (·.1 ≠ .poller) = keyboardCalls senv := by
    refine List.filter_eq_self.mpr fun p hp => ?_
    rw [keyboardCalls_virtualKeyboard senv p hp]
    rfl
  rw [StartStatement.exec] at hcalls
  rw [objectCalls_eq_filter, hcalls, List.filter_append, hkeyboard, objectCalls_eq_filter]

end Driver

namespace Life

variable {senv : StartEnv} {k : LifeStatement} {rest : List LifeStatement} {s s' : Life}

/-! ### The surroundings -/

/-- Nothing that happens around the thread is entered in the ledger. -/
theorem react_objectCalls (e : LifeEvent) (s : Life) :
    (react e s).driver.objectCalls = s.driver.objectCalls := by
  refine Grows.filterMap_eq (react_outputs (fun _ => ⟨?_, ?_, ?_, ?_⟩)
    evaluationEffects_objectCall ?_ ?_ ?_ e) <;> intros <;> rfl

/-! ### The statements -/

/-- The two statements of `stop` that need the pointer to the work loop. -/
def NeedsLoop (k : LifeStatement) : Prop :=
  k = .stop .removeCommandGate ∨ k = .stop .releaseWorkLoop

/-- What a statement does with the objects. `met k` is the pointer to the work loop that `k`
has found. -/
def calls (senv : StartEnv) (met : LifeStatement → Option Object) :
    LifeStatement → List (Resource × ResourceCall)
  | .start .initVirtualKeyboard => keyboardCalls senv
  | .start .getWorkLoop => senv.getWorkLoop.toList.map fun loop => (.workLoop loop, .retain)
  | .start .commandGate =>
    [(.commandGate, .create), (.commandGate, .addEventSource senv.getWorkLoop)]
  | .stop .removeCommandGate =>
    (met (.stop .removeCommandGate)).toList.map fun loop =>
      (.commandGate, .removeEventSource (some loop))
  | .stop .releaseWorkLoop =>
    (met (.stop .releaseWorkLoop)).toList.map fun loop => (.workLoop loop, .release)
  | .stop .releaseCommandGate => [(.commandGate, .release)]
  | .stop .releaseKeyboard =>
    if KeyboardStarts senv then [(.virtualKeyboard, .release)] else []
  | _ => []

/-- The statements that are entered in the ledger. -/
def Booked (k : LifeStatement) : Prop :=
  k ∈ [.start .initVirtualKeyboard, .start .getWorkLoop, .start .commandGate,
    .stop .removeCommandGate, .stop .releaseWorkLoop, .stop .releaseCommandGate,
    .stop .releaseKeyboard]

instance : DecidablePred Booked := fun _ => inferInstanceAs (Decidable (_ ∈ _))

theorem calls_of_not_booked (hk : ¬ Booked k) (met : LifeStatement → Option Object) :
    calls senv met k = [] := by
  unfold calls
  split <;> first | rfl | exact absurd (by decide) hk

theorem exec_of_not_booked (senv : StartEnv) (hk : ¬ Booked k) (hmem : k ∈ program) (s : Life) :
    (exec senv k s).2.driver.objectCalls = s.driver.objectCalls := by
  cases k with
  | start k =>
    have hevaluating : Driver.Evaluating k := by
      cases k <;> first | decide | exact absurd (by decide) hk | exact absurd hmem (by decide)
    exact Grows.filterMap_eq (evaluating_grows senv
      (evaluationEffects_objectCall.start _ _) hevaluating)
  | notifications k => exact Grows.filterMap_eq (registerStatement_grows (fun _ => rfl) k s.notify)
  | vsmc k =>
    cases k with
    | registerHandler =>
      simp only [exec, VSMCState.exec]
      split
      · rfl
      · next venv _ =>
        refine Grows.filterMap_eq (vsmcNotificationHandler_outputs ?_ venv ?_) <;> intros <;> rfl
    | addBDVT =>
      simp only [exec, VSMCState.exec]
      split <;> rfl
    | _ => rfl
  | stop k =>
    -- these four call the poller and the set of services, which are not in the ledger
    have hother : ∀ (d : Driver) e, objectCall e = none →
        (d.emit e).objectCalls = d.objectCalls := by
      intro d e he
      rw [objectCalls_emit, he]
      exact List.append_nil _
    cases k with
    | cancelTimeout | removePoller | releasePoller | flushServices =>
      simp only [exec, StopStatement.exec, driver, NotifyState.mapDriver_driver,
        Driver.cancelTimeout, Driver.removePoller, Driver.releasePoller, Driver.flushServices]
      repeat' split
      all_goals first | rfl | exact hother _ _ rfl
    | removePublishNotify | removeTerminateNotify => rfl
    | releasePublishNotify | releaseTerminateNotify | releaseServices => rfl
    | _ => exact absurd (by decide) hk

/-! ### The ledger -/

/-- **Invariant**: what has been recorded is what the statements that have run record, by
what they have found. -/
def Ledger (senv : StartEnv) (rest : List LifeStatement) (d : Driver) : Prop :=
  ∃ met done, done ++ rest = program ∧ d.objectCalls = done.flatMap (calls senv met)

/-- A statement that has run is not to run any more. -/
theorem not_mem_rest {done : List LifeStatement} (hprogram : done ++ rest = program)
    (hdone : k ∈ done) : k ∉ rest := by
  have hnodup := hprogram ▸ program_nodup
  exact fun hrest => (List.nodup_append.mp hnodup).2.2 k hdone k hrest rfl

/-- What a statement that has not run yet will have found is open. -/
theorem calls_update {done : List LifeStatement} (hk : k ∉ done)
    (met : LifeStatement → Option Object) (loop : Option Object) :
    done.flatMap (calls senv (Function.update met k loop)) = done.flatMap (calls senv met) := by
  refine List.flatMap_congr fun k' hmem => ?_
  have hne : k' ≠ k := fun h => hk (h ▸ hmem)
  have hother : Function.update met k loop k' = met k' := Function.update_of_ne hne loop met
  unfold calls
  split <;> first | rfl | rw [hother]

/-- The calls of the two statements that need the work loop are theirs alone. -/
theorem call_mem_calls (met : LifeStatement → Option Object) (loop : Object) :
    ((.commandGate, .removeEventSource (some loop)) ∈ calls senv met k ↔
      k = .stop .removeCommandGate ∧ met k = some loop) ∧
    ((.workLoop loop, .release) ∈ calls senv met k ↔
      k = .stop .releaseWorkLoop ∧ met k = some loop) := by
  -- the other calls on either object are acquisitions
  have hkeyboard : ∀ object call, object ≠ .virtualKeyboard →
      (object, call) ∉ keyboardCalls senv := by
    intro object call hobject hmem
    exact hobject (keyboardCalls_virtualKeyboard senv _ hmem)
  cases k with
  | start k | stop k => cases k <;> simp [calls, hkeyboard]
  | notifications k | vsmc k => simp [calls]

/-- As long as `stop` has not released it, the gate is there. -/
theorem Wired.gate_isSome (hstarts : StartSucceeds senv) (h : Wired senv (k :: rest) s)
    (hmade : .start .commandGate ∉ k :: rest) (hrelease : .stop .releaseCommandGate ∈ k :: rest) :
    s.driver.commandGate.isSome :=
  h.gate.mpr ⟨hstarts.getWorkLoop, hstarts.commandGate, hmade, fun _ => hrelease⟩

/-! ### The pointer to the work loop -/

/-- **Invariant**: up to the registration of the handler, `workloop` points to the work loop
that `start` has got. -/
def LoopKept (senv : StartEnv) (rest : List LifeStatement) (s : Life) : Prop :=
  .start .getWorkLoop ∉ rest → .vsmc .registerHandler ∈ rest →
    s.driver.workloop = senv.getWorkLoop

/-- Around the thread only the handler writes it, and the handler is not installed yet. -/
theorem LoopKept.react (h : LoopKept senv rest s) (htimed : Timed rest s) (e : LifeEvent) :
    LoopKept senv rest (Life.react e s) := by
  intro hgot hrest
  have hbefore := h hgot hrest
  cases e with
  | message env m => exact (Prod.mk.inj (message_timing env m s.driver)).2.trans hbefore
  | tick env =>
    have hfire : (s.driver.fire env).workloop = s.driver.workloop := by
      refine fire_frame ?_ ?_ ?_ ?_ env s.driver <;> intros <;> rfl
    exact hfire.trans hbefore
  | service e => exact (Prod.mk.inj (service_timing e s)).2.trans hbefore
  | vsmcPublished venv =>
    -- published too early, VirtualSMC is only remembered
    rw [react_vsmcPublished, htimed.installed hrest]
    split <;> exact hbefore

/-- Nor does a statement between the two. -/
theorem LoopKept.exec (h : LoopKept senv (k :: rest) s) (htimed : Timed (k :: rest) s) :
    LoopKept senv rest (Life.exec senv k s).2 := by
  intro hgot hrest
  by_cases hk : k = .start .getWorkLoop
  · subst hk
    simp only [Life.exec, StartStatement.exec]
    split <;> rfl
  · have hbefore := h (by simp [hgot, Ne.symm hk]) (List.mem_cons_of_mem k hrest)
    have htimes : ¬ Times k := by
      intro htimes
      have hposition := htimed.rest_eq
      -- the others that write it come with the handler, or after it
      simp only [Times, List.mem_cons, List.not_mem_nil, or_false, hk, false_or] at htimes
      rcases htimes with rfl | rfl | rfl | rfl | rfl <;>
        exact absurd (hposition ▸ hrest) (by decide)
    exact (Prod.mk.inj (exec_timing senv htimes htimed.mem_program s)).2.trans hbefore

/-- The invariant of a schedule. -/
structure Books (senv : StartEnv) (c : Config) : Prop where
  windows : Windows senv c
  timed : Timed c.rest c.state
  loop : LoopKept senv c.rest c.state
  ledger : Ledger senv c.rest c.state.driver

/-- What a statement records. -/
theorem exec_calls (hstarts : StartSucceeds senv) (hwired : Wired senv (k :: rest) s)
    (hheld : Held senv (k :: rest) s.driver) (hkept : LoopKept senv (k :: rest) s)
    {met : LifeStatement → Option Object} (hmet : met k = s.driver.workloop) :
    (exec senv k s).2.driver.objectCalls = s.driver.objectCalls ++ calls senv met k := by
  have hmem : k ∈ program := hwired.rest_suffix.subset List.mem_cons_self
  have hposition := hwired.rest_eq
  by_cases hk : Booked k
  · simp only [Booked, List.mem_cons, List.not_mem_nil, or_false] at hk
    rcases hk with rfl | rfl | rfl | rfl | rfl | rfl | rfl
    · exact objectCalls_initVirtualKeyboard senv s.driver
    · obtain ⟨loop, hloop⟩ := Option.isSome_iff_exists.mp hstarts.getWorkLoop
      simp [exec, StartStatement.exec, hloop, calls, driver]
    · -- the gate is put on the work loop that has just been got
      obtain ⟨gate, hgate⟩ := Option.isSome_iff_exists.mp hstarts.commandGate
      have hloop := hkept (by rw [hposition]; decide) (by rw [hposition]; decide)
      rw [driver] at hloop
      simp [exec, StartStatement.exec, hgate, hstarts.addEventSource, calls, driver, hloop]
    · obtain ⟨gate, hgate⟩ := Option.isSome_iff_exists.mp
        (hwired.gate_isSome hstarts (by rw [hposition]; decide) (by rw [hposition]; decide))
      rw [driver] at hgate hmet
      cases hloop : s.notify.driver.workloop <;>
        simp [exec, StopStatement.exec, driver, Driver.removeCommandGate, calls, hgate, hloop, hmet]
    · rw [driver] at hmet
      cases hloop : s.notify.driver.workloop <;>
        simp [exec, StopStatement.exec, driver, Driver.releaseWorkLoop, calls, hloop, hmet]
    · obtain ⟨gate, hgate⟩ := Option.isSome_iff_exists.mp
        (hwired.gate_isSome hstarts (by rw [hposition]; decide) (by rw [hposition]; decide))
      rw [driver] at hgate
      simp [exec, StopStatement.exec, driver, Driver.releaseCommandGate, calls, hgate]
    · -- the last statement, so the keyboard has been kept up to here
      have hend : rest = [] := hposition
      have hkeyboard : s.driver.kbdDevice.isSome ↔ KeyboardStarts senv := by
        refine Iff.trans hheld ?_
        rw [hend]
        exact and_iff_left ⟨by decide, fun _ => List.mem_cons_self⟩
      rw [driver] at hkeyboard
      cases hkbd : s.notify.driver.kbdDevice <;>
        simp [exec, StopStatement.exec, driver, Driver.releaseKeyboard, calls, hkbd, ← hkeyboard]
  · rw [calls_of_not_booked hk, List.append_nil]
    exact exec_of_not_booked senv hk hmem s

/-- The entry a statement makes in the ledger. -/
theorem exec_entries (hstarts : StartSucceeds senv) (h : Books senv ⟨k :: rest, s⟩) :
    ∃ met done, done ++ k :: rest = program ∧
      s.driver.objectCalls = done.flatMap (calls senv met) ∧
      (exec senv k s).2.driver.objectCalls
        = (done ++ [k]).flatMap (calls senv (Function.update met k s.driver.workloop)) := by
  obtain ⟨met, done, hprogram, hcalls⟩ := h.ledger
  have hk : k ∉ done := fun hdone => not_mem_rest hprogram hdone List.mem_cons_self
  refine ⟨met, done, hprogram, hcalls, ?_⟩
  rw [exec_calls hstarts h.windows.1 h.windows.2 h.loop (Function.update_self ..),
    List.flatMap_append, calls_update hk, hcalls, List.flatMap_singleton]

/-- **Step lemma.** -/
theorem books_step (hstarts : StartSucceeds senv) (c : Config) (e : Thread.Event LifeEvent)
    (h : Books senv c) : Books senv (step senv c e) := by
  have hwindows := windows_step senv c e h.windows
  have htimed := timed_step senv c e h.timed
  obtain ⟨rest, s⟩ := c
  cases e with
  | env e =>
    -- nothing outside the thread acquires or gives back
    obtain ⟨met, done, hprogram, hcalls⟩ := h.ledger
    exact ⟨hwindows, htimed, h.loop.react h.timed e,
      met, done, hprogram, (react_objectCalls e s).trans hcalls⟩
  | thread =>
    cases rest with
    | nil => exact h
    | cons k rest =>
      obtain ⟨met, done, hprogram, -, hcalls⟩ := exec_entries hstarts h
      have hgo := exec_succeeds hstarts k s
      refine ⟨hwindows, htimed, ?_, ?_⟩ <;>
        simp only [step, Thread.step, hgo, Thread.remaining_true]
      · exact h.loop.exec h.timed
      · refine ⟨_, done ++ [k], ?_, hcalls⟩
        rw [List.append_assoc]
        exact hprogram

theorem books_initial (senv : StartEnv) (vendor : Option UInt32) (provider : ACPIDevice) :
    Books senv ⟨program, initial vendor provider⟩ where
  windows := windows_initial senv vendor provider
  timed := timed_initial vendor provider
  loop hnot := absurd (show _ ∈ program by decide) hnot
  ledger := ⟨fun _ => none, [], rfl, rfl⟩

/-! ### The work loop -/

/-- The statements that need the work loop and have run have made their call on it. -/
def LoopMet (loop : Object) (c : Config) : Prop :=
  (.stop .removeCommandGate ∉ c.rest →
    (.commandGate, .removeEventSource (some loop)) ∈ c.state.driver.objectCalls) ∧
  (.stop .releaseWorkLoop ∉ c.rest → (.workLoop loop, .release) ∈ c.state.driver.objectCalls)

variable {loop : Object}

/-- In terms of the ledger: they have found it. -/
theorem loopMet_iff {met : LifeStatement → Option Object} {done : List LifeStatement}
    (hprogram : done ++ rest = program)
    (hcalls : s.driver.objectCalls = done.flatMap (calls senv met)) :
    LoopMet loop ⟨rest, s⟩ ↔ ∀ k ∈ done, NeedsLoop k → met k = some loop := by
  -- every statement stands once in the program, so it has run or is to run
  have hran : ∀ k ∈ program, k ∉ rest ↔ k ∈ done := by
    intro k hk
    rw [← hprogram, List.mem_append] at hk
    exact ⟨hk.resolve_right, not_mem_rest hprogram⟩
  have hentry : ∀ k, (∃ k' ∈ done, k' = k ∧ met k' = some loop) ↔
      k ∈ done ∧ met k = some loop := by
    intro k
    constructor
    · rintro ⟨_, hmem, rfl, hmet⟩
      exact ⟨hmem, hmet⟩
    · exact fun h => ⟨k, h.1, rfl, h.2⟩
  rw [LoopMet, hcalls]
  simp only [List.mem_flatMap, call_mem_calls, hentry]
  rw [hran _ (by decide), hran _ (by decide)]
  constructor
  · rintro ⟨hgate, hloop⟩ k hk (rfl | rfl)
    · exact (hgate hk).2
    · exact (hloop hk).2
  · intro h
    exact ⟨fun hk => ⟨hk, h _ hk (Or.inl rfl)⟩, fun hk => ⟨hk, h _ hk (Or.inr rfl)⟩⟩

/-- A statement makes its call on the work loop exactly if it finds it. -/
theorem exec_loopMet_iff (hstarts : StartSucceeds senv) (h : Books senv ⟨k :: rest, s⟩) :
    LoopMet loop ⟨rest, (Life.exec senv k s).2⟩ ↔
      LoopMet loop ⟨k :: rest, s⟩ ∧ (NeedsLoop k → s.driver.workloop = some loop) := by
  obtain ⟨met, done, hprogram, hcalls, hafter⟩ := exec_entries hstarts h
  have hk : k ∉ done := fun hdone => not_mem_rest hprogram hdone List.mem_cons_self
  have hprogram' : (done ++ [k]) ++ rest = program := by
    rw [List.append_assoc]
    exact hprogram
  rw [loopMet_iff hprogram hcalls, loopMet_iff hprogram' hafter, List.forall_mem_append,
    List.forall_mem_singleton, Function.update_self]
  -- what the others have found stays as it is
  refine and_congr_left fun _ => forall₂_congr fun k' hk' => ?_
  rw [Function.update_of_ne (ne_of_mem_of_not_mem hk' hk)]

/-- Before the calls on other objects, a keyboard that is given back is no matter. -/
theorem givenBack_append_iff (hstarts : ¬ KeyboardStarts senv)
    {others : List (Resource × ResourceCall)} (hothers : ∀ p ∈ others, p.1 ≠ .virtualKeyboard) :
    GivenBack (keyboardCalls senv ++ others) ↔ GivenBack others := by
  obtain ⟨hattach, hcreate, -⟩ := (keyboardCalls_outcomes senv).1.mpr hstarts
  have hkeyboard : ∀ object call, object ≠ .virtualKeyboard →
      (keyboardCalls senv).count (object, call) = 0 := by
    intro object call hobject
    exact List.count_eq_zero.mpr fun hmem => hobject (keyboardCalls_virtualKeyboard senv _ hmem)
  have hnone : ∀ call, (.virtualKeyboard, call) ∉ others := fun call hmem =>
    hothers _ hmem rfl
  have hcount : ∀ call, others.count (.virtualKeyboard, call) = 0 := fun call =>
    List.count_eq_zero.mpr (hnone call)
  simp (disch := decide) only [givenBack_iff, List.mem_append, List.count_append, hkeyboard,
    hcount, hnone, or_false, Nat.add_zero, Nat.zero_add, hcreate, hattach, not_false_iff,
    false_and, true_and, retained_append, released_append, addedTo_append, removedFrom_append,
    keyboardCalls_workLoop senv, List.nil_append]

/-- What follows the calls of `initVirtualKeyboard`: `loop` is the work loop got, `gate` and
`last` are the pointers that the two statements of `stop` have found, and `kept` says whether
there is a keyboard. -/
def otherCalls (loop : Object) (gate last : Option Object) (kept : Prop) [Decidable kept] :
    List (Resource × ResourceCall) :=
  List.flatten [[(.workLoop loop, .retain)],
    [(.commandGate, .create), (.commandGate, .addEventSource (some loop))],
    gate.toList.map fun loop => (.commandGate, .removeEventSource (some loop)),
    last.toList.map fun loop => (.workLoop loop, .release),
    [(.commandGate, .release)],
    if kept then [(.virtualKeyboard, .release)] else []]

theorem otherCalls_ne_virtualKeyboard (gate last : Option Object) {kept : Prop} [Decidable kept]
    (hkept : ¬ kept) : ∀ p ∈ otherCalls loop gate last kept, p.1 ≠ .virtualKeyboard := by
  rw [otherCalls, if_neg hkept]
  cases gate <;> cases last <;> simp

/-- Without a keyboard, they balance when both statements have found the work loop that was
got. -/
theorem givenBack_otherCalls_iff (gate last : Option Object) {kept : Prop} [Decidable kept]
    (hkept : ¬ kept) :
    GivenBack (otherCalls loop gate last kept) ↔ gate = some loop ∧ last = some loop := by
  rw [otherCalls, if_neg hkept, givenBack_iff]
  cases gate <;> cases last <;>
    simp [retained, released, addedTo, removedFrom, eq_comm, and_comm]

/-- **When the ledger balances**: when both statements have found the work loop, and there is
no keyboard that has been started. -/
theorem givenBack_calls_iff (hloop : senv.getWorkLoop = some loop)
    (met : LifeStatement → Option Object) :
    GivenBack (program.flatMap (calls senv met)) ↔
      ¬ KeyboardStarts senv ∧ ∀ k ∈ program, NeedsLoop k → met k = some loop := by
  have hboth : (∀ k ∈ program, NeedsLoop k → met k = some loop) ↔
      met (.stop .removeCommandGate) = some loop ∧ met (.stop .releaseWorkLoop) = some loop := by
    constructor
    · exact fun h => ⟨h _ (by decide) (Or.inl rfl), h _ (by decide) (Or.inr rfl)⟩
    · rintro ⟨hgate, hloop⟩ k - (rfl | rfl)
      · exact hgate
      · exact hloop
  have hcalls : program.flatMap (calls senv met)
      = keyboardCalls senv ++ otherCalls loop (met (.stop .removeCommandGate))
          (met (.stop .releaseWorkLoop)) (KeyboardStarts senv) := by
    have hgot : calls senv met (.start .getWorkLoop) = [(.workLoop loop, .retain)] ∧
        calls senv met (.start .commandGate)
          = [(.commandGate, .create), (.commandGate, .addEventSource (some loop))] := by
      simp [calls, hloop]
    rw [otherCalls, ← hgot.1, ← hgot.2]
    rfl
  rw [hboth, hcalls]
  by_cases hstarts : KeyboardStarts senv
  · -- it has been attached and started, and nothing detaches it
    have hfirst : (.virtualKeyboard, .attach) ∈ keyboardCalls senv ∧
        (.virtualKeyboard, .start) ∈ keyboardCalls senv := by
      obtain ⟨⟨hnew, hinit, hattach⟩, hstart⟩ := hstarts
      simp [keyboardCalls, hnew, hinit, hattach, hstart]
    have hstays : ∀ others, ¬ GivenBack (keyboardCalls senv ++ others) := fun others hback =>
      hback.keyboard ⟨List.mem_append_left _ hfirst.1, List.mem_append_left _ hfirst.2⟩
    exact iff_of_false (hstays _) fun h => h.1 hstarts
  · rw [givenBack_append_iff hstarts (otherCalls_ne_virtualKeyboard _ _ hstarts),
      givenBack_otherCalls_iff _ _ hstarts, and_iff_right hstarts]

/-- Where its next statement needs the pointer to the work loop, the thread finds there the
work loop that `start` has got. -/
def FindsLoop (senv : StartEnv) (c : Config) (e : Thread.Event LifeEvent) : Prop :=
  e = .thread → ∀ k ∈ c.rest.head?, NeedsLoop k → c.state.driver.workloop = senv.getWorkLoop

/-- One event of a schedule. -/
theorem loopMet_step_iff (hstarts : StartSucceeds senv) (hloop : senv.getWorkLoop = some loop)
    (c : Config) (e : Thread.Event LifeEvent) (h : Books senv c) :
    LoopMet loop (step senv c e) ↔ LoopMet loop c ∧ FindsLoop senv c e := by
  obtain ⟨rest, s⟩ := c
  cases e with
  | env e =>
    have hsame : LoopMet loop ⟨rest, react e s⟩ ↔ LoopMet loop ⟨rest, s⟩ := by
      rw [LoopMet, LoopMet, react_objectCalls]
    exact hsame.trans (and_iff_left fun h => absurd h (by simp)).symm
  | thread =>
    cases rest with
    | nil => exact (and_iff_left fun _ k hk => absurd hk (by simp)).symm
    | cons k rest =>
      have hgo := exec_succeeds hstarts k s
      have hexec : LoopMet loop _ ↔ _ := exec_loopMet_iff hstarts h
      simp only [step, Thread.step, hgo, Thread.remaining_true]
      rw [hexec, FindsLoop, hloop]
      simp

/-- **What `stop` gives back.** In every schedule of the life of a driver that starts, when
`stop` has run to its end everything `start` has acquired has been given back exactly if
the virtual keyboard could not be started, and the two statements of `stop` that need the
work loop have found the pointer to the one `start` has got. A keyboard that has been
attached and not started counts as given back. -/
theorem stop_gives_back_iff {senv : StartEnv} (hstarts : StartSucceeds senv)
    (vendor : Option UInt32) (provider : ACPIDevice) (es : List (Thread.Event LifeEvent))
    (hend : (run (step senv) ⟨program, initial vendor provider⟩ es).Returned) :
    GivenBack (run (step senv) ⟨program, initial vendor provider⟩ es).state.driver.resourceCalls ↔
      ¬ KeyboardStarts senv ∧
        Throughout (step senv) (FindsLoop senv) ⟨program, initial vendor provider⟩ es := by
  obtain ⟨loop, hloop⟩ := Option.isSome_iff_exists.mp hstarts.getWorkLoop
  have hbooks := books_initial senv vendor provider
  have hstep : ∀ c e, Books senv c → Books senv (step senv c e) := books_step hstarts
  -- the two statements have found the work loop in the end if they have all along
  have hthroughout : Always (step senv) (LoopMet loop) ⟨program, initial vendor provider⟩ es ↔
      Throughout (step senv) (FindsLoop senv) ⟨program, initial vendor provider⟩ es := by
    refine always_iff_throughout hbooks hstep ?_ (fun c e h hmet => ?_) es
    · exact ⟨fun h => absurd (show _ ∈ program by decide) h,
        fun h => absurd (show _ ∈ program by decide) h⟩
    · rw [loopMet_step_iff hstarts hloop c e h]
      exact and_iff_right hmet
  have hlast : Always (step senv) (LoopMet loop) ⟨program, initial vendor provider⟩ es ↔
      LoopMet loop (run (step senv) ⟨program, initial vendor provider⟩ es) := by
    refine ⟨Always.last, Always.of_last hbooks hstep fun c e h hmet => ?_⟩
    exact ((loopMet_step_iff hstarts hloop c e h).mp hmet).1
  have hfinal := Always.of_step hbooks hstep es |>.last
  rw [← hthroughout, hlast]
  generalize run (step senv) ⟨program, initial vendor provider⟩ es = c at hend hfinal ⊢
  obtain ⟨rest, s⟩ := c
  obtain rfl : rest = [] := hend
  -- all statements have been entered
  obtain ⟨met, done, hprogram, hcalls⟩ := hfinal.ledger
  rw [loopMet_iff hprogram hcalls, ← givenBack_objectCalls, hcalls]
  rw [List.append_nil] at hprogram
  rw [hprogram]
  exact givenBack_calls_iff hloop met

/-- A life in which nothing happens besides: the keyboard stays. -/
theorem stop_leaves_keyboard :
    ¬ GivenBack (run (step .bare) ⟨program, initial none 0⟩
      (List.replicate program.length .thread)).state.driver.resourceCalls := by
  have hstarts : StartSucceeds .bare := ⟨rfl, rfl, rfl⟩
  have hend : (run (step .bare) ⟨program, initial none 0⟩
      (List.replicate program.length .thread)).Returned := rfl
  have hkeyboard : KeyboardStarts .bare := by decide
  exact fun h => ((stop_gives_back_iff hstarts none 0 _ hend).mp h).1 hkeyboard

end Life

end AsusSMC
