import AsusSMC.Safety.MissingObjects
import AsusSMC.Safety.StartFailure

/-!
# When the driver reaches others

Two parties hear from the driver through objects it makes and releases: the HID system,
through the virtual keyboard, and the notification consumers, through the command gate. The
hotkeys that make it speak to them may come at any time. `outputs_in_windows` says for every
schedule of a driver's life when it does: a report is taken only between the statements that
make and release a keyboard that has been started, and a consumer is called only between
those that make and release the gate.

The invariant is that a pointer is there exactly in its window: `Wired` has it for the gate,
`Held` is it for the keyboard.
-/

namespace AsusSMC

open EventSystem Driver

/-- Who hears from the driver. -/
inductive Party
  | keyboard
  | consumers
  deriving DecidableEq, Repr

/-- The party an effect reaches. A post that is refused reaches nobody. -/
def Effect.party : Effect → Option Party
  | .post _ .success => some .keyboard
  | .consumer _ _ _ => some .consumers
  | _ => none

/-- What the firmware is asked reaches nobody. -/
theorem evaluationEffects_party : EvaluationEffects (·.party = none) where
  integer _ _ _ _ := rfl
  object _ _ _ := rfl
  nullCall _ := rfl

namespace Life

variable {senv : StartEnv} {k : LifeStatement} {rest : List LifeStatement} {s s' : Life}

/-! ### The statements -/

/-- The statements of `start` and `stop` reach nobody. -/
theorem exec_party (senv : StartEnv) (hmem : k ∈ program) (s : Life) :
    Grows (·.party = none) s.driver (exec senv k s).2.driver := by
  have hresource : ∀ object call, (Effect.resource object call).party = none := fun _ _ => rfl
  have hsubmit : ∀ data, (Effect.submitPlugin data).party = none := fun _ => rfl
  have hemit : ∀ (d : Driver) (e : Effect), e.party = none →
      Grows (·.party = none) d (d.emit e) := fun _ _ he => grows_emit he
  cases k with
  | start k =>
    refine startStatement_grows hresource senv (evaluationEffects_party.start _ _) ?_ ?_
    -- the two registrations are not statements of their own here
    · rintro rfl
      exact absurd hmem (by decide)
    · rintro rfl
      exact absurd hmem (by decide)
  | notifications k => exact registerStatement_grows (fun _ => rfl) k s.notify
  | vsmc k => exact vsmcStatement_grows hresource hsubmit senv.numbering k s.vsmcState
  | stop k =>
    cases k with
    | removePublishNotify | removeTerminateNotify => exact .of_log_eq rfl
    | _ =>
      simp only [exec, StopStatement.exec, driver, NotifyState.mapDriver_driver,
        Driver.cancelTimeout, Driver.removePoller, Driver.removeCommandGate, Driver.releaseWorkLoop,
        Driver.releasePoller, Driver.releaseCommandGate, Driver.flushServices,
        Driver.releaseKeyboard]
      repeat' split
      all_goals first
        | exact .of_log_eq rfl
        | exact (hemit _ _ rfl).congr rfl

/-! ### The keyboard -/

/-- Every call `start` makes and can fail after succeeds. -/
structure StartSucceeds (senv : StartEnv) : Prop where
  getWorkLoop : senv.getWorkLoop.isSome
  commandGate : senv.commandGate.isSome
  addEventSource : senv.addEventSource = true

/-- A `start` that succeeds is run to its end, and `stop` after it. -/
theorem exec_succeeds (hstarts : StartSucceeds senv) (k : LifeStatement) (s : Life) :
    (exec senv k s).1 = true := by
  obtain ⟨loop, hloop⟩ := Option.isSome_iff_exists.mp hstarts.getWorkLoop
  obtain ⟨gate, hgate⟩ := Option.isSome_iff_exists.mp hstarts.commandGate
  by_cases hk : k = .start .getWorkLoop ∨ k = .start .commandGate
  · rcases hk with rfl | rfl
    · simp [exec, StartStatement.exec, hloop]
    · simp [exec, StartStatement.exec, hgate, hstarts.addEventSource]
  · obtain ⟨hloop, hgate⟩ := not_or.mp hk
    exact exec_goes_on senv hloop hgate s

/-- With `rest` still to run, the keyboard has been started and not been released. A `start`
that fails leaves it. -/
def KeyboardOpen (senv : StartEnv) (rest : List LifeStatement) : Prop :=
  KeyboardStarts senv ∧ .start .initVirtualKeyboard ∉ rest ∧
    (StartSucceeds senv → .stop .releaseKeyboard ∈ rest)

/-- **Invariant**: the keyboard is there in its window. -/
def Held (senv : StartEnv) (rest : List LifeStatement) (d : Driver) : Prop :=
  d.kbdDevice.isSome ↔ KeyboardOpen senv rest

/-- The keyboard is kept if it has been started. -/
theorem initVirtualKeyboard_kbdDevice (senv : StartEnv) (d : Driver) :
    (d.initVirtualKeyboard senv).kbdDevice.isSome ↔ KeyboardStarts senv := by
  rw [KeyboardStarts, KeyboardAttaches]
  -- a keyboard that fails at any of the four is let go again
  cases hnew : senv.newKeyboard <;> cases hinit : senv.keyboardInit <;>
    cases hattach : senv.keyboardAttach <;> cases hstart : senv.keyboardStart <;>
    simp [initVirtualKeyboard, hnew, hinit, hattach, hstart, releaseKeyboard]

/-- The other statements do not touch it. -/
theorem exec_kbdDevice (senv : StartEnv) (hmake : k ≠ .start .initVirtualKeyboard)
    (hrelease : k ≠ .stop .releaseKeyboard) (hmem : k ∈ program) (s : Life) :
    (exec senv k s).2.driver.kbdDevice = s.driver.kbdDevice := by
  have hemit : ∀ (d : Driver) e, (d.emit e).kbdDevice = d.kbdDevice := fun _ _ => rfl
  cases k with
  | start k =>
    cases k with
    | initVirtualKeyboard => exact absurd rfl hmake
    | registerNotifications | registerVSMC => exact absurd hmem (by decide)
    | parseWDG => exact parseWDG_frame hemit (fun _ _ => rfl) senv.env s.driver
    | initATKDevice => exact wmiEvaluateMethod_frame hemit senv.env _ _ _ s.driver
    | initALSDevice =>
      exact initALSDevice_frame hemit (fun _ _ => rfl) (fun _ _ => rfl) (fun _ _ => rfl) senv.env _
        s.driver
    | initEC0Device =>
      exact initEC0Device_frame hemit (fun _ _ => rfl) (fun _ _ => rfl) (fun _ _ => rfl) senv.env _
        s.driver
    | initBattery =>
      exact initBattery_frame hemit (fun _ _ _ => rfl) (fun _ _ => rfl) senv.env _ _ s.driver
    | startATKDevice =>
      exact startATKDevice_frame hemit (fun _ _ _ => rfl) (fun _ _ => rfl) (fun _ _ => rfl)
        (fun _ _ => rfl) senv.env s.driver
    | setProperties => rfl
    | getWorkLoop =>
      simp only [exec, StartStatement.exec]
      split <;> rfl
    | commandGate =>
      simp only [exec, StartStatement.exec]
      repeat' split
      all_goals rfl
  | notifications k =>
    exact NotifyState.exec_frame hemit (fun _ _ => rfl) (fun _ _ => rfl) (fun _ _ => rfl) k s.notify
  | vsmc k =>
    exact VSMCState.exec_frame hemit (fun _ _ => rfl) (fun _ _ => rfl) (fun _ _ => rfl)
      (fun _ _ => rfl) senv.numbering k s.vsmcState
  | stop k =>
    cases k with
    | releaseKeyboard => exact absurd rfl hrelease
    | _ =>
      simp only [exec, StopStatement.exec, driver, NotifyState.mapDriver_driver,
        NotifyState.removeNotifier_driver, Driver.cancelTimeout, Driver.removePoller,
        Driver.removeCommandGate, Driver.releaseWorkLoop, Driver.releasePoller,
        Driver.releaseCommandGate, Driver.flushServices]
      repeat' split
      all_goals rfl

theorem react_kbdDevice (e : LifeEvent) (s : Life) :
    (react e s).driver.kbdDevice = s.driver.kbdDevice := by
  cases e with
  | message env m => exact message_frame (by constructor <;> intros <;> rfl) env m s.driver
  | tick env =>
    have hfire : (s.driver.fire env).kbdDevice = s.driver.kbdDevice := by
      refine fire_frame ?_ ?_ ?_ ?_ env s.driver <;> intros <;> rfl
    exact hfire
  | service e =>
    cases e with
    | publish x => exact congrArg kbdDevice (NotifyState.react_publish_driver x s.notify)
    | terminate x => exact congrArg kbdDevice (NotifyState.react_terminate_driver x s.notify)
    | deliver x =>
      -- the handler adds to the consumers or takes from them
      simp only [react, NotifyState.react]
      split
      · rfl
      · exact notificationHandler_frame (fun _ _ => rfl) (fun _ _ => rfl) x _ s.driver
  | vsmcPublished venv =>
    simp only [react, VSMCState.publish]
    repeat' split
    · rfl
    · exact vsmcNotificationHandler_frame venv s.driver (fun _ _ => rfl) (fun _ _ => rfl)
        fun _ _ => rfl
    · rfl

/-- **Step lemma**: a statement. -/
theorem Held.exec (hwired : Wired senv (k :: rest) s) (h : Held senv (k :: rest) s.driver) :
    Held senv (Thread.remaining (exec senv k s).1 rest) (exec senv k s).2.driver := by
  have hmem : k ∈ program := hwired.rest_suffix.subset List.mem_cons_self
  have hposition := hwired.rest_eq
  by_cases hmake : k = .start .initVirtualKeyboard
  · -- its release is still to come
    subst hmake
    have hopen : KeyboardOpen senv rest ↔ KeyboardStarts senv := by
      refine and_iff_left ⟨?_, fun _ => ?_⟩ <;> rw [hposition] <;> decide
    exact (initVirtualKeyboard_kbdDevice senv s.driver).trans hopen.symm
  by_cases hrelease : k = .stop .releaseKeyboard
  · -- it is the last statement, and reached only by a `start` that has succeeded
    subst hrelease
    obtain ⟨hloop, hgate, hadded⟩ := hwired.all_made (by decide)
    have hend : rest = [] := hposition
    refine iff_of_false ?_ fun hopen => ?_
    · have hnone : ∀ d : Driver, d.releaseKeyboard.kbdDevice = none := by
        intro d
        rw [releaseKeyboard]
        split
        · assumption
        · rfl
      exact Option.not_isSome_iff_eq_none.mpr (hnone s.driver)
    · have hstill := hopen.2.2 ⟨hloop, hgate, hadded⟩
      rw [hend] at hstill
      exact List.not_mem_nil hstill
  rw [Held, exec_kbdDevice senv hmake hrelease hmem]
  refine Iff.trans h ?_
  -- no other statement opens or closes the window
  cases hgo : (Life.exec senv k s).1 with
  | true =>
    rw [Thread.remaining_true, KeyboardOpen, KeyboardOpen, List.mem_cons, List.mem_cons,
      or_iff_right (Ne.symm hmake), or_iff_right (Ne.symm hrelease)]
  | false =>
    -- `start` fails, and the keyboard stays
    have hfails : ¬ StartSucceeds senv := fun hstarts =>
      absurd (hgo.symm.trans (exec_succeeds hstarts k s)) Bool.false_ne_true
    have hlate : .start .initVirtualKeyboard ∉ k :: rest := by
      have hk : k = .start .getWorkLoop ∨ k = .start .commandGate := by
        by_contra hneither
        obtain ⟨hloop, hgate⟩ := not_or.mp hneither
        exact absurd (hgo.symm.trans (exec_goes_on senv hloop hgate s)) Bool.false_ne_true
      rcases hk with rfl | rfl <;> rw [hposition] <;> decide
    exact and_congr_right fun _ => iff_of_true ⟨hlate, fun h => absurd h hfails⟩
      ⟨List.not_mem_nil, fun h => absurd h hfails⟩

/-! ### Who is reached when -/

/-- The window of a party. -/
def Open (senv : StartEnv) (rest : List LifeStatement) : Party → Prop
  | .keyboard => KeyboardOpen senv rest
  | .consumers => GateOpen senv rest

/-- The effect reaches a party only in its window. -/
def InWindow (senv : StartEnv) (rest : List LifeStatement) (e : Effect) : Prop :=
  ∀ p, e.party = some p → Open senv rest p

theorem inWindow_of_party_eq_none {e : Effect} (h : e.party = none) : InWindow senv rest e :=
  fun p hp => absurd (h.symm.trans hp) (by simp)

/-- Where the pointers are there in their windows, a hotkey stays in them. -/
theorem outputEffects_inWindow (env : Env) (hwired : Wired senv rest s)
    (h : Held senv rest s.driver) :
    OutputEffects (InWindow senv rest) env s.driver where
  dispatched _ _ _ := inWindow_of_party_eq_none rfl
  post report result hsuccess := by
    cases result with
    -- a post that has succeeded had a keyboard to go to
    | success =>
      intro p hp
      obtain rfl : Party.keyboard = p := Option.some.inj hp
      exact h.mp (hsuccess rfl)
    | _ => exact inWindow_of_party_eq_none rfl
  kevMsgPost _ := inWindow_of_party_eq_none rfl
  consumer hgate _ _ _ := by
    intro p hp
    obtain rfl : Party.consumers = p := Option.some.inj hp
    exact hwired.gate.mp hgate

/-- What an event records, if the pointers are there in their windows. -/
theorem react_outputs {A : Effect → Prop} (hA : ∀ env, OutputEffects A env s.driver)
    (heval : EvaluationEffects A) (hinterrupt : A .postInterrupt)
    (hpoller : ∀ call, A (.resource .poller call)) (hsubmit : ∀ data, A (.submitPlugin data))
    (e : LifeEvent) : Grows A s.driver (react e s).driver := by
  cases e with
  | message env m => exact message_outputs env (hA env) heval m
  | tick env =>
    exact fire_grows env (fun _ => heval.integerEffect env _ _ _ _) hinterrupt
      (heval.fanEffect env _)
  | service e =>
    cases e with
    | publish x => exact .of_log_eq (congrArg log (NotifyState.react_publish_driver x s.notify))
    | terminate x => exact .of_log_eq (congrArg log (NotifyState.react_terminate_driver x s.notify))
    | deliver x =>
      simp only [react, NotifyState.react]
      split
      · exact .refl _
      · exact notificationHandler_grows (fun _ => heval.nullCall _) (fun _ => heval.nullCall _) x _
  | vsmcPublished venv =>
    simp only [react, VSMCState.publish]
    repeat' split
    · exact .refl _
    · exact vsmcNotificationHandler_outputs hpoller venv hsubmit
    · exact .of_log_eq rfl

/-- An event reaches a party only in its window. -/
theorem react_inWindow (hwired : Wired senv rest s) (h : Held senv rest s.driver)
    (e : LifeEvent) : Grows (InWindow senv rest) s.driver (react e s).driver := by
  refine react_outputs (outputEffects_inWindow · hwired h) ⟨?_, ?_, ?_⟩ ?_ ?_ ?_ e <;>
    intros <;> exact inWindow_of_party_eq_none rfl

/-- The invariant of a schedule. -/
def Windows (senv : StartEnv) (c : Config) : Prop :=
  Wired senv c.rest c.state ∧ Held senv c.rest c.state.driver

/-- **Step lemma.** -/
theorem windows_step (senv : StartEnv) (c : Config) (e : Thread.Event LifeEvent)
    (h : Windows senv c) : Windows senv (step senv c e) := by
  refine ⟨wired_step senv c e h.1, ?_⟩
  obtain ⟨rest, s⟩ := c
  cases e with
  | env e =>
    have hsame := react_kbdDevice e s
    rw [Held]
    exact (congrArg (Option.isSome · = true) hsame).to_iff.trans h.2
  | thread =>
    cases rest with
    | nil => exact h.2
    | cons k rest => exact h.2.exec h.1

theorem windows_initial (senv : StartEnv) (vendor : Option UInt32) (provider : ACPIDevice) :
    Windows senv ⟨program, initial vendor provider⟩ := by
  refine ⟨wired_initial senv vendor provider, iff_of_false ?_ fun hopen => ?_⟩
  · simp [initial, driver, init]
  · exact hopen.2.1 (show _ ∈ program by decide)

/-- **When the driver reaches others.** In every schedule of a driver's life, whatever its
`start` meets, every step hands a report to the keyboard only between the statements that
make and release a keyboard that has been started, and calls a consumer only between those
that make and release the command gate. -/
theorem outputs_in_windows (senv : StartEnv) (vendor : Option UInt32) (provider : ACPIDevice)
    (es : List (Thread.Event LifeEvent)) :
    Throughout (step senv) (fun c e =>
        Grows (InWindow senv c.rest) c.state.driver (step senv c e).state.driver)
      ⟨program, initial vendor provider⟩ es := by
  have hwindows := Always.of_step (windows_initial senv vendor provider) (windows_step senv) es
  intro pre e post hsplit
  obtain ⟨hwired, hheld⟩ := hwindows pre ⟨_, hsplit.symm⟩
  generalize run (step senv) ⟨program, initial vendor provider⟩ pre = c at hwired hheld ⊢
  obtain ⟨rest, s⟩ := c
  cases e with
  | env e => exact react_inWindow hwired hheld e
  | thread =>
    cases rest with
    | nil => exact .refl _
    | cons k rest =>
      -- no statement of `start` or `stop` presses a key or broadcasts
      have hmem : k ∈ program := hwired.rest_suffix.subset List.mem_cons_self
      exact (exec_party senv hmem s).mono fun _ => inWindow_of_party_eq_none

end Life

end AsusSMC
