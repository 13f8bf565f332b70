import AsusSMC.Safety.LightSensor
import AsusSMC.Safety.MissingObjects
import AsusSMC.Safety.Poller

/-!
# The poller after `stop`

`stop` cancels the poller and takes it off the work loop. The notification that arms a
poller it leaves installed: `vsmcNotifier` is never removed. So a driver that is stopped
before VirtualSMC comes gets a poller afterwards, whose ticks run on a driver that has
released everything. `poller_stays_stopped_iff` is the exact statement for every schedule of
a driver's life.

The invariant is `Timed`: an armed poller has been made by the handler of VirtualSMC, which
runs once, and the work loop `stop` takes it off is the one the handler has put it on.
-/

namespace AsusSMC

open EventSystem Driver

namespace Driver

variable {d : Driver}

/-- What decides about ticks: the poller, and the work loop it is on. -/
def timing (d : Driver) : Option IOTimerEventSource × Option Object := (d.poller, d.workloop)

/-- Where no poller is armed, the handler arms one exactly if all its calls succeed. -/
theorem vsmcNotificationHandler_starts (h : d.armed = false) (venv : VSMCEnv) :
    (d.vsmcNotificationHandler venv).2.armed = venv.starts := by
  rw [(vsmcNotificationHandler_armed venv d).1, h, VSMCEnv.starts]
  cases venv.submits <;> rfl

/-! ### The statements of `stop` -/

theorem armed_cancelTimeout (d : Driver) : d.cancelTimeout.armed = false := by
  cases h : d.poller <;> simp [cancelTimeout, armed, h]

/-- A poller comes off the work loop if there still is one. -/
theorem armed_removePoller (d : Driver) :
    d.removePoller.armed = (d.armed && d.workloop.isNone) := by
  cases hloop : d.workloop <;> cases hpoller : d.poller <;>
    simp [removePoller, armed, hloop, hpoller]

theorem armed_releaseWorkLoop (d : Driver) : d.releaseWorkLoop.armed = d.armed := by
  rw [releaseWorkLoop]
  split <;> rfl

theorem armed_releasePoller (d : Driver) : d.releasePoller.armed = false := by
  cases h : d.poller <;> simp [releasePoller, armed, h]

/-! ### Start-up -/

/-- The first reading of the light sensor leaves the poller alone. -/
theorem initALSDevice_timing (env : Env) (disc : Discovery) (d : Driver) :
    (d.initALSDevice env disc).timing = d.timing := by
  have hread : ∀ d : Driver, (d.refreshALS env false).2.timing = d.timing := by
    intro d
    cases hdev : d.alsDevice with
    | none => rw [refreshALS_of_none env d false hdev]
    | some dev =>
      rw [refreshALS_of_some env d false hdev, if_neg Bool.false_ne_true]
      unfold aliEvaluated
      split <;> rfl
  have hdevice : ∀ (d : Driver) v, (d.setAlsDevice v).timing = d.timing := fun _ _ => rfl
  simp only [initALSDevice]
  repeat' split
  all_goals simp only [hdevice, hread]

end Driver

namespace Life

/-- The handler of VirtualSMC has run. -/
def Handled (s : Life) : Prop := s.vsmcInstalled = true ∧ s.vsmc.isSome

/-- **Invariant**: where an armed poller comes from, by the statements still to run. -/
structure Timed (rest : List LifeStatement) (s : Life) : Prop where
  rest_suffix : rest <:+ program
  installed : .vsmc .registerHandler ∈ rest → s.vsmcInstalled = false
  handled : s.driver.armed = true → Handled s
  workloop : s.driver.armed = true → .stop .removePoller ∈ rest → s.driver.workloop.isSome

/-- Past `removeEventSource(poller)`, no poller is armed. -/
def PollerStopped (c : Config) : Prop :=
  .stop .removePoller ∉ c.rest → c.state.driver.armed = false

/-- The event runs the handler of VirtualSMC, and the handler leaves an armed poller. -/
def ArmsPoller (s : Life) : LifeEvent → Prop
  | .vsmcPublished venv => venv.starts = true ∧ s.vsmc = none ∧ s.vsmcInstalled = true
  | _ => False

variable {senv : StartEnv} {k : LifeStatement} {rest : List LifeStatement} {s s' : Life}

/-! ### What arms a poller -/

/-- The statements that write the poller or the work loop. -/
def Times (k : LifeStatement) : Prop :=
  k ∈ [.start .getWorkLoop, .vsmc .registerHandler, .stop .cancelTimeout, .stop .removePoller,
    .stop .releaseWorkLoop, .stop .releasePoller]

instance : DecidablePred Times := fun _ => inferInstanceAs (Decidable (_ ∈ _))

/-- The other statements write neither. -/
theorem exec_timing (senv : StartEnv) (hk : ¬ Times k) (hmem : k ∈ program) (s : Life) :
    timing (exec senv k s).2.driver = timing s.driver := by
  cases k with
  | start k =>
    cases k with
    | parseWDG => exact parseWDG_frame (fun _ _ => rfl) (fun _ _ => rfl) senv.env _
    | initATKDevice => exact wmiEvaluateMethod_frame (fun _ _ => rfl) senv.env _ 0 0 _
    | initALSDevice => exact initALSDevice_timing senv.env _ _
    | initEC0Device =>
      refine initEC0Device_frame ?_ ?_ ?_ ?_ senv.env _ _ <;> intros <;> rfl
    | initBattery =>
      refine initBattery_frame ?_ ?_ ?_ senv.env _ _ _ <;> intros <;> rfl
    | initVirtualKeyboard =>
      exact initVirtualKeyboard_frame (fun _ _ => rfl) (fun _ _ => rfl) senv _
    | startATKDevice =>
      refine startATKDevice_frame ?_ ?_ ?_ ?_ ?_ senv.env _ <;> intros <;> rfl
    | getWorkLoop => exact absurd (by decide) hk
    | commandGate =>
      simp only [exec, StartStatement.exec]
      repeat' split
      all_goals rfl
    | setProperties => rfl
    -- a life runs these two statement by statement
    | registerNotifications | registerVSMC => exact absurd hmem (by decide)
  | notifications k =>
    refine NotifyState.exec_frame ?_ ?_ ?_ ?_ k s.notify <;> intros <;> rfl
  | vsmc k =>
    cases k with
    | registerHandler => exact absurd (by decide) hk
    | addKey | sort => rfl
    | addBDVT =>
      simp only [exec, VSMCState.exec]
      split <;> rfl
  | stop k =>
    cases k with
    | cancelTimeout | removePoller | releaseWorkLoop | releasePoller => exact absurd (by decide) hk
    | _ =>
      simp only [exec, StopStatement.exec, driver, NotifyState.mapDriver_driver,
        NotifyState.removeNotifier_driver, Driver.removeCommandGate, Driver.releaseCommandGate,
        Driver.flushServices, Driver.releaseKeyboard]
      repeat' split
      all_goals rfl

/-- A poller is armed by the handler only. -/
theorem armed_of_exec (hk : k ≠ .vsmc .registerHandler) (hmem : k ∈ program)
    (h : (exec senv k s).2.driver.armed = true) : s.driver.armed = true := by
  by_cases htimes : Times k
  · cases k with
    | start k =>
      cases k with
      | getWorkLoop =>
        have hpoller : (exec senv (.start .getWorkLoop) s).2.driver.poller = s.driver.poller := by
          simp only [exec, StartStatement.exec]
          split <;> rfl
        rwa [armed_congr hpoller] at h
      | _ => exact absurd htimes (by decide)
    | notifications k => exact absurd htimes (by cases k <;> decide)
    | vsmc k =>
      obtain rfl : k = .registerHandler := by simpa [Times] using htimes
      exact absurd rfl hk
    | stop k =>
      cases k with
      | cancelTimeout => exact absurd ((armed_cancelTimeout _).symm.trans h) Bool.false_ne_true
      | removePoller =>
        -- armed after it, the poller was armed before it and could not be taken off
        have hboth := (armed_removePoller s.driver).symm.trans h
        exact (Bool.and_eq_true_iff.mp hboth).1
      | releaseWorkLoop => exact (armed_releaseWorkLoop s.driver).symm.trans h
      | releasePoller => exact absurd ((armed_releasePoller _).symm.trans h) Bool.false_ne_true
      | _ => exact absurd htimes (by decide)
  · have hpoller := (Prod.mk.inj (exec_timing senv htimes hmem s)).1
    rwa [armed_congr hpoller] at h

/-- Only `registerHandler` changes what is known of VirtualSMC. -/
theorem exec_vsmc (hk : k ≠ .vsmc .registerHandler) (senv : StartEnv) (s : Life) :
    (exec senv k s).2.vsmcInstalled = s.vsmcInstalled ∧ (exec senv k s).2.vsmc = s.vsmc := by
  cases k with
  | start k | notifications k | stop k => exact ⟨rfl, rfl⟩
  | vsmc k =>
    cases k with
    | registerHandler => exact absurd rfl hk
    | addKey | sort => exact ⟨rfl, rfl⟩
    | addBDVT =>
      simp only [exec, VSMCState.exec]
      split <;> exact ⟨rfl, rfl⟩

theorem Handled.exec (hk : k ≠ .vsmc .registerHandler) (senv : StartEnv) (h : Handled s) :
    Handled (exec senv k s).2 := by
  obtain ⟨hinstalled, hvsmc⟩ := exec_vsmc hk senv s
  rwa [Handled, hinstalled, hvsmc]

/-- Where the handler runs: in `registerHandler`, if VirtualSMC is there. -/
theorem registerHandler_exec (senv : StartEnv) (s : Life) :
    (Life.exec senv (.vsmc .registerHandler) s).2.vsmcInstalled = true ∧
      (Life.exec senv (.vsmc .registerHandler) s).2.vsmc = s.vsmc ∧
      timing (Life.exec senv (.vsmc .registerHandler) s).2.driver
        = match s.vsmc with
          | none => timing s.driver
          | some venv => timing (s.driver.vsmcNotificationHandler venv).2 := by
  cases hvsmc : s.vsmc <;>
    simp [Life.exec, VSMCState.exec, vsmcState, hvsmc, ofVSMC, VSMCState.handle, driver, timing]

/-- And when VirtualSMC is published, if it is for the first time. -/
theorem react_vsmcPublished (venv : VSMCEnv) (s : Life) :
    react (.vsmcPublished venv) s
      = if s.vsmc.isSome then s
        else if s.vsmcInstalled then
          { s with notify := s.notify.mapDriver fun d => (d.vsmcNotificationHandler venv).2
                   vsmc := some venv }
        else { s with vsmc := some venv } := by
  obtain ⟨notify, vsmc, installed⟩ := s
  cases vsmc <;> cases installed <;> rfl

theorem message_timing (env : Env) (m : Message) (d : Driver) :
    timing (d.message env m).2 = timing d := by
  refine message_frame ?_ env m d
  constructor <;> intros <;> rfl

theorem service_timing (e : ServiceEvent) (s : Life) :
    timing (react (.service e) s).driver = timing s.driver := by
  cases e with
  | publish x => exact congrArg timing (NotifyState.react_publish_driver x s.notify)
  | terminate x => exact congrArg timing (NotifyState.react_terminate_driver x s.notify)
  | deliver x =>
    simp only [react, NotifyState.react]
    split
    · rfl
    · exact notificationHandler_frame (fun _ _ => rfl) (fun _ _ => rfl) x _ s.driver

/-- Where no poller is armed, one event can arm one. -/
theorem armed_react_iff (h : s.driver.armed = false) (e : LifeEvent) :
    (react e s).driver.armed = true ↔ ArmsPoller s e := by
  have hnot : ¬ s.driver.armed = true := Bool.eq_false_iff.mp h
  cases e with
  | message env m =>
    have hsame := armed_congr (Prod.mk.inj (message_timing env m s.driver)).1
    exact iff_of_false (fun ha => hnot (hsame.symm.trans ha)) id
  | tick env =>
    -- a poller that is not armed does not fire
    have hsame := congrArg armed (fire_of_not_armed env h)
    exact iff_of_false (fun ha => hnot (hsame.symm.trans ha)) id
  | service e =>
    have hsame := armed_congr (Prod.mk.inj (service_timing e s)).1
    exact iff_of_false (fun ha => hnot (hsame.symm.trans ha)) id
  | vsmcPublished venv =>
    rw [react_vsmcPublished, ArmsPoller]
    cases hvsmc : s.vsmc with
    | some _ => simpa using hnot
    | none =>
      cases hinstalled : s.vsmcInstalled with
      | true =>
        have hhandler := vsmcNotificationHandler_starts h venv
        simpa [driver] using Bool.eq_iff_iff.mp hhandler
      | false => simpa [driver] using hnot

/-! ### The invariant -/

/-- Something that arms no poller and moves no work loop. -/
theorem Timed.congr (h : Timed rest s) (harmed : s'.driver.armed = true → s.driver.armed = true)
    (hloop : s'.driver.workloop = s.driver.workloop)
    (hinstalled : s'.vsmcInstalled = s.vsmcInstalled) (hvsmc : s.vsmc.isSome → s'.vsmc.isSome) :
    Timed rest s' := by
  refine ⟨h.rest_suffix, ?_, ?_, ?_⟩
  · rw [hinstalled]
    exact h.installed
  · intro ha
    obtain ⟨hset, hsome⟩ := h.handled (harmed ha)
    exact ⟨hinstalled.trans hset, hvsmc hsome⟩
  · rw [hloop]
    exact fun ha => h.workloop (harmed ha)

/-- The handler has run, for the first time. -/
theorem Timed.of_handler (hsuffix : rest <:+ program) (hrest : .vsmc .registerHandler ∉ rest)
    (hhandled : Handled s') (hbefore : s.driver.armed = false) (venv : VSMCEnv)
    (hs' : timing s'.driver = timing (s.driver.vsmcNotificationHandler venv).2) :
    Timed rest s' := by
  obtain ⟨hpoller, hloop⟩ := Prod.mk.inj hs'
  have harmed := vsmcNotificationHandler_starts hbefore venv
  have hgot := (vsmcNotificationHandler_armed venv s.driver).2
  refine ⟨hsuffix, fun hmem => absurd hmem hrest, fun _ => hhandled, fun ha _ => ?_⟩
  rw [hloop]
  exact hgot (harmed.symm.trans ((armed_congr hpoller).symm.trans ha))

/-- **Step lemma**: the surroundings. -/
theorem Timed.react (h : Timed rest s) (e : LifeEvent) : Timed rest (Life.react e s) := by
  cases e with
  | message env m =>
    obtain ⟨hpoller, hloop⟩ := Prod.mk.inj (message_timing env m s.driver)
    exact h.congr (fun ha => (armed_congr hpoller).symm.trans ha) hloop rfl id
  | tick env =>
    have hloop : (s.driver.fire env).workloop = s.driver.workloop := by
      refine fire_frame ?_ ?_ ?_ ?_ env s.driver <;> intros <;> rfl
    refine h.congr (fun ha => ?_) hloop rfl id
    -- a tick arms the poller again, but no other
    by_contra hnot
    have hsame := fire_of_not_armed env (Bool.eq_false_iff.mpr hnot)
    exact hnot ((congrArg armed hsame).symm.trans ha)
  | service e =>
    obtain ⟨hpoller, hloop⟩ := Prod.mk.inj (service_timing e s)
    exact h.congr (fun ha => (armed_congr hpoller).symm.trans ha) hloop rfl id
  | vsmcPublished venv =>
    rw [react_vsmcPublished]
    split
    · exact h
    · next hvsmc =>
      split
      · next hinstalled =>
        -- the handler has not run before, so no poller is armed
        have hbefore : s.driver.armed = false := by
          by_contra hnot
          exact hvsmc (h.handled (Bool.eq_true_of_not_eq_false hnot)).2
        have hrest : .vsmc .registerHandler ∉ rest := by
          intro hmem
          exact absurd (hinstalled.symm.trans (h.installed hmem)) (by decide)
        exact .of_handler h.rest_suffix hrest ⟨hinstalled, rfl⟩ hbefore venv rfl
      · exact h.congr id rfl rfl fun _ => rfl

/-- Before the handler is registered no poller is armed. -/
theorem Timed.not_armed (h : Timed rest s) (hrest : .vsmc .registerHandler ∈ rest) :
    s.driver.armed = false := by
  by_contra hnot
  have hinstalled := (h.handled (Bool.eq_true_of_not_eq_false hnot)).1
  exact absurd (hinstalled.symm.trans (h.installed hrest)) (by decide)

theorem Timed.rest_eq (h : Timed (k :: rest) s) : rest = program.drop (program.idxOf k + 1) :=
  Thread.rest_eq_of_suffix program_nodup h.rest_suffix

theorem Timed.mem_program (h : Timed (k :: rest) s) : k ∈ program :=
  h.rest_suffix.subset List.mem_cons_self

theorem Timed.registerHandler (h : Timed (.vsmc .registerHandler :: rest) s) :
    Timed rest (Life.exec senv (.vsmc .registerHandler) s).2 := by
  obtain ⟨hinstalled, hvsmc, htiming⟩ := registerHandler_exec senv s
  have hbefore := h.not_armed List.mem_cons_self
  have hsuffix : rest <:+ program := (List.suffix_cons _ rest).trans h.rest_suffix
  have hrest : .vsmc .registerHandler ∉ rest := by
    rw [h.rest_eq]
    decide
  cases hpublished : s.vsmc with
  | none =>
    -- VirtualSMC is not there yet, so the handler is installed and does not run
    rw [hpublished] at htiming
    have hstill : (Life.exec senv (.vsmc .registerHandler) s).2.driver.armed = false :=
      (armed_congr (Prod.mk.inj htiming).1).trans hbefore
    have hnot := Bool.eq_false_iff.mp hstill
    exact ⟨hsuffix, fun hmem => absurd hmem hrest, fun ha => absurd ha hnot,
      fun ha => absurd ha hnot⟩
  | some venv =>
    rw [hpublished] at htiming hvsmc
    exact .of_handler hsuffix hrest ⟨hinstalled, by rw [hvsmc]; rfl⟩ hbefore venv htiming

/-- The other statements. -/
theorem Timed.exec_other (h : Timed (k :: rest) s) (hk : k ≠ .vsmc .registerHandler) :
    Timed (Thread.remaining (exec senv k s).1 rest) (Life.exec senv k s).2 := by
  have hsub : Thread.remaining (Life.exec senv k s).1 rest <:+ rest :=
    Thread.remaining_suffix _ rest
  have harmed : (Life.exec senv k s).2.driver.armed = true → s.driver.armed = true :=
    armed_of_exec hk h.mem_program
  refine ⟨hsub.trans ((List.suffix_cons k rest).trans h.rest_suffix), fun hmem => ?_,
    fun ha => (h.handled (harmed ha)).exec hk senv, fun ha hmem => ?_⟩
  · rw [(exec_vsmc hk senv s).1]
    exact h.installed (List.mem_cons_of_mem k (hsub.subset hmem))
  · -- the poller is still to be taken off its work loop
    have hstill : .stop .removePoller ∈ rest := hsub.subset hmem
    have hloop := h.workloop (harmed ha) (List.mem_cons_of_mem k hstill)
    by_cases htimes : Times k
    · have hposition := h.rest_eq
      obtain rfl | rfl | rfl | rfl | rfl | rfl : k = .start .getWorkLoop ∨
          k = .vsmc .registerHandler ∨ k = .stop .cancelTimeout ∨ k = .stop .removePoller ∨
          k = .stop .releaseWorkLoop ∨ k = .stop .releasePoller := by simpa [Times] using htimes
      · -- at this point of `start` there is no poller
        have hnot := h.not_armed (by rw [hposition]; decide)
        exact absurd ((harmed ha).symm.trans hnot) (by decide)
      · exact absurd rfl hk
      · exact absurd ((armed_cancelTimeout _).symm.trans ha) Bool.false_ne_true
      all_goals exact absurd (hposition ▸ hstill) (by decide)
    · rw [(Prod.mk.inj (exec_timing senv htimes h.mem_program s)).2]
      exact hloop

/-- **Step lemma.** -/
theorem timed_step (senv : StartEnv) (c : Config) (e : Thread.Event LifeEvent)
    (h : Timed c.rest c.state) : Timed (step senv c e).rest (step senv c e).state := by
  obtain ⟨rest, s⟩ := c
  cases e with
  | env e => exact h.react e
  | thread =>
    cases rest with
    | nil => exact h
    | cons k rest =>
      by_cases hk : k = .vsmc .registerHandler
      · subst hk
        exact h.registerHandler
      · exact h.exec_other hk

theorem timed_initial (vendor : Option UInt32) (provider : ACPIDevice) :
    Timed program (initial vendor provider) :=
  ⟨List.suffix_rfl, fun _ => rfl, fun ha => Bool.noConfusion ha, fun ha => Bool.noConfusion ha⟩

/-! ### The poller stays stopped -/

/-- An event keeps the poller stopped exactly if it does not arm one too late. -/
theorem react_stopped_iff (h : PollerStopped ⟨rest, s⟩) (e : LifeEvent) :
    PollerStopped ⟨rest, react e s⟩ ↔ (ArmsPoller s e → .stop .removePoller ∈ rest) := by
  by_cases hrest : .stop .removePoller ∈ rest
  · exact iff_of_true (fun hnot => absurd hrest hnot) fun _ => hrest
  · have hiff := armed_react_iff (h hrest) e
    constructor
    · intro hafter harms
      exact absurd (hiff.mpr harms) (Bool.eq_false_iff.mp (hafter hrest))
    · intro hguard _
      exact Bool.eq_false_iff.mpr fun ha => hrest (hguard (hiff.mp ha))

/-- A statement keeps it stopped. -/
theorem Timed.exec_stopped (h : Timed (k :: rest) s) (hP : PollerStopped ⟨k :: rest, s⟩) :
    PollerStopped ⟨Thread.remaining (exec senv k s).1 rest, (Life.exec senv k s).2⟩ := by
  have hposition := h.rest_eq
  have hmem := h.mem_program
  intro hrest
  by_cases hk : k = .vsmc .registerHandler
  · -- `stop` is still to come
    subst hk
    refine absurd ?_ hrest
    show _ ∈ rest
    rw [hposition]
    decide
  refine Bool.eq_false_iff.mpr fun ha => ?_
  have harmed : s.driver.armed = true := armed_of_exec hk hmem ha
  by_cases hbefore : .stop .removePoller ∈ k :: rest
  · cases hgo : (Life.exec senv k s).1 with
    | true =>
      -- the statement has taken the poller off the work loop
      rw [hgo, Thread.remaining_true] at hrest
      obtain rfl : LifeStatement.stop .removePoller = k :=
        (List.mem_cons.mp hbefore).resolve_right hrest
      have hloop := h.workloop harmed List.mem_cons_self
      have hboth := (armed_removePoller s.driver).symm.trans ha
      rw [Option.isNone_eq_false_iff.mpr hloop, Bool.and_false] at hboth
      exact absurd hboth Bool.false_ne_true
    | false =>
      -- a `start` that fails has no poller yet
      have hfails : k = .start .getWorkLoop ∨ k = .start .commandGate := by
        by_contra hneither
        obtain ⟨hloop, hgate⟩ := not_or.mp hneither
        exact absurd (hgo.symm.trans (exec_goes_on senv hloop hgate s)) Bool.false_ne_true
      refine Bool.eq_false_iff.mp (h.not_armed ?_) harmed
      rcases hfails with rfl | rfl <;> rw [hposition] <;> decide
  · exact absurd harmed (Bool.eq_false_iff.mp (hP hbefore))

/-- **The poller after `stop`.** In every schedule of a driver's life, no poller is armed
once `stop` has taken the poller off the work loop, exactly if the handler of VirtualSMC
leaves none armed from then on. -/
theorem poller_stays_stopped_iff (senv : StartEnv) (vendor : Option UInt32)
    (provider : ACPIDevice) (es : List (Thread.Event LifeEvent)) :
    Always (step senv) PollerStopped ⟨program, initial vendor provider⟩ es ↔
      Throughout (step senv) (fun c e => ∀ ev, e = .env ev → ArmsPoller c.state ev →
        .stop .removePoller ∈ c.rest) ⟨program, initial vendor provider⟩ es := by
  refine always_iff_throughout (I := fun c : Config => Timed c.rest c.state)
    (timed_initial vendor provider) (timed_step senv) ?_ ?_ es
  · exact fun _ => rfl
  · rintro ⟨rest, s⟩ e h hP
    cases e with
    | env e =>
      refine (react_stopped_iff hP e).trans ⟨fun hguard ev hev => ?_, fun hguard => hguard e rfl⟩
      exact Thread.Event.env.inj hev ▸ hguard
    | thread =>
      refine iff_of_true ?_ fun ev hev => absurd hev (by simp)
      cases rest with
      | nil => exact hP
      | cons k rest => exact h.exec_stopped hP

/-- VirtualSMC comes after the driver has stopped. -/
example : ¬ PollerStopped (run (step .bare) ⟨program, initial none 0⟩
    (List.replicate program.length .thread ++ [.env (.vsmcPublished .answering)])) := by
  rw [PollerStopped]
  decide

end Life

end AsusSMC
