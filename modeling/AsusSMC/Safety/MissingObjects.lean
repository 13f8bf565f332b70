import AsusSMC.Model.History
import AsusSMC.Model.Lifecycle

/-!
# Calls through missing objects

The driver is entered by notifications from the moment its provider is assigned,
while `start` is still running and after `stop`. `no_missing_iff` says for every
schedule of its life when it calls a method through a pointer that is null.

Most pointers are safe: the light sensor is tested before it is used, the fan
sensor is there whenever `isTACHAvailable` is set, and a timer that fires is there.
The command gate is not. It is made late by `start` and released early by `stop`,
before the notifications that use it are removed, and neither the touchpad key nor
the handler of the notifications tests it. So what has to be ruled out is that one
of the two is handled outside the statements between which the gate is there
(`GateOpen`).
-/

namespace AsusSMC

open EventSystem Driver

namespace Life

/-- A call through a null pointer, the provider's apart. -/
def Missing (e : Effect) : Prop := ∃ p, p ≠ .device .atkDevice ∧ e = .nullCall p

/-- No method has been called through a missing object. -/
def NoMissing (s : Life) : Prop := ∀ e ∈ s.driver.log, ¬ Missing e

/-- The event calls through the command gate: the touchpad key does, and the handler
of the notifications. -/
def NeedsGate (s : Life) : LifeEvent → Prop
  | .message env (.deviceNotification event) => s.driver.eventCode env event = 0x6B
  | .service (.deliver x) => s.notify.pending x ≠ []
  | _ => False

/-- With `rest` still to run, the command gate has been made and not been released.
A gate that cannot be added to the work loop ends `start`, and stays. -/
def GateOpen (senv : StartEnv) (rest : List LifeStatement) : Prop :=
  senv.getWorkLoop.isSome ∧ senv.commandGate.isSome ∧ .start .commandGate ∉ rest ∧
    (senv.addEventSource = true → .stop .releaseCommandGate ∈ rest)

/-- **Invariant**: which objects are there, by the statements still to run. -/
structure Wired (senv : StartEnv) (rest : List LifeStatement) (s : Life) : Prop where
  rest_suffix : rest <:+ program
  gate : s.driver.commandGate.isSome ↔ GateOpen senv rest
  /-- What has succeeded, as long as there is something left to run. -/
  loop_made : rest ≠ [] → .start .getWorkLoop ∉ rest → senv.getWorkLoop.isSome
  gate_made : rest ≠ [] → .start .commandGate ∉ rest →
    senv.commandGate.isSome ∧ senv.addEventSource = true
  services : GateOpen senv rest ∨ .stop .flushServices ∈ rest →
    s.driver.notificationServices.isSome
  ec0Device : s.driver.isTACHAvailable = true → s.driver.ec0Device.isSome

theorem program_nodup : program.Nodup := by decide

/-! ### What leaves the objects alone -/

/-- The members that `Wired` is about. -/
def wiring (d : Driver) : Option Object × Bool × Bool × Option ACPIDevice :=
  (d.commandGate, d.notificationServices.isSome, d.isTACHAvailable, d.ec0Device)

theorem hotkeyFrame_wiring : HotkeyFrame wiring := by constructor <;> intros <;> rfl

theorem plainFrame_wiring : StartStatement.PlainFrame wiring := by constructor <;> intros <;> rfl

/-- The handler of the notifications keeps the set, whatever is in it. -/
theorem notificationHandler_wiring (service : Service) (notifier : Notifier) (d : Driver) :
    wiring (d.notificationHandler service notifier).2 = wiring d := by
  -- an insertion or a removal changes the members of the set, and not whether there is one
  have hadd : ∀ d, wiring (d.addConsumer service) = wiring d := by
    intro d
    cases hs : d.notificationServices <;> simp [addConsumer, wiring, hs]
  have hremove : ∀ d, wiring (d.removeConsumer service) = wiring d := by
    intro d
    cases hs : d.notificationServices <;> simp [removeConsumer, wiring, hs]
  simp only [notificationHandler, notificationHandlerGated]
  repeat' split
  all_goals simp only [hadd, hremove]
  rfl

theorem vsmcNotificationHandler_wiring (venv : VSMCEnv) (d : Driver) :
    wiring (d.vsmcNotificationHandler venv).2 = wiring d :=
  vsmcNotificationHandler_frame venv d (fun _ _ => rfl) (fun _ _ => rfl) fun _ _ => rfl

theorem register_wiring (k : RegisterStatement) (s : NotifyState) :
    wiring (NotifyState.exec k s).2.driver = wiring s.driver := by
  cases k with
  | addPublish =>
    -- the handler is called for every service that is there
    simp only [NotifyState.exec]
    generalize s.driver = d
    induction s.alive generalizing d with
    | nil => rfl
    | cons x services ih => exact (ih _).trans (notificationHandler_wiring x _ d)
  | assignPublish => rfl
  | addTerminate => rfl
  | assignTerminate => rfl

theorem vsmc_wiring (numbering : KeyNumbering) (k : VSMCStatement) (s : VSMCState) :
    wiring (VSMCState.exec numbering k s).2.driver = wiring s.driver := by
  cases k with
  | registerHandler =>
    simp only [VSMCState.exec]
    cases s.published with
    | none => rfl
    | some venv => exact vsmcNotificationHandler_wiring venv s.driver
  | addKey key => rfl
  | addBDVT =>
    simp only [VSMCState.exec]
    split <;> rfl
  | sort => rfl

/-- The surroundings move no object. -/
theorem react_wiring (e : LifeEvent) (s : Life) : wiring (react e s).driver = wiring s.driver := by
  cases e with
  | message env m => exact message_frame hotkeyFrame_wiring env m s.driver
  | tick env =>
    exact fire_frame (fun _ _ => rfl) (fun _ _ => rfl) (fun _ _ => rfl) (fun _ _ => rfl) env
      s.driver
  | service e =>
    cases e with
    | publish x => exact congrArg wiring (NotifyState.react_publish_driver x s.notify)
    | terminate x => exact congrArg wiring (NotifyState.react_terminate_driver x s.notify)
    | deliver x =>
      simp only [react, NotifyState.react]
      split
      · rfl
      · exact notificationHandler_wiring x _ s.driver
  | vsmcPublished venv =>
    simp only [react, VSMCState.publish]
    split
    · rfl
    · split
      · exact vsmcNotificationHandler_wiring venv s.driver
      · rfl

/-- The statements that make or release one of the objects. -/
def Moves (k : LifeStatement) : Prop :=
  k ∈ [.start .initEC0Device, .start .commandGate, .stop .releaseCommandGate,
    .stop .releaseServices]

instance : DecidablePred Moves := fun _ => inferInstanceAs (Decidable (_ ∈ _))

/-- The other statements move no object either. -/
theorem exec_wiring (senv : StartEnv) {k : LifeStatement} (hk : ¬ Moves k) (s : Life) :
    wiring (exec senv k s).2.driver = wiring s.driver := by
  cases k with
  | start k =>
    cases k with
    | initEC0Device => exact absurd (by decide) hk
    | commandGate => exact absurd (by decide) hk
    | parseWDG => exact parseWDG_frame (fun _ _ => rfl) (fun _ _ => rfl) senv.env s.driver
    | initALSDevice =>
      exact initALSDevice_frame (fun _ _ => rfl) (fun _ _ => rfl) (fun _ _ => rfl) (fun _ _ => rfl)
        senv.env senv.alsDiscovery s.driver
    | registerNotifications =>
      exact Thread.runAll_frame (f := fun s : NotifyState => wiring s.driver) register_wiring _ _
    | registerVSMC =>
      exact Thread.runAll_frame (f := fun s : VSMCState => wiring s.driver)
        (vsmc_wiring senv.numbering) _ _
    | _ => exact StartStatement.exec_frame plainFrame_wiring senv (by decide) s.driver
  | notifications k => exact register_wiring k s.notify
  | vsmc k => exact vsmc_wiring senv.numbering k s.vsmcState
  | stop k =>
    cases k with
    | releaseCommandGate => exact absurd (by decide) hk
    | releaseServices => exact absurd (by decide) hk
    | flushServices =>
      simp only [exec, StopStatement.exec, driver, NotifyState.mapDriver_driver]
      cases hs : s.notify.driver.notificationServices <;> simp [Driver.flushServices, wiring, hs]
    | _ =>
      simp only [exec, StopStatement.exec, driver, NotifyState.mapDriver_driver,
        NotifyState.removeNotifier_driver, Driver.cancelTimeout, Driver.removePoller,
        Driver.removeCommandGate, Driver.releaseWorkLoop, Driver.releasePoller,
        Driver.releaseKeyboard]
      repeat' split
      all_goals rfl

/-! ### The objects over a life -/

variable {senv : StartEnv} {k : LifeStatement} {rest : List LifeStatement} {s s' : Life}

theorem Wired.congr (h : Wired senv rest s) (hs' : wiring s'.driver = wiring s.driver) :
    Wired senv rest s' := by
  simp only [wiring, Prod.mk.injEq] at hs'
  obtain ⟨hgate, hservices, htach, hec0⟩ := hs'
  refine ⟨h.rest_suffix, ?_, h.loop_made, h.gate_made, ?_, ?_⟩
  · rw [hgate]
    exact h.gate
  · rw [hservices]
    exact h.services
  · rw [htach, hec0]
    exact h.ec0Device

/-- What is true of the gate with a statement still to run is true without it, its own
two statements apart. -/
theorem gateOpen_cons (hmake : k ≠ .start .commandGate) (hrelease : k ≠ .stop .releaseCommandGate) :
    GateOpen senv (k :: rest) ↔ GateOpen senv rest := by
  rw [GateOpen, GateOpen, List.mem_cons, List.mem_cons, or_iff_right hrelease.symm,
    or_iff_right hmake.symm]

/-- The position of a statement that is about to run. -/
theorem Wired.rest_eq (h : Wired senv (k :: rest) s) :
    rest = program.drop (program.idxOf k + 1) :=
  Thread.rest_eq_of_suffix program_nodup h.rest_suffix

/-- Past the two statements that can fail, both have succeeded. -/
theorem Wired.all_made (h : Wired senv (k :: rest) s)
    (hlate : ∀ k' ∈ [LifeStatement.start .getWorkLoop, .start .commandGate],
      k' ∉ k :: program.drop (program.idxOf k + 1)) :
    senv.getWorkLoop.isSome ∧ senv.commandGate.isSome ∧ senv.addEventSource = true := by
  rw [← h.rest_eq] at hlate
  have hne : k :: rest ≠ [] := List.cons_ne_nil k rest
  exact ⟨h.loop_made hne (hlate _ (by simp)), h.gate_made hne (hlate _ (by simp))⟩

/-- A gate on the work loop is gone after its release. -/
theorem not_gateOpen (hadded : senv.addEventSource = true)
    (hreleased : .stop .releaseCommandGate ∉ rest) : ¬ GateOpen senv rest := by
  rintro ⟨-, -, -, hrelease⟩
  exact hreleased (hrelease hadded)

/-- A statement that neither makes nor releases the command gate has run. -/
theorem Wired.next (h : Wired senv (k :: rest) s) (hmake : k ≠ .start .commandGate)
    (hrelease : k ≠ .stop .releaseCommandGate)
    (hloop : k = .start .getWorkLoop → senv.getWorkLoop.isSome)
    (hgate : s'.driver.commandGate = s.driver.commandGate)
    (hservices : GateOpen senv rest ∨ .stop .flushServices ∈ rest →
      s.driver.notificationServices.isSome → s'.driver.notificationServices.isSome)
    (hec0 : s'.driver.isTACHAvailable = true → s'.driver.ec0Device.isSome) :
    Wired senv rest s' := by
  have hopen : GateOpen senv (k :: rest) ↔ GateOpen senv rest := gateOpen_cons hmake hrelease
  refine ⟨(List.suffix_cons k rest).trans h.rest_suffix, ?_, ?_, ?_, ?_, hec0⟩
  · rw [hgate, h.gate, hopen]
  · intro _ hnot
    by_cases hk : k = .start .getWorkLoop
    · exact hloop hk
    -- another statement has run, so the work loop was there already
    · refine h.loop_made (List.cons_ne_nil k rest) ?_
      rw [List.mem_cons, not_or]
      exact ⟨fun h => hk h.symm, hnot⟩
  · intro _ hnot
    refine h.gate_made (List.cons_ne_nil k rest) ?_
    rw [List.mem_cons, not_or]
    exact ⟨hmake.symm, hnot⟩
  -- whatever needs the set after the statement needed it before
  · intro hneeded
    refine hservices hneeded (h.services ?_)
    exact hneeded.imp hopen.mpr (List.mem_cons_of_mem k)

/-- `initEC0Device` sets the flag only together with the pointer. -/
theorem initEC0Device_ec0Device (env : Env) (disc : Discovery) (d : Driver)
    (h : (d.initEC0Device env disc).isTACHAvailable = true) :
    (d.initEC0Device env disc).ec0Device.isSome := by
  have hfan : ∀ d : Driver, (d.refreshFan env).2.ec0Device = d.ec0Device :=
    refreshFan_frame (f := Driver.ec0Device) (fun _ _ => rfl) (fun _ _ => rfl) env
  -- every exit but one clears the flag
  revert h
  simp only [initEC0Device]
  repeat' split
  -- the last exit is the one that leaves the flag set
  all_goals simp_all [Option.isSome_iff_ne_none]

/-- The statement that makes the gate: it goes on exactly if the gate is on the work
loop, and leaves a gate it cannot add. -/
theorem commandGate_exec (senv : StartEnv) (s : Life) :
    (exec senv (.start .commandGate) s).1 = (senv.commandGate.isSome && senv.addEventSource) ∧
      (exec senv (.start .commandGate) s).2.driver.commandGate = senv.commandGate ∧
      (exec senv (.start .commandGate) s).2.driver.notificationServices
        = s.driver.notificationServices ∧
      (exec senv (.start .commandGate) s).2.driver.isTACHAvailable = s.driver.isTACHAvailable ∧
      (exec senv (.start .commandGate) s).2.driver.ec0Device = s.driver.ec0Device := by
  cases hgate : senv.commandGate <;> cases hadd : senv.addEventSource <;>
    simp [exec, StartStatement.exec, driver, hgate, hadd]

/-- No other statement than the two that can fail ends the program. -/
theorem exec_goes_on (senv : StartEnv) (hloop : k ≠ .start .getWorkLoop)
    (hgate : k ≠ .start .commandGate) (s : Life) : (exec senv k s).1 = true := by
  cases k with
  | start k =>
    cases k with
    | getWorkLoop => exact absurd rfl hloop
    | commandGate => exact absurd rfl hgate
    | _ => rfl
  | notifications k => cases k <;> rfl
  | vsmc k => cases k <;> rfl
  | stop k => rfl

theorem Wired.initEC0Device (h : Wired senv (.start .initEC0Device :: rest) s) :
    Wired senv rest (exec senv (.start .initEC0Device) s).2 := by
  have hkept : (Life.exec senv (.start .initEC0Device) s).2.driver.commandGate
        = s.driver.commandGate ∧
      (Life.exec senv (.start .initEC0Device) s).2.driver.notificationServices
        = s.driver.notificationServices := by
    have hframe := initEC0Device_frame
      (f := fun d => (d.commandGate, d.notificationServices)) (fun _ _ => rfl) (fun _ _ => rfl)
      (fun _ _ => rfl) (fun _ _ => rfl) senv.env senv.ec0Discovery s.driver
    exact Prod.mk.inj hframe
  refine h.next (by decide) (by decide) (fun h => absurd h (by decide)) hkept.1 ?_
    (initEC0Device_ec0Device senv.env senv.ec0Discovery s.driver)
  rw [hkept.2]
  exact fun _ hs => hs

/-- The command gate is made: it was not there before. -/
theorem Wired.commandGate (h : Wired senv (.start .commandGate :: rest) s) :
    Wired senv (Thread.remaining (exec senv (.start .commandGate) s).1 rest)
      (exec senv (.start .commandGate) s).2 := by
  have hposition := h.rest_eq
  obtain ⟨hgo, hgate, hservices, htach, hec0⟩ := commandGate_exec senv s
  -- the statement is reached, so the work loop has been got
  have hloop : senv.getWorkLoop.isSome := by
    refine h.loop_made (List.cons_ne_nil _ _) ?_
    rw [hposition]
    decide
  -- `init` has made the set, and it is flushed only later
  have hset : s.driver.notificationServices.isSome := by
    refine h.services (Or.inr ?_)
    rw [hposition]
    decide
  have hec0' : (Life.exec senv (.start .commandGate) s).2.driver.isTACHAvailable = true →
      (Life.exec senv (.start .commandGate) s).2.driver.ec0Device.isSome := by
    rw [htach, hec0]
    exact h.ec0Device
  rw [hgo]
  cases hboth : (senv.commandGate.isSome && senv.addEventSource) with
  | true =>
    -- `start` goes on, with the release of the gate still to come
    obtain ⟨hmade, hadded⟩ := Bool.and_eq_true_iff.mp hboth
    have hopen : GateOpen senv rest := by
      refine ⟨hloop, hmade, ?_, fun _ => ?_⟩ <;> rw [hposition] <;> decide
    refine ⟨(List.suffix_cons _ rest).trans h.rest_suffix, ?_, fun _ _ => hloop,
      fun _ _ => ⟨hmade, hadded⟩, fun _ => hservices ▸ hset, hec0'⟩
    rw [hgate]
    exact iff_of_true hmade hopen
  | false =>
    -- `start` has returned, with the gate if it was made but not added
    refine ⟨List.nil_suffix, ?_, fun hne => absurd rfl hne, fun hne => absurd rfl hne,
      fun _ => hservices ▸ hset, hec0'⟩
    rw [hgate]
    constructor
    · intro hmade
      rw [hmade, Bool.true_and] at hboth
      refine ⟨hloop, hmade, List.not_mem_nil, fun hadded => ?_⟩
      exact absurd (hboth.symm.trans hadded) (by decide)
    · intro hopen
      exact hopen.2.1

/-- The command gate is released. -/
theorem Wired.releaseCommandGate (h : Wired senv (.stop .releaseCommandGate :: rest) s) :
    Wired senv rest (exec senv (.stop .releaseCommandGate) s).2 := by
  obtain ⟨hloop, hmade⟩ := h.all_made (by decide)
  have hclosed : ¬ GateOpen senv rest := by
    apply not_gateOpen hmade.2
    rw [h.rest_eq]
    decide
  -- the pointer is null, and nothing else has moved
  have hgone : (Life.exec senv (.stop .releaseCommandGate) s).2.driver.commandGate = none := by
    cases hg : s.notify.driver.commandGate <;>
      simp [Life.exec, StopStatement.exec, Driver.releaseCommandGate, driver, hg]
  have hkept : (Life.exec senv (.stop .releaseCommandGate) s).2.driver.notificationServices
        = s.driver.notificationServices ∧
      (Life.exec senv (.stop .releaseCommandGate) s).2.driver.isTACHAvailable
        = s.driver.isTACHAvailable ∧
      (Life.exec senv (.stop .releaseCommandGate) s).2.driver.ec0Device
        = s.driver.ec0Device := by
    cases hg : s.notify.driver.commandGate <;>
      simp [Life.exec, StopStatement.exec, Driver.releaseCommandGate, driver, hg]
  obtain ⟨hservices, htach, hec0⟩ := hkept
  refine ⟨(List.suffix_cons _ rest).trans h.rest_suffix, ?_, fun _ _ => hloop, fun _ _ => hmade,
    fun hneeded => ?_, ?_⟩
  · rw [hgone]
    exact iff_of_false (by simp) hclosed
  · rw [hservices]
    refine h.services (Or.inr (List.mem_cons_of_mem _ ?_))
    exact hneeded.resolve_left hclosed
  · rw [htach, hec0]
    exact h.ec0Device

/-- The set is released, when nothing will need it again. -/
theorem Wired.releaseServices (h : Wired senv (.stop .releaseServices :: rest) s) :
    Wired senv rest (exec senv (.stop .releaseServices) s).2 := by
  have hposition := h.rest_eq
  obtain ⟨-, -, hadded⟩ := h.all_made (by decide)
  refine h.next (by decide) (by decide) (fun h => absurd h (by decide)) rfl ?_ h.ec0Device
  intro hneeded _
  exfalso
  -- the gate is gone and the flush has run, so neither is still to come
  rcases hneeded with hopen | hflush
  · refine not_gateOpen hadded ?_ hopen
    rw [hposition]
    decide
  · refine absurd hflush ?_
    rw [hposition]
    decide

/-- Without a work loop `start` returns, before the gate is made. -/
theorem Wired.getWorkLoop (h : Wired senv (.start .getWorkLoop :: rest) s) :
    Wired senv (Thread.remaining (exec senv (.start .getWorkLoop) s).1 rest)
      (exec senv (.start .getWorkLoop) s).2 := by
  have hkept := h.congr (exec_wiring senv (k := .start .getWorkLoop) (by decide) s)
  cases hw : senv.getWorkLoop with
  | some w =>
    have hgo : (exec senv (.start .getWorkLoop) s).1 = true := by
      simp [Life.exec, StartStatement.exec, hw]
    rw [hgo, Thread.remaining_true]
    refine hkept.next (by decide) (by decide) (fun _ => ?_) rfl (fun _ hs => hs) hkept.ec0Device
    rw [hw]
    rfl
  | none =>
    have hreturn : (exec senv (.start .getWorkLoop) s).1 = false := by
      simp [Life.exec, StartStatement.exec, hw]
    -- without a work loop no gate is made at all
    have hclosed : ∀ rest, ¬ GateOpen senv rest := by
      rintro rest ⟨hsome, -⟩
      rw [hw] at hsome
      exact absurd hsome (by decide)
    rw [hreturn, Thread.remaining_false]
    refine ⟨List.nil_suffix, ?_, fun hne => absurd rfl hne, fun hne => absurd rfl hne, ?_,
      hkept.ec0Device⟩
    · rw [hkept.gate]
      exact iff_of_false (hclosed _) (hclosed _)
    · rintro (hopen | hflush)
      · exact absurd hopen (hclosed _)
      · exact absurd hflush List.not_mem_nil

/-- **Step lemma**: a statement keeps the invariant. -/
theorem Wired.exec (h : Wired senv (k :: rest) s) :
    Wired senv (Thread.remaining (exec senv k s).1 rest) (exec senv k s).2 := by
  by_cases hmoves : Moves k
  · simp only [Moves, List.mem_cons, List.not_mem_nil, or_false] at hmoves
    rcases hmoves with rfl | rfl | rfl | rfl
    · exact h.initEC0Device
    · exact h.commandGate
    · exact h.releaseCommandGate
    · exact h.releaseServices
  · by_cases hloop : k = .start .getWorkLoop
    · subst hloop
      exact h.getWorkLoop
    · have hmake : k ≠ .start .commandGate := by
        rintro rfl
        exact hmoves (by decide)
      have hrelease : k ≠ .stop .releaseCommandGate := by
        rintro rfl
        exact hmoves (by decide)
      have hkept := h.congr (exec_wiring senv hmoves s)
      rw [exec_goes_on senv hloop hmake, Thread.remaining_true]
      exact hkept.next hmake hrelease (fun h => absurd h hloop) rfl (fun _ hs => hs) hkept.ec0Device

/-- A driver with its gate and its set. -/
theorem Wired.gated (h : Wired senv rest s) (hopen : GateOpen senv rest) : Gated s.driver :=
  ⟨h.gate.mpr hopen, h.services (Or.inl hopen)⟩

/-! ### What is recorded -/

/-- `A` holds of everything but calls through null pointers, and of those through the
provider, which is always there. -/
structure LifeEffects (A : Effect → Prop) : Prop where
  effect : ∀ e, (∀ p, e ≠ .nullCall p) → A e
  atkDevice : A (.nullCall (.device .atkDevice))

theorem lifeEffects_not_missing : LifeEffects (¬ Missing ·) where
  effect e he := by
    rintro ⟨p, -, hp⟩
    exact he p hp
  atkDevice := by
    rintro ⟨p, hne, hp⟩
    exact hne (Effect.nullCall.inj hp).symm

/-- With the gate and the set there, a notification about a consumer calls through no
null pointer. -/
theorem notificationHandler_recorded {A : Effect → Prop} {d : Driver} (hd : Gated d)
    (service : Service) (notifier : Notifier) :
    Grows A d (d.notificationHandler service notifier).2 := by
  refine notificationHandler_grows (fun hnone => ?_) (fun hnone => ?_) service notifier
  · exact absurd hd.commandGate (by simp [hnone])
  · exact absurd hd.notificationServices (by simp [hnone])

/-- The consumers that are there when notifications are registered. -/
theorem addPublish_grows {A : Effect → Prop} (services : List Service) {d : Driver}
    (hd : Gated d) :
    Grows A d
      (services.foldl (fun d service => (d.notificationHandler service .publish).2) d) := by
  induction services generalizing d with
  | nil => exact .refl d
  | cons x services ih =>
    rw [List.foldl_cons]
    exact (notificationHandler_recorded hd x .publish).trans (ih (notificationHandler_gated hd x _))

section Recorded

variable {A : Effect → Prop} (hA : LifeEffects A) {d : Driver}

include hA

theorem LifeEffects.hotkey : HotkeyEffects A := by
  refine ⟨⟨?_, ?_⟩, ?_, ?_⟩ <;> intros <;> exact hA.effect _ (by simp)

theorem LifeEffects.resource (object : Resource) (call : ResourceCall) :
    A (.resource object call) := hA.effect _ (by simp)

theorem LifeEffects.submitPlugin (data : List VirtualSMCKeyValue) : A (.submitPlugin data) :=
  hA.effect _ (by simp)

theorem LifeEffects.evaluateInteger (dev : ACPIDevice) (method : String) (args : List ACPIArg)
    (reply : Option UInt32) : A (.evaluateInteger dev method args reply) :=
  hA.effect _ (by simp)

theorem LifeEffects.integerEffect (field : DeviceField)
    (h : field = .atkDevice ∨ (d.device field).isSome) (env : Env) (method : String)
    (args : List ACPIArg) : A (d.integerEffect env field method args) := by
  rw [Driver.integerEffect]
  cases hdev : d.device field with
  | some dev => exact hA.evaluateInteger dev method args _
  | none =>
    rw [hdev] at h
    obtain rfl : field = .atkDevice := h.resolve_right (by simp)
    exact hA.atkDevice

theorem LifeEffects.objectEffect (d : Driver) (method : String) (args : List ACPIArg) :
    A (d.objectEffect .atkDevice method args) := by
  rw [Driver.objectEffect]
  split
  · exact hA.atkDevice
  · exact hA.effect _ (by simp)

theorem LifeEffects.wmiEffect (d : Driver) (env : Env) (methodId arg0 arg1 : UInt32) :
    A (d.wmiEffect env methodId arg0 arg1) :=
  hA.integerEffect .atkDevice (Or.inl rfl) env _ _

theorem LifeEffects.fanEffect (h : d.isTACHAvailable = true → d.ec0Device.isSome) (env : Env) :
    A (d.fanEffect env) := by
  rw [Driver.fanEffect]
  split
  · next ht => exact hA.integerEffect .ec0Device (Or.inr (h ht)) env _ _
  · exact hA.wmiEffect d env _ _ _

theorem LifeEffects.start (env : Env) (d : Driver) : StartEffects A env d where
  wdg := hA.objectEffect d _ _
  wmi := hA.wmiEffect d env
  ali _ := hA.evaluateInteger _ _ _ _
  tach _ := hA.evaluateInteger _ _ _ _

theorem vsmcNotificationHandler_recorded (venv : VSMCEnv) (d : Driver) :
    Grows A d (d.vsmcNotificationHandler venv).2 :=
  vsmcNotificationHandler_grows hA.resource venv hA.submitPlugin

/-- **What a statement records**: it calls through no null pointer but the provider's. -/
theorem Wired.exec_grows (h : Wired senv (k :: rest) s) :
    Grows A s.driver (Life.exec senv k s).2.driver := by
  have hposition := h.rest_eq
  have hmem : k ∈ program := h.rest_suffix.subset List.mem_cons_self
  cases k with
  | start k =>
    -- the two registrations are not statements of their own here
    refine startStatement_grows hA.resource senv (hA.start senv.env s.driver) ?_ ?_
    · rintro rfl
      exact absurd hmem (by decide)
    · rintro rfl
      exact absurd hmem (by decide)
  | notifications k =>
    cases k with
    | addPublish =>
      -- the gate has been made, and will be released
      have hopen : GateOpen senv (.notifications .addPublish :: rest) := by
        obtain ⟨hloop, hmade, -⟩ := h.all_made (by decide)
        refine ⟨hloop, hmade, ?_, fun _ => ?_⟩ <;> rw [hposition] <;> decide
      exact addPublish_grows s.notify.alive (h.gated hopen)
    | assignPublish => exact .of_log_eq rfl
    | addTerminate => exact .of_log_eq rfl
    | assignTerminate => exact .of_log_eq rfl
  | vsmc k => exact vsmcStatement_grows hA.resource hA.submitPlugin senv.numbering k s.vsmcState
  | stop k =>
    cases k with
    | flushServices =>
      -- `flushCollection` is called on the set that `init` has made
      have hset := h.services (Or.inr List.mem_cons_self)
      obtain ⟨services, hs⟩ := Option.isSome_iff_exists.mp hset
      refine .of_log_eq ?_
      simp only [Life.exec, StopStatement.exec, driver, NotifyState.mapDriver_driver]
      rw [driver] at hs
      rw [Driver.flushServices, hs]
      rfl
    | removePublishNotify => exact .of_log_eq rfl
    | removeTerminateNotify => exact .of_log_eq rfl
    | _ =>
      simp only [Life.exec, StopStatement.exec, driver, NotifyState.mapDriver_driver,
        Driver.cancelTimeout, Driver.removePoller, Driver.removeCommandGate, Driver.releaseWorkLoop,
        Driver.releasePoller, Driver.releaseCommandGate, Driver.releaseKeyboard]
      repeat' split
      all_goals first
        | exact .of_log_eq rfl
        | exact (grows_emit (hA.resource _ _)).congr rfl

/-- **What an event records**: the same, if the gate is there when the event needs it,
or calls through the gate and the set are no matter. -/
theorem Wired.react_grows (h : Wired senv rest s) {e : LifeEvent}
    (hopen : NeedsGate s e → GateOpen senv rest ∨
      A (.nullCall .commandGate) ∧ A (.nullCall .notificationServices)) :
    Grows A s.driver (react e s).driver := by
  cases e with
  | message env m =>
    cases m with
    | deviceNotification event =>
      refine notification_grows hA.hotkey env event
        (fun _ => hA.integerEffect .atkDevice (Or.inl rfl) env _ _) ?_ ?_
      · intro hcode hnone
        rcases hopen hcode with hopen | hmatter
        · exact absurd (h.gated hopen).commandGate (by simp [hnone])
        · exact hmatter.1
      · intro hcode hnone
        rcases hopen hcode with hopen | hmatter
        · exact absurd (h.gated hopen).notificationServices (by simp [hnone])
        · exact hmatter.2
    | setKeyboardBacklight tval =>
      simp only [react, driver, NotifyState.mapDriver_driver, message]
      split
      · exact grows_emit (hA.objectEffect _ _ _)
      · exact .refl _
    | other type => exact .refl _
  | tick env =>
    refine fire_grows env (fun hdev => ?_) ?_ (hA.fanEffect h.ec0Device env)
    · exact hA.integerEffect .alsDevice (Or.inr (Option.isSome_iff_ne_none.mpr hdev)) env _ _
    · exact hA.effect _ (by simp)
  | service e =>
    cases e with
    | publish x => exact .of_log_eq (congrArg log (NotifyState.react_publish_driver x s.notify))
    | terminate x => exact .of_log_eq (congrArg log (NotifyState.react_terminate_driver x s.notify))
    | deliver x =>
      simp only [react, NotifyState.react]
      split
      · exact .refl _
      · next notifier pending hpending =>
        have hneeded : NeedsGate s (.service (.deliver x)) := by
          rw [NeedsGate, hpending]
          exact List.cons_ne_nil _ _
        rcases hopen hneeded with hopen | hmatter
        · exact notificationHandler_recorded (h.gated hopen) x notifier
        · exact notificationHandler_grows (fun _ => hmatter.1) (fun _ => hmatter.2) x notifier
  | vsmcPublished venv =>
    simp only [react, VSMCState.publish]
    split
    · exact .refl _
    · split
      · exact vsmcNotificationHandler_recorded hA venv s.driver
      · exact .of_log_eq rfl

end Recorded

/-- The touchpad key without a gate. -/
theorem toggleTouchpad_missing (env : Env) {d : Driver} (hgate : d.commandGate = none) :
    .nullCall .commandGate ∈ (d.toggleTouchpad env).log := by
  -- asking and telling both go through the gate
  have hdispatch : ∀ m, ∀ d : Driver, d.commandGate = none →
      d.dispatchTouchpad env m = (d.emit (.nullCall .commandGate)).setIsTouchpadEnabled
        d.isTouchpadEnabled := by
    intro m d hnone
    rw [dispatchTouchpad, dispatchMessage, hnone]
  rw [toggleTouchpad, hdispatch _ d hgate, hdispatch _ _ (by simpa using hgate)]
  split <;> simp

/-- **An event that needs the gate misses it** when it is not there. -/
theorem Wired.react_missing (h : Wired senv rest s) {e : LifeEvent} (hneeded : NeedsGate s e)
    (hclosed : ¬ GateOpen senv rest) : .nullCall .commandGate ∈ (react e s).driver.log := by
  have hgate : s.driver.commandGate = none := by
    rw [← Option.not_isSome_iff_eq_none, h.gate]
    exact hclosed
  cases e with
  | message env m =>
    cases m with
    | deviceNotification event =>
      -- the code says the touchpad key, and the evaluation of `_WED` has not made a gate
      have hkey : ∀ d : Driver, d.handleMessage env 0x6B = d.toggleTouchpad env := fun _ => rfl
      have hkept : (s.driver.wedEvaluated env event).commandGate = none := by
        rw [wedEvaluated]
        split <;> exact hgate
      have hcode : s.driver.eventCode env event = 0x6B := hneeded
      show _ ∈ (s.driver.message env (.deviceNotification event)).2.log
      rw [message_deviceNotification, hcode, hkey]
      exact toggleTouchpad_missing env hkept
    | setKeyboardBacklight tval => exact absurd hneeded id
    | other type => exact absurd hneeded id
  | tick env => exact absurd hneeded id
  | service e =>
    cases e with
    | publish x => exact absurd hneeded id
    | terminate x => exact absurd hneeded id
    | deliver x =>
      have hpending : s.notify.pending x ≠ [] := hneeded
      cases hx : s.notify.pending x with
      | nil => exact absurd hx hpending
      | cons notifier pending =>
        rw [driver] at hgate
        simp [react, NotifyState.react, hx, driver, notificationHandler, hgate]
  | vsmcPublished venv => exact absurd hneeded id

theorem wired_initial (senv : StartEnv) (vendor : Option UInt32) (provider : ACPIDevice) :
    Wired senv program (initial vendor provider) := by
  have hmake : .start .commandGate ∈ program := by decide
  refine ⟨List.suffix_rfl, ?_, fun _ hnot => absurd (by decide) hnot, fun _ hnot =>
    absurd hmake hnot, fun _ => rfl, fun htach => absurd htach (by simp [initial, driver, init])⟩
  exact iff_of_false (by simp [initial, driver, init]) fun hopen => hopen.2.2.1 hmake

/-- **Step lemma**: the invariant of a schedule. -/
theorem wired_step (senv : StartEnv) (c : Config) (e : Thread.Event LifeEvent)
    (h : Wired senv c.rest c.state) : Wired senv (step senv c e).rest (step senv c e).state := by
  obtain ⟨rest, s⟩ := c
  cases e with
  | env e => exact h.congr (react_wiring e s)
  | thread =>
    cases rest with
    | nil => exact h
    | cons k rest => exact h.exec

/-- **Theorem.** In a schedule of the driver's life no method is called through a
missing object exactly if the touchpad key and the notifications about consumers are
handled only while the command gate is there: after `start` has made it and before
`stop` has released it. -/
theorem no_missing_iff (senv : StartEnv) (vendor : Option UInt32) (provider : ACPIDevice)
    (es : List (Thread.Event LifeEvent)) :
    Always (step senv) (fun c => NoMissing c.state) ⟨program, initial vendor provider⟩ es ↔
      Throughout (step senv) (fun c e => ∀ ev, e = .env ev → NeedsGate c.state ev →
        GateOpen senv c.rest) ⟨program, initial vendor provider⟩ es := by
  refine always_iff_throughout (I := fun c : Config => Wired senv c.rest c.state)
    (wired_initial senv vendor provider) (wired_step senv) ?_ ?_ es
  · intro e he
    exact absurd he (by simp [initial, driver, init])
  · rintro ⟨rest, s⟩ e h hclean
    cases e with
    | env e =>
      constructor
      · intro hafter ev hev hneeded
        obtain rfl : e = ev := Thread.Event.env.inj hev
        by_contra hclosed
        exact hafter _ (h.react_missing hneeded hclosed) ⟨.commandGate, by decide, rfl⟩
      -- the guard opens the gate for the event that needs it
      · intro hguard
        have hgrows := h.react_grows lifeEffects_not_missing fun hneeded =>
          Or.inl (hguard e rfl hneeded)
        exact hgrows.forall_mem hclean
    -- a statement is under no guard, and calls nothing that is missing
    | thread =>
      refine iff_of_true ?_ fun ev hev => absurd hev (by simp)
      cases rest with
      | nil => exact hclean
      | cons k rest => exact (h.exec_grows lifeEffects_not_missing).forall_mem hclean

/-- The touchpad key, as `_WED` tells it. -/
def touchpadKey : LifeEvent :=
  .message { Env.unresponsive with
    acpi := ⟨fun _ method _ => if method = "_WED" then some 0x6B else none, fun _ _ _ => none,
      fun _ _ => false⟩ } (.deviceNotification 0x6B)

/-- It arrives before `start` has made the command gate: the driver sends its messages
through a null pointer. -/
theorem touchpad_key_during_start :
    ¬ Always (step .bare) (fun c => NoMissing c.state) ⟨program, initial none 0⟩
      [.env touchpadKey] := by
  intro h
  have hnull : .nullCall .commandGate
      ∈ (run (step .bare) ⟨program, initial none 0⟩ [.env touchpadKey]).state.driver.log := by
    decide
  exact h.last _ hnull ⟨.commandGate, by decide, rfl⟩

end Life

end AsusSMC
