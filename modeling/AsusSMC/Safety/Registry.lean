import AsusSMC.Model.Lifecycle

/-!
# What the registry says of the driver

Four boolean properties of the driver's registry entry repeat a member: whether the
firmware sends its messages directly, whether the keyboard has a backlight, and the two
switches. Other programs read the switches there.

Each assignment of such a member is next to the `setProperty` that publishes it, except
one: `start` publishes that the touchpad is enabled without asking the member. The driver
is entered by hotkeys before that, and `registry_mirrors_iff` is the exact statement for
every schedule of its life.
-/

namespace AsusSMC

open EventSystem

namespace Driver

/-- The properties, each with the member it repeats. A property that is not there stands for
the value the member is constructed with. -/
def mirrored (d : Driver) : List (Bool × Bool) :=
  [((d.properties "IsDirectACPIMessagingSupported").getD false, d.directACPImessaging),
    ((d.properties "IsKeyboardBacklightSupported").getD false, d.hasKeyboardBacklight),
    ((d.properties "IsALSEnabled").getD true, d.isALSEnabled),
    ((d.properties "IsTouchpadEnabled").getD true, d.isTouchpadEnabled)]

/-- Every property tells its member. -/
def Mirrors (d : Driver) : Prop := ∀ p ∈ d.mirrored, p.1 = p.2

instance (d : Driver) : Decidable d.Mirrors := inferInstanceAs (Decidable (∀ p ∈ d.mirrored, _))

variable {d d' : Driver}

theorem mirrors_iff : d.Mirrors ↔
    (d.properties "IsDirectACPIMessagingSupported").getD false = d.directACPImessaging ∧
      (d.properties "IsKeyboardBacklightSupported").getD false = d.hasKeyboardBacklight ∧
      (d.properties "IsALSEnabled").getD true = d.isALSEnabled ∧
      (d.properties "IsTouchpadEnabled").getD true = d.isTouchpadEnabled := by
  simp [Mirrors, mirrored]

theorem Mirrors.congr (h : d.Mirrors) (hd : d'.mirrored = d.mirrored) : d'.Mirrors := by
  rw [Mirrors, hd]
  exact h

/-! ### Assigned and published -/

theorem Mirrors.publishDirect (h : d.Mirrors) :
    ((d.setProperty "IsDirectACPIMessagingSupported" true).setDirectACPImessaging
      true).Mirrors := by
  rw [mirrors_iff] at h ⊢
  simpa using h.2

theorem Mirrors.publishBacklight (h : d.Mirrors) (v : Bool) :
    ((d.setHasKeyboardBacklight v).setProperty "IsKeyboardBacklightSupported" v).Mirrors := by
  rw [mirrors_iff] at h ⊢
  simpa using ⟨h.1, h.2.2⟩

theorem Mirrors.publishLightSensor (h : d.Mirrors) (v : Bool) :
    ((d.setIsALSEnabled v).setProperty "IsALSEnabled" v).Mirrors := by
  rw [mirrors_iff] at h ⊢
  simpa using ⟨h.1, h.2.1, h.2.2.2⟩

/-- The touchpad is published after it has been assigned, possibly by a consumer. -/
theorem Mirrors.publishTouchpad (h : d.Mirrors) (hd : d'.mirrored.take 3 = d.mirrored.take 3) :
    (d'.setProperty "IsTouchpadEnabled" d'.isTouchpadEnabled).Mirrors := by
  -- the fourth pair is the one just written
  have h' : ∀ p ∈ d'.mirrored.take 3, p.1 = p.2 := by
    rw [hd]
    exact fun p hp => h p (List.mem_of_mem_take hp)
  rw [mirrors_iff]
  simpa [mirrored] using h'

/-- `start` publishes the touchpad without looking at it. -/
theorem Mirrors.setProperties_iff (h : d.Mirrors) :
    (d.setProperty "IsTouchpadEnabled" true).Mirrors ↔ d.isTouchpadEnabled = true := by
  obtain ⟨hdirect, hbacklight, hsensor, -⟩ := mirrors_iff.mp h
  rw [mirrors_iff]
  simp [hdirect, hbacklight, hsensor]

/-! ### Operations -/

theorem Mirrors.startATKDevice (h : d.Mirrors) (env : Env) : (d.startATKDevice env).Mirrors := by
  -- switching the sensor is a call; the member was assigned before it and is published after it
  have hswitch : ∀ d : Driver, (d.toggleALS env true).mirrored = d.mirrored :=
    wmiEvaluateMethod_frame (fun _ _ => rfl) env _ _ _
  simp only [Driver.startATKDevice]
  generalize d.validateObject env .atkDevice "DMES" = direct
  cases direct with
  | true => exact ((h.publishDirect.publishBacklight _).congr (hswitch _)).publishLightSensor true
  | false => exact ((h.publishBacklight _).congr (hswitch _)).publishLightSensor true

/-- The mode of the battery has a property of its own. -/
theorem initBattery_mirrored (env : Env) (kernelVersion kernelMinorVersion : ℕ) (d : Driver) :
    (d.initBattery env kernelVersion kernelMinorVersion).mirrored = d.mirrored := by
  have htoggle : ∀ d : Driver,
      (d.toggleBatteryConservativeMode env true).mirrored = d.mirrored := by
    intro d
    rw [toggleBatteryConservativeMode, wmiEvaluateMethod_eq]
    dsimp only
    -- the key written in two of the branches is not among the four
    repeat' split
    all_goals simp [mirrored]
  have hpresent : (d.wmiDevIsPresent env ASUS_WMI_DEVID_RSOC).2.mirrored = d.mirrored :=
    wmiEvaluateMethod_frame (fun _ _ => rfl) env _ _ _ d
  have havail : ∀ (d : Driver) v, (d.setIsBatteryRSOCAvailable v).mirrored = d.mirrored :=
    fun _ _ => rfl
  simp only [initBattery]
  repeat' split
  all_goals simp only [htoggle, havail, hpresent]

theorem dispatchReport_mirrored (env : Env) (ch : Channel) (code loop : Int32) (d : Driver) :
    (dispatchReport env ch code loop d).mirrored = d.mirrored :=
  dispatchReport_frame (fun _ _ => rfl) (fun _ _ => rfl) (fun _ _ => rfl) env ch code loop d

theorem displayOff_mirrored (env : Env) (d : Driver) :
    (d.displayOff env).mirrored = d.mirrored := by
  refine displayOff_frame ?_ ?_ ?_ ?_ ?_ ?_ env d <;> intros <;> rfl

theorem Mirrors.toggleTouchpad (h : d.Mirrors) (env : Env) : (d.toggleTouchpad env).Mirrors := by
  -- the consumers write through the pointer they are handed, which is that of the touchpad
  have hdispatch : ∀ m (d : Driver),
      (d.dispatchTouchpad env m).mirrored.take 3 = d.mirrored.take 3 := fun m d =>
    dispatchTouchpad_frame (f := fun d => d.mirrored.take 3) (fun _ _ => rfl) (fun _ _ => rfl) env
      m d
  generalize hd' : ((d.dispatchTouchpad env .kKeyboardGetTouchStatus).setIsTouchpadEnabled
    (!(d.dispatchTouchpad env .kKeyboardGetTouchStatus).isTouchpadEnabled)).dispatchTouchpad env
      .kKeyboardSetTouchStatus = d'
  have hkept : d'.mirrored.take 3 = d.mirrored.take 3 := by
    rw [← hd', hdispatch]
    exact hdispatch _ d
  -- so what is published last is what the member is by then
  have htoggle : d.toggleTouchpad env
      = d'.setProperty "IsTouchpadEnabled" d'.isTouchpadEnabled := by
    rw [Driver.toggleTouchpad, hd']
    cases d'.isTouchpadEnabled <;> rfl
  rw [htoggle]
  exact h.publishTouchpad hkept

/-- No message of the provider parts a property from its member. -/
theorem Mirrors.message (h : d.Mirrors) (env : Env) (m : Message) :
    (d.message env m).2.Mirrors := by
  cases m with
  | deviceNotification event =>
    have hwed : (d.wedEvaluated env event).mirrored = d.mirrored := by
      rw [wedEvaluated]
      split <;> rfl
    rw [message_deviceNotification]
    generalize hd₁ : d.wedEvaluated env event = d₁
    have h₁ : d₁.Mirrors := h.congr (hd₁ ▸ hwed)
    generalize hd' : d₁.handleMessage env (d.eventCode env event) = d'
    have hkey := handleMessage_handled env (d.eventCode env event) d₁
    rw [hd'] at hkey
    cases hkey with
    | csmr usage | brightness usage | topCase usage =>
      exact h₁.congr (dispatchReport_mirrored env _ _ _ d₁)
    | displayOff => exact h₁.congr (displayOff_mirrored env d₁)
    | toggleTouchpad => exact h₁.toggleTouchpad env
    | toggleALSSensor => exact h₁.publishLightSensor _
    | ignored | letSleep | toggleAirplaneMode => exact h₁.congr rfl
  | setKeyboardBacklight tval =>
    rw [Driver.message]
    split
    · exact h.congr rfl
    · exact h
  | other type => exact h

end Driver

/-! ### A life -/

namespace Life

open Driver

variable {senv : StartEnv} {s : Life}

theorem mirrors_react (h : s.driver.Mirrors) (e : LifeEvent) : (react e s).driver.Mirrors := by
  cases e with
  | message env m => exact h.message env m
  | tick env =>
    refine h.congr (fire_frame ?_ ?_ ?_ ?_ env s.driver) <;> intros <;> rfl
  | service e =>
    cases e with
    | publish x => exact h.congr (congrArg mirrored (NotifyState.react_publish_driver x s.notify))
    | terminate x =>
      exact h.congr (congrArg mirrored (NotifyState.react_terminate_driver x s.notify))
    | deliver x =>
      simp only [react, NotifyState.react]
      split
      · exact h
      · exact h.congr (notificationHandler_frame (fun _ _ => rfl) (fun _ _ => rfl) x _ s.driver)
  | vsmcPublished venv =>
    simp only [react, VSMCState.publish]
    repeat' split
    · exact h
    · refine h.congr (vsmcNotificationHandler_frame venv s.driver ?_ ?_ ?_) <;> intros <;> rfl
    · exact h

/-- **Step lemma**: every statement but one keeps the properties and the members together. -/
theorem mirrors_exec {k : LifeStatement} (hk : k ≠ .start .setProperties)
    (h : s.driver.Mirrors) : (exec senv k s).2.driver.Mirrors := by
  cases k with
  | start k =>
    cases k with
    | parseWDG => exact h.congr (parseWDG_frame (fun _ _ => rfl) (fun _ _ => rfl) senv.env _)
    | initATKDevice => exact h.congr (wmiEvaluateMethod_frame (fun _ _ => rfl) senv.env _ 0 0 _)
    | initALSDevice =>
      refine h.congr (initALSDevice_frame ?_ ?_ ?_ ?_ senv.env _ _) <;> intros <;> rfl
    | initEC0Device =>
      refine h.congr (initEC0Device_frame ?_ ?_ ?_ ?_ senv.env _ _) <;> intros <;> rfl
    | initBattery => exact h.congr (initBattery_mirrored _ _ _ _)
    | initVirtualKeyboard =>
      exact h.congr (initVirtualKeyboard_frame (fun _ _ => rfl) (fun _ _ => rfl) senv _)
    | startATKDevice => exact h.startATKDevice senv.env
    | getWorkLoop | commandGate =>
      refine h.congr ?_
      simp only [exec, StartStatement.exec]
      repeat' split
      all_goals rfl
    | setProperties => exact absurd rfl hk
    | registerNotifications =>
      refine h.congr (NotifyState.runAll_frame ?_ ?_ ?_ ?_ _) <;> intros <;> rfl
    | registerVSMC =>
      refine h.congr (VSMCState.runAll_frame ?_ ?_ ?_ ?_ ?_ senv.numbering _) <;> intros <;> rfl
  | notifications k =>
    refine h.congr (NotifyState.exec_frame ?_ ?_ ?_ ?_ k s.notify) <;> intros <;> rfl
  | vsmc k =>
    refine h.congr (VSMCState.exec_frame ?_ ?_ ?_ ?_ ?_ senv.numbering k s.vsmcState) <;>
      intros <;> rfl
  | stop k =>
    -- `stop` releases objects and leaves the registry entry as it is
    refine h.congr ?_
    cases k <;>
      simp only [exec, StopStatement.exec, driver, NotifyState.mapDriver_driver,
        NotifyState.removeNotifier_driver, Driver.cancelTimeout, Driver.removePoller,
        Driver.removeCommandGate, Driver.releaseWorkLoop, Driver.releasePoller,
        Driver.releaseCommandGate, Driver.flushServices, Driver.releaseKeyboard]
    all_goals repeat' split
    all_goals rfl

/-- **The registry tells the truth.** In every schedule of a driver's life, each of the four
properties tells its member at every moment, exactly if the touchpad is enabled when `start`
publishes that it is. -/
theorem registry_mirrors_iff (senv : StartEnv) (vendor : Option UInt32) (provider : ACPIDevice)
    (es : List (Thread.Event LifeEvent)) :
    Always (step senv) (fun c => c.state.driver.Mirrors) ⟨program, initial vendor provider⟩ es ↔
      Throughout (step senv) (fun c e => e = .thread →
        c.rest.head? = some (.start .setProperties) → c.state.driver.isTouchpadEnabled = true)
        ⟨program, initial vendor provider⟩ es := by
  refine always_iff_throughout (I := fun _ => True) trivial (fun _ _ _ => trivial) ?_ ?_ es
  · -- a constructed driver has published nothing
    rw [mirrors_iff]
    exact ⟨rfl, rfl, rfl, rfl⟩
  · rintro ⟨rest, s⟩ e - h
    cases e with
    | env e => exact iff_of_true (mirrors_react h e) fun hne => absurd hne (by simp)
    | thread =>
      cases rest with
      | nil => exact iff_of_true h fun _ hhead => absurd hhead (by simp)
      | cons k rest =>
        -- only here is a property written without a look at its member
        by_cases hk : k = .start .setProperties
        · subst hk
          refine h.setProperties_iff.trans ⟨fun hon _ _ => hon, fun hguard => hguard rfl rfl⟩
        · refine iff_of_true (mirrors_exec hk h) fun _ hhead => ?_
          exact absurd (Option.some.inj hhead) hk

/-- The touchpad key between the two statements. -/
example : ¬ (run (step .bare) ⟨program, initial none 0⟩
    (List.replicate 9 .thread ++ [.env (.message { Env.unresponsive with
      acpi := ⟨fun _ method _ => if method = "_WED" then some 0x6B else none, fun _ _ _ => none,
        fun _ _ => false⟩ } (.deviceNotification 0x6B)), .thread])).state.driver.Mirrors := by
  decide

end Life

end AsusSMC
