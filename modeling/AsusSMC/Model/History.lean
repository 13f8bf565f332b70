import AsusSMC.Model.HotkeySpec
import AsusSMC.Model.Startup

/-!
# What the operations record

`Grows A d d'` — between `d` and `d'` the history grows, by effects that satisfy
`A`. There is one lemma for each operation of the driver: it names the effects the
operation can have, and asks `A` of each. Statements about the whole history of a
run are instances of them.
-/

namespace AsusSMC

namespace Driver

/-- From `d` to `d'` the history grows by effects that satisfy `A`. -/
def Grows (A : Effect → Prop) (d d' : Driver) : Prop :=
  ∃ es, d'.log = d.log ++ es ∧ ∀ e ∈ es, A e

variable {A : Effect → Prop} {d d' d'' : Driver}

theorem Grows.of_log_eq (h : d'.log = d.log) : Grows A d d' :=
  ⟨[], by rw [h, List.append_nil], fun _ he => absurd he List.not_mem_nil⟩

theorem Grows.refl (d : Driver) : Grows A d d := .of_log_eq rfl

theorem Grows.trans (h : Grows A d d') (h' : Grows A d' d'') : Grows A d d'' := by
  obtain ⟨es, hes, hA⟩ := h
  obtain ⟨fs, hfs, hA'⟩ := h'
  refine ⟨es ++ fs, by rw [hfs, hes, List.append_assoc], ?_⟩
  intro e he
  rcases List.mem_append.mp he with he | he
  · exact hA e he
  · exact hA' e he

theorem grows_emit {e : Effect} (he : A e) : Grows A d (d.emit e) :=
  ⟨[e], rfl, fun _ he' => List.mem_singleton.mp he' ▸ he⟩

theorem Grows.mono {B : Effect → Prop} (h : Grows A d d') (hAB : ∀ e, A e → B e) :
    Grows B d d' := by
  obtain ⟨es, hes, hA⟩ := h
  exact ⟨es, hes, fun e he => hAB e (hA e he)⟩

/-- A driver with the history of `d'` has grown as `d'` has. -/
theorem Grows.congr (h : Grows A d d') (hlog : d''.log = d'.log) : Grows A d d'' :=
  h.trans (.of_log_eq hlog)

theorem Grows.mem (h : Grows A d d') {e : Effect} (he : e ∈ d.log) : e ∈ d'.log := by
  obtain ⟨es, hes, -⟩ := h
  rw [hes]
  exact List.mem_append_left es he

/-- Effects that `f` does not see do not change what it sees. -/
theorem Grows.filterMap_eq {β : Type*} {f : Effect → Option β} (h : Grows (f · = none) d d') :
    d'.log.filterMap f = d.log.filterMap f := by
  obtain ⟨es, hes, hnone⟩ := h
  rw [hes, List.filterMap_append, List.filterMap_eq_nil_iff.mpr hnone, List.append_nil]

/-- What held of all effects still does. -/
theorem Grows.forall_mem (h : Grows A d d') (hd : ∀ e ∈ d.log, A e) : ∀ e ∈ d'.log, A e := by
  obtain ⟨es, hes, hA⟩ := h
  intro e he
  rw [hes] at he
  rcases List.mem_append.mp he with he | he
  · exact hd e he
  · exact hA e he

/-! ### Evaluations -/

/-- `A` holds of every evaluation, and where there is no device to ask. -/
structure EvaluationEffects (A : Effect → Prop) : Prop where
  integer : ∀ dev method args reply, A (.evaluateInteger dev method args reply)
  object : ∀ dev method args, A (.evaluateObject dev method args)
  nullCall : ∀ p, A (.nullCall p)

namespace EvaluationEffects

variable (hA : EvaluationEffects A) (env : Env) (d : Driver)

include hA

theorem integerEffect (field : DeviceField) (method : String) (args : List ACPIArg) :
    A (d.integerEffect env field method args) := by
  rw [Driver.integerEffect]
  split
  · exact hA.nullCall _
  · exact hA.integer _ _ _ _

theorem objectEffect (field : DeviceField) (method : String) (args : List ACPIArg) :
    A (d.objectEffect field method args) := by
  rw [Driver.objectEffect]
  split
  · exact hA.nullCall _
  · exact hA.object _ _ _

theorem wmiEffect (methodId arg0 arg1 : UInt32) : A (d.wmiEffect env methodId arg0 arg1) :=
  hA.integerEffect env d _ _ _

theorem fanEffect : A (d.fanEffect env) := by
  rw [Driver.fanEffect]
  split
  · exact hA.integerEffect env d _ _ _
  · exact hA.wmiEffect env d _ _ _

end EvaluationEffects

/-! ### Hotkeys -/

/-- A report that is taken has been posted to a keyboard. -/
theorem post_success (env : Env) (d : Driver) (report : Report) (reportSize : ℕ)
    (h : (d.postKeyboardInputReport env (some report) reportSize).1 = .success) :
    d.kbdDevice.isSome := by
  simp only [postKeyboardInputReport] at h
  split at h
  · exact IOReturn.noConfusion h
  · split at h
    · next hboth => exact (Bool.and_eq_true_iff.mp hboth).1
    · exact IOReturn.noConfusion h

/-- `A` holds of everything a dispatch records. -/
structure ReportEffects (A : Effect → Prop) : Prop where
  dispatched : ∀ reportId code loop, A (.dispatched reportId code loop)
  post : ∀ report result, A (.post report result)

/-- `A` holds of everything a hotkey records, calls through null pointers and
evaluations apart. -/
structure HotkeyEffects (A : Effect → Prop) : Prop extends ReportEffects A where
  kevMsgPost : ∀ msg posted, A (.kevMsgPost msg posted)
  consumer : ∀ service message data, A (.consumer service message data)

/-- `A` holds of what a hotkey records on `d`: a report is taken only by a keyboard, a
message by the kernel as it pleases, and a consumer is called only through the command
gate. -/
structure OutputEffects (A : Effect → Prop) (env : Env) (d : Driver) : Prop where
  dispatched : ∀ reportId code loop, A (.dispatched reportId code loop)
  post : ∀ report result, (result = .success → d.kbdDevice.isSome) → A (.post report result)
  kevMsgPost : ∀ msg, A (.kevMsgPost msg (env.kevMsgPost msg))
  consumer : d.commandGate.isSome → ∀ service message data, A (.consumer service message data)

theorem HotkeyEffects.outputs (hA : HotkeyEffects A) (env : Env) (d : Driver) :
    OutputEffects A env d where
  dispatched := hA.dispatched
  post report result _ := hA.post report result
  kevMsgPost msg := hA.kevMsgPost msg _
  consumer _ := hA.consumer

/-- Reports are posted to the keyboard there is. -/
theorem dispatchReport_outputs
    (hdispatched : ∀ reportId code loop, A (.dispatched reportId code loop))
    (hpost : ∀ report result, (result = .success → d.kbdDevice.isSome) → A (.post report result))
    (env : Env) (ch : Channel) (code loop : Int32) :
    Grows A d (dispatchReport env ch code loop d) := by
  -- the loop may run any number of times, so the induction is on its passes
  refine (Countdown.countdown_induction _
    (P := fun d' => Grows A d d' ∧ d'.kbdDevice = d.kbdDevice) ?_ loop
    ⟨grows_emit (hdispatched _ _ _), rfl⟩).1
  rintro d' ⟨hd', hkbd⟩
  -- press, post, release, post
  have hpress : ∀ (d₀ : Driver) keys, Grows A d d₀ ∧ d₀.kbdDevice = d.kbdDevice →
      Grows A d (d₀.setKeys ch keys) ∧ (d₀.setKeys ch keys).kbdDevice = d.kbdDevice := by
    rintro d₀ keys ⟨hgrown, hsame⟩
    cases ch <;> exact ⟨hgrown.congr rfl, hsame⟩
  have hposted : ∀ (d₀ : Driver) r, Grows A d d₀ ∧ d₀.kbdDevice = d.kbdDevice →
      Grows A d (d₀.postKeyboardInputReport env (some r) Report.size).2 ∧
        (d₀.postKeyboardInputReport env (some r) Report.size).2.kbdDevice = d.kbdDevice := by
    rintro d₀ r ⟨hgrown, hsame⟩
    refine ⟨hgrown.trans (grows_emit (hpost r _ ?_)), hsame⟩
    rw [← hsame]
    exact post_success env d₀ r Report.size
  rw [dispatchPass]
  exact hposted _ _ (hpress _ _ (hposted _ _ (hpress _ _ ⟨hd', hkbd⟩)))

theorem dispatchReport_grows (hA : ReportEffects A) (env : Env) (ch : Channel) (code loop : Int32)
    (d : Driver) : Grows A d (dispatchReport env ch code loop d) :=
  dispatchReport_outputs hA.dispatched (fun report result _ => hA.post report result) env ch code
    loop

section Broadcasts

variable (hconsumer : d.commandGate.isSome →
  ∀ service message data, A (.consumer service message data)) (env : Env)

include hconsumer

/-- A broadcast records a call of each consumer, or a call through a null pointer. -/
theorem dispatchTouchpad_grows (hgate : d.commandGate = none → A (.nullCall .commandGate))
    (hset : d.notificationServices = none → A (.nullCall .notificationServices))
    (m : KeyboardMessage) : Grows A d (d.dispatchTouchpad env m) := by
  rw [dispatchTouchpad]
  refine .congr ?_ rfl
  rw [dispatchMessage]
  cases hg : d.commandGate with
  | none => exact grows_emit (hgate hg)
  | some gate =>
    have hcalled := hconsumer (by rw [hg]; rfl)
    dsimp only
    rw [dispatchMessageGated]
    cases hs : d.notificationServices with
    | none => exact grows_emit (hset hs)
    | some services =>
      dsimp only
      generalize d.isTouchpadEnabled = data
      clear hconsumer hgate hset hg hs
      -- each consumer is called with what the one before it has left
      induction (env.order m).visit services.members generalizing data d with
      | nil => exact .refl d
      | cons s rest ih =>
        rw [List.foldl_cons]
        exact (grows_emit (hcalled s m data)).trans (ih _)

theorem toggleTouchpad_grows (hgate : d.commandGate = none → A (.nullCall .commandGate))
    (hset : d.notificationServices = none → A (.nullCall .notificationServices)) :
    Grows A d (d.toggleTouchpad env) := by
  have hask := dispatchTouchpad_grows hconsumer env hgate hset .kKeyboardGetTouchStatus
  generalize hd' : (d.dispatchTouchpad env .kKeyboardGetTouchStatus).setIsTouchpadEnabled
    (!(d.dispatchTouchpad env .kKeyboardGetTouchStatus).isTouchpadEnabled) = d'
  -- asking changes neither the gate nor the set
  have hgate' : d'.commandGate = d.commandGate := by
    rw [← hd']
    exact dispatchTouchpad_frame (f := commandGate) (fun _ _ => rfl) (fun _ _ => rfl) env _ d
  have hset' : d'.notificationServices = d.notificationServices := by
    rw [← hd']
    exact dispatchTouchpad_frame (f := notificationServices) (fun _ _ => rfl) (fun _ _ => rfl) env
      _ d
  have htell := dispatchTouchpad_grows (d := d') (hgate' ▸ hconsumer) env (hgate' ▸ hgate)
    (hset' ▸ hset) .kKeyboardSetTouchStatus
  have hboth : Grows A d (d'.dispatchTouchpad env .kKeyboardSetTouchStatus) := by
    refine Grows.trans (hask.congr ?_) htell
    rw [← hd']
    rfl
  rw [toggleTouchpad, hd']
  split <;> exact hboth.congr rfl

end Broadcasts

section Outputs

variable (env : Env)

theorem displayOff_outputs (hA : OutputEffects A env d) : Grows A d (d.displayOff env) := by
  have hread : (d.readPanelBrightnessValue env).log = d.log :=
    readPanelBrightnessValue_frame (fun _ _ => rfl) (fun _ _ => rfl) env d
  have hkbd : (d.readPanelBrightnessValue env).kbdDevice = d.kbdDevice :=
    readPanelBrightnessValue_frame (fun _ _ => rfl) (fun _ _ => rfl) env d
  rw [displayOff]
  refine .congr ?_ rfl
  split
  · refine (Grows.of_log_eq hread).trans (dispatchReport_outputs hA.dispatched ?_ env _ _ _)
    exact hkbd ▸ hA.post
  · exact dispatchReport_outputs hA.dispatched hA.post env _ _ _

theorem handleMessage_outputs (hA : OutputEffects A env d) (code : Int32)
    (hgate : code = 0x6B → d.commandGate = none → A (.nullCall .commandGate))
    (hset : code = 0x6B → d.notificationServices = none → A (.nullCall .notificationServices)) :
    Grows A d (d.handleMessage env code) := by
  generalize hd' : d.handleMessage env code = d'
  -- one case for each kind of hotkey
  have h := handleMessage_handled env code d
  rw [hd'] at h
  cases h with
  | ignored => exact .refl d
  | csmr usage => exact dispatchReport_outputs hA.dispatched hA.post env _ _ _
  | brightness usage => exact dispatchReport_outputs hA.dispatched hA.post env _ _ _
  | topCase usage => exact dispatchReport_outputs hA.dispatched hA.post env _ _ _
  | displayOff => exact displayOff_outputs env hA
  | toggleTouchpad hcode => exact toggleTouchpad_grows hA.consumer env (hgate hcode) (hset hcode)
  | letSleep => exact grows_emit (hA.kevMsgPost _)
  | toggleALSSensor => exact .of_log_eq rfl
  | toggleAirplaneMode => exact grows_emit (hA.kevMsgPost _)

/-- What a notification records: the evaluation of `_WED`, and what the hotkey does. -/
theorem notification_outputs (hA : OutputEffects A env d) (event : UInt32)
    (hwed : d.directACPImessaging = false →
      A (d.integerEffect env .atkDevice "_WED" [.number event.toUInt64]))
    (hgate : d.eventCode env event = 0x6B → d.commandGate = none → A (.nullCall .commandGate))
    (hset : d.eventCode env event = 0x6B → d.notificationServices = none →
      A (.nullCall .notificationServices)) :
    Grows A d (d.message env (.deviceNotification event)).2 := by
  rw [message_deviceNotification, wedEvaluated]
  split
  · exact handleMessage_outputs env hA _ hgate hset
  · next hdirect =>
    refine (grows_emit (hwed (by simpa using hdirect))).trans ?_
    exact handleMessage_outputs (d := d.emit _) env
      ⟨hA.dispatched, hA.post, hA.kevMsgPost, hA.consumer⟩ _ hgate hset

/-- What any message records. -/
theorem message_outputs (hA : OutputEffects A env d) (heval : EvaluationEffects A) (m : Message) :
    Grows A d (d.message env m).2 := by
  cases m with
  | deviceNotification event =>
    exact notification_outputs env hA event (fun _ => heval.integerEffect env d _ _ _)
      (fun _ _ => heval.nullCall _) fun _ _ => heval.nullCall _
  | setKeyboardBacklight tval =>
    rw [message]
    split
    · exact grows_emit (heval.objectEffect d _ _ _)
    · exact .refl d
  | other type => exact .refl d

/-- Where `A` does not ask whether there is a keyboard, or a gate. -/
theorem notification_grows (hA : HotkeyEffects A) (env : Env) (event : UInt32)
    (hwed : d.directACPImessaging = false →
      A (d.integerEffect env .atkDevice "_WED" [.number event.toUInt64]))
    (hgate : d.eventCode env event = 0x6B → d.commandGate = none → A (.nullCall .commandGate))
    (hset : d.eventCode env event = 0x6B → d.notificationServices = none →
      A (.nullCall .notificationServices)) :
    Grows A d (d.message env (.deviceNotification event)).2 :=
  notification_outputs env (hA.outputs env d) event hwed hgate hset

end Outputs

/-! ### WMI -/

/-- What a WMI evaluation records depends on the device and the method name. -/
theorem wmiEffect_congr (hdevice : d'.atkDevice = d.atkDevice)
    (hmethod : d'.wmiMethod = d.wmiMethod)
    (env : Env) (methodId arg0 arg1 : UInt32) :
    d'.wmiEffect env methodId arg0 arg1 = d.wmiEffect env methodId arg0 arg1 := by
  rw [wmiEffect, wmiEffect, integerEffect, integerEffect, device, device, hdevice, hmethod]

section WMI

variable (env : Env)

theorem wmiEvaluateMethod_grows {methodId arg0 arg1 : UInt32}
    (h : A (d.wmiEffect env methodId arg0 arg1)) :
    Grows A d (wmiEvaluateMethod env methodId arg0 arg1 d).2 := by
  rw [wmiEvaluateMethod_eq]
  exact grows_emit h

theorem parseWDG_grows (h : A (d.objectEffect .atkDevice "_WDG" [])) :
    Grows A d (d.parseWDG env) := by
  have hlog : (d.parseWDG env).log = (d.emit (d.objectEffect .atkDevice "_WDG" [])).log := by
    simp only [parseWDG, evaluateObject_driver]
    repeat' split
    all_goals rfl
  exact (grows_emit h).congr hlog

theorem toggleBatteryConservativeMode_grows (state : Bool)
    (h : ∀ limit, A (d.wmiEffect env ASUS_WMI_METHODID_DEVS ASUS_WMI_DEVID_RSOC limit)) :
    Grows A d (d.toggleBatteryConservativeMode env state) := by
  rw [toggleBatteryConservativeMode]
  split
  · exact .refl d
  -- one evaluation, and a property where it is accepted
  · have hgrown := fun limit => wmiEvaluateMethod_grows env (h limit)
    generalize (if state then (80 : UInt32) else 100) = limit
    dsimp only
    split
    · exact hgrown limit
    · exact (hgrown limit).congr rfl

theorem initBattery_grows (kernelVersion kernelMinorVersion : ℕ)
    (h : ∀ methodId arg0 arg1, A (d.wmiEffect env methodId arg0 arg1)) :
    Grows A d (d.initBattery env kernelVersion kernelMinorVersion) := by
  rw [initBattery]
  split
  · exact .refl d
  · have hpresent : (d.wmiDevIsPresent env ASUS_WMI_DEVID_RSOC).2
        = d.emit (d.wmiEffect env ASUS_WMI_METHODID_DSTS ASUS_WMI_DEVID_RSOC 0) := by
      rw [wmiDevIsPresent, wmiEvaluateMethod_eq]
    have hgrown : Grows A d ((d.wmiDevIsPresent env ASUS_WMI_DEVID_RSOC).2.setIsBatteryRSOCAvailable
        (d.wmiDevIsPresent env ASUS_WMI_DEVID_RSOC).1) := by
      rw [hpresent]
      exact (grows_emit (h _ _ _)).congr rfl
    dsimp only
    split
    · -- neither the device nor the method name has changed
      refine hgrown.trans (toggleBatteryConservativeMode_grows env true fun limit => ?_)
      rw [hpresent]
      exact h _ _ limit
    · exact hgrown

/-- The one evaluation of `startATKDevice` switches the light sensor on. -/
theorem startATKDevice_log (d : Driver) :
    (d.startATKDevice env).log
      = d.log ++ [d.wmiEffect env ASUS_WMI_METHODID_DEVS ASUS_WMI_DEVID_ALS_ENABLE 1] := by
  have hswitch : ∀ d' : Driver, (d'.toggleALS env true).log
      = d'.log ++ [d'.wmiEffect env ASUS_WMI_METHODID_DEVS ASUS_WMI_DEVID_ALS_ENABLE 1] := by
    intro d'
    rw [toggleALS, wmiEvaluateMethod_eq]
    rfl
  simp only [startATKDevice, setProperty_log, setIsALSEnabled_log, setHasKeyboardBacklight_log,
    hswitch]
  -- neither the device nor the method name has changed
  generalize d.validateObject env .atkDevice "DMES" = direct
  cases direct with
  | true =>
    simp only [if_true, setProperty_log, setDirectACPImessaging_log]
    rw [wmiEffect_congr (d := d)] <;> simp
  | false =>
    simp only [Bool.false_eq_true, if_false]
    rw [wmiEffect_congr (d := d)] <;> simp

theorem startATKDevice_grows
    (h : ∀ methodId arg0 arg1, A (d.wmiEffect env methodId arg0 arg1)) :
    Grows A d (d.startATKDevice env) :=
  (grows_emit (h _ _ _)).congr (startATKDevice_log env d)

end WMI

/-! ### Sensors -/

section Sensors

variable (env : Env)

/-- A refresh that posts needs the poller. -/
theorem refreshALS_grows (post : Bool)
    (hali : d.alsDevice ≠ none → A (d.integerEffect env .alsDevice "_ALI" []))
    (hpost : post = true → A .postInterrupt)
    (hpoller : post = true → d.poller = none → A (.nullCall .poller)) :
    Grows A d (d.refreshALS env post).2 := by
  cases hdev : d.alsDevice with
  | none =>
    rw [refreshALS_of_none env d post hdev]
    exact .refl d
  | some dev =>
    -- the sensor is evaluated only while the switch is on
    have hread : Grows A d (d.aliEvaluated env) := by
      rw [aliEvaluated]
      split
      · exact grows_emit (hali (by simp [hdev]))
      · exact .refl d
    have hkept : (d.aliEvaluated env).poller = d.poller := by
      rw [aliEvaluated]
      split <;> rfl
    rw [refreshALS_of_some env d post hdev]
    split
    · next hp =>
      have hposted : Grows A d (((d.aliEvaluated env).setCurrentLux (d.luxReading env)).emit
          .postInterrupt) := (hread.congr rfl).trans (grows_emit (hpost hp))
      refine hposted.trans ?_
      rw [setTimeoutMS]
      split
      · next hnone => exact grows_emit (hpoller hp (hkept.symm.trans hnone))
      · exact .of_log_eq rfl
    · exact hread.congr rfl

theorem refreshFan_grows (h : A (d.fanEffect env)) : Grows A d (d.refreshFan env).2 := by
  rw [refreshFan_eq]
  exact (grows_emit h).congr rfl

/-- A tick finds its own poller, so it calls nothing through it that is not there. -/
theorem fire_grows (hali : d.alsDevice ≠ none → A (d.integerEffect env .alsDevice "_ALI" []))
    (hpost : A .postInterrupt) (hfan : A (d.fanEffect env)) : Grows A d (d.fire env) := by
  rw [fire]
  split
  · exact .refl d
  · next p hp =>
    split
    · generalize hd' : d.setPoller (some { p with armed := false }) = d'
      have hpoller : d'.poller ≠ none := by
        rw [← hd']
        simp
      have hfired : Grows A d d' := .of_log_eq (by rw [← hd']; rfl)
      have hlight : Grows A d' (d'.refreshALS env true).2 := by
        refine refreshALS_grows env true ?_ (fun _ => hpost) fun _ hnone => absurd hnone hpoller
        rw [← hd']
        exact hali
      -- the evaluation of the fan does not depend on what the light sensor has left
      have heffect : (d'.refreshALS env true).2.fanEffect env = d.fanEffect env := by
        have hframe := refreshALS_frame (f := fanEffect env) (fun _ _ => rfl) (fun _ _ => rfl)
          (fun _ _ => rfl) env true d'
        rw [hframe, ← hd']
        rfl
      rw [pollerAction]
      refine (hfired.trans hlight).trans (refreshFan_grows env ?_)
      rw [heffect]
      exact hfan
    · exact .refl d

theorem initALSDevice_grows (disc : Discovery)
    (h : ∀ dev, A (.evaluateInteger dev "_ALI" [] (env.acpi.integer dev "_ALI" []))) :
    Grows A d (d.initALSDevice env disc) := by
  have hset : ∀ dev, Grows A d (d.setAlsDevice dev) := fun dev => .of_log_eq rfl
  rw [initALSDevice]
  split
  · exact .refl d
  · split
    · exact .refl d
    · split
      · exact .refl d
      · split
        · exact .refl d
        · next dev _ =>
          dsimp only
          split
          · exact hset dev
          · next hsome =>
            split
            · exact hset dev
            · refine (hset dev).trans (refreshALS_grows env false ?_ (by simp) (by simp))
              intro _
              cases dev with
              | none => exact absurd rfl hsome
              | some dev => exact h dev

theorem initEC0Device_grows (disc : Discovery)
    (h : ∀ dev, A (.evaluateInteger dev "TACH" [.number 0]
      (env.acpi.integer dev "TACH" [.number 0]))) :
    Grows A d (d.initEC0Device env disc) := by
  have hset : ∀ dev, Grows A d ((d.setIsTACHAvailable true).setEc0Device dev) := fun dev =>
    .of_log_eq rfl
  rw [initEC0Device]
  split
  · exact .of_log_eq rfl
  · split
    · exact .of_log_eq rfl
    · split
      · exact .of_log_eq rfl
      · split
        · exact .of_log_eq rfl
        · next dev _ =>
          dsimp only
          split
          · exact (hset dev).congr rfl
          · next hsome =>
            split
            · exact (hset dev).congr rfl
            · cases dev with
              | none => exact absurd rfl hsome
              | some dev =>
                have hfan := (hset (some dev)).trans (refreshFan_grows env (h dev))
                split
                · exact hfan.congr rfl
                · exact hfan

end Sensors

/-! ### Start-up and notifications -/

/-- `A` holds of what `start` evaluates before it registers anything. -/
structure StartEffects (A : Effect → Prop) (env : Env) (d : Driver) : Prop where
  wdg : A (d.objectEffect .atkDevice "_WDG" [])
  wmi : ∀ methodId arg0 arg1, A (d.wmiEffect env methodId arg0 arg1)
  ali : ∀ dev, A (.evaluateInteger dev "_ALI" [] (env.acpi.integer dev "_ALI" []))
  tach : ∀ dev, A (.evaluateInteger dev "TACH" [.number 0]
    (env.acpi.integer dev "TACH" [.number 0]))

theorem EvaluationEffects.start (hA : EvaluationEffects A) (env : Env) (d : Driver) :
    StartEffects A env d where
  wdg := hA.objectEffect d _ _ _
  wmi := hA.wmiEffect env d
  ali _ := hA.integer _ _ _ _
  tach _ := hA.integer _ _ _ _

/-- The statements of `start` that acquire nothing. -/
def Evaluating (k : StartStatement) : Prop :=
  k ∈ [.parseWDG, .initATKDevice, .initALSDevice, .initEC0Device, .initBattery, .startATKDevice,
    .setProperties]

instance : DecidablePred Evaluating := fun _ => inferInstanceAs (Decidable (_ ∈ _))

theorem evaluating_grows (senv : StartEnv) (hA : StartEffects A senv.env d) {k : StartStatement}
    (hk : Evaluating k) : Grows A d (StartStatement.exec senv k d).2 := by
  cases k with
  | parseWDG => exact parseWDG_grows senv.env hA.wdg
  | initATKDevice => exact wmiEvaluateMethod_grows senv.env (hA.wmi _ _ _)
  | initALSDevice => exact initALSDevice_grows senv.env _ hA.ali
  | initEC0Device => exact initEC0Device_grows senv.env _ hA.tach
  | initBattery => exact initBattery_grows senv.env _ _ hA.wmi
  | startATKDevice => exact startATKDevice_grows senv.env hA.wmi
  | setProperties => exact .of_log_eq rfl
  | _ => exact absurd hk (by decide)

/-- The handler of VirtualSMC arms the poller that it has just made, and makes nothing else. -/
theorem vsmcNotificationHandler_outputs (hpoller : ∀ call, A (.resource .poller call))
    (venv : VSMCEnv) (hsubmit : ∀ data, A (.submitPlugin data)) :
    Grows A d (d.vsmcNotificationHandler venv).2 := by
  have hsubmitted : Grows A d (d.emit (.submitPlugin d.vsmcPlugin)) := grows_emit (hsubmit _)
  have hloop : ∀ w, Grows A d ((d.emit (.submitPlugin d.vsmcPlugin)).setWorkloop w) := fun w =>
    hsubmitted.congr rfl
  have hcreate : ∀ w, Grows A d
      (((d.emit (.submitPlugin d.vsmcPlugin)).setWorkloop w).emit (.resource .poller .create)) :=
    fun w => (hloop w).trans (grows_emit (hpoller _))
  have hadd : ∀ w p, Grows A d (((((d.emit (.submitPlugin d.vsmcPlugin)).setWorkloop w).emit
      (.resource .poller .create)).setPoller p).emit (.resource .poller (.addEventSource w))) :=
    fun w p => ((hcreate w).congr rfl).trans (grows_emit (hpoller _))
  rw [vsmcNotificationHandler]
  generalize (if venv.timerEventSource then
    some (⟨false, false⟩ : IOTimerEventSource) else none) = made
  split
  · exact .refl d
  · dsimp only
    split
    · exact hsubmitted
    · split
      · exact (hcreate venv.getWorkLoop).congr rfl
      · split
        · exact (hcreate venv.getWorkLoop).congr rfl
        · split
          · exact (hadd venv.getWorkLoop made).congr rfl
          · exact (hadd venv.getWorkLoop made).congr rfl

section Startup

variable (hres : ∀ object call, A (.resource object call))

include hres

theorem initVirtualKeyboard_grows (senv : StartEnv) : Grows A d (d.initVirtualKeyboard senv) := by
  -- every failing exit releases the keyboard, if there is one
  have hrelease : ∀ d : Driver, Grows A d d.releaseKeyboard := by
    intro d
    rw [releaseKeyboard]
    split
    · exact .refl d
    · exact (grows_emit (hres _ _)).congr rfl
  rw [initVirtualKeyboard]
  split
  · exact (Grows.of_log_eq rfl).trans (hrelease _)
  · next kbd _ =>
    have hcreate : Grows A d
        ((d.emit (.resource .virtualKeyboard .create)).setKbdDevice (some kbd)) :=
      (grows_emit (hres _ _)).congr rfl
    dsimp only
    split
    · exact hcreate.trans (hrelease _)
    · split
      · exact hcreate.trans (hrelease _)
      · have hattach := hcreate.trans (grows_emit (hres .virtualKeyboard .attach))
        split
        · exact hattach.trans (hrelease _)
        · exact hattach.trans (grows_emit (hres _ _))

theorem startStatement_grows (senv : StartEnv) (hA : StartEffects A senv.env d)
    {k : StartStatement} (hnotifications : k ≠ .registerNotifications)
    (hvsmc : k ≠ .registerVSMC) : Grows A d (StartStatement.exec senv k d).2 := by
  cases k with
  | initVirtualKeyboard => exact initVirtualKeyboard_grows hres senv
  | getWorkLoop =>
    simp only [StartStatement.exec]
    split
    · exact .of_log_eq rfl
    · exact (Grows.of_log_eq rfl).trans (grows_emit (hres _ _))
  | commandGate =>
    simp only [StartStatement.exec]
    split
    · exact .of_log_eq rfl
    · next gate _ =>
      have hmade : Grows A d
          ((d.emit (.resource .commandGate .create)).setCommandGate (some gate)) :=
        (grows_emit (hres _ _)).congr rfl
      split
      · exact hmade
      · exact hmade.trans (grows_emit (hres _ _))
  | registerNotifications => exact absurd rfl hnotifications
  | registerVSMC => exact absurd rfl hvsmc
  | _ => exact evaluating_grows senv hA (by decide)

theorem vsmcNotificationHandler_grows (venv : VSMCEnv) (hsubmit : ∀ data, A (.submitPlugin data)) :
    Grows A d (d.vsmcNotificationHandler venv).2 :=
  vsmcNotificationHandler_outputs (hres .poller) venv hsubmit

/-- A statement of `registerVSMC`. -/
theorem vsmcStatement_grows (hsubmit : ∀ data, A (.submitPlugin data)) (numbering : KeyNumbering)
    (k : VSMCStatement) (s : VSMCState) :
    Grows A s.driver (VSMCState.exec numbering k s).2.driver := by
  cases k with
  | registerHandler =>
    simp only [VSMCState.exec]
    split
    · exact .of_log_eq rfl
    · next venv _ => exact (vsmcNotificationHandler_grows hres venv hsubmit).congr rfl
  | addKey key => exact .of_log_eq rfl
  | addBDVT =>
    simp only [VSMCState.exec]
    split <;> exact .of_log_eq rfl
  | sort => exact .of_log_eq rfl

end Startup

/-- A notification is handled through the command gate. -/
theorem notificationHandler_grows (hgate : d.commandGate = none → A (.nullCall .commandGate))
    (hset : d.notificationServices = none → A (.nullCall .notificationServices))
    (service : Service) (notifier : Notifier) :
    Grows A d (d.notificationHandler service notifier).2 := by
  rw [notificationHandler]
  cases hg : d.commandGate with
  | none => exact grows_emit (hgate hg)
  | some gate =>
    have hadd : Grows A d (d.addConsumer service) := by
      rw [addConsumer]
      split
      · next hs => exact grows_emit (hset hs)
      · exact .of_log_eq rfl
    -- the set is there after an insertion if it was there before
    have hadded : (d.addConsumer service).notificationServices = none →
        d.notificationServices = none := by
      rw [addConsumer]
      cases hs : d.notificationServices with
      | none => exact fun _ => rfl
      | some services => exact fun h => absurd h (by simp)
    have hremove : ∀ d' : Driver, (d'.notificationServices = none → d.notificationServices = none) →
        Grows A d' (d'.removeConsumer service) := by
      intro d' hd'
      rw [removeConsumer]
      split
      · next hs => exact grows_emit (hset (hd' hs))
      · exact .of_log_eq rfl
    simp only [notificationHandlerGated]
    split
    · split
      · exact hadd.trans (hremove _ hadded)
      · exact hadd
    · split
      · exact hremove d id
      · exact .refl d

/-! ### The whole of `start` -/

section Start

variable (hres : ∀ object call, A (.resource object call))
  (hsubmit : ∀ data, A (.submitPlugin data))
  (hnull : ∀ pointer, A (.nullCall pointer))

include hnull in
/-- A statement of `registerNotifications`. -/
theorem registerStatement_grows (k : RegisterStatement) (s : NotifyState) :
    Grows A s.driver (NotifyState.exec k s).2.driver := by
  cases k with
  | addPublish =>
    simp only [NotifyState.exec]
    generalize s.driver = d
    -- the handler is called for every service that is there
    induction s.alive generalizing d with
    | nil => exact .refl d
    | cons x services ih =>
      exact (notificationHandler_grows (fun _ => hnull _) (fun _ => hnull _) x _).trans (ih _)
  | assignPublish => exact .of_log_eq rfl
  | addTerminate => exact .refl _
  | assignTerminate => exact .of_log_eq rfl

include hnull in
theorem registerNotifications_grows (s : NotifyState) :
    Grows A s.driver (Thread.runAll NotifyState.exec registerNotifications s).2.driver :=
  Thread.runAll_related (R := fun s s' : NotifyState => Grows A s.driver s'.driver)
    (fun s => .refl s.driver) (fun _ _ _ => Grows.trans) _
    (fun k _ s => registerStatement_grows hnull k s) s

include hres hsubmit hnull in
/-- `A` holds of everything `start` records, if it holds of the effects it can have. -/
theorem start_grows {senv : StartEnv} (hA : ∀ d, StartEffects A senv.env d)
    (provider : ACPIDevice) (d : Driver) : Grows A d (start senv provider d).2 := by
  rw [start]
  split
  · exact .refl d
  · have hassigned : Grows A d (d.setAtkDevice (some provider)) := .of_log_eq rfl
    refine hassigned.trans ?_
    refine Thread.runAll_related (R := Grows A) .refl (fun _ _ _ => Grows.trans) _ ?_ _
    intro k _ d
    by_cases hnotifications : k = .registerNotifications
    · subst hnotifications
      exact registerNotifications_grows hnull _
    by_cases hvsmc : k = .registerVSMC
    · subst hvsmc
      refine Thread.runAll_related (R := fun s s' : VSMCState => Grows A s.driver s'.driver)
        (fun s => .refl s.driver) (fun _ _ _ => Grows.trans) _ ?_ _
      exact fun k _ s => vsmcStatement_grows hres hsubmit senv.numbering k s
    · exact startStatement_grows hres senv (hA d) hnotifications hvsmc

end Start

end Driver

end AsusSMC
