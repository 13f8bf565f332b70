import AsusSMC.Safety.Backlight
import AsusSMC.Safety.Battery
import AsusSMC.Safety.Separation

/-!
# What the driver sets

Of all that the driver asks the firmware, two requests carry a value to be set: the WMI
method `DEVS`, which sets a device of the WMI block, and `SKBV`, the brightness of the
keyboard. `settings` reads them off a history.

The list is known from the start of the driver to the end of a run (`settings_exact`). At
boot the charge threshold is set to 80, where there is one, and the light sensor is
switched on. Afterwards nothing is set but what the system asks for through a key of the
SMC: no hotkey, no tick and no notification sets anything.
-/

namespace AsusSMC

open EventSystem TraceRefinement

/-- Something set in the firmware. -/
inductive Setting
  /-- `DEVS`. -/
  | device (id value : UInt32)
  /-- `SKBV`. -/
  | keyboardBacklight (value : UInt64)
  deriving DecidableEq, Repr

def setting : Effect → Option Setting
  | .evaluateInteger _ _ [.number _, .number methodId, .data args] _ =>
    if methodId = ASUS_WMI_METHODID_DEVS.toUInt64 then
      some (.device (LittleEndian.toWord args) (LittleEndian.toWord (args.drop 4)))
    else none
  | .evaluateObject _ "SKBV" [.number value] => some (.keyboardBacklight value)
  | _ => none

/-- The settings of a history, in order. -/
def settings (es : List Effect) : List Setting := es.filterMap setting

/-- What an event sets. -/
def WMIEvent.sets (backlight charge : Bool) : WMIEvent → List Setting
  | .op (.message _ (.setKeyboardBacklight tval)) =>
    if backlight then [.keyboardBacklight (tval / 16).toUInt64] else []
  | .op (.writeLKSB _ src) =>
    if backlight then [.keyboardBacklight (firstByte src).toUInt64] else []
  | .op (.writeBDVT env src) =>
    if charge then [.device ASUS_WMI_DEVID_RSOC (chargeThreshold !(env.bool.read src))] else []
  | .toggleALS _ state => [.device ASUS_WMI_DEVID_ALS_ENABLE (if state then 1 else 0)]
  | _ => []

theorem settings_append (es fs : List Effect) : settings (es ++ fs) = settings es ++ settings fs :=
  List.filterMap_append

namespace Driver

variable {d d' : Driver} {dev : ACPIDevice} (env : Env)

/-- A WMI call sets something only if its method is `DEVS`. -/
theorem setting_wmiEffect_of_ne {methodId : UInt32} (h : methodId ≠ ASUS_WMI_METHODID_DEVS)
    (arg0 arg1 : UInt32) (d : Driver) : setting (d.wmiEffect env methodId arg0 arg1) = none := by
  rw [wmiEffect, integerEffect]
  split
  · rfl
  · exact if_neg fun heq => h (UInt32.toUInt64_inj.mp heq)

theorem setting_wmiEffect_DEVS (hdev : d.atkDevice = some dev) (id value : UInt32) :
    setting (d.wmiEffect env ASUS_WMI_METHODID_DEVS id value) = some (.device id value) := by
  rw [wmiEffect, integerEffect, device, hdev]
  -- the buffer of the arguments is read back as the device and the value
  simp [wmiParams, setting, wmiArgs, LittleEndian.toWord_ofWord_append, LittleEndian.toWord_ofWord]

/-- An evaluation with at most one argument sets nothing. -/
theorem setting_integerEffect (field : DeviceField) (method : String) (d : Driver) :
    setting (d.integerEffect env field method []) = none ∧
      ∀ v, setting (d.integerEffect env field method [.number v]) = none := by
  unfold integerEffect
  cases d.device field with
  | none => exact ⟨rfl, fun _ => rfl⟩
  | some dev => exact ⟨rfl, fun _ => rfl⟩

theorem setting_fanEffect (d : Driver) : setting (d.fanEffect env) = none := by
  rw [fanEffect]
  split
  · exact (setting_integerEffect env .ec0Device "TACH" d).2 0
  · exact setting_wmiEffect_of_ne env (by decide) _ _ d

/-- The charge threshold is set where there is one. -/
theorem settings_toggleBatteryConservativeMode (hdev : d.atkDevice = some dev) (state : Bool) :
    settings (d.toggleBatteryConservativeMode env state).log
      = settings d.log ++ if d.isBatteryRSOCAvailable then
          [.device ASUS_WMI_DEVID_RSOC (chargeThreshold state)] else [] := by
  -- the call is made whether or not the firmware takes it
  have hlog : d.isBatteryRSOCAvailable = true →
      (d.toggleBatteryConservativeMode env state).log = d.log ++ [d.rsocEffect env state] := by
    intro havail
    by_cases h : d.Accepts env state
    · rw [toggleBatteryConservativeMode_of_accepts havail h]
      rfl
    · rw [toggleBatteryConservativeMode_of_not_accepts havail h]
      rfl
  cases havail : d.isBatteryRSOCAvailable with
  | false =>
    rw [toggleBatteryConservativeMode, havail]
    exact (List.append_nil _).symm
  | true =>
    rw [hlog havail, settings_append, settings, settings, List.filterMap_cons, rsocEffect,
      setting_wmiEffect_DEVS env hdev]
    rfl

/-- The brightness of the keyboard is set where it has a backlight. -/
theorem settings_setKeyboardBacklight (hdev : d.atkDevice = some dev) (tval : UInt16) :
    settings (d.message env (.setKeyboardBacklight tval)).2.log
      = settings d.log ++ if d.hasKeyboardBacklight then
          [.keyboardBacklight (tval / 16).toUInt64] else [] := by
  cases hbacklight : d.hasKeyboardBacklight with
  | false =>
    rw [message, hbacklight]
    exact (List.append_nil _).symm
  | true =>
    rw [message, hbacklight, if_pos rfl, if_pos rfl]
    dsimp only
    rw [evaluateObject_driver, objectEffect, device, hdev]
    exact settings_append _ _

end Driver

/-! ### Runs -/

namespace System

open Driver

/-- The driver of a machine: its device, and what the device has. -/
structure OnMachine (dev : ACPIDevice) (backlight charge : Bool) (d : Driver) : Prop where
  device : d.atkDevice = some dev
  backlight : d.hasKeyboardBacklight = backlight
  charge : d.isBatteryRSOCAvailable = charge

variable {dev : ACPIDevice} {backlight charge : Bool} {s : System}

theorem onMachine_wmiStep (h : OnMachine dev backlight charge s.driver) (e : WMIEvent) :
    OnMachine dev backlight charge (s.wmiStep e).driver := by
  have hkept : ((s.wmiStep e).driver.atkDevice, (s.wmiStep e).driver.hasKeyboardBacklight,
      (s.wmiStep e).driver.isBatteryRSOCAvailable)
        = (s.driver.atkDevice, s.driver.hasKeyboardBacklight, s.driver.isBatteryRSOCAvailable) := by
    -- the three members are assigned in `start` alone
    cases he : e.isPress with
    | false =>
      refine wmiStep_quietFrame s he
        (f := fun d => (d.atkDevice, d.hasKeyboardBacklight, d.isBatteryRSOCAvailable)) ?_
      constructor <;> intros <;> rfl
    | true =>
      match e, he with
      | .op (.message env m), _ =>
        refine message_frame
          (f := fun d => (d.atkDevice, d.hasKeyboardBacklight, d.isBatteryRSOCAvailable)) ?_ env m
          s.driver
        constructor <;> intros <;> rfl
  obtain ⟨hdevice, hbacklight, hcharge⟩ := by simpa using hkept
  exact ⟨hdevice.trans h.device, hbacklight.trans h.backlight, hcharge.trans h.charge⟩

/-- **Step lemma.** -/
theorem settings_wmiStep (h : OnMachine dev backlight charge s.driver) (e : WMIEvent) :
    settings (s.wmiStep e).driver.log = settings s.driver.log ++ e.sets backlight charge := by
  have hquiet : ∀ d', s.driver.Grows (setting · = none) d' →
      settings d'.log = settings s.driver.log ++ [] := fun d' hgrows =>
    (Grows.filterMap_eq hgrows).trans (List.append_nil _).symm
  cases e with
  | toggleALS env state =>
    show settings (s.driver.toggleALS env state).log = _
    rw [toggleALS, wmiEvaluateMethod_eq, emit_log, settings_append]
    have hset := setting_wmiEffect_DEVS env h.device ASUS_WMI_DEVID_ALS_ENABLE
      (if state then 1 else 0)
    rw [settings, settings, List.filterMap_cons_some hset]
    rfl
  | vsmcPublished venv =>
    exact hquiet _ (vsmcNotificationHandler_grows (fun _ _ => rfl) venv fun _ => rfl)
  | op op =>
    cases op with
    | tick env =>
      -- a tick asks for light and fan, by methods that set nothing
      exact hquiet _ (fire_grows env (fun _ => (setting_integerEffect env _ _ _).1) rfl
        (setting_fanEffect env _))
    | message env m =>
      cases m with
      | deviceNotification event =>
        -- a hotkey evaluates at most `_WED`, with the event for its one argument
        refine hquiet _ (notification_grows ?_ env event (fun _ => ?_) (fun _ _ => rfl)
          fun _ _ => rfl)
        · refine ⟨⟨?_, ?_⟩, ?_, ?_⟩ <;> intros <;> rfl
        · exact (setting_integerEffect env _ _ _).2 _
      | setKeyboardBacklight tval =>
        have hset := settings_setKeyboardBacklight env h.device tval
        rw [h.backlight] at hset
        exact hset
      | other type => exact (List.append_nil _).symm
    | notification service notifier =>
      refine hquiet _ ?_
      refine notificationHandler_grows ?_ ?_ service notifier <;> exact fun _ => rfl
    | writeLKSB env src =>
      -- the twelve bits the plugin builds lose their low four again on the way
      have hset := settings_setKeyboardBacklight env h.device (SMCKBrdBLightValue.tval src)
      rw [h.backlight, SMCKBrdBLightValue.tval_div] at hset
      exact hset
    | writeBDVT env src =>
      have hset := settings_toggleBatteryConservativeMode env h.device (!env.bool.read src)
      rw [h.charge] at hset
      show settings (System.step s (.writeBDVT env src)).driver.log = _
      rw [step]
      split
      · exact hset
      · next hkey =>
        -- without the charge threshold there is no key to write
        rw [h.charge] at hkey
        rw [WMIEvent.sets, if_neg hkey, List.append_nil]
    -- these stay inside the plugin
    | readALV0 | writeALV0 src | writeAL src | readF0Ac => exact (List.append_nil _).symm

/-- **Run lemma.** -/
theorem settings_run (h : OnMachine dev backlight charge s.driver) (es : List WMIEvent) :
    settings (run wmiStep s es).driver.log
      = settings s.driver.log ++ es.flatMap (WMIEvent.sets backlight charge) := by
  rw [← trace_const wmiStep s es]
  exact run_accumulates (f := fun s : System => settings s.driver.log)
    (fun s => OnMachine dev backlight charge s.driver) (fun _ e h => onMachine_wmiStep h e)
    (fun _ e h => settings_wmiStep h e) h es

end System

/-! ### Boot -/

namespace Driver

open StartStatement

variable {d : Driver} {dev : ACPIDevice} {senv : StartEnv} {k : StartStatement}

/-- macOS 10.15.5, where battery health came. -/
def ManagesBattery (kernelVersion kernelMinorVersion : ℕ) : Prop :=
  KernelVersion.catalina < kernelVersion ∨
    kernelVersion = KernelVersion.catalina ∧ 5 ≤ kernelMinorVersion

instance (kernelVersion kernelMinorVersion : ℕ) :
    Decidable (ManagesBattery kernelVersion kernelMinorVersion) :=
  inferInstanceAs (Decidable (_ ∨ _))

theorem setting_objectEffect_WDG (d : Driver) :
    setting (d.objectEffect .atkDevice "_WDG" []) = none := by
  rw [objectEffect]
  split <;> rfl

/-- Two statements of `start` set something. -/
theorem settings_exec (hbattery : k ≠ .initBattery) (hatk : k ≠ .startATKDevice) (d : Driver) :
    settings (exec senv k d).2.log = settings d.log := by
  have hres : ∀ object call, setting (.resource object call) = none := fun _ _ => rfl
  refine Grows.filterMap_eq ?_
  cases k with
  | parseWDG => exact parseWDG_grows senv.env (setting_objectEffect_WDG d)
  | initATKDevice =>
    exact wmiEvaluateMethod_grows senv.env (setting_wmiEffect_of_ne _ (by decide) _ _ d)
  | initALSDevice => exact initALSDevice_grows senv.env _ fun _ => rfl
  | initEC0Device => exact initEC0Device_grows senv.env _ fun _ => rfl
  | initBattery => exact absurd rfl hbattery
  | initVirtualKeyboard => exact initVirtualKeyboard_grows hres senv
  | startATKDevice => exact absurd rfl hatk
  | getWorkLoop =>
    -- what is acquired is a resource, on either outcome
    simp only [exec]
    split
    · exact .of_log_eq rfl
    · exact (Grows.of_log_eq rfl).trans (grows_emit rfl)
  | commandGate =>
    simp only [exec]
    split
    · exact .of_log_eq rfl
    · next gate _ =>
      have hmade : Grows (setting · = none) d
          ((d.emit (.resource .commandGate .create)).setCommandGate (some gate)) :=
        Grows.congr (grows_emit (A := (setting · = none)) rfl) rfl
      split
      · exact hmade
      · exact hmade.trans (grows_emit rfl)
  | setProperties => exact .of_log_eq rfl
  | registerNotifications => exact registerNotifications_grows (fun _ => rfl) _
  | registerVSMC =>
    -- none of its statements asks the firmware for anything
    refine Thread.runAll_related (R := fun s s' : VSMCState => Grows (setting · = none) s.driver
      s'.driver) (fun s => .refl s.driver) (fun _ _ _ => Grows.trans) _ ?_ _
    exact fun k _ s => vsmcStatement_grows hres (fun _ => rfl) senv.numbering k s

/-- Only `initBattery` looks for the charge threshold. -/
theorem exec_isBatteryRSOCAvailable (hbattery : k ≠ .initBattery) (d : Driver) :
    (exec senv k d).2.isBatteryRSOCAvailable = d.isBatteryRSOCAvailable := by
  cases k with
  | parseWDG => exact parseWDG_frame (fun _ _ => rfl) (fun _ _ => rfl) senv.env d
  | initATKDevice => exact wmiEvaluateMethod_frame (fun _ _ => rfl) senv.env _ 0 0 d
  | initALSDevice =>
    refine initALSDevice_frame ?_ ?_ ?_ ?_ senv.env _ d <;> intros <;> rfl
  | initEC0Device =>
    refine initEC0Device_frame ?_ ?_ ?_ ?_ senv.env _ d <;> intros <;> rfl
  | initBattery => exact absurd rfl hbattery
  | initVirtualKeyboard =>
    exact initVirtualKeyboard_frame (fun _ _ => rfl) (fun _ _ => rfl) senv d
  | startATKDevice =>
    refine startATKDevice_frame ?_ ?_ ?_ ?_ ?_ senv.env d <;> intros <;> rfl
  | getWorkLoop | commandGate =>
    simp only [exec]
    repeat' split
    all_goals rfl
  | setProperties => rfl
  | registerNotifications =>
    refine NotifyState.runAll_frame ?_ ?_ ?_ ?_ _ <;> intros <;> rfl
  | registerVSMC =>
    refine VSMCState.runAll_frame ?_ ?_ ?_ ?_ ?_ senv.numbering _ <;> intros <;> rfl

/-- What is set, the charge threshold, and the device. -/
def bootInputs (d : Driver) : List Setting × Bool × Option ACPIDevice :=
  (settings d.log, d.isBatteryRSOCAvailable, d.atkDevice)

theorem exec_bootInputs (senv : StartEnv) (hbattery : k ≠ .initBattery)
    (hatk : k ≠ .startATKDevice) (d : Driver) :
    (exec senv k d).2.bootInputs = d.bootInputs := by
  have hdevice : (exec senv k d).2.atkDevice = d.atkDevice := by
    refine exec_outsideFrame (f := atkDevice) ?_ senv hatk d
    constructor <;> intros <;> rfl
  rw [bootInputs, bootInputs, settings_exec hbattery hatk, exec_isBatteryRSOCAvailable hbattery,
    hdevice]

theorem runAll_bootInputs (senv : StartEnv) (prog : List StartStatement)
    (hbattery : .initBattery ∉ prog) (hatk : .startATKDevice ∉ prog) (d : Driver) :
    (Thread.runAll (exec senv) prog d).2.bootInputs = d.bootInputs :=
  Thread.runAll_related (R := fun d d' : Driver => d'.bootInputs = d.bootInputs)
    (fun _ => rfl) (fun _ _ _ h h' => h'.trans h) prog
    (fun _ hk d => exec_bootInputs senv (ne_of_mem_of_not_mem hk hbattery)
      (ne_of_mem_of_not_mem hk hatk) d) d

theorem wmiDevIsPresent_congr {d' : Driver} (hname : wmiName d' = wmiName d) (env : Env)
    (devId : UInt32) : (d'.wmiDevIsPresent env devId).1 = (d.wmiDevIsPresent env devId).1 := by
  obtain ⟨hdevice, hmethod⟩ := Prod.mk.inj hname
  simp only [wmiDevIsPresent, wmiEvaluateMethod_eq, wmiReply, integerReply, device, hdevice,
    hmethod]

/-- `initBattery` asks for the charge threshold, and sets it where there is one. -/
theorem initBattery_eq (env : Env) (kernelVersion kernelMinorVersion : ℕ) (d : Driver) :
    d.initBattery env kernelVersion kernelMinorVersion
      = if ManagesBattery kernelVersion kernelMinorVersion then
          ((d.emit (d.wmiEffect env ASUS_WMI_METHODID_DSTS ASUS_WMI_DEVID_RSOC
            0)).setIsBatteryRSOCAvailable
              (d.wmiDevIsPresent env ASUS_WMI_DEVID_RSOC).1).toggleBatteryConservativeMode env true
        else d := by
  rw [initBattery]
  split
  · next hkernel =>
    -- an older system returns before it asks
    have hold : ¬ ManagesBattery kernelVersion kernelMinorVersion := by
      rintro (hnewer | ⟨hsame, hminor⟩) <;> simp at hkernel <;> omega
    rw [if_neg hold]
  · next hkernel =>
    have hmanages : ManagesBattery kernelVersion kernelMinorVersion := by
      simp only [Bool.or_eq_true, Bool.and_eq_true, decide_eq_true_eq, beq_iff_eq] at hkernel
      rw [ManagesBattery]
      omega
    have hpair : d.wmiDevIsPresent env ASUS_WMI_DEVID_RSOC
        = ((d.wmiDevIsPresent env ASUS_WMI_DEVID_RSOC).1,
            d.emit (d.wmiEffect env ASUS_WMI_METHODID_DSTS ASUS_WMI_DEVID_RSOC 0)) := by
      rw [wmiDevIsPresent, wmiEvaluateMethod_eq]
    rw [if_pos hmanages, hpair]
    -- without the threshold there is nothing to toggle
    cases (d.wmiDevIsPresent env ASUS_WMI_DEVID_RSOC).1 with
    | true => rfl
    | false => rfl

theorem initBattery_available_iff (hnew : d.isBatteryRSOCAvailable = false) (env : Env)
    (kernelVersion kernelMinorVersion : ℕ) :
    (d.initBattery env kernelVersion kernelMinorVersion).isBatteryRSOCAvailable = true ↔
      ManagesBattery kernelVersion kernelMinorVersion ∧
        (d.wmiDevIsPresent env ASUS_WMI_DEVID_RSOC).1 = true := by
  have hkept := toggleBatteryConservativeMode_frame (f := isBatteryRSOCAvailable) (fun _ _ => rfl)
    (fun _ _ _ => rfl) env true
  rw [initBattery_eq]
  split
  · next hmanages =>
    rw [hkept, and_iff_right hmanages, setIsBatteryRSOCAvailable_isBatteryRSOCAvailable]
  · next hold => simp [hold, hnew]

theorem bootInputs_eq_iff {fs : List Setting} {charge : Bool} :
    d.bootInputs = (fs, charge, some dev) ↔
      settings d.log = fs ∧ d.isBatteryRSOCAvailable = charge ∧ d.atkDevice = some dev := by
  simp [bootInputs]

theorem initBattery_bootInputs (h : d.bootInputs = ([], false, some dev)) (env : Env)
    (kernelVersion kernelMinorVersion : ℕ) {charge : Bool}
    (hcharge : (d.initBattery env kernelVersion kernelMinorVersion).isBatteryRSOCAvailable
      = charge) :
    (d.initBattery env kernelVersion kernelMinorVersion).bootInputs
      = (if charge then [.device ASUS_WMI_DEVID_RSOC 80] else [], charge, some dev) := by
  obtain ⟨hset, hnew, hdev⟩ := bootInputs_eq_iff.mp h
  have hkept := toggleBatteryConservativeMode_frame (f := isBatteryRSOCAvailable) (fun _ _ => rfl)
    (fun _ _ _ => rfl) env true
  refine bootInputs_eq_iff.mpr ⟨?_, hcharge, ?_⟩
  · rw [initBattery_eq] at hcharge ⊢
    split at hcharge
    · -- the question sets nothing
      generalize hd' : (d.emit (d.wmiEffect env ASUS_WMI_METHODID_DSTS ASUS_WMI_DEVID_RSOC
        0)).setIsBatteryRSOCAvailable (d.wmiDevIsPresent env ASUS_WMI_DEVID_RSOC).1 = d' at hcharge
      have hasked : settings d'.log = settings d.log := by
        rw [← hd']
        exact Grows.filterMap_eq (grows_emit (setting_wmiEffect_of_ne env (by decide) _ _ d))
      have hdev' : d'.atkDevice = some dev := by
        rw [← hd']
        exact hdev
      rw [hkept] at hcharge
      rw [if_pos ‹_›, settings_toggleBatteryConservativeMode env hdev', hasked, hset, hcharge]
      rfl
    · rw [if_neg ‹_›, hset, ← hcharge, hnew]
      rfl
  · exact (initBattery_frame (fun _ _ => rfl) (fun _ _ _ => rfl) (fun _ _ => rfl) env _ _ d).trans
      hdev

theorem startATKDevice_bootInputs {fs : List Setting} {charge : Bool}
    (h : d.bootInputs = (fs, charge, some dev)) (env : Env) :
    (d.startATKDevice env).bootInputs
      = (fs ++ [.device ASUS_WMI_DEVID_ALS_ENABLE 1], charge, some dev) := by
  obtain ⟨hset, hcharge, hdev⟩ := bootInputs_eq_iff.mp h
  have hkept : ((d.startATKDevice env).isBatteryRSOCAvailable, (d.startATKDevice env).atkDevice)
      = (d.isBatteryRSOCAvailable, d.atkDevice) := by
    refine startATKDevice_frame (f := fun d => (d.isBatteryRSOCAvailable, d.atkDevice))
      ?_ ?_ ?_ ?_ ?_ env d <;> intros <;> rfl
  obtain ⟨hcharge', hdev'⟩ := Prod.mk.inj hkept
  refine bootInputs_eq_iff.mpr ⟨?_, hcharge'.trans hcharge, hdev'.trans hdev⟩
  rw [startATKDevice_log, settings_append, settings, settings,
    List.filterMap_cons_some (setting_wmiEffect_DEVS env hdev _ _), ← hset]
  rfl

/-- **Boot.** -/
theorem started_settings (h : senv.superStart = true) (vendor : Option UInt32)
    (provider : ACPIDevice) :
    ((started senv vendor provider).isBatteryRSOCAvailable = true ↔
      ManagesBattery senv.kernelVersion senv.kernelMinorVersion ∧
        ((started senv vendor provider).wmiDevIsPresent senv.env ASUS_WMI_DEVID_RSOC).1 = true) ∧
      (started senv vendor provider).bootInputs
        = ((if (started senv vendor provider).isBatteryRSOCAvailable then
            [.device ASUS_WMI_DEVID_RSOC 80] else [])
          ++ [.device ASUS_WMI_DEVID_ALS_ENABLE 1],
          (started senv vendor provider).isBatteryRSOCAvailable, some provider) := by
  generalize hd₀ : ((({} : Driver).init true vendor).2.setAtkDevice (some provider)) = d₀
  have hnew : d₀.bootInputs = ([], false, some provider) := by
    rw [← hd₀]
    rfl
  -- the statements up to the keyboard never fail
  let sensors : List StartStatement := [.parseWDG, .initATKDevice, .initALSDevice, .initEC0Device]
  let after : List StartStatement :=
    [.getWorkLoop, .commandGate, .setProperties, .registerNotifications, .registerVSMC]
  generalize hd₁ : (Thread.runAll (exec senv) sensors d₀).2 = d₁
  generalize hd₂ : d₁.initBattery senv.env senv.kernelVersion senv.kernelMinorVersion = d₂
  -- what is set comes from the first and the third of the next statements
  have hstart : started senv vendor provider
      = (Thread.runAll (exec senv)
          (.initBattery :: .initVirtualKeyboard :: .startATKDevice :: after) d₁).2 := by
    rw [started, start, h, hd₀, ← hd₁]
    rfl
  have hafter : started senv vendor provider = (Thread.runAll (exec senv) after
      ((d₂.initVirtualKeyboard senv).startATKDevice senv.env)).2 := by
    rw [hstart, ← hd₂]
    rfl
  have hsensors : d₁.bootInputs = ([], false, some provider) := by
    rw [← hd₁, runAll_bootInputs senv sensors (by decide) (by decide), hnew]
  have hbattery := initBattery_bootInputs hsensors senv.env senv.kernelVersion
    senv.kernelMinorVersion rfl
  rw [hd₂] at hbattery
  have hkeyboard : (d₂.initVirtualKeyboard senv).bootInputs = d₂.bootInputs :=
    exec_bootInputs senv (k := .initVirtualKeyboard) (by decide) (by decide) d₂
  have hboot := startATKDevice_bootInputs (hkeyboard.trans hbattery) senv.env
  rw [← runAll_bootInputs senv after (by decide) (by decide), ← hafter] at hboot
  have hcharge : (started senv vendor provider).isBatteryRSOCAvailable
      = d₂.isBatteryRSOCAvailable := (bootInputs_eq_iff.mp hboot).2.1
  refine ⟨?_, ?_⟩
  · -- the name of the method is what it was when the firmware was asked
    have hname : wmiName (started senv vendor provider) = wmiName d₁ := by
      rw [hstart]
      exact (runAll_named nameEffects_true senv _ (by decide) fun _ _ _ _ => trivial).2
    rw [wmiDevIsPresent_congr hname, hcharge, ← hd₂]
    exact initBattery_available_iff (bootInputs_eq_iff.mp hsensors).2.1 senv.env _ _
  · rw [hboot, hcharge]

end Driver

/-- **The settings of a run.** -/
theorem settings_exact (senv : StartEnv) (h : senv.superStart = true) (vendor : Option UInt32)
    (provider : ACPIDevice) (s : System) (es : List WMIEvent) :
    let d := Driver.started senv vendor provider
    (d.isBatteryRSOCAvailable = true ↔
      Driver.ManagesBattery senv.kernelVersion senv.kernelMinorVersion ∧
        (d.wmiDevIsPresent senv.env ASUS_WMI_DEVID_RSOC).1 = true) ∧
      settings (run System.wmiStep { s with driver := d } es).driver.log
        = (if d.isBatteryRSOCAvailable then [.device ASUS_WMI_DEVID_RSOC 80] else [])
          ++ .device ASUS_WMI_DEVID_ALS_ENABLE 1
          :: es.flatMap (WMIEvent.sets d.hasKeyboardBacklight d.isBatteryRSOCAvailable) := by
  intro d
  obtain ⟨hcharge, hboot⟩ := Driver.started_settings h vendor provider
  obtain ⟨hboot, -, hdevice⟩ := Driver.bootInputs_eq_iff.mp hboot
  refine ⟨hcharge, ?_⟩
  rw [System.settings_run (s := { s with driver := d }) ⟨hdevice, rfl, rfl⟩ es, hboot,
    List.append_assoc, List.singleton_append]

/-- A machine with a charge threshold whose owner charges to 100. -/
theorem settings_exact_charge :
    let d := Driver.started (.answering 0x10001 false) none 0
    (d.isBatteryRSOCAvailable = true ↔
      Driver.ManagesBattery 19 6 ∧
        (d.wmiDevIsPresent (StartEnv.answering 0x10001 false).env ASUS_WMI_DEVID_RSOC).1 = true) ∧
      settings (run System.wmiStep { driver := d, lksb := Vector.replicate 2 0 }
          [.op (.writeBDVT .unresponsive 1), .op .readF0Ac]).driver.log
        = (if d.isBatteryRSOCAvailable then [.device ASUS_WMI_DEVID_RSOC 80] else [])
          ++ .device ASUS_WMI_DEVID_ALS_ENABLE 1
          :: [.op (.writeBDVT .unresponsive 1), .op .readF0Ac].flatMap
            (WMIEvent.sets d.hasKeyboardBacklight d.isBatteryRSOCAvailable) :=
  settings_exact (.answering 0x10001 false) rfl none 0
    { driver := {}, lksb := Vector.replicate 2 0 } _

end AsusSMC
