import AsusSMC.Model.Notifications
import AsusSMC.Model.Plugin
import AsusSMC.Model.Sensors

/-!
# Start-up

`init`, `probe` and `start`, with the `init*` functions `start` calls that are
not in another module. `start` is a list of statements (`StartStatement`); a
statement that returns `false` from `start` ends it there.
-/

namespace AsusSMC

/-- `KernelVersion::Catalina`. -/
def KernelVersion.catalina : ℕ := 19

/-- What the calls made by `start` return. -/
structure StartEnv where
  env : Env
  /-- `provider && super::start(provider)`. -/
  superStart : Bool
  alsDiscovery : Discovery
  ec0Discovery : Discovery
  kernelVersion : ℕ
  kernelMinorVersion : ℕ
  /-- `new VirtualAppleKeyboard`. -/
  newKeyboard : Option Object
  keyboardInit : Bool
  keyboardAttach : Bool
  keyboardStart : Bool
  getWorkLoop : Option Object
  commandGate : Option Object
  /-- `addEventSource(command_gate) == kIOReturnSuccess`. -/
  addEventSource : Bool
  /-- The services that match when notifications are registered. -/
  services : List Service
  numbering : KeyNumbering
  /-- VirtualSMC, when it is published before the handler is registered. -/
  vsmc : Option VSMCEnv

/-- A machine without light sensor, fan sensor and consumers, whose firmware
answers nothing. -/
def StartEnv.bare : StartEnv where
  env := .unresponsive
  superStart := true
  alsDiscovery := ⟨true, true, true, some none⟩
  ec0Discovery := ⟨true, true, true, some none⟩
  kernelVersion := 19
  kernelMinorVersion := 6
  newKeyboard := some 0
  keyboardInit := true
  keyboardAttach := true
  keyboardStart := true
  getWorkLoop := some 0
  commandGate := some 0
  addEventSource := true
  services := []
  numbering := .digits
  vsmc := none

namespace Driver

/-- `init`: `vendor` is what `kev_vendor_code_find` found. -/
def init (superInit : Bool) (vendor : Option UInt32) (d : Driver) : Bool × Driver :=
  if !superInit then
    (false, d)
  else
    let d := d.setNotificationServices (some .empty)
    let d := d.setKev ((d.kev.setVendorID vendor).2.setEventCode 0x8102)
    (true, (d.setCurrentLux 0).setCurrentFanSpeed 0)

/-- `probe`, and whether it returned the driver: `provider` is the provider cast
to an ACPI device. -/
def probe (env : Env) (superProbe : Bool) (provider : Option ACPIDevice) (d : Driver) :
    Bool × Driver :=
  if !superProbe then
    (false, d)
  else
    match provider with
    | none => (false, d)
    | some dev =>
      -- the status is not tested: without a reply `obj` is what it was
      let stored := ACPI.store (env.acpi.object dev "_UID" []) env.locals.obj
      let d := d.emit (.evaluateObject dev "_UID" [])
      match OSObject.asString stored.2 with
      | none => (false, d)
      | some name => (name == "ATK", d)

def initBattery (env : Env) (kernelVersion kernelMinorVersion : ℕ) (d : Driver) : Driver :=
  -- battery health came with 10.15.5
  if kernelVersion < KernelVersion.catalina ||
      (kernelVersion == KernelVersion.catalina && kernelMinorVersion < 5) then
    d
  else
    let present := d.wmiDevIsPresent env ASUS_WMI_DEVID_RSOC
    let d := present.2.setIsBatteryRSOCAvailable present.1
    if d.isBatteryRSOCAvailable then d.toggleBatteryConservativeMode env true else d

/-- `OSSafeReleaseNULL(kbdDevice)`. -/
def releaseKeyboard (d : Driver) : Driver :=
  match d.kbdDevice with
  | none => d
  | some _ => (d.emit (.resource .virtualKeyboard .release)).setKbdDevice none

def initVirtualKeyboard (senv : StartEnv) (d : Driver) : Driver :=
  match senv.newKeyboard with
  | none => (d.setKbdDevice none).releaseKeyboard
  | some kbd =>
    let d := (d.emit (.resource .virtualKeyboard .create)).setKbdDevice (some kbd)
    if !senv.keyboardInit then d.releaseKeyboard
    else if !senv.keyboardAttach then d.releaseKeyboard
    else
      let d := d.emit (.resource .virtualKeyboard .attach)
      if !senv.keyboardStart then d.releaseKeyboard
      else d.emit (.resource .virtualKeyboard .start)

def startATKDevice (env : Env) (d : Driver) : Driver :=
  let d :=
    if d.validateObject env .atkDevice "DMES" then
      (d.setProperty "IsDirectACPIMessagingSupported" true).setDirectACPImessaging true
    else d
  let d := d.setHasKeyboardBacklight (d.validateObject env .atkDevice "SKBV")
  let d := d.setProperty "IsKeyboardBacklightSupported" d.hasKeyboardBacklight
  let d := d.toggleALS env true
  let d := d.setIsALSEnabled true
  d.setProperty "IsALSEnabled" d.isALSEnabled

section Frames

variable {τ : Type*} {f : Driver → τ} (hemit : ∀ d e, f (d.emit e) = f d)

include hemit

theorem initBattery_frame (hprop : ∀ d k v, f (d.setProperty k v) = f d)
    (hrsoc : ∀ d v, f (d.setIsBatteryRSOCAvailable v) = f d) (env : Env)
    (kernelVersion kernelMinorVersion : ℕ) (d : Driver) :
    f (d.initBattery env kernelVersion kernelMinorVersion) = f d := by
  -- the question whether the device is there is one evaluation
  have hpresent : f (d.wmiDevIsPresent env ASUS_WMI_DEVID_RSOC).2 = f d :=
    wmiEvaluateMethod_frame hemit env _ _ _ d
  have htoggle := toggleBatteryConservativeMode_frame hemit hprop env true
  simp only [initBattery]
  repeat' split
  all_goals simp only [htoggle, hrsoc, hpresent]

theorem initVirtualKeyboard_frame (hkbd : ∀ d v, f (d.setKbdDevice v) = f d) (senv : StartEnv)
    (d : Driver) : f (d.initVirtualKeyboard senv) = f d := by
  simp only [initVirtualKeyboard, releaseKeyboard]
  repeat' split
  all_goals simp only [hkbd, hemit]

theorem startATKDevice_frame (hprop : ∀ d k v, f (d.setProperty k v) = f d)
    (hdirect : ∀ d v, f (d.setDirectACPImessaging v) = f d)
    (hbacklight : ∀ d v, f (d.setHasKeyboardBacklight v) = f d)
    (hals : ∀ d v, f (d.setIsALSEnabled v) = f d) (env : Env) (d : Driver) :
    f (d.startATKDevice env) = f d := by
  have htoggle : ∀ d : Driver, f (d.toggleALS env true) = f d := fun d =>
    wmiEvaluateMethod_frame hemit env _ _ _ d
  simp only [startATKDevice, hprop, hals, htoggle, hbacklight]
  split
  · simp only [hdirect, hprop]
  · rfl

end Frames

end Driver

/-- The statements of `start`, after the parent has been started and
`atkDevice` assigned. -/
inductive StartStatement
  | parseWDG
  | initATKDevice
  | initALSDevice
  | initEC0Device
  | initBattery
  | initVirtualKeyboard
  | startATKDevice
  | getWorkLoop
  | commandGate
  | setProperties
  | registerNotifications
  | registerVSMC
  deriving DecidableEq, Repr

namespace StartStatement

def program : List StartStatement :=
  [parseWDG, initATKDevice, initALSDevice, initEC0Device, initBattery, initVirtualKeyboard,
    startATKDevice, getWorkLoop, commandGate, setProperties, registerNotifications, registerVSMC]

/-- One statement; `false` is `return false`. -/
def exec (senv : StartEnv) : StartStatement → Driver → Bool × Driver
  | parseWDG, d => (true, d.parseWDG senv.env)
  | initATKDevice, d => (true, d.initATKDevice senv.env)
  | initALSDevice, d => (true, d.initALSDevice senv.env senv.alsDiscovery)
  | initEC0Device, d => (true, d.initEC0Device senv.env senv.ec0Discovery)
  | initBattery, d => (true, d.initBattery senv.env senv.kernelVersion senv.kernelMinorVersion)
  | initVirtualKeyboard, d => (true, d.initVirtualKeyboard senv)
  | startATKDevice, d => (true, d.startATKDevice senv.env)
  | getWorkLoop, d =>
    let d := d.setWorkloop senv.getWorkLoop
    -- the keyboard that was attached and started is not given back
    match d.workloop with
    | none => (false, d)
    | some loop => (true, d.emit (.resource (.workLoop loop) .retain))
  | commandGate, d =>
    match senv.commandGate with
    | none => (false, d.setCommandGate none)
    | some gate =>
      let d := (d.emit (.resource .commandGate .create)).setCommandGate (some gate)
      if !senv.addEventSource then (false, d)
      else (true, d.emit (.resource .commandGate (.addEventSource d.workloop)))
  | setProperties, d => (true, d.setProperty "IsTouchpadEnabled" true)
  | registerNotifications, d =>
    (true, (Thread.runAll NotifyState.exec AsusSMC.registerNotifications
      { driver := d, published := senv.services, alive := senv.services }).2.driver)
  | registerVSMC, d =>
    (true, (Thread.runAll (VSMCState.exec senv.numbering) AsusSMC.registerVSMC
      { driver := d, published := senv.vsmc, installed := false }).2.driver)

/-- The statements that assign none of the pointers the driver calls through, and not
the name of the WMI method. -/
def Plain (k : StartStatement) : Prop :=
  k ∈ [initATKDevice, initBattery, initVirtualKeyboard, startATKDevice, getWorkLoop, setProperties]

instance : DecidablePred Plain := fun _ => inferInstanceAs (Decidable (_ ∈ _))

/-- `f` does not look at what these statements assign. -/
structure PlainFrame {τ : Type*} (f : Driver → τ) : Prop where
  emit : ∀ d e, f (d.emit e) = f d
  setProperty : ∀ d k v, f (d.setProperty k v) = f d
  setIsBatteryRSOCAvailable : ∀ d v, f (d.setIsBatteryRSOCAvailable v) = f d
  setKbdDevice : ∀ d v, f (d.setKbdDevice v) = f d
  setDirectACPImessaging : ∀ d v, f (d.setDirectACPImessaging v) = f d
  setHasKeyboardBacklight : ∀ d v, f (d.setHasKeyboardBacklight v) = f d
  setIsALSEnabled : ∀ d v, f (d.setIsALSEnabled v) = f d
  setWorkloop : ∀ d v, f (d.setWorkloop v) = f d

/-- **Frame**: what these statements leave alone. -/
theorem exec_frame {τ : Type*} {f : Driver → τ} (hf : PlainFrame f) (senv : StartEnv)
    {k : StartStatement} (hk : k.Plain) (d : Driver) : f (exec senv k d).2 = f d := by
  cases k with
  | initATKDevice => exact Driver.wmiEvaluateMethod_frame hf.emit senv.env _ 0 0 d
  | initBattery =>
    exact Driver.initBattery_frame hf.emit hf.setProperty hf.setIsBatteryRSOCAvailable senv.env
      _ _ d
  | initVirtualKeyboard => exact Driver.initVirtualKeyboard_frame hf.emit hf.setKbdDevice senv d
  | startATKDevice =>
    exact Driver.startATKDevice_frame hf.emit hf.setProperty hf.setDirectACPImessaging
      hf.setHasKeyboardBacklight hf.setIsALSEnabled senv.env d
  | getWorkLoop =>
    simp only [exec]
    split
    · exact hf.setWorkloop d _
    · exact (hf.emit _ _).trans (hf.setWorkloop d _)
  | setProperties => exact hf.setProperty d _ _
  | _ => exact absurd hk (by decide)

/-- `f` does not look at the command gate, the fan sensor and what is registered either. -/
structure RegisterFrame {τ : Type*} (f : Driver → τ) : Prop extends PlainFrame f where
  setEc0Device : ∀ d v, f (d.setEc0Device v) = f d
  setIsTACHAvailable : ∀ d v, f (d.setIsTACHAvailable v) = f d
  setCurrentFanSpeed : ∀ d v, f (d.setCurrentFanSpeed v) = f d
  setCommandGate : ∀ d v, f (d.setCommandGate v) = f d
  setNotificationServices : ∀ d v, f (d.setNotificationServices v) = f d
  setPublishNotify : ∀ d v, f (d.setPublishNotify v) = f d
  setTerminateNotify : ∀ d v, f (d.setTerminateNotify v) = f d
  setPoller : ∀ d v, f (d.setPoller v) = f d
  setVsmcNotifier : ∀ d v, f (d.setVsmcNotifier v) = f d
  setVsmcPlugin : ∀ d v, f (d.setVsmcPlugin v) = f d

/-- **Frame**: two statements remain, the one that reads `_WDG` and the one that looks
for the light sensor. -/
theorem exec_registerFrame {τ : Type*} {f : Driver → τ} (hf : RegisterFrame f) (senv : StartEnv)
    {k : StartStatement} (hwdg : k ≠ parseWDG) (hals : k ≠ initALSDevice) (d : Driver) :
    f (exec senv k d).2 = f d := by
  cases k with
  | parseWDG => exact absurd rfl hwdg
  | initALSDevice => exact absurd rfl hals
  | initEC0Device =>
    exact Driver.initEC0Device_frame hf.emit hf.setCurrentFanSpeed hf.setIsTACHAvailable
      hf.setEc0Device senv.env senv.ec0Discovery d
  | commandGate =>
    simp only [exec]
    repeat' split
    all_goals simp only [hf.emit, hf.setCommandGate]
  | registerNotifications =>
    exact NotifyState.runAll_frame hf.emit hf.setNotificationServices hf.setPublishNotify
      hf.setTerminateNotify _
  | registerVSMC =>
    exact VSMCState.runAll_frame hf.emit hf.setWorkloop hf.setPoller hf.setVsmcNotifier
      hf.setVsmcPlugin senv.numbering _
  | _ => exact exec_frame hf.toPlainFrame senv (by decide) d

/-- `f` does not look at what the statements besides `startATKDevice` assign. -/
structure OutsideFrame {τ : Type*} (f : Driver → τ) : Prop where
  emit : ∀ d e, f (d.emit e) = f d
  setProperty : ∀ d k v, f (d.setProperty k v) = f d
  setWmiMethod : ∀ d v, f (d.setWmiMethod v) = f d
  setAlsDevice : ∀ d v, f (d.setAlsDevice v) = f d
  setCurrentLux : ∀ d v, f (d.setCurrentLux v) = f d
  setEc0Device : ∀ d v, f (d.setEc0Device v) = f d
  setIsTACHAvailable : ∀ d v, f (d.setIsTACHAvailable v) = f d
  setCurrentFanSpeed : ∀ d v, f (d.setCurrentFanSpeed v) = f d
  setIsBatteryRSOCAvailable : ∀ d v, f (d.setIsBatteryRSOCAvailable v) = f d
  setKbdDevice : ∀ d v, f (d.setKbdDevice v) = f d
  setWorkloop : ∀ d v, f (d.setWorkloop v) = f d
  setCommandGate : ∀ d v, f (d.setCommandGate v) = f d
  setNotificationServices : ∀ d v, f (d.setNotificationServices v) = f d
  setPublishNotify : ∀ d v, f (d.setPublishNotify v) = f d
  setTerminateNotify : ∀ d v, f (d.setTerminateNotify v) = f d
  setPoller : ∀ d v, f (d.setPoller v) = f d
  setVsmcNotifier : ∀ d v, f (d.setVsmcNotifier v) = f d
  setVsmcPlugin : ∀ d v, f (d.setVsmcPlugin v) = f d

/-- **Frame**: what only `startATKDevice` assigns. -/
theorem exec_outsideFrame {τ : Type*} {f : Driver → τ} (hf : OutsideFrame f) (senv : StartEnv)
    {k : StartStatement} (hk : k ≠ startATKDevice) (d : Driver) : f (exec senv k d).2 = f d := by
  cases k with
  | parseWDG => exact Driver.parseWDG_frame hf.emit hf.setWmiMethod senv.env d
  | initATKDevice => exact Driver.wmiEvaluateMethod_frame hf.emit senv.env _ 0 0 d
  | initALSDevice =>
    exact Driver.initALSDevice_frame hf.emit hf.setCurrentLux hf.setPoller hf.setAlsDevice senv.env
      _ d
  | initEC0Device =>
    exact Driver.initEC0Device_frame hf.emit hf.setCurrentFanSpeed hf.setIsTACHAvailable
      hf.setEc0Device senv.env _ d
  | initBattery =>
    exact Driver.initBattery_frame hf.emit hf.setProperty hf.setIsBatteryRSOCAvailable senv.env
      _ _ d
  | initVirtualKeyboard => exact Driver.initVirtualKeyboard_frame hf.emit hf.setKbdDevice senv d
  | startATKDevice => exact absurd rfl hk
  | getWorkLoop | commandGate =>
    simp only [exec]
    repeat' split
    all_goals simp only [hf.emit, hf.setWorkloop, hf.setCommandGate]
  | setProperties => exact hf.setProperty d _ _
  | registerNotifications =>
    exact NotifyState.runAll_frame hf.emit hf.setNotificationServices hf.setPublishNotify
      hf.setTerminateNotify _
  | registerVSMC =>
    exact VSMCState.runAll_frame hf.emit hf.setWorkloop hf.setPoller hf.setVsmcNotifier
      hf.setVsmcPlugin senv.numbering _

theorem runAll_outsideFrame {τ : Type*} {f : Driver → τ} (hf : OutsideFrame f) (senv : StartEnv)
    {prog : List StartStatement} (hprog : startATKDevice ∉ prog) (d : Driver) :
    f (Thread.runAll (exec senv) prog d).2 = f d :=
  Thread.runAll_related (R := fun d d' => f d' = f d) (fun _ => rfl)
    (fun _ _ _ h h' => h'.trans h) prog
    (fun _ hk d => exec_outsideFrame hf senv (ne_of_mem_of_not_mem hk hprog) d) d

end StartStatement

namespace Driver

def start (senv : StartEnv) (provider : ACPIDevice) (d : Driver) : Bool × Driver :=
  if !senv.superStart then (false, d)
  else Thread.runAll (StartStatement.exec senv) StartStatement.program
    (d.setAtkDevice (some provider))

/-- **Frame**: what no statement of `start` assigns. -/
theorem start_frame {τ : Type*} {f : Driver → τ} (hf : StartStatement.RegisterFrame f)
    (hatk : ∀ d v, f (d.setAtkDevice v) = f d) (hmethod : ∀ d v, f (d.setWmiMethod v) = f d)
    (hals : ∀ d v, f (d.setAlsDevice v) = f d) (hlux : ∀ d v, f (d.setCurrentLux v) = f d)
    (senv : StartEnv) (provider : ACPIDevice) (d : Driver) :
    f (start senv provider d).2 = f d := by
  rw [start]
  split
  · rfl
  · refine (Thread.runAll_frame (fun k d => ?_) _ _).trans (hatk d _)
    by_cases hwdg : k = .parseWDG
    · subst hwdg
      exact parseWDG_frame hf.emit hmethod senv.env d
    by_cases hsensor : k = .initALSDevice
    · subst hsensor
      exact initALSDevice_frame hf.emit hlux hf.setPoller hals senv.env _ d
    · exact StartStatement.exec_registerFrame hf senv hwdg hsensor d

/-- What only `startATKDevice` assigns is, after `start`, what it has made of it. -/
theorem start_eq_startATKDevice {τ : Type*} {f : Driver → τ} (hf : StartStatement.OutsideFrame f)
    {senv : StartEnv} (h : senv.superStart = true) (provider : ACPIDevice) (d : Driver) :
    ∃ d', f d' = f (d.setAtkDevice (some provider)) ∧
      f (start senv provider d).2 = f (d'.startATKDevice senv.env) := by
  generalize hd₀ : d.setAtkDevice (some provider) = d₀
  -- the statements before it never fail
  let before : List StartStatement :=
    [.parseWDG, .initATKDevice, .initALSDevice, .initEC0Device, .initBattery, .initVirtualKeyboard]
  let after : List StartStatement :=
    [.getWorkLoop, .commandGate, .setProperties, .registerNotifications, .registerVSMC]
  have hstart : start senv provider d
      = Thread.runAll (StartStatement.exec senv) after
          ((Thread.runAll (StartStatement.exec senv) before d₀).2.startATKDevice senv.env) := by
    rw [start, h, hd₀]
    rfl
  refine ⟨_, StartStatement.runAll_outsideFrame hf senv (by decide : _ ∉ before) d₀, ?_⟩
  rw [hstart]
  exact StartStatement.runAll_outsideFrame hf senv (by decide : _ ∉ after) _

end Driver

end AsusSMC
