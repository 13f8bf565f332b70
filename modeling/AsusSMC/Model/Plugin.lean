import AsusSMC.Framework.Thread
import AsusSMC.Model.Driver
import Mathlib.Data.List.Sort

/-!
# The VirtualSMC plugin

`registerVSMC` and the handler it registers. `registerVSMC` is a list of
statements (`VSMCStatement`): the handler is registered first, then the keys are
appended to `vsmcPlugin.data` one by one, and the last statement sorts them. The
publication of VirtualSMC may fall anywhere between them; an installed handler
runs at the publication, and `registerHandler` itself runs it when VirtualSMC is
published already.
-/

namespace AsusSMC

/-! ### The keys -/

section Keys

open SMCAttribute

/-- `ALSSensor sensor` and `ALSSensor noSensor`. -/
def sensor : List UInt8 := [7, 1, 6, 0]
def noSensor : List UInt8 := [0, 0, 0, 0]

/-- `FanTypeDescStruct desc`, named `System Fan`. -/
def desc : List UInt8 :=
  [1, 1, 12, 0] ++ [0x53, 0x79, 0x73, 0x74, 0x65, 0x6D, 0x20, 0x46, 0x61, 0x6E, 0, 0]

/-- The keys `registerVSMC` adds on every machine, in its order. -/
def baseKeys : List VirtualSMCKeyValue :=
  [⟨KeyAL, .valueWithUint16 0, .forceBits, [read, write]⟩,
    ⟨KeyALI0, .valueWithData sensor .ali, .standard, [read, function]⟩,
    ⟨KeyALI1, .valueWithData noSensor .ali, .standard, [read, function]⟩,
    ⟨KeyALRV, .valueWithUint16 1, .standard, [read]⟩,
    ⟨KeyALV0, .valueWithData (SMCALSValue.Value.toBytes {}) .alv, .alsValue,
      [read, write, function]⟩,
    ⟨KeyALV1, .valueWithData (SMCALSValue.Value.toBytes {}) .alv, .standard,
      [read, write, function]⟩,
    ⟨KeyLKSB, .valueWithData [0, 1] .lkb, .keyboardBacklight, [read, write, function]⟩,
    ⟨KeyLKSS, .valueWithData [0, 1] .lks, .standard, [read, write, function]⟩,
    ⟨KeyMSLD, .valueWithUint8 0, .standard, [read, write, function]⟩,
    ⟨KeyFNum, .valueWithUint8 1, .standard, [const, read]⟩,
    ⟨KeyF0Ac, .valueWithFp 0 .fpe2, .f0Ac, [read, function]⟩,
    ⟨KeyF0ID, .valueWithData desc .fds, .standard, [const, read]⟩]

/-- The key added when the battery can be controlled. -/
def bdvtKey : VirtualSMCKeyValue := ⟨KeyBDVT, .valueWithFlag false, .bdvt, [read, write, atomic]⟩

/-- All keys `registerVSMC` adds. -/
def pluginKeys (isBatteryRSOCAvailable : Bool) : List VirtualSMCKeyValue :=
  baseKeys ++ if isBatteryRSOCAvailable then [bdvtKey] else []

/-- No key is added twice. -/
theorem pluginKeys_nodup (b : Bool) : ((pluginKeys b).map VirtualSMCKeyValue.key).Nodup := by
  cases b <;> decide

/-- `VirtualSMCKeyValue::compare`, as an order. -/
def KeyNumbering.le (numbering : KeyNumbering) (a b : VirtualSMCKeyValue) : Bool :=
  numbering.number a.key ≤ numbering.number b.key

end Keys

/-! ### The handler -/

/-- What one run of `vsmcNotificationHandler` is given and what the calls it
makes return. -/
structure VSMCEnv where
  /-- `sensors` is not null. -/
  sensors : Bool
  /-- `vsmc` is not null. -/
  vsmc : Bool
  callPlatformFunction : IOReturn
  getWorkLoop : Option Object
  /-- `timerEventSource` returned a timer. -/
  timerEventSource : Bool
  /-- `addEventSource(poller) == kIOReturnSuccess`. -/
  addEventSource : Bool
  /-- `setTimeoutMS(SensorUpdateTimeoutMS) == kIOReturnSuccess`. -/
  setTimeoutMS : Bool

/-- The plugin is submitted, so that the handler goes on to make a poller. -/
def VSMCEnv.submits (venv : VSMCEnv) : Bool :=
  venv.sensors && venv.vsmc && venv.callPlatformFunction == .success

/-- Every call of the handler succeeds, so that it leaves an armed poller. -/
def VSMCEnv.starts (venv : VSMCEnv) : Bool :=
  venv.submits && venv.getWorkLoop.isSome && venv.timerEventSource && venv.addEventSource &&
    venv.setTimeoutMS

/-- Every call succeeds. -/
def VSMCEnv.answering : VSMCEnv := ⟨true, true, .success, some 0, true, true, true⟩

namespace Driver

def vsmcNotificationHandler (venv : VSMCEnv) (d : Driver) : Bool × Driver :=
  if !(venv.sensors && venv.vsmc) then
    (false, d)
  else
    -- the keys as they are now, whether or not `registerVSMC` has added them all
    let d := d.emit (.submitPlugin d.vsmcPlugin)
    if venv.callPlatformFunction ≠ .success then
      (false, d)
    else
      let d := d.setWorkloop venv.getWorkLoop
      let d := (d.emit (.resource .poller .create)).setPoller
        (if venv.timerEventSource then some ⟨false, false⟩ else none)
      if d.poller.isNone || d.workloop.isNone then
        (false, d)
      else if !venv.addEventSource then
        (false, d)
      else
        -- on the work loop, and armed by the call that follows
        let d := (d.emit (.resource .poller (.addEventSource d.workloop))).setPoller
          (some ⟨false, true⟩)
        if !venv.setTimeoutMS then
          (false, d)
        else
          (true, d.setTimeoutMS)

/-- The handler arms a poller exactly if all its calls succeed, on a work loop it has got. -/
theorem vsmcNotificationHandler_armed (venv : VSMCEnv) (d : Driver) :
    (d.vsmcNotificationHandler venv).2.armed
        = (if venv.submits then venv.starts else d.armed) ∧
      (venv.starts = true → (d.vsmcNotificationHandler venv).2.workloop.isSome) := by
  obtain ⟨sensors, vsmc, submitted, loop, timer, added, timeout⟩ := venv
  have hemit : ∀ (d : Driver) e, (d.emit e).armed = d.armed := fun _ _ => rfl
  simp only [vsmcNotificationHandler, VSMCEnv.starts, VSMCEnv.submits]
  cases sensors <;> cases vsmc <;> simp
  by_cases hsubmitted : submitted = .success
  · cases timer <;> cases loop <;> cases added <;> cases timeout <;>
      simp [hsubmitted, armed, Driver.setTimeoutMS]
  · simp [hsubmitted, hemit]

/-- The handler changes the work loop, the poller and the history. -/
theorem vsmcNotificationHandler_frame {τ : Type*} {f : Driver → τ} (venv : VSMCEnv) (d : Driver)
    (hemit : ∀ d e, f (d.emit e) = f d) (hloop : ∀ d v, f (d.setWorkloop v) = f d)
    (hpoller : ∀ d v, f (d.setPoller v) = f d) :
    f (d.vsmcNotificationHandler venv).2 = f d := by
  have htimeout := setTimeoutMS_frame hemit hpoller
  simp only [vsmcNotificationHandler]
  repeat' split
  all_goals simp only [htimeout, hpoller, hemit, hloop]

end Driver

/-! ### Registration -/

/-- The statements of `registerVSMC`. -/
inductive VSMCStatement
  | registerHandler
  | addKey (key : VirtualSMCKeyValue)
  /-- `if (isBatteryRSOCAvailable) addKey(KeyBDVT, …)`. -/
  | addBDVT
  | sort
  deriving DecidableEq, Repr

def registerVSMC : List VSMCStatement :=
  .registerHandler :: baseKeys.map .addKey ++ [.addBDVT, .sort]

/-- The driver, VirtualSMC, and the notification for it. -/
structure VSMCState where
  driver : Driver
  /-- Once VirtualSMC is published: what the handler meets. -/
  published : Option VSMCEnv
  installed : Bool

namespace VSMCState

/-- The handler is called. -/
def handle (venv : VSMCEnv) (s : VSMCState) : VSMCState :=
  { s with driver := (s.driver.vsmcNotificationHandler venv).2 }

/-- One statement. -/
def exec (numbering : KeyNumbering) : VSMCStatement → VSMCState → Bool × VSMCState
  | .registerHandler, s =>
    let s := { s with installed := true }
    -- a VirtualSMC that is there already is handled before the call returns
    let s := match s.published with
      | none => s
      | some venv => s.handle venv
    (true, { s with driver := s.driver.setVsmcNotifier (some .vsmc) })
  | .addKey key, s =>
    (true, { s with driver := s.driver.setVsmcPlugin (s.driver.vsmcPlugin ++ [key]) })
  | .addBDVT, s =>
    (true,
      if s.driver.isBatteryRSOCAvailable then
        { s with driver := s.driver.setVsmcPlugin (s.driver.vsmcPlugin ++ [bdvtKey]) }
      else s)
  | .sort, s =>
    (true, { s with driver := s.driver.setVsmcPlugin (s.driver.vsmcPlugin.mergeSort numbering.le) })

section Frames

variable {τ : Type*} {f : Driver → τ} (hemit : ∀ d e, f (d.emit e) = f d)
  (hloop : ∀ d v, f (d.setWorkloop v) = f d) (hpoller : ∀ d v, f (d.setPoller v) = f d)
  (hnotifier : ∀ d v, f (d.setVsmcNotifier v) = f d)
  (hplugin : ∀ d v, f (d.setVsmcPlugin v) = f d)

include hemit hloop hpoller hnotifier hplugin

/-- `registerVSMC` changes the plugin, its notifier, and what the handler changes. -/
theorem exec_frame (numbering : KeyNumbering) (k : VSMCStatement) (s : VSMCState) :
    f (exec numbering k s).2.driver = f s.driver := by
  cases k with
  | registerHandler =>
    simp only [exec, hnotifier]
    cases s.published with
    | none => rfl
    | some venv => exact Driver.vsmcNotificationHandler_frame venv s.driver hemit hloop hpoller
  | addKey key => exact hplugin s.driver _
  | addBDVT =>
    simp only [exec]
    split
    · exact hplugin s.driver _
    · rfl
  | sort => exact hplugin s.driver _

theorem runAll_frame (numbering : KeyNumbering) (s : VSMCState) :
    f (Thread.runAll (exec numbering) registerVSMC s).2.driver = f s.driver :=
  Thread.runAll_frame (f := fun s : VSMCState => f s.driver)
    (exec_frame hemit hloop hpoller hnotifier hplugin numbering) _ s

end Frames

/-- VirtualSMC is published, for the first time. -/
def publish (venv : VSMCEnv) (s : VSMCState) : VSMCState :=
  match s.published with
  | some _ => s
  | none =>
    let s := { s with published := some venv }
    if s.installed then s.handle venv else s

end VSMCState

end AsusSMC
