import AsusSMC.Model.HIDReport
import AsusSMC.Model.IOKit
import AsusSMC.Model.KernEventServer
import AsusSMC.Model.SMCKeys
import Mathlib.Logic.Function.Basic

/-!
# The driver's state

`Driver` is the data of `class AsusSMC`: its members with their in-class
initialisers (an object of the kernel is zeroed before they run), its registry
properties, and a history `log` of what it has done to the outside. The history
is not in the class; it records the calls that leave the driver, so that a
statement about reports, messages or evaluations is a statement about the
state.

A method called through a null pointer is undefined in the source. Here it
leaves a `nullCall` in the history and nothing else.
-/

namespace AsusSMC

/-- The devices the driver evaluates methods of. -/
inductive DeviceField
  | atkDevice
  | alsDevice
  | ec0Device
  deriving DecidableEq, Repr

/-- The members of the driver that methods are called through. -/
inductive Pointer
  | device (field : DeviceField)
  | commandGate
  | poller
  | notificationServices
  deriving DecidableEq, Repr

/-- Objects the driver acquires while it starts. -/
inductive Resource
  | virtualKeyboard
  | workLoop (loop : Object)
  | commandGate
  | poller
  deriving DecidableEq, Repr

/-- What the driver does with an acquired object. -/
inductive ResourceCall
  | create
  | attach
  | start
  | retain
  | release
  /-- On the work loop that `workloop` points to. -/
  | addEventSource (workloop : Option Object)
  | removeEventSource (workloop : Option Object)
  deriving DecidableEq, Repr

/-- The calls that leave the driver. -/
inductive Effect
  /-- The debug line of a dispatch: report id, key code, count. -/
  | dispatched (reportId : UInt8) (code loop : Int32)
  /-- A report handed to `postKeyboardInputReport`, and its result. -/
  | post (report : Report) (result : IOReturn)
  /-- A message handed to `kev_msg_post`, and whether the kernel took it. -/
  | kevMsgPost (msg : KevMsg) (posted : Bool)
  /-- `service->message(message, this, data)`, `data` pointing to the given `bool`. -/
  | consumer (service : Service) (message : KeyboardMessage) (data : Bool)
  | evaluateInteger (dev : ACPIDevice) (method : String) (args : List ACPIArg)
      (reply : Option UInt32)
  | evaluateObject (dev : ACPIDevice) (method : String) (args : List ACPIArg)
  /-- `VirtualSMCAPI::postInterrupt(SmcEventALSChange)`. -/
  | postInterrupt
  /-- `SubmitPlugin`, with the entries `vsmcPlugin.data` has at the call. -/
  | submitPlugin (data : List VirtualSMCKeyValue)
  | resource (object : Resource) (call : ResourceCall)
  | nullCall (pointer : Pointer)
  deriving DecidableEq, Repr

/-- A one-shot timer: `setTimeoutMS` arms it, firing disarms it. -/
structure IOTimerEventSource where
  armed : Bool
  onWorkLoop : Bool
  deriving DecidableEq, Repr

/-- `class AsusSMC`. -/
structure Driver where
  /-- `vsmcPlugin.data`. -/
  vsmcPlugin : List VirtualSMCKeyValue := []
  /-- `char wmi_method[5]`. -/
  wmiMethod : Vector UInt8 5 := Vector.replicate 5 0
  atkDevice : Option ACPIDevice := none
  alsDevice : Option ACPIDevice := none
  ec0Device : Option ACPIDevice := none
  kbdDevice : Option Object := none
  /-- The two bytes of `forceBits`. -/
  forceBits : Vector UInt8 2 := Vector.replicate 2 0
  currentLux : UInt32 := 0
  currentFanSpeed : UInt16 := 0
  vsmcNotifier : Option Notifier := none
  workloop : Option Object := none
  commandGate : Option Object := none
  poller : Option IOTimerEventSource := none
  kev : KernEventServer := {}
  csmrreport : Report := consumerInput
  tcreport : Report := appleVendorTopCaseInput
  directACPImessaging : Bool := false
  hasKeyboardBacklight : Bool := false
  isALSEnabled : Bool := true
  isTouchpadEnabled : Bool := true
  isPanelBackLightOn : Bool := true
  isTACHAvailable : Bool := false
  isBatteryRSOCAvailable : Bool := false
  panelBrightnessLevel : UInt32 := 16
  /-- `char backlightEntry[1000]`. -/
  backlightEntry : String := ""
  publishNotify : Option Notifier := none
  terminateNotify : Option Notifier := none
  notificationServices : Option (OSSet Service) := none
  /-- The boolean registry properties the driver sets. -/
  properties : String → Option Bool := fun _ => none
  /-- Everything the driver has done to the outside, oldest first. -/
  log : List Effect := []

namespace Driver

/-! ### Assignments

One update for each member the driver assigns after its construction. The other
modules write the members only through these, so each lemma below is about one
assignment. -/

/-- Record one call that leaves the driver. -/
@[simps] def emit (d : Driver) (e : Effect) : Driver := { d with log := d.log ++ [e] }

/-- Record several calls. -/
@[simps] def record (d : Driver) (es : List Effect) : Driver := { d with log := d.log ++ es }

@[simp] theorem record_nil (d : Driver) : d.record [] = d := by
  simp [record]

theorem record_record (d : Driver) (es fs : List Effect) :
    (d.record es).record fs = d.record (es ++ fs) := by
  simp [record]

theorem emit_eq_record (d : Driver) (e : Effect) : d.emit e = d.record [e] := rfl

/-- `setProperty(key, value)`. -/
@[simps] def setProperty (d : Driver) (key : String) (value : Bool) : Driver :=
  { d with properties := Function.update d.properties key (some value) }

@[simps] def setCurrentLux (d : Driver) (v : UInt32) : Driver := { d with currentLux := v }

@[simps] def setCurrentFanSpeed (d : Driver) (v : UInt16) : Driver :=
  { d with currentFanSpeed := v }

@[simps] def setForceBits (d : Driver) (v : Vector UInt8 2) : Driver := { d with forceBits := v }

@[simps] def setPoller (d : Driver) (v : Option IOTimerEventSource) : Driver :=
  { d with poller := v }

@[simps] def setCsmrreport (d : Driver) (v : Report) : Driver := { d with csmrreport := v }

@[simps] def setTcreport (d : Driver) (v : Report) : Driver := { d with tcreport := v }

@[simps] def setIsALSEnabled (d : Driver) (v : Bool) : Driver := { d with isALSEnabled := v }

@[simps] def setIsTouchpadEnabled (d : Driver) (v : Bool) : Driver :=
  { d with isTouchpadEnabled := v }

@[simps] def setIsPanelBackLightOn (d : Driver) (v : Bool) : Driver :=
  { d with isPanelBackLightOn := v }

@[simps] def setPanelBrightnessLevel (d : Driver) (v : UInt32) : Driver :=
  { d with panelBrightnessLevel := v }

@[simps] def setBacklightEntry (d : Driver) (v : String) : Driver := { d with backlightEntry := v }

@[simps] def setNotificationServices (d : Driver) (v : Option (OSSet Service)) : Driver :=
  { d with notificationServices := v }

@[simps] def setIsTACHAvailable (d : Driver) (v : Bool) : Driver :=
  { d with isTACHAvailable := v }

@[simps] def setIsBatteryRSOCAvailable (d : Driver) (v : Bool) : Driver :=
  { d with isBatteryRSOCAvailable := v }

@[simps] def setAlsDevice (d : Driver) (v : Option ACPIDevice) : Driver := { d with alsDevice := v }

@[simps] def setEc0Device (d : Driver) (v : Option ACPIDevice) : Driver := { d with ec0Device := v }

@[simps] def setVsmcPlugin (d : Driver) (v : List VirtualSMCKeyValue) : Driver :=
  { d with vsmcPlugin := v }

@[simps] def setVsmcNotifier (d : Driver) (v : Option Notifier) : Driver :=
  { d with vsmcNotifier := v }

@[simps] def setPublishNotify (d : Driver) (v : Option Notifier) : Driver :=
  { d with publishNotify := v }

@[simps] def setTerminateNotify (d : Driver) (v : Option Notifier) : Driver :=
  { d with terminateNotify := v }

@[simps] def setWorkloop (d : Driver) (v : Option Object) : Driver := { d with workloop := v }

@[simps] def setCommandGate (d : Driver) (v : Option Object) : Driver :=
  { d with commandGate := v }

@[simps] def setKbdDevice (d : Driver) (v : Option Object) : Driver := { d with kbdDevice := v }

@[simps] def setAtkDevice (d : Driver) (v : Option ACPIDevice) : Driver := { d with atkDevice := v }

@[simps] def setKev (d : Driver) (v : KernEventServer) : Driver := { d with kev := v }

@[simps] def setDirectACPImessaging (d : Driver) (v : Bool) : Driver :=
  { d with directACPImessaging := v }

@[simps] def setHasKeyboardBacklight (d : Driver) (v : Bool) : Driver :=
  { d with hasKeyboardBacklight := v }

@[simps] def setWmiMethod (d : Driver) (v : Vector UInt8 5) : Driver := { d with wmiMethod := v }

def device (d : Driver) : DeviceField → Option ACPIDevice
  | .atkDevice => d.atkDevice
  | .alsDevice => d.alsDevice
  | .ec0Device => d.ec0Device

/-! ### ACPI evaluations -/

/-- The firmware's reply to an evaluation through one of the device pointers. -/
def integerReply (env : Env) (field : DeviceField) (method : String) (args : List ACPIArg)
    (d : Driver) : Option UInt32 :=
  (d.device field).bind fun dev => env.acpi.integer dev method args

/-- The effect an evaluation leaves in the history. -/
def integerEffect (env : Env) (field : DeviceField) (method : String) (args : List ACPIArg)
    (d : Driver) : Effect :=
  match d.device field with
  | none => .nullCall (.device field)
  | some dev => .evaluateInteger dev method args (env.acpi.integer dev method args)

def objectReply (env : Env) (field : DeviceField) (method : String) (args : List ACPIArg)
    (d : Driver) : Option (Option OSObject) :=
  (d.device field).bind fun dev => env.acpi.object dev method args

def objectEffect (field : DeviceField) (method : String) (args : List ACPIArg) (d : Driver) :
    Effect :=
  match d.device field with
  | none => .nullCall (.device field)
  | some dev => .evaluateObject dev method args

/-- The outcome of an evaluation: its status, the caller's output variable
after it, and the driver after it. -/
structure Evaluation (α : Type) where
  ret : IOReturn
  out : α
  driver : Driver

/-- `evaluateInteger(method, &out, args)`. -/
def evaluateInteger (env : Env) (field : DeviceField) (method : String) (args : List ACPIArg)
    (out : UInt32) (d : Driver) : Evaluation UInt32 :=
  let stored := ACPI.store (d.integerReply env field method args) out
  ⟨stored.1, stored.2, d.emit (d.integerEffect env field method args)⟩

/-- `evaluateObject(method, &out, args)`. -/
def evaluateObject (env : Env) (field : DeviceField) (method : String) (args : List ACPIArg)
    (out : Option OSObject) (d : Driver) : Evaluation (Option OSObject) :=
  let stored := ACPI.store (d.objectReply env field method args) out
  ⟨stored.1, stored.2, d.emit (d.objectEffect field method args)⟩

/-- `validateObject(method) == kIOReturnSuccess`. -/
def validateObject (env : Env) (field : DeviceField) (method : String) (d : Driver) : Bool :=
  match d.device field with
  | none => false
  | some dev => env.acpi.validateObject dev method

theorem evaluateObject_driver (env : Env) (field : DeviceField) (method : String)
    (args : List ACPIArg) (out : Option OSObject) (d : Driver) :
    (d.evaluateObject env field method args out).driver
      = d.emit (d.objectEffect field method args) := rfl

/-! ### The poller -/

/-- `poller->setTimeoutMS(SensorUpdateTimeoutMS)`. -/
def setTimeoutMS (d : Driver) : Driver :=
  match d.poller with
  | none => d.emit (.nullCall .poller)
  | some p => d.setPoller (some { p with armed := true })

theorem setTimeoutMS_frame {τ : Type*} {f : Driver → τ} (hemit : ∀ d e, f (d.emit e) = f d)
    (hpoller : ∀ d v, f (d.setPoller v) = f d) (d : Driver) : f d.setTimeoutMS = f d := by
  unfold setTimeoutMS
  split
  · exact hemit d _
  · exact hpoller d _

/-- The poller is there, on a work loop, and will fire. -/
def armed (d : Driver) : Bool :=
  match d.poller with
  | none => false
  | some p => p.armed && p.onWorkLoop

end Driver

end AsusSMC
