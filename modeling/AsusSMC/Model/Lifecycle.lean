import AsusSMC.Model.HotkeySpec
import AsusSMC.Model.Startup

/-!
# From start to stop

`stop`, and the whole life of a started driver: the statements of `start`, those of
the functions that register notifications and the plugin, and those of `stop`, one
after the other. Anything the driver is entered by may fall between any two of them
(`LifeEvent`).

A `start` that returns `false` ends the list, for `stop` is not called then. The
part of the list that is `start` does what `Driver.start` does
(`runAll_startProgram`).
-/

namespace AsusSMC

namespace Driver

/-- `poller->cancelTimeout()`, if there is a poller. -/
def cancelTimeout (d : Driver) : Driver :=
  match d.poller with
  | none => d
  | some p => d.setPoller (some { p with armed := false })

/-- `workloop->removeEventSource(poller)`, if both are there. -/
def removePoller (d : Driver) : Driver :=
  match d.workloop, d.poller with
  | some loop, some p =>
    (d.emit (.resource .poller (.removeEventSource (some loop)))).setPoller
      (some { p with onWorkLoop := false })
  | _, _ => d

/-- `workloop->removeEventSource(command_gate)`, if both are there. -/
def removeCommandGate (d : Driver) : Driver :=
  match d.workloop, d.commandGate with
  | some loop, some _ => d.emit (.resource .commandGate (.removeEventSource (some loop)))
  | _, _ => d

/-- `OSSafeReleaseNULL(workloop)`. -/
def releaseWorkLoop (d : Driver) : Driver :=
  match d.workloop with
  | none => d
  | some loop => (d.emit (.resource (.workLoop loop) .release)).setWorkloop none

/-- `OSSafeReleaseNULL(poller)`. -/
def releasePoller (d : Driver) : Driver :=
  match d.poller with
  | none => d
  | some _ => (d.emit (.resource .poller .release)).setPoller none

/-- `OSSafeReleaseNULL(command_gate)`. -/
def releaseCommandGate (d : Driver) : Driver :=
  match d.commandGate with
  | none => d
  | some _ => (d.emit (.resource .commandGate .release)).setCommandGate none

/-- `_notificationServices->flushCollection()`. -/
def flushServices (d : Driver) : Driver :=
  match d.notificationServices with
  | none => d.emit (.nullCall .notificationServices)
  | some _ => d.setNotificationServices (some .empty)

end Driver

/-! ### `stop` -/

/-- The statements of `stop`. -/
inductive StopStatement
  | cancelTimeout
  | removePoller
  | removeCommandGate
  | releaseWorkLoop
  | releasePoller
  | releaseCommandGate
  | removePublishNotify
  | removeTerminateNotify
  | flushServices
  | releasePublishNotify
  | releaseTerminateNotify
  | releaseServices
  | releaseKeyboard
  deriving DecidableEq, Repr

namespace NotifyState

/-- `notifier->remove()`: the handler is not called with the notifier again. -/
def removeNotifier (notifier : Notifier) (s : NotifyState) : NotifyState :=
  { s with
    publishInstalled := s.publishInstalled && notifier != .publish
    terminateInstalled := s.terminateInstalled && notifier != .terminate
    pending := fun service => (s.pending service).filter (· ≠ notifier) }

/-- Change the driver. -/
def mapDriver (f : Driver → Driver) (s : NotifyState) : NotifyState :=
  { s with driver := f s.driver }

@[simp] theorem mapDriver_driver (f : Driver → Driver) (s : NotifyState) :
    (s.mapDriver f).driver = f s.driver := rfl

@[simp] theorem removeNotifier_driver (notifier : Notifier) (s : NotifyState) :
    (s.removeNotifier notifier).driver = s.driver := rfl

end NotifyState

namespace StopStatement

def program : List StopStatement :=
  [cancelTimeout, removePoller, removeCommandGate, releaseWorkLoop, releasePoller,
    releaseCommandGate, removePublishNotify, removeTerminateNotify, flushServices,
    releasePublishNotify, releaseTerminateNotify, releaseServices, releaseKeyboard]

def exec : StopStatement → NotifyState → NotifyState
  | cancelTimeout, s => s.mapDriver Driver.cancelTimeout
  | removePoller, s => s.mapDriver Driver.removePoller
  | removeCommandGate, s => s.mapDriver Driver.removeCommandGate
  | releaseWorkLoop, s => s.mapDriver Driver.releaseWorkLoop
  | releasePoller, s => s.mapDriver Driver.releasePoller
  | releaseCommandGate, s => s.mapDriver Driver.releaseCommandGate
  | removePublishNotify, s => s.removeNotifier .publish
  | removeTerminateNotify, s => s.removeNotifier .terminate
  | flushServices, s => s.mapDriver Driver.flushServices
  | releasePublishNotify, s => s.mapDriver (·.setPublishNotify none)
  | releaseTerminateNotify, s => s.mapDriver (·.setTerminateNotify none)
  | releaseServices, s => s.mapDriver (·.setNotificationServices none)
  | releaseKeyboard, s => s.mapDriver Driver.releaseKeyboard

end StopStatement

/-! ### The whole life -/

/-- A statement of `start` or `stop`. -/
inductive LifeStatement
  | start (k : StartStatement)
  | notifications (k : RegisterStatement)
  | vsmc (k : VSMCStatement)
  | stop (k : StopStatement)
  deriving DecidableEq, Repr

/-- The driver with the services around it, and VirtualSMC. -/
structure Life where
  notify : NotifyState
  /-- Once VirtualSMC is published: what the handler meets. -/
  vsmc : Option VSMCEnv := none
  vsmcInstalled : Bool := false

/-- What can happen at any time. -/
inductive LifeEvent
  | message (env : Env) (m : Message)
  /-- The poller fires. -/
  | tick (env : Env)
  | service (e : ServiceEvent)
  | vsmcPublished (venv : VSMCEnv)

namespace Life

def driver (s : Life) : Driver := s.notify.driver

/-- The driver and VirtualSMC, as `registerVSMC` sees them. -/
def vsmcState (s : Life) : VSMCState := ⟨s.driver, s.vsmc, s.vsmcInstalled⟩

/-- Take over what a step of `registerVSMC` has changed. -/
def ofVSMC (s : Life) (v : VSMCState) : Life :=
  { notify := s.notify.mapDriver fun _ => v.driver, vsmc := v.published,
    vsmcInstalled := v.installed }

/-- The statements of `start` before it registers anything. -/
def initProgram : List StartStatement :=
  [.parseWDG, .initATKDevice, .initALSDevice, .initEC0Device, .initBattery, .initVirtualKeyboard,
    .startATKDevice, .getWorkLoop, .commandGate, .setProperties]

/-- `start`, statement by statement. -/
def startProgram : List LifeStatement :=
  initProgram.map .start ++ (registerNotifications.map .notifications ++ registerVSMC.map .vsmc)

def program : List LifeStatement := startProgram ++ StopStatement.program.map .stop

def exec (senv : StartEnv) : LifeStatement → Life → Bool × Life
  | .start k, s =>
    let r := StartStatement.exec senv k s.driver
    (r.1, { s with notify := s.notify.mapDriver fun _ => r.2 })
  | .notifications k, s =>
    let r := NotifyState.exec k s.notify
    (r.1, { s with notify := r.2 })
  | .vsmc k, s =>
    let r := VSMCState.exec senv.numbering k s.vsmcState
    (r.1, s.ofVSMC r.2)
  | .stop k, s => (true, { s with notify := k.exec s.notify })

def react : LifeEvent → Life → Life
  | .message env m, s => { s with notify := s.notify.mapDriver fun d => (d.message env m).2 }
  | .tick env, s => { s with notify := s.notify.mapDriver (·.fire env) }
  | .service e, s => { s with notify := NotifyState.react e s.notify }
  | .vsmcPublished venv, s => s.ofVSMC (s.vsmcState.publish venv)

/-- A schedule of a driver's life. -/
abbrev Config := Thread.Config LifeStatement Life

def step (senv : StartEnv) : Config → Thread.Event LifeEvent → Config :=
  Thread.step (exec senv) react

/-- The driver as `init` has made it, with its provider assigned. -/
def initial (vendor : Option UInt32) (provider : ACPIDevice) : Life :=
  { notify := { driver := (({} : Driver).init true vendor).2.setAtkDevice (some provider) } }

/-! ### `start` is `Driver.start` -/

section Start

variable (senv : StartEnv) (s : Life)

theorem runAll_init :
    Thread.runAll (exec senv) (initProgram.map .start) s
      = ((Thread.runAll (StartStatement.exec senv) initProgram s.driver).1,
          { s with notify := s.notify.mapDriver fun _ =>
              (Thread.runAll (StartStatement.exec senv) initProgram s.driver).2 }) :=
  Thread.runAll_map driver (fun s d => { s with notify := s.notify.mapDriver fun _ => d })
    (fun _ _ => rfl) (fun _ _ => rfl) (fun _ _ _ => rfl) (fun _ => rfl) initProgram s

theorem runAll_notifications :
    Thread.runAll (exec senv) (registerNotifications.map .notifications) s
      = ((Thread.runAll NotifyState.exec registerNotifications s.notify).1,
          { s with notify := (Thread.runAll NotifyState.exec registerNotifications s.notify).2 }) :=
  Thread.runAll_map notify (fun s n => { s with notify := n })
    (fun _ _ => rfl) (fun _ _ => rfl) (fun _ _ _ => rfl) (fun _ => rfl) registerNotifications s

theorem runAll_vsmc :
    Thread.runAll (exec senv) (registerVSMC.map .vsmc) s
      = ((Thread.runAll (VSMCState.exec senv.numbering) registerVSMC s.vsmcState).1,
          s.ofVSMC (Thread.runAll (VSMCState.exec senv.numbering) registerVSMC s.vsmcState).2) :=
  Thread.runAll_map vsmcState ofVSMC
    (fun _ _ => rfl) (fun _ _ => rfl) (fun _ _ _ => rfl) (fun _ => rfl) registerVSMC s

/-- The surroundings as a `start` finds them that nothing interrupts. -/
def undisturbed (d : Driver) : Life :=
  { notify := { driver := d, published := senv.services, alive := senv.services }
    vsmc := senv.vsmc }

/-- **`start`, statement by statement**, is `start`, when nothing happens meanwhile. -/
theorem runAll_startProgram (d : Driver) :
    (Thread.runAll (exec senv) startProgram (undisturbed senv d)).1
        = (Thread.runAll (StartStatement.exec senv) StartStatement.program d).1 ∧
      (Thread.runAll (exec senv) startProgram (undisturbed senv d)).2.driver
        = (Thread.runAll (StartStatement.exec senv) StartStatement.program d).2 := by
  have hprogram : StartStatement.program
      = initProgram ++ [.registerNotifications, .registerVSMC] := rfl
  have hnotifications : ∀ s, (Thread.runAll NotifyState.exec registerNotifications s).1 = true :=
    Thread.runAll_fst (fun k s => by cases k <;> rfl) _
  have hvsmc : ∀ s, (Thread.runAll (VSMCState.exec senv.numbering) registerVSMC s).1 = true :=
    Thread.runAll_fst (fun k s => by cases k <;> rfl) _
  have hdriver : (undisturbed senv d).driver = d := rfl
  rw [startProgram, hprogram]
  simp only [Thread.runAll_append, runAll_init, hdriver]
  cases (Thread.runAll (StartStatement.exec senv) initProgram d).1 with
  | false => exact ⟨rfl, rfl⟩
  | true =>
    -- the two registrations, which never fail
    simp only [if_true, runAll_notifications, hnotifications, runAll_vsmc, hvsmc]
    exact ⟨rfl, rfl⟩

end Start

end Life

end AsusSMC
