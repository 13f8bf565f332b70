import AsusSMC.Model.HotkeySpec
import AsusSMC.Model.KeyImplementations
import AsusSMC.Model.Notifications
import AsusSMC.Model.Sensors

/-!
# The running driver

The driver together with the data of the SMC keys that have code of their own,
and the operations a started driver is entered by (`Op`).
-/

namespace AsusSMC

/-- The driver and the data of its keys, as `registerVSMC` makes them. -/
structure System where
  driver : Driver
  alv0 : SMCALSValue.Value := {}
  lksb : Vector UInt8 2 := #v[0, 1]
  f0Ac : UInt16 := 0
  bdvt : UInt8 := 0

/-- The entries into a started driver. -/
inductive Op
  /-- The poller fires. -/
  | tick (env : Env)
  | message (env : Env) (m : Message)
  | notification (service : Service) (notifier : Notifier)
  | readALV0
  | writeALV0 (src : Vector UInt8 10)
  | writeAL (src : Vector UInt8 2)
  | writeLKSB (env : Env) (src : Vector UInt8 2)
  | readF0Ac
  /-- Possible only where `registerVSMC` has added the key. -/
  | writeBDVT (env : Env) (src : UInt8)

namespace Op

def IsTick : Op → Prop
  | tick _ => True
  | _ => False

end Op

namespace System

/-- One entry. -/
def step (s : System) : Op → System
  | .tick env => { s with driver := s.driver.fire env }
  | .message env m => { s with driver := (s.driver.message env m).2 }
  | .notification service notifier =>
    { s with driver := (s.driver.notificationHandler service notifier).2 }
  | .readALV0 =>
    let r := SMCALSValue.readAccess s.driver.currentLux (firstByte s.driver.forceBits) s.alv0
    { s with alv0 := r.2 }
  | .writeALV0 src => { s with alv0 := .ofBytes src }
  | .writeAL src => { s with driver := s.driver.setForceBits src }
  | .writeLKSB env src =>
    let r := SMCKBrdBLightValue.update env src s.driver
    { s with lksb := r.2.1, driver := r.2.2 }
  | .readF0Ac => { s with f0Ac := (F0Ac.readAccess s.driver.currentFanSpeed).2 }
  | .writeBDVT env src =>
    if s.driver.isBatteryRSOCAvailable then
      let r := BDVT.update env src s.driver
      { s with bdvt := r.2.1, driver := r.2.2 }
    else s

/-- **Frame**: between two ticks nothing changes that hotkeys, the set of
consumers and the force bits do not touch. -/
theorem step_frame {τ : Type*} {f : Driver → τ} (hf : Driver.HotkeyFrame f)
    (hset : ∀ d v, f (d.setNotificationServices v) = f d)
    (hforce : ∀ d v, f (d.setForceBits v) = f d) (s : System) {o : Op} (ho : ¬ o.IsTick) :
    f (s.step o).driver = f s.driver := by
  cases o with
  | tick env => exact absurd trivial ho
  | message env m => exact Driver.message_frame hf env m s.driver
  | notification service notifier =>
    exact Driver.notificationHandler_frame hf.emit hset service notifier s.driver
  | readALV0 => rfl
  | writeALV0 src => rfl
  | writeAL src => exact hforce s.driver src
  | writeLKSB env src => exact Driver.message_frame hf env _ s.driver
  | readF0Ac => rfl
  | writeBDVT env src =>
    rw [step]
    split
    · exact Driver.toggleBatteryConservativeMode_frame hf.emit hf.setProperty env _ s.driver
    · rfl

end System

end AsusSMC
