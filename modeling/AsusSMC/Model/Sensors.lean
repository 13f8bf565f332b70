import AsusSMC.Model.WMI

/-!
# Light sensor and fan

`refreshALS` and `refreshFan`, the discovery of the devices they read
(`initALSDevice`, `initEC0Device`), and the poller's lambda.

The two discoveries walk the same four steps. `initEC0Device` decides on
`isTACHAvailable` at every exit, `initALSDevice` only sets the device pointer.
-/

namespace AsusSMC

/-- What the registry answers while one device is looked up by name:
`nameMatching` and `waitForMatchingService` for the ACPI platform expert, then
`nameMatching` and `getMatchingServices` for the device, whose iterator yields
its first object cast to `IOACPIPlatformDevice`. -/
structure Discovery where
  expertDict : Bool
  expert : Bool
  deviceDict : Bool
  iterator : Option (Option ACPIDevice)

/-- The device a discovery ends with, if it gets that far. -/
def Discovery.found (disc : Discovery) : Option ACPIDevice :=
  if disc.expertDict && disc.expert && disc.deviceDict then disc.iterator.join else none

namespace Driver

def refreshALS (env : Env) (post : Bool) (d : Driver) : Bool × Driver :=
  match d.alsDevice with
  -- the early return is before the store and before `setTimeoutMS`
  | none => (false, d)
  | some _ =>
    -- the status, the value to store and the driver after the evaluation, if there is one
    let e : Evaluation UInt32 :=
      if d.isALSEnabled then
        let e := d.evaluateInteger env .alsDevice "_ALI" [] 150
        if e.ret ≠ .success then ⟨e.ret, 0xFFFFFFFF, e.driver⟩ else e
      else ⟨.success, 150, d⟩
    let d := e.driver.setCurrentLux e.out
    let d := if post then (d.emit .postInterrupt).setTimeoutMS else d
    (e.ret = .success, d)

def refreshFan (env : Env) (d : Driver) : Bool × Driver :=
  let speed : UInt32 × Driver :=
    if d.isTACHAvailable then
      let e := d.evaluateInteger env .ec0Device "TACH" [.number 0] 10000
      if e.ret ≠ .success then (10000, e.driver) else (e.out, e.driver)
    else
      -- the fan speed of a WMI device is in hundreds
      let r := wmiGetDevstate env ASUS_WMI_DEVID_CPU_FAN_CTRL d
      if r.1 = -1 then (10000, r.2) else ((r.1.toUInt32 &&& 0xffff) * 100, r.2)
  (speed.1 ≠ 10000, speed.2.setCurrentFanSpeed speed.1.toUInt16)

def initALSDevice (env : Env) (disc : Discovery) (d : Driver) : Driver :=
  if !disc.expertDict then d
  else if !disc.expert then d
  else if !disc.deviceDict then d
  else
    match disc.iterator with
    | none => d
    | some dev =>
      let d := d.setAlsDevice dev
      if d.alsDevice.isNone then d
      -- the device stays set although its method is missing
      else if !d.validateObject env .alsDevice "_ALI" then d
      else (d.refreshALS env false).2

def initEC0Device (env : Env) (disc : Discovery) (d : Driver) : Driver :=
  let d := d.setIsTACHAvailable true
  if !disc.expertDict then d.setIsTACHAvailable false
  else if !disc.expert then d.setIsTACHAvailable false
  else if !disc.deviceDict then d.setIsTACHAvailable false
  else
    match disc.iterator with
    | none => d.setIsTACHAvailable false
    | some dev =>
      let d := d.setEc0Device dev
      if d.ec0Device.isNone then d.setIsTACHAvailable false
      else if !d.validateObject env .ec0Device "TACH" then d.setIsTACHAvailable false
      else
        -- a first reading decides whether the method works
        let r := d.refreshFan env
        if !r.1 then r.2.setIsTACHAvailable false else r.2

/-- The lambda the poller runs when it fires. -/
def pollerAction (env : Env) (d : Driver) : Driver :=
  ((d.refreshALS env true).2.refreshFan env).2

/-- The poller fires: a timer that is not armed, or not on a work loop, does
not. -/
def fire (env : Env) (d : Driver) : Driver :=
  match d.poller with
  | none => d
  | some p =>
    if p.armed && p.onWorkLoop then
      pollerAction env (d.setPoller (some { p with armed := false }))
    else d

/-! ### What a refresh does -/

section Spec

variable (env : Env) (d : Driver)

/-- The value `refreshALS` stores: the sensor's, `150` while the sensor is
switched off, the sentinel when the evaluation fails. -/
def luxReading : UInt32 :=
  if d.isALSEnabled then (d.integerReply env .alsDevice "_ALI" []).getD 0xFFFFFFFF else 150

/-- The driver after the evaluation that a refresh of the light value makes. -/
def aliEvaluated : Driver :=
  if d.isALSEnabled then d.emit (d.integerEffect env .alsDevice "_ALI" []) else d

/-- Without a device `refreshALS` does nothing at all. -/
theorem refreshALS_of_none (post : Bool) (h : d.alsDevice = none) :
    refreshALS env post d = (false, d) := by
  simp [refreshALS, h]

/-- **What `refreshALS` does with a device**: it stores the reading and, when it
posts, raises the interrupt and re-arms the poller. -/
theorem refreshALS_of_some {dev : ACPIDevice} (post : Bool) (h : d.alsDevice = some dev) :
    (refreshALS env post d).2
      = if post then
          (((d.aliEvaluated env).setCurrentLux (d.luxReading env)).emit .postInterrupt).setTimeoutMS
        else (d.aliEvaluated env).setCurrentLux (d.luxReading env) := by
  rw [refreshALS, h, aliEvaluated, luxReading]
  cases d.isALSEnabled with
  | false => rfl
  | true =>
    cases hr : d.integerReply env .alsDevice "_ALI" [] <;> simp [evaluateInteger, hr]

/-- The speed `refreshFan` computes; `10000` when there is none. -/
def fanReading : UInt32 :=
  if d.isTACHAvailable then (d.integerReply env .ec0Device "TACH" [.number 0]).getD 10000
  else
    let ret := wmiResult (d.wmiReply env ASUS_WMI_METHODID_DSTS ASUS_WMI_DEVID_CPU_FAN_CTRL 0)
    if ret = -1 then 10000 else (ret.toUInt32 &&& 0xffff) * 100

/-- The evaluation `refreshFan` makes. -/
def fanEffect : Effect :=
  if d.isTACHAvailable then d.integerEffect env .ec0Device "TACH" [.number 0]
  else d.wmiEffect env ASUS_WMI_METHODID_DSTS ASUS_WMI_DEVID_CPU_FAN_CTRL 0

/-- **What `refreshFan` does**: it makes one evaluation and stores the low half
of the speed. -/
theorem refreshFan_eq :
    refreshFan env d
      = (decide (d.fanReading env ≠ 10000),
          (d.emit (d.fanEffect env)).setCurrentFanSpeed (d.fanReading env).toUInt16) := by
  cases ht : d.isTACHAvailable with
  | true =>
    cases hr : d.integerReply env .ec0Device "TACH" [.number 0] <;>
      simp [refreshFan, fanReading, fanEffect, evaluateInteger, ht, hr]
  | false =>
    by_cases hm : wmiResult
        (d.wmiReply env ASUS_WMI_METHODID_DSTS ASUS_WMI_DEVID_CPU_FAN_CTRL 0) = -1 <;>
      simp [refreshFan, fanReading, fanEffect, wmiGetDevstate, wmiEvaluateMethod_eq, ht, hm]

end Spec

section Frames

variable {τ : Type*} {f : Driver → τ}

theorem refreshALS_frame (hemit : ∀ d e, f (d.emit e) = f d)
    (hlux : ∀ d v, f (d.setCurrentLux v) = f d) (hpoller : ∀ d v, f (d.setPoller v) = f d)
    (env : Env) (post : Bool) (d : Driver) : f (d.refreshALS env post).2 = f d := by
  have hali : f (d.aliEvaluated env) = f d := by
    unfold aliEvaluated
    split
    · exact hemit d _
    · rfl
  cases hdev : d.alsDevice with
  -- nothing happens at all
  | none => rw [refreshALS_of_none env d post hdev]
  | some dev =>
    rw [refreshALS_of_some env d post hdev]
    split
    · rw [setTimeoutMS_frame hemit hpoller, hemit, hlux, hali]
    · rw [hlux, hali]

theorem refreshFan_frame (hemit : ∀ d e, f (d.emit e) = f d)
    (hspeed : ∀ d v, f (d.setCurrentFanSpeed v) = f d) (env : Env) (d : Driver) :
    f (d.refreshFan env).2 = f d := by
  rw [refreshFan_eq, hspeed, hemit]

theorem initALSDevice_frame (hemit : ∀ d e, f (d.emit e) = f d)
    (hlux : ∀ d v, f (d.setCurrentLux v) = f d) (hpoller : ∀ d v, f (d.setPoller v) = f d)
    (hdevice : ∀ d v, f (d.setAlsDevice v) = f d) (env : Env) (disc : Discovery) (d : Driver) :
    f (d.initALSDevice env disc) = f d := by
  have hlight := refreshALS_frame hemit hlux hpoller env false
  simp only [initALSDevice]
  repeat' split
  all_goals simp only [hdevice, hlight]

theorem initEC0Device_frame (hemit : ∀ d e, f (d.emit e) = f d)
    (hspeed : ∀ d v, f (d.setCurrentFanSpeed v) = f d)
    (htach : ∀ d v, f (d.setIsTACHAvailable v) = f d)
    (hdevice : ∀ d v, f (d.setEc0Device v) = f d) (env : Env) (disc : Discovery) (d : Driver) :
    f (d.initEC0Device env disc) = f d := by
  have hfan := refreshFan_frame hemit hspeed env
  simp only [initEC0Device]
  repeat' split
  all_goals simp only [htach, hdevice, hfan]

/-- **Frame**: what a tick writes. -/
theorem fire_frame (hemit : ∀ d e, f (d.emit e) = f d)
    (hlux : ∀ d v, f (d.setCurrentLux v) = f d) (hspeed : ∀ d v, f (d.setCurrentFanSpeed v) = f d)
    (hpoller : ∀ d v, f (d.setPoller v) = f d) (env : Env) (d : Driver) :
    f (d.fire env) = f d := by
  unfold fire pollerAction
  split
  · rfl
  · split
    · rw [refreshFan_frame hemit hspeed, refreshALS_frame hemit hlux hpoller, hpoller]
    · rfl

end Frames

end Driver

end AsusSMC
