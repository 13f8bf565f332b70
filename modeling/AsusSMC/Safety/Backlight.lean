import AsusSMC.Framework.EventSystem
import AsusSMC.Model.History
import AsusSMC.Model.System

/-!
# The keyboard backlight

A level written to `LKSB` travels as twelve bits of a message and reaches the device as
the argument of `SKBV`. `backlight_one_to_one` compares, over every run of writes and
notifications, the calls of `SKBV` with the writes: one call a write, with the first
byte written, and none from a hotkey.
-/

namespace AsusSMC

open EventSystem

/-- A call of `SKBV`: the device and its arguments. -/
def skbvCall : Effect → Option (ACPIDevice × List ACPIArg)
  | .evaluateObject dev method args => if method = "SKBV" then some (dev, args) else none
  | _ => none

/-- The calls of `SKBV`, in order. -/
def skbvCalls (es : List Effect) : List (ACPIDevice × List ACPIArg) := es.filterMap skbvCall

theorem skbvCalls_append (es fs : List Effect) :
    skbvCalls (es ++ fs) = skbvCalls es ++ skbvCalls fs := List.filterMap_append

/-- A report for the keyboard, or the debug line of a dispatch. -/
def IsReport (e : Effect) : Prop :=
  (∃ report result, e = .post report result) ∨
    ∃ reportId code loop, e = .dispatched reportId code loop

/-- A client writes `LKSB`, or the device notifies the driver. -/
inductive BacklightEvent
  | write (env : Env) (src : Vector UInt8 2)
  | notification (env : Env) (event : UInt32)

namespace BacklightEvent

def toOp : BacklightEvent → Op
  | write env src => .writeLKSB env src
  | notification env event => .message env (.deviceNotification event)

/-- The writes of a run, in order. -/
def writes (es : List BacklightEvent) : List (Vector UInt8 2) :=
  es.filterMap fun | write _ src => some src | notification _ _ => none

end BacklightEvent

namespace System

def backlightStep (s : System) (e : BacklightEvent) : System := s.step e.toOp

end System

/-! ### One write -/

namespace SMCKBrdBLightValue

variable (src : Vector UInt8 2)

/-- The level that is sent: the first byte, and the high half of the second. It has
twelve bits. -/
theorem tval_toNat :
    (tval src).toNat = (firstByte src).toNat * 16 + (secondByte src).toNat / 16 := by
  have hfirst := (firstByte src).toNat_lt
  have hsecond := (secondByte src).toNat_lt
  have h4 : (4 : UInt16).toNat % 16 = 4 := rfl
  have hlow : (secondByte src >>> 4).toUInt16.toNat = (secondByte src).toNat / 16 := by
    rw [UInt8.toNat_toUInt16, UInt8.toNat_shiftRight]
    exact Nat.shiftRight_eq_div_pow _ _
  have hhigh : ((firstByte src).toUInt16 <<< 4).toNat = (firstByte src).toNat <<< 4 := by
    rw [UInt16.toNat_shiftLeft, UInt8.toNat_toUInt16, h4, Nat.shiftLeft_eq]
    omega
  calc (tval src).toNat
      = (secondByte src).toNat / 16 ||| (firstByte src).toNat <<< 4 := by
        rw [tval, UInt16.toNat_or, hhigh, hlow, Nat.or_comm]
    -- the two parts have no bit in common, so the `or` is a sum
    _ = (firstByte src).toNat * 16 + (secondByte src).toNat / 16 :=
        BigEndian.or_shiftLeft _ (by norm_num) (by omega)

theorem tval_lt : (tval src).toNat < 4096 := by
  have hfirst := (firstByte src).toNat_lt
  have hsecond := (secondByte src).toNat_lt
  rw [tval_toNat]
  omega

/-- The argument of `SKBV` is the first byte again. -/
theorem tval_div : (tval src / 16).toUInt64 = (firstByte src).toUInt64 := by
  have hsecond := (secondByte src).toNat_lt
  have h16 : (16 : UInt16).toNat = 16 := rfl
  -- the part of the second byte is below 16, and the division drops it
  apply UInt64.toNat_inj.mp
  rw [UInt16.toNat_toUInt64, UInt8.toNat_toUInt64, UInt16.toNat_div, h16, tval_toNat]
  omega

end SMCKBrdBLightValue

namespace System

variable {s : System} {dev : ACPIDevice}

/-- What a write records. -/
def skbvEffects (s : System) (dev : ACPIDevice) (src : Vector UInt8 2) : List Effect :=
  if s.driver.hasKeyboardBacklight then
    [.evaluateObject dev "SKBV" [.number (firstByte src).toUInt64]]
  else []

/-- **A write** stores its two bytes and records the call. Nothing else changes. -/
theorem step_writeLKSB (hdev : s.driver.atkDevice = some dev) (env : Env) (src : Vector UInt8 2) :
    s.step (.writeLKSB env src)
      = { s with lksb := src, driver := s.driver.record (s.skbvEffects dev src) } := by
  have heffect : ∀ args, s.driver.objectEffect .atkDevice "SKBV" args
      = .evaluateObject dev "SKBV" args := by
    intro args
    rw [Driver.objectEffect, Driver.device, hdev]
  -- the message goes straight to `SKBV`, if the machine has it
  rw [step, SMCKBrdBLightValue.update, Driver.message, skbvEffects]
  split
  · dsimp only
    rw [Driver.evaluateObject_driver, heffect, SMCKBrdBLightValue.tval_div]
    rfl
  · rw [Driver.record_nil]

/-- **A notification** calls no `SKBV`. -/
theorem skbvCalls_notification (env : Env) (event : UInt32) (d : Driver) :
    skbvCalls (d.message env (.deviceNotification event)).2.log = skbvCalls d.log := by
  have hother : ∀ e, (∀ dev method args, e ≠ .evaluateObject dev method args) →
      skbvCall e = none := by
    intro e he
    cases e with
    | evaluateObject dev method args => exact absurd rfl (he dev method args)
    | _ => rfl
  -- a notification evaluates integers, posts and calls consumers
  refine Driver.Grows.filterMap_eq (f := skbvCall) ?_
  refine Driver.notification_grows ?_ env event (fun _ => ?_) (fun _ _ => hother _ (by simp))
    fun _ _ => hother _ (by simp)
  · refine ⟨⟨?_, ?_⟩, ?_, ?_⟩ <;> intros <;> exact hother _ (by simp)
  · rw [Driver.integerEffect]
    split <;> exact hother _ (by simp)

/-- The backlight keys post reports, where there is a backlight. -/
theorem backlightKey_grows (env : Env) {code : Int32} (hcode : code = 0xC4 ∨ code = 0xC5)
    (d : Driver) : d.Grows IsReport (d.handleMessage env code) := by
  have hreport : Driver.ReportEffects IsReport :=
    ⟨fun _ _ _ => Or.inr ⟨_, _, _, rfl⟩, fun _ _ => Or.inl ⟨_, _, rfl⟩⟩
  have hup : d.handleMessage env 0xC4 = if d.hasKeyboardBacklight then
      d.dispatchTCReport env kHIDUsage_AV_TopCase_IlluminationUp else d := rfl
  have hdown : d.handleMessage env 0xC5 = if d.hasKeyboardBacklight then
      d.dispatchTCReport env kHIDUsage_AV_TopCase_IlluminationDown else d := rfl
  rcases hcode with rfl | rfl
  · rw [hup]
    split
    · exact Driver.dispatchReport_grows hreport env _ _ _ d
    · exact .refl d
  · rw [hdown]
    split
    · exact Driver.dispatchReport_grows hreport env _ _ _ d
    · exact .refl d

/-! ### Whole runs -/

/-- What a run leaves alone: the device, and whether it has a backlight. -/
theorem backlightStep_device (s : System) (e : BacklightEvent) :
    (s.backlightStep e).driver.atkDevice = s.driver.atkDevice ∧
      (s.backlightStep e).driver.hasKeyboardBacklight = s.driver.hasKeyboardBacklight := by
  have hframe : Driver.HotkeyFrame fun d => (d.atkDevice, d.hasKeyboardBacklight) := by
    constructor <;> intros <;> rfl
  cases e with
  | write env src => exact Prod.mk.inj (Driver.message_frame hframe env _ s.driver)
  | notification env event => exact Prod.mk.inj (Driver.message_frame hframe env _ s.driver)

theorem run_device (s : System) (es : List BacklightEvent) :
    (run backlightStep s es).driver.atkDevice = s.driver.atkDevice ∧
      (run backlightStep s es).driver.hasKeyboardBacklight = s.driver.hasKeyboardBacklight := by
  induction es generalizing s with
  | nil => exact ⟨rfl, rfl⟩
  | cons e es ih =>
    obtain ⟨hdevice, hbacklight⟩ := ih (s.backlightStep e)
    obtain ⟨hdevice', hbacklight'⟩ := s.backlightStep_device e
    exact ⟨hdevice.trans hdevice', hbacklight.trans hbacklight'⟩

/-- The calls that a list of writes stands for. -/
def callsOf (s : System) (dev : ACPIDevice) (srcs : List (Vector UInt8 2)) :
    List (ACPIDevice × List ACPIArg) :=
  if s.driver.hasKeyboardBacklight then
    srcs.map fun src => (dev, [.number (firstByte src).toUInt64])
  else []

theorem callsOf_append (s : System) (dev : ACPIDevice) (srcs srcs' : List (Vector UInt8 2)) :
    s.callsOf dev (srcs ++ srcs') = s.callsOf dev srcs ++ s.callsOf dev srcs' := by
  unfold callsOf
  split
  · exact List.map_append
  · rfl

/-- **Step lemma**: the calls of one event. -/
theorem skbvCalls_step (hdev : s.driver.atkDevice = some dev) (e : BacklightEvent) :
    skbvCalls (s.backlightStep e).driver.log
      = skbvCalls s.driver.log ++ s.callsOf dev (BacklightEvent.writes [e]) := by
  cases e with
  | write env src =>
    have hlog : (s.backlightStep (.write env src)).driver.log
        = s.driver.log ++ s.skbvEffects dev src := by
      rw [backlightStep, BacklightEvent.toOp, step_writeLKSB hdev]
      rfl
    rw [hlog, skbvCalls_append, skbvEffects, callsOf]
    split <;> rfl
  | notification env event =>
    have hnone : s.callsOf dev (BacklightEvent.writes [.notification env event]) = [] := by
      unfold callsOf
      split <;> rfl
    rw [hnone, List.append_nil]
    exact skbvCalls_notification env event s.driver

/-- **Run lemma**: the calls of a run are those of its writes. -/
theorem skbvCalls_run (hdev : s.driver.atkDevice = some dev) (es : List BacklightEvent) :
    skbvCalls (run backlightStep s es).driver.log
      = skbvCalls s.driver.log ++ s.callsOf dev (BacklightEvent.writes es) := by
  induction es generalizing s with
  | nil =>
    have hnone : s.callsOf dev (BacklightEvent.writes []) = [] := by
      unfold callsOf
      split <;> rfl
    rw [hnone, List.append_nil, run_nil]
  | cons e es ih =>
    obtain ⟨hdevice, hbacklight⟩ := s.backlightStep_device e
    -- no event makes or takes away the backlight
    have hcalls : ∀ srcs, (s.backlightStep e).callsOf dev srcs = s.callsOf dev srcs := by
      intro srcs
      rw [callsOf, callsOf, hbacklight]
    have hwrites : BacklightEvent.writes (e :: es)
        = BacklightEvent.writes [e] ++ BacklightEvent.writes es :=
      List.filterMap_append (l := [e])
    calc skbvCalls (run backlightStep s (e :: es)).driver.log
        = skbvCalls (s.backlightStep e).driver.log
            ++ (s.backlightStep e).callsOf dev (BacklightEvent.writes es) := by
          rw [run_cons, ih (hdevice.trans hdev)]
      _ = skbvCalls s.driver.log ++ (s.callsOf dev (BacklightEvent.writes [e])
            ++ s.callsOf dev (BacklightEvent.writes es)) := by
          rw [hcalls, skbvCalls_step hdev, List.append_assoc]
      _ = skbvCalls s.driver.log ++ s.callsOf dev (BacklightEvent.writes (e :: es)) := by
          rw [← callsOf_append, ← hwrites]

/-- **Run lemma**: the data of the key is what was written last. -/
theorem lksb_run (s : System) (es : List BacklightEvent) :
    (run backlightStep s es).lksb = (BacklightEvent.writes es).getLast?.getD s.lksb := by
  induction es generalizing s with
  | nil => rfl
  | cons e es ih =>
    rw [run_cons, ih]
    cases e with
    | notification env event => rfl
    | write env src =>
      have hwrites : BacklightEvent.writes (.write env src :: es)
          = src :: BacklightEvent.writes es := rfl
      rw [hwrites, List.getLast?_cons, Option.getD_some]
      rfl

/-- **Theorem.** Over every run of writes of `LKSB` and notifications, the calls of `SKBV`
are one for each write, in order, with the first byte written, where the machine has a
backlight, and none elsewhere. After each write the key holds its two bytes, and nothing
else of the driver has changed but its history. The level sent has twelve bits. The
backlight keys record nothing but reports. -/
theorem backlight_one_to_one (hdev : s.driver.atkDevice = some dev) (es : List BacklightEvent) :
    skbvCalls (run backlightStep s es).driver.log
        = skbvCalls s.driver.log ++
          (if s.driver.hasKeyboardBacklight then
            (BacklightEvent.writes es).map fun src => (dev, [.number (firstByte src).toUInt64])
          else []) ∧
      (run backlightStep s es).lksb = (BacklightEvent.writes es).getLast?.getD s.lksb ∧
      (∀ env src, (run backlightStep s es).backlightStep (.write env src)
        = { run backlightStep s es with
            lksb := src
            driver := (run backlightStep s es).driver.record
              ((run backlightStep s es).skbvEffects dev src) }) ∧
      (∀ src, (SMCKBrdBLightValue.tval src).toNat
          = (firstByte src).toNat * 16 + (secondByte src).toNat / 16 ∧
        (SMCKBrdBLightValue.tval src).toNat < 4096) ∧
      ∀ env event, ∀ d : Driver, d.eventCode env event = 0xC4 ∨ d.eventCode env event = 0xC5 →
        (d.wedEvaluated env event).Grows IsReport
          (d.message env (.deviceNotification event)).2 := by
  refine ⟨skbvCalls_run hdev es, lksb_run s es, fun env src => ?_, fun src =>
    ⟨SMCKBrdBLightValue.tval_toNat src, SMCKBrdBLightValue.tval_lt src⟩,
    fun env event d hcode => ?_⟩
  -- the device is the one the run began with
  · exact step_writeLKSB ((run_device s es).1.trans hdev) env src
  · rw [Driver.message_deviceNotification]
    exact backlightKey_grows env hcode _

/-- Two levels, with the key that makes it brighter in between, whose code is the event. -/
theorem backlight_one_to_one_sample :
    skbvCalls (run backlightStep
        { driver :=
            { atkDevice := some 0, hasKeyboardBacklight := true, directACPImessaging := true } }
        [.write .unresponsive #v[0x12, 0xF0], .notification .unresponsive 0xC4,
          .write .unresponsive #v[0xFF, 0xB0]]).driver.log
      = [(0, [.number 0x12]), (0, [.number 0xFF])] :=
  (backlight_one_to_one rfl [.write .unresponsive #v[0x12, 0xF0],
    .notification .unresponsive 0xC4, .write .unresponsive #v[0xFF, 0xB0]]).1

end System

end AsusSMC
