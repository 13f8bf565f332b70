import AsusSMC.Framework.Countdown
import AsusSMC.Model.Driver

/-!
# Hotkeys

`message` and `handleMessage`, and everything a hotkey sets off: reports to the
virtual keyboard, the panel switch with its search for the backlight entry, the
touchpad broadcast, and the kernel events for the daemon.

`dispatchCSMRReport` and `dispatchTCReport` are one loop over two members of
the driver, so they are `dispatchReport` at a `Channel`.
-/

namespace AsusSMC

def NOTIFY_BRIGHTNESS_UP_MIN : Int32 := 0x10
def NOTIFY_BRIGHTNESS_UP_MAX : Int32 := 0x1F
def NOTIFY_BRIGHTNESS_DOWN_MIN : Int32 := 0x20
def NOTIFY_BRIGHTNESS_DOWN_MAX : Int32 := 0x2F

def kDaemonAirplaneMode : Int32 := 2
def kDaemonSleep : Int32 := 3

/-- The two reports the driver keeps. -/
inductive Channel
  | csmr
  | tc
  deriving DecidableEq, Repr

namespace Driver

/-! ### Reports to the virtual keyboard -/

def report (d : Driver) : Channel → Report
  | .csmr => d.csmrreport
  | .tc => d.tcreport

/-- Assign the keys of one of the reports. -/
def setKeys (d : Driver) (ch : Channel) (keys : Keys) : Driver :=
  match ch with
  | .csmr => d.setCsmrreport ⟨d.csmrreport.reportId, keys⟩
  | .tc => d.setTcreport ⟨d.tcreport.reportId, keys⟩

def postKeyboardInputReport (env : Env) (report : Option Report) (reportSize : ℕ) (d : Driver) :
    IOReturn × Driver :=
  match report with
  | none => (.badArgument, d)
  | some r =>
    -- a post without a keyboard or without a buffer is an error, and is not sent
    let result :=
      if reportSize = 0 then .badArgument
      else if d.kbdDevice.isSome && env.hid.withBytes d.log.length then
        env.hid.handleReport d.log.length
      else .error
    (result, d.emit (.post r result))

/-- One pass of a dispatch loop: press, post, release, post. -/
def dispatchPass (env : Env) (ch : Channel) (code : Int32) (d : Driver) : Driver :=
  let d := d.setKeys ch ((d.report ch).keys.insert (keyByte code))
  let d := (d.postKeyboardInputReport env (some (d.report ch)) Report.size).2
  let d := d.setKeys ch ((d.report ch).keys.erase (keyByte code))
  (d.postKeyboardInputReport env (some (d.report ch)) Report.size).2

/-- The two dispatch functions: a debug line, then `while (loop--)` passes. -/
def dispatchReport (env : Env) (ch : Channel) (code loop : Int32) (d : Driver) : Driver :=
  Countdown.countdown (dispatchPass env ch code) loop
    (d.emit (.dispatched (d.report ch).reportId code loop))

def dispatchCSMRReport (env : Env) (code : Int32) (loop : Int32 := 1) (d : Driver) : Driver :=
  dispatchReport env .csmr code loop d

def dispatchTCReport (env : Env) (code : Int32) (loop : Int32 := 1) (d : Driver) : Driver :=
  dispatchReport env .tc code loop d

/-! ### The panel -/

def checkBacklightEntry (env : Env) (d : Driver) : Bool := (env.fromPath d.backlightEntry).isSome

/-- `snprintf(backlightEntry, sizeof(backlightEntry), path)`. -/
def printBacklightEntry (path : String) (d : Driver) : Driver :=
  d.setBacklightEntry (String.ofList (path.toList.take 999))

/-- `char deviceName[5][5]`. -/
def deviceName : List String := ["PEG0", "PEGP", "PEGR", "P0P2", "IXVE"]

/-- The entries tried for one device name. -/
def nvidiaEntries (name : String) : List String :=
  ["IOService:/AppleACPIPlatformExpert/PCI0@0/AppleACPIPCI/" ++ name ++
      "@1/IOPP/GFX0@0/NVDA,Display-A@0/NVDA/display0/AppleBacklightDisplay",
    "IOService:/AppleACPIPlatformExpert/PCI0@0/AppleACPIPCI/" ++ name ++
      "@3/IOPP/GFX0@0/NVDA,Display-A@0/NVDATesla/display0/AppleBacklightDisplay",
    "IOService:/AppleACPIPlatformExpert/PCI0@0/AppleACPIPCI/" ++ name ++
      "@10/IOPP/GFX0@0/NVDA,Display-A@0/NVDATesla/display0/AppleBacklightDisplay",
    "IOService:/AppleACPIPlatformExpert/PCI0@0/AppleACPIPCI/" ++ name ++
      "@1/IOPP/display@0/NVDA,Display-A@0/NVDA/display0/AppleBacklightDisplay",
    "IOService:/AppleACPIPlatformExpert/PCI0@0/AppleACPIPCI/" ++ name ++
      "@3/IOPP/display@0/NVDA,Display-A@0/NVDATesla/display0/AppleBacklightDisplay",
    "IOService:/AppleACPIPlatformExpert/PCI0@0/AppleACPIPCI/" ++ name ++
      "@10/IOPP/display@0/NVDA,Display-A@0/NVDATesla/display0/AppleBacklightDisplay"]

/-- The entries `findBacklightEntry` tries, in its order. -/
def candidateEntries : List String :=
  "IOService:/AppleACPIPlatformExpert/PCI0@0/AppleACPIPCI/IGPU@2/AppleIntelFramebuffer@0/display0/AppleBacklightDisplay" ::
  "IOService:/AppleACPIPlatformExpert/PCI0@0/AppleACPIPCI/GFX0@2/AppleIntelFramebuffer@0/display0/AppleBacklightDisplay" ::
  deviceName.flatMap nvidiaEntries

/-- Print and check one entry after the other, up to the first that exists. -/
def tryEntries (env : Env) : List String → Driver → Bool × Driver
  | [], d => (false, d)
  | path :: rest, d =>
    let d := d.printBacklightEntry path
    if d.checkBacklightEntry env then (true, d) else tryEntries env rest d

def findBacklightEntry (env : Env) (d : Driver) : Bool × Driver :=
  if d.checkBacklightEntry env then (true, d) else tryEntries env candidateEntries d

/-- The value under `IODisplayParameters`, `brightness`, `value` of an entry. -/
def brightnessValue (entry : RegistryEntry) : Option UInt64 :=
  match OSObject.asDictionary (entry "IODisplayParameters") with
  | none => none
  | some ioDisplayParaDict =>
    match OSObject.asDictionary (ioDisplayParaDict "brightness") with
    | none => none
    | some brightnessDict => OSObject.asNumber (brightnessDict "value")

def readPanelBrightnessValue (env : Env) (d : Driver) : Driver :=
  let r := d.findBacklightEntry env
  -- whatever is missing, the level of the last successful read stays
  if !r.1 then r.2
  else
    match (env.fromPathAgain r.2.backlightEntry).bind brightnessValue with
    | none => r.2
    | some v => r.2.setPanelBrightnessLevel (v.toUInt32 / 64)

def displayOff (env : Env) (d : Driver) : Driver :=
  let d :=
    if d.isPanelBackLightOn then
      -- the level is read first, to be tapped up again later
      (d.readPanelBrightnessValue env).dispatchTCReport env kHIDUsage_AV_TopCase_BrightnessDown 16
    else
      d.dispatchTCReport env kHIDUsage_AV_TopCase_BrightnessUp d.panelBrightnessLevel.toInt32
  d.setIsPanelBackLightOn (!d.isPanelBackLightOn)

/-! ### The touchpad -/

/-- `dispatchMessageGated`: `data` is the pointed-to `bool`, which each consumer
may write. -/
def dispatchMessageGated (env : Env) (message : KeyboardMessage) (data : Bool) (d : Driver) :
    Bool × Driver :=
  match d.notificationServices with
  | none => (data, d.emit (.nullCall .notificationServices))
  | some services =>
    ((env.order message).visit services.members).foldl
      (fun r service =>
        (env.consumer service message r.1, r.2.emit (.consumer service message r.1)))
      (data, d)

def dispatchMessage (env : Env) (message : KeyboardMessage) (data : Bool) (d : Driver) :
    Bool × Driver :=
  match d.commandGate with
  | none => (data, d.emit (.nullCall .commandGate))
  | some _ => d.dispatchMessageGated env message data

/-- `dispatchMessage(message, &isTouchpadEnabled)`. -/
def dispatchTouchpad (env : Env) (message : KeyboardMessage) (d : Driver) : Driver :=
  let r := d.dispatchMessage env message d.isTouchpadEnabled
  r.2.setIsTouchpadEnabled r.1

def toggleTouchpad (env : Env) (d : Driver) : Driver :=
  -- the consumers may have changed the touchpad themselves, so they are asked first
  let d := d.dispatchTouchpad env .kKeyboardGetTouchStatus
  let d := d.setIsTouchpadEnabled (!d.isTouchpadEnabled)
  let d := d.dispatchTouchpad env .kKeyboardSetTouchStatus
  if d.isTouchpadEnabled then
    d.setProperty "IsTouchpadEnabled" true
  else
    d.setProperty "IsTouchpadEnabled" false

/-! ### Kernel events -/

/-- `kev.sendMessage(type, x, y)`. -/
def sendMessage (env : Env) (type x y : Int32) (d : Driver) : Bool × Driver :=
  let msg := d.kev.sendMessage type x y
  (env.kevMsgPost msg, d.emit (.kevMsgPost msg (env.kevMsgPost msg)))

-- neither of the two looks at the result
def letSleep (env : Env) (d : Driver) : Driver := (d.sendMessage env kDaemonSleep 0 0).2

def toggleAirplaneMode (env : Env) (d : Driver) : Driver :=
  (d.sendMessage env kDaemonAirplaneMode 0 0).2

/-! ### Messages -/

/-- Case `0x7A` of `handleMessage`: the light sensor key. -/
def toggleALSSensor (d : Driver) : Driver :=
  let d := d.setIsALSEnabled (!d.isALSEnabled)
  d.setProperty "IsALSEnabled" d.isALSEnabled

def handleMessage (env : Env) (code : Int32) (d : Driver) : Driver :=
  match code with
  -- power source changes
  | 0x57 | 0x58 => d
  | 0x30 => d.dispatchCSMRReport env env.usages.kHIDUsage_Csmr_VolumeIncrement
  | 0x31 => d.dispatchCSMRReport env env.usages.kHIDUsage_Csmr_VolumeDecrement
  | 0x32 => d.dispatchCSMRReport env env.usages.kHIDUsage_Csmr_Mute
  | 0x40 | 0x8A => d.dispatchCSMRReport env env.usages.kHIDUsage_Csmr_ScanPreviousTrack
  | 0x41 | 0x82 => d.dispatchCSMRReport env env.usages.kHIDUsage_Csmr_ScanNextTrack
  | 0x45 | 0x5C => d.dispatchCSMRReport env env.usages.kHIDUsage_Csmr_PlayOrPause
  | 0x33 | 0x34 | 0x35 => d.displayOff env
  | 0x61 => d.dispatchTCReport env kHIDUsage_AV_TopCase_VideoMirror
  | 0x6B => d.toggleTouchpad env
  | 0x5E => d.letSleep env
  | 0x7A => d.toggleALSSensor
  | 0x7D => d.toggleAirplaneMode env
  | 0xC6 | 0xC7 => d
  | 0xC5 =>
    if d.hasKeyboardBacklight then d.dispatchTCReport env kHIDUsage_AV_TopCase_IlluminationDown
    else d
  | 0xC4 =>
    if d.hasKeyboardBacklight then d.dispatchTCReport env kHIDUsage_AV_TopCase_IlluminationUp
    else d
  | _ =>
    if NOTIFY_BRIGHTNESS_DOWN_MIN ≤ code ∧ code ≤ NOTIFY_BRIGHTNESS_DOWN_MAX then
      d.dispatchTCReport env kHIDUsage_AV_TopCase_BrightnessDown
    else if NOTIFY_BRIGHTNESS_UP_MIN ≤ code ∧ code ≤ NOTIFY_BRIGHTNESS_UP_MAX then
      d.dispatchTCReport env kHIDUsage_AV_TopCase_BrightnessUp
    else d

end Driver

/-- A message, with its argument read as its type says. -/
inductive Message
  /-- `kIOACPIMessageDeviceNotification`, a `uint32_t *`. -/
  | deviceNotification (event : UInt32)
  /-- `kSetKeyboardBacklightMessage`, a `uint16_t *`. -/
  | setKeyboardBacklight (tval : UInt16)
  | other (type : UInt32)
  deriving DecidableEq, Repr

namespace Driver

def message (env : Env) (m : Message) (d : Driver) : IOReturn × Driver :=
  match m with
  | .deviceNotification event =>
    if d.directACPImessaging then
      (.success, d.handleMessage env event.toInt32)
    else
      -- the status is not tested: without a reply `res` is what it was
      let e := d.evaluateInteger env .atkDevice "_WED" [.number event.toUInt64] env.locals.res
      (.success, e.driver.handleMessage env e.out.toInt32)
  | .setKeyboardBacklight tval =>
    if d.hasKeyboardBacklight then
      let e := d.evaluateObject env .atkDevice "SKBV" [.number (tval / 16).toUInt64] none
      (.success, e.driver)
    else (.success, d)
  | .other _ => (.invalid, d)

/-- The driver handles one device notification: an event, in an environment. -/
def notify (d : Driver) (e : Env × UInt32) : Driver :=
  (d.message e.1 (.deviceNotification e.2)).2

end Driver

end AsusSMC
