import AsusSMC.Framework.ReportDescriptor
import AsusSMC.Model.System
import AsusSMC.Model.VirtualAppleKeyboard

/-!
# The console

What the hotkeys are for, without the driver: a keyboard with a light sensor switch and a
panel switch. A press of a key (`Press`) is tapped to the host as a usage, sent to the
daemon as a message, or turns one of the switches. The panel switch remembers how bright
the panel was, and taps its way back.

This is a statement of purpose, not of the source: `Driver` posts reports and keeps key
arrays, counters and a path of the registry, none of which are here. The other half of
the module reads the driver in these terms: the press that an operation is
(`System.press`), what a host makes of the reports posted (`hostOf`), and the messages
sent (`kevMsgs`).
-/

namespace AsusSMC

open ReportDescriptor

/-! ### The keys -/

inductive Hotkey
  | volumeUp
  | volumeDown
  | mute
  | previousTrack
  | nextTrack
  | playOrPause
  | videoMirror
  | backlightUp
  | backlightDown
  | brightnessUp
  | brightnessDown
  | panel
  | touchpad
  | lightSensor
  | sleep
  | airplaneMode
  deriving DecidableEq, Repr

/-- The key a code stands for. -/
def Hotkey.ofCode (code : Int32) : Option Hotkey :=
  if code = 0x30 then some volumeUp
  else if code = 0x31 then some volumeDown
  else if code = 0x32 then some mute
  else if code = 0x40 ∨ code = 0x8A then some previousTrack
  else if code = 0x41 ∨ code = 0x82 then some nextTrack
  else if code = 0x45 ∨ code = 0x5C then some playOrPause
  else if code = 0x33 ∨ code = 0x34 ∨ code = 0x35 then some panel
  else if code = 0x61 then some videoMirror
  else if code = 0x6B then some touchpad
  else if code = 0x5E then some sleep
  else if code = 0x7A then some lightSensor
  else if code = 0x7D then some airplaneMode
  else if code = 0xC4 then some backlightUp
  else if code = 0xC5 then some backlightDown
  else if 0x10 ≤ code ∧ code ≤ 0x1F then some brightnessUp
  else if 0x20 ≤ code ∧ code ≤ 0x2F then some brightnessDown
  else none

/-- The pages of the two reports. -/
def kHIDPage_Consumer : ℕ := 0x0c
def kHIDPage_AppleVendorTopCase : ℕ := 0x00ff

/-- A usage of the consumer page. -/
def consumerUsage (code : Int32) : Usage := ⟨kHIDPage_Consumer, code.toInt.toNat⟩

/-- A usage of the top case page. -/
def topCaseUsage (code : Int32) : Usage := ⟨kHIDPage_AppleVendorTopCase, code.toInt.toNat⟩

/-- The usage of a key that is only tapped. -/
def Hotkey.tapped (u : ConsumerUsages) : Hotkey → Option Usage
  | volumeUp => some (consumerUsage u.kHIDUsage_Csmr_VolumeIncrement)
  | volumeDown => some (consumerUsage u.kHIDUsage_Csmr_VolumeDecrement)
  | mute => some (consumerUsage u.kHIDUsage_Csmr_Mute)
  | previousTrack => some (consumerUsage u.kHIDUsage_Csmr_ScanPreviousTrack)
  | nextTrack => some (consumerUsage u.kHIDUsage_Csmr_ScanNextTrack)
  | playOrPause => some (consumerUsage u.kHIDUsage_Csmr_PlayOrPause)
  | videoMirror => some (topCaseUsage kHIDUsage_AV_TopCase_VideoMirror)
  | backlightUp => some (topCaseUsage kHIDUsage_AV_TopCase_IlluminationUp)
  | backlightDown => some (topCaseUsage kHIDUsage_AV_TopCase_IlluminationDown)
  | brightnessUp => some (topCaseUsage kHIDUsage_AV_TopCase_BrightnessUp)
  | brightnessDown => some (topCaseUsage kHIDUsage_AV_TopCase_BrightnessDown)
  | _ => none

/-- The two keys of a machine with a keyboard backlight. -/
def Hotkey.NeedsBacklight (key : Hotkey) : Prop := key = backlightUp ∨ key = backlightDown

instance : DecidablePred Hotkey.NeedsBacklight := fun _ => inferInstanceAs (Decidable (_ ∨ _))

/-! ### The machine -/

/-- A key is pressed. -/
structure Press where
  usages : ConsumerUsages
  code : Int32
  /-- The brightness of the panel in steps, where it can be read. -/
  level : Option UInt32

/-- What the console does. -/
inductive ConsoleAction
  | tap (usage : Usage) (times : ℕ)
  | message (type : Int32)
  deriving DecidableEq, Repr

structure Console where
  lightSensor : Bool := true
  panelOn : Bool := true
  level : UInt32 := 16
  actions : List ConsoleAction := []

namespace Console

def act (c : Console) (a : ConsoleAction) : Console := { c with actions := c.actions ++ [a] }

/-- The panel switch: off by more steps than there are, and on by as many as were seen. -/
def switchPanel (c : Console) (level : Option UInt32) : Console :=
  if c.panelOn then
    { c with
      panelOn := false
      level := level.getD c.level
      actions := c.actions ++ [.tap (topCaseUsage kHIDUsage_AV_TopCase_BrightnessDown) 16] }
  else
    { c with
      panelOn := true
      actions := c.actions ++
        [.tap (topCaseUsage kHIDUsage_AV_TopCase_BrightnessUp) c.level.toNat] }

/-- A key that taps a usage. The two of the backlight do nothing without one. -/
def tap (backlight : Bool) (c : Console) (usages : ConsumerUsages) (key : Hotkey) : Console :=
  match key.tapped usages with
  | none => c
  | some usage => if key.NeedsBacklight ∧ backlight = false then c else c.act (.tap usage 1)

/-- What a key does. -/
def perform (backlight : Bool) (c : Console) (p : Press) (key : Hotkey) : Console :=
  match key with
  | .panel => c.switchPanel p.level
  | .lightSensor => { c with lightSensor := !c.lightSensor }
  | .sleep => c.act (.message kDaemonSleep)
  | .airplaneMode => c.act (.message kDaemonAirplaneMode)
  | key => c.tap backlight p.usages key

/-- A press. -/
def press (backlight : Bool) (c : Console) (p : Press) : Console :=
  match Hotkey.ofCode p.code with
  | none => c
  | some key => c.perform backlight p key

end Console

namespace ConsoleAction

/-- The key events of an action: down and up, as often as it says. -/
def keyEvents : ConsoleAction → List KeyEvent
  | tap usage times => (List.replicate times [.down usage, .up usage]).flatten
  | message _ => []

/-- The type of the message an action sends. -/
def messageType : ConsoleAction → Option Int32
  | tap _ _ => none
  | message type => some type

end ConsoleAction

/-! ### The driver in these terms -/

/-- The fields of the keyboard's reports. -/
def keyboardFields : List Field := (fields VirtualAppleKeyboard.newReportDescriptor).getD []

/-- What a host has made of the reports posted, had it got them all. -/
def hostOf (es : List Effect) : Host :=
  ((posted es).map Report.toBytes).foldl (Host.receive keyboardFields) {}

/-- The messages handed to `kev_msg_post`, in order. -/
def kevMsgs (es : List Effect) : List KevMsg :=
  es.filterMap fun | .kevMsgPost msg _ => some msg | _ => none

namespace Driver

/-- The brightness that a switch of the panel reads, in steps, if it finds it. -/
def panelReading (env : Env) (d : Driver) : Option UInt32 :=
  if (d.findBacklightEntry env).1 then
    ((env.fromPathAgain (d.findBacklightEntry env).2.backlightEntry).bind brightnessValue).map
      fun v => v.toUInt32 / 64
  else none

end Driver

namespace System

/-- The press that an operation is, if it is one. -/
def press (s : System) : Op → List Press
  | .message env (.deviceNotification event) =>
    [⟨env.usages, s.driver.eventCode env event, s.driver.panelReading env⟩]
  | _ => []

end System

end AsusSMC
