import AsusSMC.Model.Plugin
import AsusSMC.Model.System

/-!
# The sensor board

What the sensors are for, without the driver: a light sensor with a switch, a fan, and a
clock that asks both. A client of the SMC reads what the last tick has found, the light in
the fields that it has not forced.

This is a statement of purpose, not of the source: that a reading is missing is an
`Option` here, and the timer is a flag. `System.board` is what a running driver looks like
in these terms.
-/

namespace AsusSMC

/-- The light value the driver stores, where `0xFFFFFFFF` stands for none. -/
def lightOf (lux : UInt32) : Option UInt32 := if lux = 0xFFFFFFFF then none else some lux

@[ext] structure SensorBoard where
  /-- There is a light sensor. -/
  hasLight : Bool
  lightOn : Bool
  light : Option UInt32
  fan : UInt16
  ticking : Bool
  /-- The fields of the light value that a client has forced. -/
  forced : UInt8
  /-- The light value as a client has last seen or written it. -/
  shown : SMCALSValue.Value
  /-- How often the SMC has been told that the light has changed. -/
  interrupts : ℕ

inductive SensorEvent
  /-- The clock ticks, when the sensors have these readings. -/
  | tick (light : Option UInt32) (fan : UInt16)
  | switchLight
  /-- The board is connected to the SMC: its clock is replaced. -/
  | connect (ticks : Bool)
  | force (bits : UInt8)
  | writeLight (value : SMCALSValue.Value)
  | readLight
  | readFan

/-- What a client reads. -/
inductive Reading
  | light (value : SMCALSValue.Value)
  | fan (word : UInt16)
  deriving DecidableEq, Repr

namespace SensorBoard

/-- The light value that a client is shown. -/
def display (b : SensorBoard) : SMCALSValue.Value :=
  match b.light with
  | none => { b.shown with valid := 0 }
  | some lux =>
    { valid := 1
      highGain := if b.forced &&& SMCALSValue.kALSForceHighGain = 0 then 1 else b.shown.highGain
      chan0 :=
        if b.forced &&& SMCALSValue.kALSForceChan = 0 then swapHostToBigInt16 lux.toUInt16
        else b.shown.chan0
      chan1 := b.shown.chan1
      roomLux :=
        if b.forced &&& SMCALSValue.kALSForceLux = 0 then swapHostToBigInt32 (lux <<< 14)
        else b.shown.roomLux }

/-- A tick. The clock of a board without light sensor stops. -/
def tick (b : SensorBoard) (light : Option UInt32) (fan : UInt16) : SensorBoard :=
  if !b.ticking then b
  else if b.hasLight then
    -- a sensor that is switched off reads a light of 150
    { b with light := if b.lightOn then light else some 150, fan := fan,
             interrupts := b.interrupts + 1 }
  else { b with fan := fan, ticking := false }

def step (b : SensorBoard) : SensorEvent → SensorBoard
  | .tick light fan => b.tick light fan
  | .switchLight => { b with lightOn := !b.lightOn }
  | .connect ticks => { b with ticking := ticks }
  | .force bits => { b with forced := bits }
  | .writeLight value => { b with shown := value }
  | .readLight => { b with shown := b.display }
  | .readFan => b

/-- What an event shows a client. -/
def shows (b : SensorBoard) : SensorEvent → List Reading
  | .readLight => [.light b.display]
  | .readFan => [.fan (swapHostToBigInt16 (b.fan <<< 2))]
  | _ => []

end SensorBoard

/-- A driver and its keys, as a board. -/
def System.board (s : System) : SensorBoard where
  hasLight := s.driver.alsDevice.isSome
  lightOn := s.driver.isALSEnabled
  light := lightOf s.driver.currentLux
  fan := s.driver.currentFanSpeed
  ticking := s.driver.armed
  forced := firstByte s.driver.forceBits
  shown := s.alv0
  interrupts := s.driver.log.count .postInterrupt

end AsusSMC
