import AsusSMC.Model.KernEventServer

/-!
# The daemon

`AsusSMCDaemon/main.m`: the filter `main` installs on the system socket, its
receive loop, and the actions of the loop. Between the poster and the daemon
stands the kernel, which turns a `kev_msg` into the memory image of a
`kern_event_msg` (`KevMsg.wire`), drops what does not pass the filter, and cuts
what does not fit the receiver's buffer.

The calls of the actions go to frameworks of the system; they are recorded.
`airplaneModeEnabled` and the two states saved with it are the daemon's own.
-/

namespace AsusSMC

/-! ### The kernel -/

/-- `KEV_MSG_HEADER_SIZE`: the six words before `event_data`. -/
def KEV_MSG_HEADER_SIZE : ℕ := 24

namespace KevMsg

/-- The bytes behind the header. -/
def payload (m : KevMsg) : List UInt8 := m.dv.flatten

/-- The words of the header before `event_code`; `id` is the kernel's serial
number of the event. -/
def header (id : UInt32) (m : KevMsg) : List UInt8 :=
  LittleEndian.ofWord (UInt32.ofNat (KEV_MSG_HEADER_SIZE + m.payload.length))
    ++ LittleEndian.ofWord m.vendorCode ++ LittleEndian.ofWord m.kevClass
    ++ LittleEndian.ofWord m.kevSubclass ++ LittleEndian.ofWord id

/-- `struct kern_event_msg`, as the kernel delivers it. -/
def wire (id : UInt32) (m : KevMsg) : List UInt8 :=
  m.header id ++ (LittleEndian.ofWord m.eventCode ++ m.payload)

end KevMsg

/-- `struct kev_request`. -/
structure KevRequest where
  vendorCode : UInt32 := 0
  kevClass : UInt32 := 0
  kevSubclass : UInt32 := 0
  deriving DecidableEq, Repr

/-- One field of a filter; zero means any. -/
def filterField (wanted found : UInt32) : Bool := wanted == 0 || wanted == found

/-- The events a filter lets through. -/
def KevRequest.passes (req : KevRequest) (m : KevMsg) : Bool :=
  filterField req.vendorCode m.vendorCode && filterField req.kevClass m.kevClass
    && filterField req.kevSubclass m.kevSubclass

/-- `recv` into a buffer of `size` bytes: the rest of a longer event is lost. -/
def recv (size : ℕ) (event : List UInt8) : List UInt8 := event.take size

/-! ### `main` -/

def AsusSMCEventCode : UInt32 := 0x8102

-- the daemon's own copy of the driver's constants
def Daemon.kDaemonKeyboardBacklight : Int32 := 1
def Daemon.kDaemonAirplaneMode : Int32 := 2
def Daemon.kDaemonSleep : Int32 := 3

structure AsusSMCMessage where
  type : Int32
  x : Int32
  y : Int32
  deriving DecidableEq, Repr

namespace AsusSMCMessage

/-- `sizeof(struct AsusSMCMessage)`. -/
def size : ℕ := 12

/-- The cast of `event_data`. -/
def ofBytes (bs : List UInt8) : AsusSMCMessage :=
  ⟨LittleEndian.toInt bs, LittleEndian.toInt (bs.drop 4), LittleEndian.toInt (bs.drop 8)⟩

end AsusSMCMessage

/-- The functions the loop calls. -/
inductive DaemonAction
  | showKBoardBLightStatus (level max : Int32)
  | toggleAirplaneMode
  | goToSleep
  deriving DecidableEq, Repr

/-- The `switch` of the loop. -/
def AsusSMCMessage.action (m : AsusSMCMessage) : Option DaemonAction :=
  if m.type = Daemon.kDaemonKeyboardBacklight then some (.showKBoardBLightStatus m.x m.y)
  else if m.type = Daemon.kDaemonAirplaneMode then some .toggleAirplaneMode
  else if m.type = Daemon.kDaemonSleep then some .goToSleep
  else none

/-- The images the daemon shows. -/
inductive Graphic
  | keyboardBacklightMeter
  | keyboardBacklightDisabledMeter
  | sleep
  deriving DecidableEq, Repr

/-- The calls that leave the daemon. -/
inductive DaemonCall
  /-- `filled` is the quotient of the two numbers, `0` where there are none. -/
  | showBezelServices (image : Graphic) (filled : Option (Int32 × Int32))
  | showOSD (image : Graphic) (filled total : Int32)
  | showImage (image : Graphic)
  | sendSleepEvent
  | setPower (on : Bool)
  | setControllerPowerState (state : Int32)
  deriving DecidableEq, Repr

/-- What the radios answer while one event is handled. -/
structure Radios where
  powerOn : Bool
  controllerPowerState : Int32

/-- The daemon's globals, and a history of what it has done. -/
structure Daemon where
  /-- `_BSDoGraphicWithMeterAndTimeout != NULL`. -/
  bezelServices : Bool := false
  airplaneModeEnabled : Bool := false
  lastWifiState : Bool := false
  lastBluetoothState : Int32 := 0
  /-- The functions the loop has called. -/
  performed : List DaemonAction := []
  /-- The calls these functions have made. -/
  calls : List DaemonCall := []

namespace Daemon

/-- The filter `main` installs. The vendor code it has looked up is not part of
it. -/
def kevRequest (_vendorCode : Option UInt32) : KevRequest :=
  { kevClass := kevAny, kevSubclass := kevAny }

def call (d : Daemon) (c : DaemonCall) : Daemon := { d with calls := d.calls ++ [c] }

def showKBoardBLightStatus (level max : Int32) (d : Daemon) : Daemon :=
  if d.bezelServices then
    if level ≠ 0 then d.call (.showBezelServices .keyboardBacklightMeter (some (level, max)))
    else d.call (.showBezelServices .keyboardBacklightDisabledMeter none)
  else
    if level ≠ 0 then d.call (.showOSD .keyboardBacklightMeter level max)
    else d.call (.showOSD .keyboardBacklightDisabledMeter level max)

def goToSleep (d : Daemon) : Daemon :=
  if d.bezelServices then d.call .sendSleepEvent else d.call (.showImage .sleep)

def toggleAirplaneMode (radios : Radios) (d : Daemon) : Daemon :=
  -- the flag is negated first, so it tells the mode that is being entered
  let d := { d with airplaneModeEnabled := !d.airplaneModeEnabled }
  if d.airplaneModeEnabled then
    let d :=
      { d with lastWifiState := radios.powerOn, lastBluetoothState := radios.controllerPowerState }
    (d.call (.setPower false)).call (.setControllerPowerState 0)
  else
    (d.call (.setPower d.lastWifiState)).call (.setControllerPowerState d.lastBluetoothState)

/-- One case of the `switch`. -/
def perform (radios : Radios) (a : DaemonAction) (d : Daemon) : Daemon :=
  let d := { d with performed := d.performed ++ [a] }
  match a with
  | .showKBoardBLightStatus level max => d.showKBoardBLightStatus level max
  | .toggleAirplaneMode => d.toggleAirplaneMode radios
  | .goToSleep => d.goToSleep

/-- `sizeof(kextMsg)`. -/
def bufferSize : ℕ := KEV_MSG_HEADER_SIZE + AsusSMCMessage.size

/-- The body of the loop, for the bytes `recv` has returned. -/
def receive (radios : Radios) (kextMsg : List UInt8) (d : Daemon) : Daemon :=
  -- a short event is dropped, a longer one was cut to this length
  if kextMsg.length ≠ bufferSize then d
  else if AsusSMCEventCode ≠ LittleEndian.toWord (kextMsg.drop 20) then d
  else
    match (AsusSMCMessage.ofBytes (kextMsg.drop KEV_MSG_HEADER_SIZE)).action with
    | some a => d.perform radios a
    | none => d

/-! ### What the loop does with an event -/

@[simp] theorem perform_performed (radios : Radios) (a : DaemonAction) (d : Daemon) :
    (d.perform radios a).performed = d.performed ++ [a] := by
  cases a with
  | showKBoardBLightStatus level max =>
    simp only [perform, showKBoardBLightStatus]
    split <;> split <;> rfl
  | toggleAirplaneMode =>
    simp only [perform, toggleAirplaneMode]
    split <;> rfl
  | goToSleep =>
    simp only [perform, goToSleep]
    split <;> rfl

end Daemon

namespace KevMsg

@[simp] theorem length_header (id : UInt32) (m : KevMsg) : (m.header id).length = 20 := by
  simp [header]

theorem length_wire (id : UInt32) (m : KevMsg) :
    (m.wire id).length = KEV_MSG_HEADER_SIZE + m.payload.length := by
  simp [wire, KEV_MSG_HEADER_SIZE]
  omega

/-- The event code is the sixth word. -/
theorem drop_wire (id : UInt32) (m : KevMsg) :
    (m.wire id).drop 20 = LittleEndian.ofWord m.eventCode ++ m.payload :=
  List.drop_left' (length_header id m)

/-- The payload begins right after the header. -/
theorem drop_wire_payload (id : UInt32) (m : KevMsg) :
    (m.wire id).drop KEV_MSG_HEADER_SIZE = m.payload := by
  have hsplit : (m.wire id).drop KEV_MSG_HEADER_SIZE = ((m.wire id).drop 20).drop 4 := by
    rw [List.drop_drop]
    rfl
  rw [hsplit, drop_wire, LittleEndian.drop_ofWord_append]

/-- The daemon acts on this event: the code is right, the payload holds a
message, and the message is of a known type. -/
def action (m : KevMsg) : Option DaemonAction :=
  if m.eventCode = AsusSMCEventCode ∧ AsusSMCMessage.size ≤ m.payload.length then
    (AsusSMCMessage.ofBytes m.payload).action
  else none

end KevMsg

/-- What follows a message in the buffer is not read. -/
theorem AsusSMCMessage.ofBytes_take (bs : List UInt8) : ofBytes (bs.take size) = ofBytes bs := by
  simp only [ofBytes, size, List.drop_take]
  rw [LittleEndian.toInt_take (by decide), LittleEndian.toInt_take (by decide),
    LittleEndian.toInt_take (by decide)]

/-- **One event.** -/
theorem Daemon.receive_recv_wire (radios : Radios) (id : UInt32) (m : KevMsg) (d : Daemon) :
    d.receive radios (recv bufferSize (m.wire id))
      = match m.action with
        | some a => d.perform radios a
        | none => d := by
  have hcode : LittleEndian.toWord ((recv bufferSize (m.wire id)).drop 20) = m.eventCode := by
    rw [recv, List.drop_take, KevMsg.drop_wire, LittleEndian.toWord_take (by decide),
      LittleEndian.toWord_ofWord_append]
  have hmessage : AsusSMCMessage.ofBytes ((recv bufferSize (m.wire id)).drop KEV_MSG_HEADER_SIZE)
      = AsusSMCMessage.ofBytes m.payload := by
    rw [recv, List.drop_take, KevMsg.drop_wire_payload, ← AsusSMCMessage.ofBytes_take m.payload]
    rfl
  have hlength : (recv bufferSize (m.wire id)).length = bufferSize ↔
      AsusSMCMessage.size ≤ m.payload.length := by
    rw [recv, List.length_take, KevMsg.length_wire, bufferSize]
    omega
  rw [receive, hcode, hmessage, KevMsg.action]
  by_cases hlong : AsusSMCMessage.size ≤ m.payload.length
  · rw [if_neg (not_not_intro (hlength.mpr hlong))]
    by_cases heq : m.eventCode = AsusSMCEventCode
    · rw [if_neg (not_not_intro heq.symm), if_pos ⟨heq, hlong⟩]
    · rw [if_pos (Ne.symm heq), if_neg fun h => heq h.1]
  · rw [if_pos (fun h => hlong (hlength.mp h)), if_neg fun h => hlong h.2]

/-! ### The two programs agree on the layout -/

namespace KernEventServer

variable (kev : KernEventServer) (type x y : Int32)

theorem payload_sendMessage : (kev.sendMessage type x y).payload
    = LittleEndian.ofInt type ++ (LittleEndian.ofInt x ++ LittleEndian.ofInt y) := by
  simp [KevMsg.payload, sendMessage]

/-- **Round trip**: the daemon's cast undoes the driver's fragments. -/
theorem ofBytes_sendMessage :
    AsusSMCMessage.ofBytes (kev.sendMessage type x y).payload = ⟨type, x, y⟩ := by
  have hskip : ∀ bs : List UInt8, bs.drop 8 = (bs.drop 4).drop 4 := by
    intro bs
    rw [List.drop_drop]
  rw [AsusSMCMessage.ofBytes, hskip, payload_sendMessage, LittleEndian.toInt_ofInt_append,
    LittleEndian.drop_ofInt_append, LittleEndian.toInt_ofInt_append,
    LittleEndian.drop_ofInt_append, LittleEndian.toInt_ofInt]

/-- A message under the right code is acted on as its type says. -/
theorem action_sendMessage (hcode : kev.eventCode = AsusSMCEventCode) :
    (kev.sendMessage type x y).action = AsusSMCMessage.action ⟨type, x, y⟩ := by
  have hlength : AsusSMCMessage.size ≤ (kev.sendMessage type x y).payload.length := by
    rw [payload_sendMessage]
    simp [AsusSMCMessage.size]
  rw [KevMsg.action, if_pos ⟨hcode, hlength⟩, ofBytes_sendMessage]

end KernEventServer

end AsusSMC
