import AsusSMC.Framework.SaveRestore
import AsusSMC.Safety.Delivery

/-!
# Airplane mode

The daemon enters airplane mode by asking for both radios to be off, and leaves it by
asking for what they were. The two values are globals of the daemon, and the mode is one
more; nothing ties the three together but `toggleAirplaneMode` itself.

They are one `SaveRestore.State` (`airplaneMode`), so on leaving the mode the radios are
asked to be what they were when it was entered, whatever keys have been pressed meanwhile,
whatever else the daemon has been told, and whoever has switched the radios
(`airplane_mode_restores`). Whether the radios do as they are asked is not known; where
they do (`RadioSetters.Works`), they are off in the mode and afterwards as before.
-/

namespace AsusSMC

open EventSystem TraceRefinement

/-- Both radios off. -/
def Radios.off : Radios := ⟨false, 0⟩

/-- The calls that ask for the radios to be so. -/
def Radios.setCalls (radios : Radios) : List DaemonCall :=
  [.setPower radios.powerOn, .setControllerPowerState radios.controllerPowerState]

namespace RadioSetters

/-- What these calls make of the radios. -/
def setTo (set : RadioSetters) (asked radios : Radios) : Radios :=
  asked.setCalls.foldl set.after radios

/-- Each of the two sets its radio, and leaves the other as it is. -/
structure Works (set : RadioSetters) : Prop where
  setPower : ∀ on radios, set.setPower on radios = { radios with powerOn := on }
  setControllerPowerState : ∀ state radios,
    set.setControllerPowerState state radios = { radios with controllerPowerState := state }

theorem Works.setTo_eq {set : RadioSetters} (h : set.Works) (asked radios : Radios) :
    set.setTo asked radios = asked := by
  simp [setTo, Radios.setCalls, after, h.setPower, h.setControllerPowerState]

/-- Radios that do as they are asked. -/
def obedient : RadioSetters where
  setPower on radios := { radios with powerOn := on }
  setControllerPowerState state radios := { radios with controllerPowerState := state }

end RadioSetters

namespace Machine

variable {found : Option UInt32} {w : Machine} {id : UInt32} {set : RadioSetters}

/-- The daemon takes a message that says airplane mode. -/
def TogglesAirplaneMode (w : Machine) : MachineEvent → Prop
  | .receive _ _ => (w.inFlight.head?.bind KevMsg.action) = some .toggleAirplaneMode
  | _ => False

instance (w : Machine) (e : MachineEvent) : Decidable (w.TogglesAirplaneMode e) := by
  cases e <;> unfold TogglesAirplaneMode <;> infer_instance

/-- What an event is for the radios. -/
def radioEvents (w : Machine) : MachineEvent → List (SaveRestore.Event Radios)
  | .receive id set =>
    if w.TogglesAirplaneMode (.receive id set) then [.toggle set.setTo] else []
  | .switchRadios radios => [.change radios]
  | _ => []

/-- The mode and the values saved with it. -/
def airplaneMode (w : Machine) : SaveRestore.State Radios where
  current := w.radios
  saved :=
    if w.daemon.airplaneModeEnabled then
      some ⟨w.daemon.lastWifiState, w.daemon.lastBluetoothState⟩
    else none

/-- Nothing is saved while the mode is off. -/
theorem saved_eq_none_iff : w.airplaneMode.saved = none ↔ w.daemon.airplaneModeEnabled = false := by
  rw [airplaneMode]
  cases w.daemon.airplaneModeEnabled <;> simp

/-- The other two functions of the daemon leave mode and radios alone. -/
theorem perform_of_not_toggle (set : RadioSetters) (radios radios' : Radios) (d : Daemon)
    {a : DaemonAction} (ha : a ≠ .toggleAirplaneMode) :
    ((d.perform radios a).airplaneModeEnabled, (d.perform radios a).lastWifiState,
        (d.perform radios a).lastBluetoothState)
      = (d.airplaneModeEnabled, d.lastWifiState, d.lastBluetoothState) ∧
    ((d.perform radios a).calls.drop d.calls.length).foldl set.after radios' = radios' := by
  cases a with
  | showKBoardBLightStatus level max =>
    -- it calls BezelServices, which is not about the radios
    simp only [Daemon.perform, Daemon.showKBoardBLightStatus, Daemon.call]
    split <;> split <;> simp [RadioSetters.after]
  | goToSleep =>
    simp only [Daemon.perform, Daemon.goToSleep, Daemon.call]
    split <;> simp [RadioSetters.after]
  | toggleAirplaneMode => exact absurd rfl ha

/-- `toggleAirplaneMode` saves and restores. -/
theorem perform_toggle (radios : Radios) (d : Daemon) :
    (d.perform radios .toggleAirplaneMode).calls
        = d.calls ++ Radios.setCalls
          (if d.airplaneModeEnabled then ⟨d.lastWifiState, d.lastBluetoothState⟩ else .off) ∧
      (d.perform radios .toggleAirplaneMode).airplaneModeEnabled = !d.airplaneModeEnabled ∧
      (d.airplaneModeEnabled = false →
        (d.perform radios .toggleAirplaneMode).lastWifiState = radios.powerOn ∧
        (d.perform radios .toggleAirplaneMode).lastBluetoothState
          = radios.controllerPowerState) := by
  cases hmode : d.airplaneModeEnabled <;>
    simp [Daemon.perform, Daemon.toggleAirplaneMode, Daemon.call, hmode, Radios.setCalls,
      Radios.off]

/-- What the next switch asks for, in terms of the daemon. -/
theorem asked_airplaneMode (w : Machine) :
    w.airplaneMode.asked .off
      = if w.daemon.airplaneModeEnabled then
          ⟨w.daemon.lastWifiState, w.daemon.lastBluetoothState⟩ else .off := by
  rw [SaveRestore.State.asked, airplaneMode]
  cases w.daemon.airplaneModeEnabled <;> rfl

/-- A message that says airplane mode, taken. -/
theorem daemon_of_toggles (h : w.TogglesAirplaneMode (.receive id set)) :
    (w.step found (.receive id set)).daemon = w.daemon.perform w.radios .toggleAirplaneMode := by
  cases hqueue : w.inFlight with
  | nil => simp [TogglesAirplaneMode, hqueue] at h
  | cons msg rest =>
    have hact : msg.action = some .toggleAirplaneMode := by
      simpa [TogglesAirplaneMode, hqueue] using h
    simp only [step, hqueue, Daemon.receive_recv_wire, hact]

/-- It makes the calls that ask for it. -/
theorem calls_of_toggles (h : w.TogglesAirplaneMode (.receive id set)) :
    (w.step found (.receive id set)).daemon.calls
      = w.daemon.calls ++ (w.airplaneMode.asked .off).setCalls := by
  rw [daemon_of_toggles h, (perform_toggle w.radios w.daemon).1, asked_airplaneMode]

/-- **Step lemma.** -/
theorem airplaneMode_step (w : Machine) (e : MachineEvent) :
    (w.step found e).airplaneMode
      = run (SaveRestore.step Radios.off) w.airplaneMode (w.radioEvents e) := by
  cases e with
  | driver e => rfl
  | post msg => rfl
  | switchRadios radios => rfl
  | receive id set =>
    rw [step, radioEvents]
    cases hqueue : w.inFlight with
    | nil => simp [TogglesAirplaneMode, hqueue]
    | cons msg rest =>
      simp only [Daemon.receive_recv_wire]
      cases hact : msg.action with
      | none => simp [TogglesAirplaneMode, hqueue, hact, airplaneMode]
      | some a =>
        by_cases ha : a = .toggleAirplaneMode
        · subst ha
          obtain ⟨hcalls, hmode, hsaved⟩ := perform_toggle w.radios w.daemon
          rw [if_pos (by simp [TogglesAirplaneMode, hqueue, hact]), run_cons, run_nil,
            SaveRestore.step, asked_airplaneMode]
          -- entering or leaving
          cases hon : w.daemon.airplaneModeEnabled with
          | true => simp [airplaneMode, RadioSetters.setTo, hcalls, hmode, hon]
          | false => simp [airplaneMode, RadioSetters.setTo, hcalls, hmode, hon, hsaved]
        · -- what it calls instead does not switch a radio
          obtain ⟨hflags, hradios⟩ := perform_of_not_toggle set w.radios w.radios w.daemon ha
          obtain ⟨hmode, hwifi, hbluetooth⟩ := by simpa using hflags
          rw [if_neg (by simp [TogglesAirplaneMode, hqueue, hact, ha])]
          simp [airplaneMode, hradios, hmode, hwifi, hbluetooth]

/-- **Run lemma.** -/
theorem airplaneMode_run (w : Machine) (es : List MachineEvent) :
    (run (step found) w es).airplaneMode
      = run (SaveRestore.step Radios.off) w.airplaneMode (trace (step found) radioEvents w es) := by
  apply run_refines (fun w a => airplaneMode w = a)
  · rintro w a e rfl
    exact airplaneMode_step w e
  · rfl

theorem radioEvents_of_toggles (h : w.TogglesAirplaneMode (.receive id set)) :
    w.radioEvents (.receive id set) = [.toggle set.setTo] := if_pos h

/-- Until the next such message the mode is not toggled. -/
theorem radioEvents_of_not_toggles {e : MachineEvent} (h : ¬ w.TogglesAirplaneMode e) :
    ∀ a ∈ w.radioEvents e, a.isToggle = false := by
  cases e with
  | receive id set => simp [radioEvents, h]
  | switchRadios radios => simp [radioEvents, SaveRestore.Event.isToggle]
  | _ => simp [radioEvents]

/-- **Airplane mode.** Let the daemon enter airplane mode, then anything happen but a
message that toggles it (keys, other messages, other people's events, switches of the
radios), and then the daemon leave it. On entering it asks for both radios to be off. On
leaving it asks for them to be what they were before, and the mode is off. So they are off
if they do as they are asked on entering, and as before if they do on leaving. -/
theorem airplane_mode_restores (found : Option UInt32) {w : Machine} {id id' : UInt32}
    {set set' : RadioSetters} {mid : List MachineEvent}
    (hoff : w.daemon.airplaneModeEnabled = false)
    (henter : w.TogglesAirplaneMode (.receive id set))
    (hstay : Throughout (step found) (fun w e => ¬ w.TogglesAirplaneMode e)
      (w.step found (.receive id set)) mid)
    (hleave : (run (step found) (w.step found (.receive id set)) mid).TogglesAirplaneMode
      (.receive id' set')) :
    let entered := w.step found (.receive id set)
    let before := run (step found) entered mid
    let left := before.step found (.receive id' set')
    entered.daemon.calls = w.daemon.calls ++ Radios.off.setCalls ∧
      left.daemon.calls = before.daemon.calls ++ w.radios.setCalls ∧
      left.daemon.airplaneModeEnabled = false ∧
      (set.Works → entered.radios = .off) ∧ (set'.Works → left.radios = w.radios) := by
  intro entered before left
  have hsaved : w.airplaneMode.saved = none := saved_eq_none_iff.mpr hoff
  have hasked : w.airplaneMode.asked .off = .off := by
    rw [SaveRestore.State.asked, hsaved]
    rfl
  -- what happens in between is for the radios a number of changes
  let changes := trace (step found) radioEvents entered mid
  have hchanges : ∀ a ∈ changes, a.isToggle = false :=
    forall_mem_trace (hstay.mono fun _ _ h => radioEvents_of_not_toggles h)
  have hentered : entered.airplaneMode
      = run (SaveRestore.step Radios.off) w.airplaneMode [.toggle set.setTo] := by
    rw [← radioEvents_of_toggles henter]
    exact airplaneMode_step w _
  -- so the mode of the machine is one bracket of saving and restoring
  have hbefore : before.airplaneMode
      = run (SaveRestore.step Radios.off) w.airplaneMode (.toggle set.setTo :: changes) := by
    rw [airplaneMode_run, hentered, ← run_append]
    rfl
  have hleft : left.airplaneMode
      = { current := set'.setTo w.radios before.radios } := by
    have hrun : left.airplaneMode = run (SaveRestore.step Radios.off) w.airplaneMode
        (.toggle set.setTo :: changes ++ [.toggle set'.setTo]) := by
      rw [run_append, ← hbefore, ← radioEvents_of_toggles hleave]
      exact airplaneMode_step before _
    rw [hrun, SaveRestore.run_bracket hsaved _ _ hchanges, ← hbefore]
    rfl
  refine ⟨?_, ?_, ?_, fun hworks => ?_, fun hworks => ?_⟩
  · rw [← hasked]
    exact calls_of_toggles henter
  · -- what was saved on entering is asked for on leaving, whatever the changes were
    have hrestored : before.airplaneMode.asked .off = w.radios := by
      rw [hbefore]
      exact (SaveRestore.asked_run_of_entered hsaved _ hchanges).2
    rw [← hrestored]
    exact calls_of_toggles hleave
  · exact saved_eq_none_iff.mp (congrArg SaveRestore.State.saved hleft)
  · have hcurrent := congrArg SaveRestore.State.current hentered
    rw [run_cons, run_nil, SaveRestore.step, hasked] at hcurrent
    exact hcurrent.trans (hworks.setTo_eq _ _)
  · exact (congrArg SaveRestore.State.current hleft).trans (hworks.setTo_eq _ _)

/-- The message of the airplane key. -/
def airplaneMsg : KevMsg := KernEventServer.sendMessage ⟨1000, 0x8102⟩ kDaemonAirplaneMode 0 0

/-- Airplane mode is entered with Wi-Fi on, somebody switches Bluetooth on, and it is left. -/
theorem airplane_mode_restores_wifi :
    let w : Machine :=
      { system := { driver := {}, lksb := Vector.replicate 2 0 }
        inFlight := [airplaneMsg, airplaneMsg]
        radios := ⟨true, 0⟩ }
    let entered := w.step none (.receive 0 .obedient)
    let before := run (step none) entered [.switchRadios ⟨false, 1⟩]
    let left := before.step none (.receive 1 .obedient)
    entered.daemon.calls = w.daemon.calls ++ [.setPower false, .setControllerPowerState 0] ∧
      left.daemon.calls = before.daemon.calls ++ [.setPower true, .setControllerPowerState 0] ∧
      left.daemon.airplaneModeEnabled = false ∧
      entered.radios = .off ∧ left.radios = ⟨true, 0⟩ := by
  intro w entered before left
  have hworks : RadioSetters.obedient.Works := ⟨fun _ _ => rfl, fun _ _ => rfl⟩
  have hstay : Throughout (step none) (fun w e => ¬ w.TogglesAirplaneMode e) entered
      [.switchRadios ⟨false, 1⟩] :=
    throughout_cons.mpr ⟨fun h => h, throughout_nil.mpr trivial⟩
  have henter : w.TogglesAirplaneMode (.receive 0 .obedient) := by decide
  have hleave : before.TogglesAirplaneMode (.receive 1 .obedient) := by decide
  obtain ⟨hcalls, hcalls', hmode, hentered, hleft⟩ :=
    airplane_mode_restores none rfl henter hstay hleave
  exact ⟨hcalls, hcalls', hmode, hentered hworks, hleft hworks⟩

end Machine

end AsusSMC
