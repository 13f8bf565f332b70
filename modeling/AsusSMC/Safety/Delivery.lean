import AsusSMC.Model.Daemon
import AsusSMC.Safety.ConsoleRefinement

/-!
# From the key to the daemon

The driver posts a kernel event, the kernel takes it or not, queues what it has taken for
the daemon's socket, and the daemon takes one event after the other from there. Around them
other parties post events, and switch the radios (`Machine`). What the kernel does is
assumed in one point: its queue loses nothing and keeps the order.

What the daemon has done and what is still under way for it are, in order, what the keys
pressed stand for whose messages the kernel took, and what the events of others do that look
like the driver's (`delivered_in_order`): none of it is lost, done twice or done out of
order.
-/

namespace AsusSMC

open EventSystem TraceRefinement

/-- What the calls of the daemon that switch a radio make of the radios. Nothing is said of
them: they may fail, and the daemon does not look. -/
structure RadioSetters where
  setPower : Bool → Radios → Radios
  setControllerPowerState : Int32 → Radios → Radios

/-- The driver, the daemon, and what is between them. -/
structure Machine where
  system : System
  /-- The events the kernel has taken and the daemon has not received, oldest first. -/
  inFlight : List KevMsg := []
  daemon : Daemon := {}
  radios : Radios

/-- What can happen. -/
inductive MachineEvent
  /-- The driver is entered. -/
  | driver (e : WMIEvent)
  /-- Anybody else posts an event, and the kernel takes it. -/
  | post (msg : KevMsg)
  /-- `recv` returns; `id` is the kernel's serial number. -/
  | receive (id : UInt32) (set : RadioSetters)
  /-- Anybody else switches the radios. -/
  | switchRadios (radios : Radios)

/-- What a call does to the radios. -/
def RadioSetters.after (set : RadioSetters) (radios : Radios) : DaemonCall → Radios
  | .setPower on => set.setPower on radios
  | .setControllerPowerState state => set.setControllerPowerState state radios
  | _ => radios

/-- The messages that the kernel has taken, in order. -/
def accepted (es : List Effect) : List KevMsg :=
  es.filterMap fun | .kevMsgPost msg true => some msg | _ => none

/-- What the kernel takes of the messages posted in an event. -/
def WMIEvent.takes : WMIEvent → KevMsg → Bool
  | .op (.message env _), msg => env.kevMsgPost msg
  | _, _ => false

/-- The type of the message a press sends. -/
def Press.messageType (p : Press) : Option Int32 :=
  match Hotkey.ofCode p.code with
  | some .sleep => some kDaemonSleep
  | some .airplaneMode => some kDaemonAirplaneMode
  | _ => none

/-- What a press is for the daemon. -/
def Press.daemonAction (p : Press) : Option DaemonAction :=
  match Hotkey.ofCode p.code with
  | some .sleep => some .goToSleep
  | some .airplaneMode => some .toggleAirplaneMode
  | _ => none

/-- The kernel takes the message of a press, if it has one. -/
def System.takes (s : System) (e : WMIEvent) (p : Press) : Bool :=
  p.messageType.all fun type => e.takes (s.driver.kev.sendMessage type 0 0)

namespace Machine

/-- One event. `found` is the vendor code the daemon has looked up. -/
def step (found : Option UInt32) (w : Machine) : MachineEvent → Machine
  | .driver e =>
    let system := w.system.wmiStep e
    let msgs := accepted (system.driver.log.drop w.system.driver.log.length)
    { w with
      system := system
      inFlight := w.inFlight ++ msgs.filter (Daemon.kevRequest found).passes }
  | .post msg =>
    { w with inFlight := w.inFlight ++ [msg].filter (Daemon.kevRequest found).passes }
  | .receive id set =>
    match w.inFlight with
    | [] => w
    | msg :: rest =>
      let daemon := w.daemon.receive w.radios (recv Daemon.bufferSize (msg.wire id))
      { w with
        inFlight := rest
        daemon := daemon
        radios := (daemon.calls.drop w.daemon.calls.length).foldl set.after w.radios }
  | .switchRadios radios => { w with radios := radios }

/-- What an event gives the daemon to do: a press whose message the kernel takes, what it
stands for. -/
def posts (w : Machine) : MachineEvent → List DaemonAction
  | .driver e => ((w.system.presses e).filter (w.system.takes e)).filterMap Press.daemonAction
  | .post msg => msg.action.toList
  | _ => []

/-- What the daemon has done, and what is under way for it. -/
def delivered (w : Machine) : List DaemonAction :=
  w.daemon.performed ++ w.inFlight.filterMap KevMsg.action

end Machine

/-! ### The messages of a press -/

namespace Console

variable (b : Bool) (c : Console)

/-- A tap is no message. -/
theorem tap_messages (usages : ConsumerUsages) (key : Hotkey) :
    (c.tap b usages key).actions.filterMap ConsoleAction.messageType
      = c.actions.filterMap ConsoleAction.messageType := by
  rw [tap]
  cases key.tapped usages with
  | none => rfl
  | some usage =>
    simp only
    split
    · rfl
    · simp [act, ConsoleAction.messageType]

theorem press_messages (p : Press) :
    (c.press b p).actions.filterMap ConsoleAction.messageType
      = c.actions.filterMap ConsoleAction.messageType ++ p.messageType.toList := by
  rw [press, Press.messageType]
  cases Hotkey.ofCode p.code with
  | none => simp
  | some key =>
    -- two keys send a message, and the others none
    cases key with
    | panel =>
      simp only [perform, switchPanel]
      split <;> simp [ConsoleAction.messageType]
    | sleep | airplaneMode => simp [perform, act, ConsoleAction.messageType]
    | lightSensor => simp [perform]
    | _ => exact (tap_messages b c p.usages _).trans (List.append_nil _).symm

theorem run_press_messages (ps : List Press) :
    (run (press b) c ps).actions.filterMap ConsoleAction.messageType
      = c.actions.filterMap ConsoleAction.messageType ++ ps.filterMap Press.messageType := by
  induction ps generalizing c with
  | nil => exact (List.append_nil _).symm
  | cons p ps ih =>
    rw [run_cons, ih, press_messages, List.append_assoc, List.filterMap_cons]
    cases p.messageType <;> rfl

end Console

/-- A message that is posted is taken or not as `takes` says. -/
def TakenBy (takes : KevMsg → Bool) : Effect → Prop
  | .kevMsgPost msg posted => posted = takes msg
  | _ => True

theorem accepted_of_takenBy {takes : KevMsg → Bool} {es : List Effect}
    (h : ∀ e ∈ es, TakenBy takes e) : accepted es = (kevMsgs es).filter takes := by
  rw [kevMsgs, List.filter_filterMap]
  refine List.filterMap_congr fun e he => ?_
  cases e with
  | kevMsgPost msg posted =>
    obtain rfl : posted = takes msg := h _ he
    cases htakes : takes msg <;> simp [Option.filter, htakes]
  | _ => rfl

namespace System

open Driver

variable {s : System} {b : Bool} {kev : KernEventServer} {c : Console}

/-- What an event posts is taken or not as its environment says. -/
theorem wmiStep_takenBy (s : System) (e : WMIEvent) :
    Grows (TakenBy e.takes) s.driver (s.wmiStep e).driver := by
  cases he : e.isPress with
  | false =>
    -- nothing is posted
    refine (wmiStep_quiet s he).mono fun effect hquiet => ?_
    cases effect with
    | kevMsgPost msg posted => exact hquiet.elim
    | _ => trivial
  | true =>
    match e, he with
    | .op (.message env (.deviceNotification event)), _ =>
      -- the evaluation of `_WED` posts nothing either
      have hwed : ∀ args,
          TakenBy env.kevMsgPost (s.driver.integerEffect env .atkDevice "_WED" args) := by
        intro args
        rw [integerEffect]
        split <;> trivial
      refine notification_outputs env ⟨?_, ?_, fun _ => rfl, ?_⟩ event (fun _ => hwed _) ?_ ?_ <;>
        intros <;> trivial

/-- **The messages of an event** that the kernel takes are those of the presses it takes. -/
theorem accepted_wmiStep (h : ConsoleRefines b kev s.driver c) (e : WMIEvent) :
    accepted ((s.wmiStep e).driver.log.drop s.driver.log.length)
      = (((s.presses e).filter (s.takes e)).filterMap Press.messageType).map
          (kev.sendMessage · 0 0) := by
  obtain ⟨es, hes, htaken⟩ := wmiStep_takenBy s e
  -- the messages in the driver's history are those of the console
  have hafter := (wmiStep_refines h e).messages
  rw [Console.run_press_messages, List.map_append, ← h.messages, hes, kevMsgs_append] at hafter
  rw [hes, List.drop_left, accepted_of_takenBy htaken, List.append_cancel_left hafter,
    List.filter_map]
  refine congrArg (List.map (kev.sendMessage · 0 0)) ?_
  -- a press is filtered by its message
  generalize s.presses e = ps
  induction ps with
  | nil => rfl
  | cons p ps ih =>
    cases htype : p.messageType with
    | none =>
      have htakes : s.takes e p = true := by rw [takes, htype]; rfl
      rw [List.filterMap_cons_none htype, List.filter_cons_of_pos htakes,
        List.filterMap_cons_none htype, ih]
    | some type =>
      have htakes : s.takes e p = e.takes (kev.sendMessage type 0 0) := by
        rw [takes, htype, h.kev]
        rfl
      rw [List.filterMap_cons_some htype, List.filter_cons, List.filter_cons, ih, htakes]
      dsimp only [Function.comp]
      split
      · rw [List.filterMap_cons_some htype]
      · rfl

end System

/-- The daemon takes the message of a press for what the press stands for. -/
theorem filterMap_action_sendMessage {kev : KernEventServer}
    (hcode : kev.eventCode = AsusSMCEventCode) (ps : List Press) :
    ((ps.filterMap Press.messageType).map (kev.sendMessage · 0 0)).filterMap KevMsg.action
      = ps.filterMap Press.daemonAction := by
  have hpress : ∀ p : Press, (p.messageType.bind fun type => (kev.sendMessage type 0 0).action)
      = p.daemonAction := by
    intro p
    rw [Press.messageType, Press.daemonAction]
    cases Hotkey.ofCode p.code with
    | none => rfl
    | some key =>
      cases key with
      | sleep | airplaneMode => exact kev.action_sendMessage _ 0 0 hcode
      | _ => rfl
  rw [List.filterMap_map, List.filterMap_filterMap]
  exact congrArg (fun f => ps.filterMap f) (funext hpress)

/-! ### Runs -/

namespace Machine

variable {found : Option UInt32} {w : Machine}

/-- The filter of the daemon drops nothing. -/
theorem filter_passes (msgs : List KevMsg) : msgs.filter (Daemon.kevRequest found).passes = msgs :=
  List.filter_eq_self.mpr fun _ _ => rfl

/-- The driver is a console, and its messages carry the code the daemon looks for. -/
def Drives (w : Machine) : Prop :=
  ∃ b kev c, kev.eventCode = AsusSMCEventCode ∧ Driver.ConsoleRefines b kev w.system.driver c

theorem drives_step (h : Drives w) (e : MachineEvent) : Drives (w.step found e) := by
  obtain ⟨b, kev, c, hcode, hrefines⟩ := h
  cases e with
  | driver e => exact ⟨b, kev, _, hcode, System.wmiStep_refines hrefines e⟩
  | post msg => exact ⟨b, kev, c, hcode, hrefines⟩
  | receive id set =>
    simp only [step]
    split <;> exact ⟨b, kev, c, hcode, hrefines⟩
  | switchRadios radios => exact ⟨b, kev, c, hcode, hrefines⟩

/-- **Step lemma.** -/
theorem delivered_step (h : Drives w) (e : MachineEvent) :
    (w.step found e).delivered = w.delivered ++ w.posts e := by
  obtain ⟨b, kev, c, hcode, hrefines⟩ := h
  cases e with
  | driver e =>
    simp only [step, delivered, posts, filter_passes, List.filterMap_append,
      System.accepted_wmiStep hrefines e, filterMap_action_sendMessage hcode, List.append_assoc]
  | post msg =>
    simp only [step, delivered, posts, filter_passes, List.filterMap_append, List.append_assoc]
    cases hmsg : msg.action <;> simp [hmsg]
  | receive id set =>
    -- whatever it is, it has been counted when it was posted
    show (w.step found (.receive id set)).delivered = w.delivered ++ []
    rw [List.append_nil, step]
    cases hqueue : w.inFlight with
    | nil => rfl
    | cons msg rest =>
      -- the oldest event moves from the queue to the daemon
      simp only [delivered, hqueue, Daemon.receive_recv_wire]
      cases hact : msg.action with
      | none => simp [hact]
      | some a => simp [hact]
  | switchRadios radios => exact (List.append_nil _).symm

/-- **From the key to the daemon.** Let a driver be started, and then entered, while others
post kernel events of their own and switch the radios, in any order, and the daemon takes
its events whenever it likes. What it has done, and after that what is under way for it,
are the sleeps and switches of airplane mode of the keys pressed, where the kernel took the
message, and what the events of others do, in the order of their posting. -/
theorem delivered_in_order (found : Option UInt32) (senv : StartEnv) (vendor : Option UInt32)
    (provider : ACPIDevice) (s : System) (bezelServices : Bool) (radios : Radios)
    (es : List MachineEvent) :
    let w : Machine :=
      { system := { s with driver := Driver.started senv vendor provider }
        daemon := { bezelServices }
        radios := radios }
    (run (step found) w es).daemon.performed
        ++ (run (step found) w es).inFlight.filterMap KevMsg.action
      = trace (step found) posts w es :=
  run_accumulates (f := delivered) Drives (fun _ e h => drives_step h e)
    (fun _ e h => delivered_step h e)
    ⟨_, _, _, rfl, Driver.started_refines senv vendor provider⟩ es

end Machine

end AsusSMC
