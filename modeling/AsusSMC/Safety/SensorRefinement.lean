import AsusSMC.Framework.TraceRefinement
import AsusSMC.Model.History
import AsusSMC.Model.SensorBoard
import AsusSMC.Safety.LightSensor
import AsusSMC.Safety.Poller
import AsusSMC.Safety.WMINames

/-!
# The driver is a sensor board

Whatever a driver is entered by, the clients of the SMC see what a `SensorBoard` shows
(`driver_refines_sensorBoard`). `Driver.sense` tells which events of the board an entry is:
a tick comes with what the firmware answers to it, the light sensor key turns the switch,
and most entries are none.

What `sense` depends on does not change while the driver runs, so the events of the board
are known from the start, and the entries that are none may be left out
(`sensors_separate`): what clients read of the sensors does not depend on any other hotkey,
on the consumers, on the keyboard backlight or on the battery.
-/

namespace AsusSMC

open EventSystem TraceRefinement

namespace Driver

/-- The events of the board that an entry is. -/
def sense (d : Driver) : WMIEvent → List SensorEvent
  | .op (.tick env) =>
    [.tick ((d.integerReply env .alsDevice "_ALI" []).bind lightOf) (d.fanReading env).toUInt16]
  | .op (.message env (.deviceNotification event)) =>
    if d.eventCode env event = 0x7A then [.switchLight] else []
  | .op .readALV0 => [.readLight]
  | .op (.writeALV0 src) => [.writeLight (.ofBytes src)]
  | .op (.writeAL src) => [.force (firstByte src)]
  | .op .readF0Ac => [.readFan]
  | .vsmcPublished venv => if venv.submits then [.connect venv.starts] else []
  | _ => []

/-- What `sense` depends on. -/
def senseInputs (d : Driver) :
    (Option ACPIDevice × Option ACPIDevice × Option ACPIDevice) × Bool × Bool × Vector UInt8 5 :=
  ((d.alsDevice, d.ec0Device, d.atkDevice), d.isTACHAvailable, d.directACPImessaging, d.wmiMethod)

variable {d d' : Driver}

theorem sense_congr (h : d'.senseInputs = d.senseInputs) : d'.sense = d.sense := by
  obtain ⟨⟨hals, hec0, hatk⟩, htach, hdirect, hmethod⟩ := by simpa [senseInputs] using h
  have hreply : ∀ env field method args,
      d'.integerReply env field method args = d.integerReply env field method args := by
    intro env field method args
    have hdevice : d'.device field = d.device field := by
      cases field <;> simp [device, hals, hec0, hatk]
    rw [integerReply, hdevice, integerReply]
  have hwmi : ∀ env methodId arg0 arg1,
      d'.wmiReply env methodId arg0 arg1 = d.wmiReply env methodId arg0 arg1 := by
    intro env methodId arg0 arg1
    rw [wmiReply, hreply, hmethod, wmiReply]
  have hfan : ∀ env, d'.fanReading env = d.fanReading env := by
    intro env
    rw [fanReading, hreply, hwmi, htach, fanReading]
  have hcode : ∀ env event, d'.eventCode env event = d.eventCode env event := by
    intro env event
    rw [eventCode, hreply, hdirect, eventCode]
  funext e
  cases e with
  | op o =>
    cases o with
    | tick env => rw [sense, hreply, hfan, sense]
    | message env m =>
      cases m with
      | deviceNotification event => rw [sense, hcode, sense]
      | _ => rfl
    | _ => rfl
  | _ => rfl

/-! ### What leaves the board alone -/

/-- What the board is read off, besides the history and the key. -/
def boardInputs (d : Driver) :
    Option ACPIDevice × Bool × UInt32 × UInt16 × Option IOTimerEventSource × Vector UInt8 2 :=
  (d.alsDevice, d.isALSEnabled, d.currentLux, d.currentFanSpeed, d.poller, d.forceBits)

/-- Not an interrupt. -/
def Silent (e : Effect) : Prop := e ≠ .postInterrupt

theorem Grows.silent (h : Grows Silent d d') :
    d'.log.count .postInterrupt = d.log.count .postInterrupt := by
  obtain ⟨es, hes, hsilent⟩ := h
  have hnone : es.count .postInterrupt = 0 :=
    List.count_eq_zero.mpr fun hmem => hsilent _ hmem rfl
  rw [hes, List.count_append, hnone, Nat.add_zero]

theorem evaluationEffects_silent : EvaluationEffects Silent := by
  constructor <;> intros <;> simp [Silent]

theorem message_silent (env : Env) (m : Message) (d : Driver) :
    Grows Silent d (d.message env m).2 := by
  refine message_outputs env (HotkeyEffects.outputs ⟨⟨?_, ?_⟩, ?_, ?_⟩ env d)
    evaluationEffects_silent m <;> intros <;> simp [Silent]

theorem dispatchReport_boardInputs (env : Env) (ch : Channel) (code loop : Int32) (d : Driver) :
    (dispatchReport env ch code loop d).boardInputs = d.boardInputs :=
  dispatchReport_frame (fun _ _ => rfl) (fun _ _ => rfl) (fun _ _ => rfl) env ch code loop d

/-- One hotkey touches the board. -/
theorem message_boardInputs (env : Env) {m : Message} (d : Driver)
    (hm : ∀ event, m = .deviceNotification event → d.eventCode env event ≠ 0x7A) :
    (d.message env m).2.boardInputs = d.boardInputs := by
  cases m with
  | deviceNotification event =>
    have hwed : (d.wedEvaluated env event).boardInputs = d.boardInputs := by
      rw [wedEvaluated]
      split <;> rfl
    rw [message_deviceNotification, ← hwed]
    generalize hd' : (d.wedEvaluated env event).handleMessage env (d.eventCode env event) = d'
    have hkey := handleMessage_handled env (d.eventCode env event) (d.wedEvaluated env event)
    rw [hd'] at hkey
    cases hkey with
    | csmr usage | brightness usage | topCase usage => exact dispatchReport_boardInputs env _ _ _ _
    | displayOff =>
      -- the brightness of the panel is not the light of the room
      refine displayOff_frame ?_ ?_ ?_ ?_ ?_ ?_ env _ <;> intros <;> rfl
    | toggleTouchpad => refine toggleTouchpad_frame ?_ ?_ ?_ env _ <;> intros <;> rfl
    | toggleALSSensor hcode => exact absurd hcode (hm event rfl)
    | ignored | letSleep | toggleAirplaneMode => rfl
  | setKeyboardBacklight tval =>
    rw [message]
    split <;> rfl
  | other type => rfl

/-! ### A tick -/

theorem lightOf_luxReading (env : Env) (d : Driver) :
    lightOf (d.luxReading env)
      = if d.isALSEnabled then (d.integerReply env .alsDevice "_ALI" []).bind lightOf
        else some 150 := by
  rw [luxReading]
  split
  · cases d.integerReply env .alsDevice "_ALI" [] with
    | none => rfl
    | some lux => rfl
  · rfl

/-- A refresh that posts raises one interrupt, if there is a light sensor. -/
theorem refreshALS_interrupts (env : Env) :
    (d.refreshALS env true).2.log.count .postInterrupt
      = d.log.count .postInterrupt + if d.alsDevice.isSome then 1 else 0 := by
  have hread : Grows Silent d (d.aliEvaluated env) := by
    rw [aliEvaluated]
    split
    · exact grows_emit (evaluationEffects_silent.integerEffect env d _ _ _)
    · exact .refl d
  have htimeout : ∀ d : Driver, Grows Silent d d.setTimeoutMS := by
    intro d
    rw [setTimeoutMS]
    split
    · exact grows_emit (by simp [Silent])
    · exact .of_log_eq rfl
  cases hdev : d.alsDevice with
  | none =>
    rw [refreshALS_of_none env d true hdev]
    rfl
  | some dev =>
    rw [refreshALS_of_some env d true hdev, if_pos rfl, (htimeout _).silent, emit_log,
      List.count_append, setCurrentLux_log, hread.silent]
    rfl

/-- A tick of an armed poller asks both sensors, and tells the SMC of the light. -/
theorem fire_asks (env : Env) (harmed : d.armed = true) :
    (d.fire env).currentFanSpeed = (d.fanReading env).toUInt16 ∧
      (d.fire env).log.count .postInterrupt
        = d.log.count .postInterrupt + if d.alsDevice.isSome then 1 else 0 := by
  cases hp : d.poller with
  | none => exact absurd harmed (by simp [armed, hp])
  | some p =>
    have hboth : (p.armed && p.onWorkLoop) = true := by simpa [armed, hp] using harmed
    have hfire : d.fire env
        = (d.setPoller (some { p with armed := false })).pollerAction env := by
      rw [fire, hp]
      exact if_pos hboth
    -- the light is read first, and what the fan is asked does not depend on it
    generalize hd₁ : d.setPoller (some { p with armed := false }) = d₁ at hfire
    have hread : (d₁.refreshALS env true).2.fanReading env = d.fanReading env := by
      rw [← hd₁]
      refine (refreshALS_frame (f := fanReading env) ?_ ?_ ?_ env true _).trans rfl <;>
        intros <;> rfl
    have hcount : (d₁.refreshALS env true).2.log.count .postInterrupt
        = d.log.count .postInterrupt + if d.alsDevice.isSome then 1 else 0 := by
      rw [refreshALS_interrupts, ← hd₁]
      rfl
    rw [hfire, pollerAction, refreshFan_eq, hread]
    have hfan : ∀ d : Driver, Grows Silent d (d.emit (d.fanEffect env)) := fun d =>
      grows_emit (evaluationEffects_silent.fanEffect env d)
    exact ⟨rfl, (hfan _).silent.trans hcount⟩

end Driver

/-- What a client reads in an operation. -/
def System.readings (s : System) : WMIEvent → List Reading
  | .op .readALV0 => [.light (s.wmiStep (.op .readALV0)).alv0]
  | .op .readF0Ac => [.fan (s.wmiStep (.op .readF0Ac)).f0Ac]
  | _ => []

namespace System

open Driver

variable {s : System}

/-- No entry changes what `sense` depends on. -/
theorem sense_wmiStep (s : System) (e : WMIEvent) :
    (s.wmiStep e).driver.sense = s.driver.sense := by
  have hotkey : HotkeyFrame senseInputs := by constructor <;> intros <;> rfl
  refine sense_congr ?_
  cases e with
  | op o =>
    by_cases htick : o.IsTick
    · cases o with
      | tick env => refine fire_frame ?_ ?_ ?_ ?_ env s.driver <;> intros <;> rfl
      | _ => exact absurd htick id
    · exact System.step_frame hotkey (fun _ _ => rfl) (fun _ _ => rfl) s htick
  | toggleALS env state => exact wmiEvaluateMethod_frame (fun _ _ => rfl) env _ _ _ s.driver
  | vsmcPublished venv =>
    refine vsmcNotificationHandler_frame venv s.driver ?_ ?_ ?_ <;> intros <;> rfl

/-! ### One entry -/

/-- An entry that leaves the board alone. -/
theorem board_congr {s' : System} (hinputs : s'.driver.boardInputs = s.driver.boardInputs)
    (halv0 : s'.alv0 = s.alv0) (hgrows : Grows Silent s.driver s'.driver) : s'.board = s.board := by
  obtain ⟨hals, hon, hlux, hfan, hpoller, hforce⟩ := by simpa [boardInputs] using hinputs
  rw [board, board, hals, hon, hlux, hfan, armed_congr hpoller, hforce, halv0, hgrows.silent]

theorem board_tick (env : Env) :
    { s with driver := s.driver.fire env }.board
      = s.board.tick ((s.driver.integerReply env .alsDevice "_ALI" []).bind lightOf)
          (s.driver.fanReading env).toUInt16 := by
  cases harmed : s.driver.armed with
  | false =>
    have hidle : s.board.ticking = false := harmed
    rw [fire_of_not_armed env harmed, SensorBoard.tick, hidle]
    rfl
  | true =>
    obtain ⟨hfan, hcount⟩ := fire_asks env harmed
    have hsensor := fire_sensorOf env harmed
    have hrearmed := fire_armed env harmed
    have hkept : ((s.driver.fire env).isALSEnabled, (s.driver.fire env).forceBits)
        = (s.driver.isALSEnabled, s.driver.forceBits) := by
      refine fire_frame (f := fun d => (d.isALSEnabled, d.forceBits)) ?_ ?_ ?_ ?_ env s.driver <;>
        intros <;> rfl
    obtain ⟨hon, hforce⟩ := Prod.mk.inj hkept
    have hticking : s.board.ticking = true := harmed
    rw [SensorBoard.tick, hticking]
    cases hdev : s.driver.alsDevice with
    | none =>
      -- the fan is read, and the poller is not armed again
      have hstops : (s.driver.fire env).armed = false :=
        Bool.eq_false_iff.mpr fun ha => absurd hdev (hrearmed.mp ha)
      obtain ⟨hals, hlux⟩ : (s.driver.fire env).alsDevice = none ∧
          (s.driver.fire env).currentLux = s.driver.currentLux := by
        simpa [sensorOf, hdev] using hsensor
      simp [board, hdev, hals, hon, hlux, hfan, hstops, hforce, hcount]
    | some dev =>
      -- the light has been read, and the poller is armed for the next tick
      have hgoes : (s.driver.fire env).armed = true := hrearmed.mpr (by simp [hdev])
      obtain ⟨hals, hlux⟩ : (s.driver.fire env).alsDevice = some dev ∧
          (s.driver.fire env).currentLux = s.driver.luxReading env := by
        simpa [sensorOf, hdev] using hsensor
      simp [board, hdev, hals, hon, hlux, hfan, hgoes, harmed, hforce, hcount, lightOf_luxReading]

/-- The light value a client is shown. -/
theorem display_board (s : System) : s.board.display = (s.step .readALV0).alv0 := by
  rw [SensorBoard.display]
  by_cases h : s.driver.currentLux = 0xFFFFFFFF
  · have hlight : s.board.light = none := by simp [board, lightOf, h]
    rw [hlight, step, h]
    rfl
  · have hlight : s.board.light = some s.driver.currentLux := by simp [board, lightOf, h]
    rw [hlight, step]
    exact (SMCALSValue.readAccess_of_reading _ _ _ h).symm

theorem board_message (env : Env) (m : Message) :
    { s with driver := (s.driver.message env m).2 }.board
      = run SensorBoard.step s.board (s.driver.sense (.op (.message env m))) := by
  by_cases hm : ∃ event, m = .deviceNotification event ∧ s.driver.eventCode env event = 0x7A
  · obtain ⟨event, rfl, hcode⟩ := hm
    -- the switch, after the code has been asked for
    have hgrows := (message_silent env (.deviceNotification event) s.driver).silent
    have hkey : ∀ d : Driver, d.handleMessage env 0x7A = d.toggleALSSensor := fun _ => rfl
    rw [message_deviceNotification, hcode, hkey] at hgrows ⊢
    rw [sense, if_pos hcode]
    have hwed : (s.driver.wedEvaluated env event).boardInputs = s.driver.boardInputs := by
      rw [wedEvaluated]
      split <;> rfl
    generalize s.driver.wedEvaluated env event = d at hwed hgrows ⊢
    obtain ⟨hals, hon, hlux, hfan, hpoller, hforce⟩ := by simpa [boardInputs] using hwed
    have hcount : d.log.count .postInterrupt = s.driver.log.count .postInterrupt := hgrows
    simp [board, SensorBoard.step, toggleALSSensor, armed, hals, hon, hlux, hfan, hpoller, hforce,
      hcount]
  · -- any other message is no event of the board
    have hinputs := message_boardInputs env s.driver (m := m) fun event hevent hcode =>
      hm ⟨event, hevent, hcode⟩
    have hnone : s.driver.sense (.op (.message env m)) = [] := by
      cases m with
      | deviceNotification event => exact if_neg fun hcode => hm ⟨event, rfl, hcode⟩
      | _ => rfl
    rw [hnone]
    exact board_congr hinputs rfl (message_silent env m s.driver)

theorem board_vsmcPublished (venv : VSMCEnv) :
    { s with driver := (s.driver.vsmcNotificationHandler venv).2 }.board
      = run SensorBoard.step s.board (s.driver.sense (.vsmcPublished venv)) := by
  have hgrows : Grows Silent s.driver (s.driver.vsmcNotificationHandler venv).2 :=
    vsmcNotificationHandler_grows (fun _ _ => by simp [Silent]) venv fun _ => by simp [Silent]
  have harmed := (vsmcNotificationHandler_armed venv s.driver).1
  have hkept := vsmcNotificationHandler_frame (f := fun d => (d.alsDevice, d.isALSEnabled,
    d.currentLux, d.currentFanSpeed, d.forceBits)) venv s.driver (fun _ _ => rfl) (fun _ _ => rfl)
    fun _ _ => rfl
  obtain ⟨hals, hon, hlux, hfan, hforce⟩ := by simpa using hkept
  rw [sense, board, hals, hon, hlux, hfan, harmed, hforce, hgrows.silent]
  cases venv.submits <;> rfl

/-- **Step lemma.** -/
theorem board_wmiStep (s : System) (e : WMIEvent) :
    (s.wmiStep e).board = run SensorBoard.step s.board (s.driver.sense e) ∧
      s.readings e = trace SensorBoard.step SensorBoard.shows s.board (s.driver.sense e) := by
  cases e with
  | op o =>
    cases o with
    | tick env => exact ⟨board_tick env, rfl⟩
    | message env m =>
      refine ⟨board_message env m, ?_⟩
      cases m with
      | deviceNotification event =>
        rw [sense]
        split <;> rfl
      | _ => rfl
    | notification service notifier =>
      have hgrows : Grows Silent s.driver (s.driver.notificationHandler service notifier).2 := by
        refine notificationHandler_grows ?_ ?_ service notifier <;> simp [Silent]
      refine ⟨board_congr ?_ rfl hgrows, rfl⟩
      exact notificationHandler_frame (fun _ _ => rfl) (fun _ _ => rfl) service notifier s.driver
    | readALV0 =>
      refine ⟨?_, ?_⟩
      · rw [sense, run_cons, run_nil, SensorBoard.step, display_board]
        rfl
      · rw [sense, trace_cons, SensorBoard.shows, display_board]
        rfl
    | writeALV0 src => exact ⟨rfl, rfl⟩
    | writeAL src => exact ⟨rfl, rfl⟩
    | writeLKSB env src =>
      -- a message of the driver to itself, and no notification
      refine ⟨board_congr ?_ rfl (message_silent env _ s.driver), rfl⟩
      exact message_boardInputs env s.driver fun event hevent => by simp at hevent
    | readF0Ac => exact ⟨rfl, rfl⟩
    | writeBDVT env src =>
      -- the mode of the battery is a call and a property
      refine ⟨?_, rfl⟩
      rw [wmiStep, step]
      split
      · refine board_congr ?_ rfl ?_
        · refine toggleBatteryConservativeMode_frame ?_ ?_ env _ s.driver <;> intros <;> rfl
        · exact toggleBatteryConservativeMode_grows env _ fun _ =>
            evaluationEffects_silent.wmiEffect env _ _ _ _
      · rfl
  | toggleALS env state =>
    refine ⟨board_congr ?_ rfl ?_, rfl⟩
    · exact wmiEvaluateMethod_frame (fun _ _ => rfl) env _ _ _ s.driver
    · exact wmiEvaluateMethod_grows env (evaluationEffects_silent.wmiEffect env _ _ _ _)
  | vsmcPublished venv =>
    refine ⟨board_vsmcPublished venv, ?_⟩
    rw [sense]
    split <;> rfl

/-! ### Runs -/

/-- **Run lemma.** -/
theorem board_run (s : System) (es : List WMIEvent) :
    (run wmiStep s es).board = run SensorBoard.step s.board (es.flatMap s.driver.sense) ∧
      trace wmiStep readings s es
        = trace SensorBoard.step SensorBoard.shows s.board (es.flatMap s.driver.sense) := by
  -- the board, and what the entries are
  let R (t : System) (b : SensorBoard) : Prop := t.board = b ∧ t.driver.sense = s.driver.sense
  have hstep : ∀ t b e, R t b →
      R (t.wmiStep e) (run SensorBoard.step b (s.driver.sense e)) ∧
        t.readings e = trace SensorBoard.step SensorBoard.shows b (s.driver.sense e) := by
    rintro t b e ⟨rfl, hsense⟩
    obtain ⟨hboard, hreadings⟩ := board_wmiStep t e
    rw [hsense] at hboard hreadings
    exact ⟨⟨hboard, (sense_wmiStep t e).trans hsense⟩, hreadings⟩
  have hs : R s s.board := ⟨rfl, rfl⟩
  rw [← trace_const wmiStep s es]
  exact ⟨(run_refines R (fun t b e h => (hstep t b e h).1) hs es).1,
    trace_refines R hstep hs es⟩

end System

/-- **Refinement.** In every run, the driver is the board that has met the events its entries
are, and clients read what that board has shown. -/
theorem driver_refines_sensorBoard (s : System) (es : List WMIEvent) :
    (run System.wmiStep s es).board = run SensorBoard.step s.board (es.flatMap s.driver.sense) ∧
      trace System.wmiStep System.readings s es
        = trace SensorBoard.step SensorBoard.shows s.board (es.flatMap s.driver.sense) :=
  System.board_run s es

/-- **The sensors are separate from the rest.** Leave out of a run every entry that is no
event of the board, that is all hotkeys but the light sensor key, all notifications about
consumers, and all settings of the keyboard, the battery and the firmware: clients read the
same, and are left with the same board. -/
theorem sensors_separate (s : System) (es : List WMIEvent) :
    trace System.wmiStep System.readings s es
        = trace System.wmiStep System.readings s
            (es.filter fun e => !(s.driver.sense e).isEmpty) ∧
      (run System.wmiStep s es).board
        = (run System.wmiStep s (es.filter fun e => !(s.driver.sense e).isEmpty)).board := by
  have hevents : (es.filter fun e => !(s.driver.sense e).isEmpty).flatMap s.driver.sense
      = es.flatMap s.driver.sense :=
    flatMap_filter (fun e he => by simpa using he) es
  obtain ⟨hboard, hreadings⟩ := System.board_run s es
  obtain ⟨hboard', hreadings'⟩ := System.board_run s
    (es.filter fun e => !(s.driver.sense e).isEmpty)
  rw [hevents] at hboard' hreadings'
  exact ⟨hreadings.trans hreadings'.symm, hboard.trans hboard'.symm⟩

end AsusSMC
