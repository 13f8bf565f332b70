import AsusSMC.Safety.ConsoleRefinement

/-!
# Hotkeys and the rest of the driver

Ticks of the poller, accesses to the SMC keys, notifications about consumers and the
publication of VirtualSMC go through the same object as the hotkeys. What a press is
depends on four members (`machineInputs`, `panelInputs`), and none of these events touches
them: leaving all of them out of a run changes neither what a host and the daemon get nor
the switches (`hotkeys_separate`).

A machine sends its codes directly, or an event for which `_WED` tells the code. The two
agree (`direct_agrees_with_wed`).
-/

namespace AsusSMC

open ReportDescriptor EventSystem TraceRefinement

namespace Driver

/-- What the code of a press depends on. -/
def machineInputs (d : Driver) : Bool × Option ACPIDevice := (d.directACPImessaging, d.atkDevice)

/-- What a switch of the panel depends on. -/
def panelInputs (d : Driver) : String × Bool := (d.backlightEntry, d.isPanelBackLightOn)

theorem HotkeyFrame.machineInputs : HotkeyFrame machineInputs := by
  constructor <;> intros <;> rfl

section Panel

variable {d d' : Driver} {env env' : Env}

theorem findBacklightEntry_congr (hpath : env.fromPath = env'.fromPath)
    (h : d.backlightEntry = d'.backlightEntry) :
    (d.findBacklightEntry env).1 = (d'.findBacklightEntry env').1 ∧
      (d.findBacklightEntry env).2.backlightEntry
        = (d'.findBacklightEntry env').2.backlightEntry := by
  -- the search asks whether a path exists, and nothing else of the environment
  have hexists : entryExists env = entryExists env' := by
    funext path
    rw [entryExists, entryExists, hpath]
  rw [findBacklightEntry_eq, findBacklightEntry_eq, hexists, h]
  exact ⟨rfl, rfl⟩

theorem panelReading_congr (hpath : env.fromPath = env'.fromPath)
    (hagain : env.fromPathAgain = env'.fromPathAgain) (h : d.backlightEntry = d'.backlightEntry) :
    d.panelReading env = d'.panelReading env' := by
  obtain ⟨hfound, hentry⟩ := findBacklightEntry_congr hpath h
  rw [panelReading, panelReading, hfound, hentry, hagain]

theorem dispatchReport_panelInputs (ch : Channel) (code loop : Int32) (d : Driver) :
    (dispatchReport env ch code loop d).panelInputs = d.panelInputs :=
  dispatchReport_frame (fun _ _ => rfl) (fun _ _ => rfl) (fun _ _ => rfl) env ch code loop d

/-- The panel switch looks for the entry when it switches off. -/
theorem displayOff_panelInputs (d : Driver) :
    (d.displayOff env).panelInputs
      = (if d.isPanelBackLightOn then (d.findBacklightEntry env).2.backlightEntry
          else d.backlightEntry, !d.isPanelBackLightOn) := by
  have hswitch : ∀ d' : Driver, (d'.setIsPanelBackLightOn (!d'.isPanelBackLightOn)).panelInputs
      = (d'.panelInputs.1, !d'.panelInputs.2) := fun _ => rfl
  rw [displayOff, hswitch]
  cases hon : d.isPanelBackLightOn with
  | true =>
    -- the level is no input, so the read leaves what the search has found
    have hread : (d.readPanelBrightnessValue env).panelInputs
        = (d.findBacklightEntry env).2.panelInputs := by
      rw [readPanelBrightnessValue]
      repeat' split
      all_goals rfl
    simp only [if_true, dispatchTCReport, dispatchReport_panelInputs, hread]
    rw [findBacklightEntry_eq, ← hon]
    rfl
  | false =>
    simp only [Bool.false_eq_true, if_false, dispatchTCReport, dispatchReport_panelInputs]
    rw [panelInputs, hon]

/-- The other keys do not touch the panel. -/
theorem handleMessage_panelInputs {code : Int32} (hcode : ¬ IsPanelCode code) (d : Driver) :
    (d.handleMessage env code).panelInputs = d.panelInputs := by
  generalize hd' : d.handleMessage env code = d'
  have h := handleMessage_handled env code d
  rw [hd'] at h
  cases h with
  | csmr usage | brightness usage | topCase usage => exact dispatchReport_panelInputs _ _ _ d
  | displayOff hpanel => exact absurd hpanel hcode
  | toggleTouchpad => refine toggleTouchpad_frame ?_ ?_ ?_ env d <;> intros <;> rfl
  | ignored | letSleep | toggleALSSensor | toggleAirplaneMode => rfl

/-- Drivers that agree about the panel agree after the same code. -/
theorem handleMessage_congr (hpath : env.fromPath = env'.fromPath)
    (h : d.panelInputs = d'.panelInputs) (code : Int32) :
    (d.handleMessage env code).panelInputs = (d'.handleMessage env' code).panelInputs := by
  obtain ⟨hentry, hon⟩ : d.backlightEntry = d'.backlightEntry ∧
      d.isPanelBackLightOn = d'.isPanelBackLightOn := by simpa [panelInputs] using h
  by_cases hcode : IsPanelCode code
  · rw [handleMessage_of_panel env hcode, handleMessage_of_panel env' hcode,
      displayOff_panelInputs, displayOff_panelInputs, hentry, hon,
      (findBacklightEntry_congr hpath hentry).2]
  · rw [handleMessage_panelInputs hcode, handleMessage_panelInputs hcode, h]

/-- **Congruence**: drivers that agree about the panel, and handle the same code, make the
same press, and agree again. -/
theorem notification_congr {event event' : UInt32} (husages : env.usages = env'.usages)
    (hpath : env.fromPath = env'.fromPath) (hagain : env.fromPathAgain = env'.fromPathAgain)
    (hcode : d.eventCode env event = d'.eventCode env' event')
    (h : d.panelInputs = d'.panelInputs) :
    (⟨env.usages, d.eventCode env event, d.panelReading env⟩ : Press)
        = ⟨env'.usages, d'.eventCode env' event', d'.panelReading env'⟩ ∧
      (d.message env (.deviceNotification event)).2.panelInputs
        = (d'.message env' (.deviceNotification event')).2.panelInputs := by
  -- the reading is that before `_WED`, which leaves the panel's inputs
  have hwed : ∀ env event (d : Driver), (d.wedEvaluated env event).panelInputs = d.panelInputs := by
    intro env event d
    rw [wedEvaluated]
    split <;> rfl
  have hreading := panelReading_congr hpath hagain (congrArg Prod.fst h)
  refine ⟨by rw [husages, hcode, hreading], ?_⟩
  rw [message_deviceNotification, message_deviceNotification, hcode]
  refine handleMessage_congr hpath ?_ _
  rw [hwed, hwed, h]

end Panel

/-! ### Separation -/

/-- What a host and the daemon have got, and the switches. -/
structure SameConsole (d d' : Driver) : Prop where
  host : hostOf d.log = hostOf d'.log
  messages : kevMsgs d.log = kevMsgs d'.log
  lightSensor : d.isALSEnabled = d'.isALSEnabled
  panelOn : d.isPanelBackLightOn = d'.isPanelBackLightOn
  level : d.panelBrightnessLevel = d'.panelBrightnessLevel

/-- Two drivers that are one console. -/
theorem ConsoleRefines.same {d d' : Driver} {b b' : Bool} {kev : KernEventServer} {c : Console}
    (h : ConsoleRefines b kev d c) (h' : ConsoleRefines b' kev d' c) : SameConsole d d' where
  host := h.host.trans h'.host.symm
  messages := h.messages.trans h'.messages.symm
  lightSensor := h.lightSensor.trans h'.lightSensor.symm
  panelOn := h.panelOn.trans h'.panelOn.symm
  level := h.level.trans h'.level.symm

end Driver

namespace System

open Driver

/-- The systems make the same presses from here on. -/
structure SamePresses (s t : System) : Prop where
  machine : s.driver.machineInputs = t.driver.machineInputs
  panel : s.driver.panelInputs = t.driver.panelInputs

theorem SamePresses.of_not_press {s t : System} (h : SamePresses s t) {e : WMIEvent}
    (he : e.isPress = false) : SamePresses (s.wmiStep e) t where
  machine := by
    refine (wmiStep_quietFrame s he (f := machineInputs) ?_).trans h.machine
    constructor <;> intros <;> rfl
  panel := by
    refine (wmiStep_quietFrame s he (f := panelInputs) ?_).trans h.panel
    constructor <;> intros <;> rfl

theorem SamePresses.of_press {s t : System} (h : SamePresses s t) {e : WMIEvent}
    (he : e.isPress = true) :
    s.presses e = t.presses e ∧ SamePresses (s.wmiStep e) (t.wmiStep e) := by
  match e, he with
  | .op (.message env (.deviceNotification event)), _ =>
    obtain ⟨hdirect, hatk⟩ : s.driver.directACPImessaging = t.driver.directACPImessaging ∧
        s.driver.atkDevice = t.driver.atkDevice := by simpa [machineInputs] using h.machine
    have hcode : s.driver.eventCode env event = t.driver.eventCode env event := by
      simp only [eventCode, integerReply, device, hdirect, hatk]
    -- the environment is one and the same, so only the drivers are compared
    obtain ⟨hpress, hpanel⟩ := notification_congr rfl rfl rfl hcode h.panel
    refine ⟨congrArg (fun p => [p]) hpress, ⟨?_, hpanel⟩⟩
    exact (message_frame .machineInputs env _ s.driver).trans
      (h.machine.trans (message_frame .machineInputs env _ t.driver).symm)

/-- The presses of a run are those of its notifications. -/
theorem trace_presses (s : System) (es : List WMIEvent) :
    trace wmiStep presses s es = trace wmiStep presses s (es.filter WMIEvent.isPress) := by
  apply trace_filter SamePresses
  · exact fun s t e h he => ⟨presses_of_not_press s he, h.of_not_press he⟩
  · exact fun s t e h he => h.of_press he
  · exact ⟨rfl, rfl⟩

/-- Whatever presses a system has made so far, the others are those of its notifications. -/
theorem separate {s : System} {b : Bool} {kev : KernEventServer} {c : Console}
    (h : ConsoleRefines b kev s.driver c) (es : List WMIEvent) :
    (run wmiStep s es).driver.SameConsole (run wmiStep s (es.filter WMIEvent.isPress)).driver := by
  have hall := run_refines_console h es
  rw [trace_presses] at hall
  exact hall.same (run_refines_console h _)

end System

/-- **Hotkeys are separate from the rest.** Leave all ticks, key accesses, notifications
about consumers and the publication of VirtualSMC out of a run of a started driver: a host
and the daemon get the same, and the switches stand the same. -/
theorem hotkeys_separate (senv : StartEnv) (vendor : Option UInt32) (provider : ACPIDevice)
    (s : System) (es : List WMIEvent) :
    (run System.wmiStep { s with driver := Driver.started senv vendor provider }
        es).driver.SameConsole
      (run System.wmiStep { s with driver := Driver.started senv vendor provider }
        (es.filter WMIEvent.isPress)).driver :=
  System.separate (s := { s with driver := Driver.started senv vendor provider })
    (Driver.started_refines senv vendor provider) es

/-! ### Direct messages and `_WED` -/

namespace Driver

/-- What `startATKDevice` finds out about the device. -/
theorem startATKDevice_machine (env : Env) (d : Driver) :
    (d.startATKDevice env).machineInputs
        = (d.directACPImessaging || d.validateObject env .atkDevice "DMES", d.atkDevice) ∧
      (d.startATKDevice env).hasKeyboardBacklight = d.validateObject env .atkDevice "SKBV" := by
  have hdirect : ∀ d : Driver, (d.toggleALS env true).directACPImessaging = d.directACPImessaging :=
    wmiEvaluateMethod_frame (fun _ _ => rfl) env _ _ _
  have hatk : ∀ d : Driver, (d.toggleALS env true).atkDevice = d.atkDevice :=
    wmiEvaluateMethod_frame (fun _ _ => rfl) env _ _ _
  have hkeyboard : ∀ d : Driver,
      (d.toggleALS env true).hasKeyboardBacklight = d.hasKeyboardBacklight :=
    wmiEvaluateMethod_frame (fun _ _ => rfl) env _ _ _
  -- the device is the same when it is asked the second time
  have hskbv : ∀ b v, validateObject env .atkDevice "SKBV" ((d.setProperty
      "IsDirectACPIMessagingSupported" v).setDirectACPImessaging b)
        = d.validateObject env .atkDevice "SKBV" := fun _ _ => rfl
  cases hdmes : d.validateObject env .atkDevice "DMES" <;>
    simp [startATKDevice, machineInputs, hdmes, hdirect, hatk, hkeyboard, hskbv]

/-- What the provider tells of itself. -/
theorem started_machine {senv : StartEnv} (h : senv.superStart = true) (vendor : Option UInt32)
    (provider : ACPIDevice) :
    (started senv vendor provider).machineInputs
        = (senv.env.acpi.validateObject provider "DMES", some provider) ∧
      (started senv vendor provider).hasKeyboardBacklight
        = senv.env.acpi.validateObject provider "SKBV" := by
  have hframe : StartStatement.OutsideFrame fun d => (d.machineInputs, d.hasKeyboardBacklight) := by
    constructor <;> intros <;> rfl
  obtain ⟨d, hd, hstart⟩ := start_eq_startATKDevice hframe h provider
    (({} : Driver).init true vendor).2
  obtain ⟨hmachine, hbacklight⟩ := startATKDevice_machine senv.env d
  have hdirect : d.directACPImessaging = false := congrArg (fun x => x.1.1) hd
  have hatk : d.atkDevice = some provider := congrArg (fun x => x.1.2) hd
  have hvalid : ∀ name, d.validateObject senv.env .atkDevice name
      = senv.env.acpi.validateObject provider name := by
    intro name
    rw [validateObject, device, hatk]
  rw [hvalid, hdirect, hatk] at hmachine
  rw [hvalid] at hbacklight
  exact ⟨(congrArg Prod.fst hstart).trans hmachine, (congrArg Prod.snd hstart).trans hbacklight⟩

theorem started_panelInputs (senv : StartEnv) (vendor : Option UInt32) (provider : ACPIDevice) :
    (started senv vendor provider).panelInputs = ("", true) := by
  have hframe : StartStatement.RegisterFrame panelInputs := by
    constructor
    · constructor <;> intros <;> rfl
    all_goals intros; rfl
  refine (start_frame hframe ?_ ?_ ?_ ?_ senv provider _).trans rfl <;> intros <;> rfl

end Driver

/-- Notifications that stand for the same code: on the first machine the event is the code,
on the second `_WED` answers the code to the event. -/
inductive SameCode (dev : ACPIDevice) : WMIEvent → WMIEvent → Prop
  | intro {env env' : Env} {code event : UInt32} (husages : env.usages = env'.usages)
      (hpath : env.fromPath = env'.fromPath) (hagain : env.fromPathAgain = env'.fromPathAgain)
      (hwed : env'.acpi.integer dev "_WED" [.number event.toUInt64] = some code) :
      SameCode dev (.op (.message env (.deviceNotification code)))
        (.op (.message env' (.deviceNotification event)))

namespace System

open Driver

variable {dev : ACPIDevice} {s t : System}

/-- The first system is told its codes, the second one evaluates `_WED`. -/
structure SameCodes (dev : ACPIDevice) (s t : System) : Prop where
  direct : s.driver.directACPImessaging = true
  wed : t.driver.directACPImessaging = false
  provider : t.driver.atkDevice = some dev
  panel : s.driver.panelInputs = t.driver.panelInputs

theorem SameCodes.step (h : SameCodes dev s t) {e e' : WMIEvent} (he : SameCode dev e e') :
    s.presses e = t.presses e' ∧ SameCodes dev (s.wmiStep e) (t.wmiStep e') := by
  obtain ⟨husages, hpath, hagain, hwed⟩ := he
  rename_i env env' code event
  -- the one is told the code, the other asks for it
  have hcode : s.driver.eventCode env code = t.driver.eventCode env' event := by
    rw [eventCode, if_pos h.direct, eventCode, h.wed, if_neg Bool.false_ne_true, integerReply,
      device, h.provider]
    simp [hwed]
  obtain ⟨hpress, hpanel⟩ := notification_congr husages hpath hagain hcode h.panel
  have hkept : ∀ (env : Env) m (d : Driver), (d.message env m).2.machineInputs = d.machineInputs :=
    message_frame .machineInputs
  refine ⟨congrArg (fun p => [p]) hpress, ⟨?_, ?_, ?_, hpanel⟩⟩
  · exact (congrArg Prod.fst (hkept env _ s.driver)).trans h.direct
  · exact (congrArg Prod.fst (hkept env' _ t.driver)).trans h.wed
  · exact (congrArg Prod.snd (hkept env' _ t.driver)).trans h.provider

/-- Systems that are one console stay one if they are told the same codes. -/
theorem SameCodes.run {b : Bool} {kev : KernEventServer} {c : Console}
    (h : SameCodes dev s t) (hs : ConsoleRefines b kev s.driver c)
    (ht : ConsoleRefines b kev t.driver c) {es es' : List WMIEvent}
    (hkeys : List.Forall₂ (SameCode dev) (es.filter WMIEvent.isPress)
      (es'.filter WMIEvent.isPress)) :
    (EventSystem.run wmiStep s es).driver.SameConsole (EventSystem.run wmiStep t es').driver := by
  -- each run makes the presses of its notifications, and these correspond
  have htrace : trace wmiStep presses s (es.filter WMIEvent.isPress)
      = trace wmiStep presses t (es'.filter WMIEvent.isPress) :=
    trace_forall₂ (SameCodes dev) (SameCode dev) (fun _ _ _ _ h he => h.step he) h hkeys
  have hall := run_refines_console hs es
  have hall' := run_refines_console ht es'
  rw [trace_presses, htrace] at hall
  rw [trace_presses] at hall'
  exact hall.same hall'

end System

/-- **Direct messages and `_WED` agree.** One machine sends the codes of its keys, the other
one events whose codes `_WED` tells. If the keys pressed are the same, whatever else
happens, a host and the daemon get the same, and the switches stand the same. -/
theorem direct_agrees_with_wed {senv senv' : StartEnv} (vendor : Option UInt32)
    {provider provider' : ACPIDevice} (s s' : System)
    (hsuper : senv.superStart = true) (hsuper' : senv'.superStart = true)
    (hdirect : senv.env.acpi.validateObject provider "DMES" = true)
    (hwed : senv'.env.acpi.validateObject provider' "DMES" = false)
    (hbacklight : senv.env.acpi.validateObject provider "SKBV"
      = senv'.env.acpi.validateObject provider' "SKBV") {es es' : List WMIEvent}
    (hkeys : List.Forall₂ (SameCode provider') (es.filter WMIEvent.isPress)
      (es'.filter WMIEvent.isPress)) :
    (run System.wmiStep { s with driver := Driver.started senv vendor provider }
        es).driver.SameConsole
      (run System.wmiStep { s' with driver := Driver.started senv' vendor provider' }
        es').driver := by
  obtain ⟨hmachine, hkeyboard⟩ := Driver.started_machine hsuper vendor provider
  obtain ⟨hmachine', hkeyboard'⟩ := Driver.started_machine hsuper' vendor provider'
  have hrefines := Driver.started_refines senv vendor provider
  have hrefines' := Driver.started_refines senv' vendor provider'
  -- both start with the panel on and no entry known
  have hpanel := (Driver.started_panelInputs senv vendor provider).trans
    (Driver.started_panelInputs senv' vendor provider').symm
  rw [hkeyboard, hbacklight] at hrefines
  rw [hkeyboard'] at hrefines'
  rw [hdirect] at hmachine
  rw [hwed] at hmachine'
  exact System.SameCodes.run (s := { s with driver := _ }) (t := { s' with driver := _ })
    ⟨congrArg Prod.fst hmachine, congrArg Prod.fst hmachine', congrArg Prod.snd hmachine', hpanel⟩
    hrefines hrefines' hkeys

/-- A machine without a keyboard backlight, whose firmware answers `code` to everything. -/
def StartEnv.answering (code : UInt32) (direct : Bool) : StartEnv :=
  { StartEnv.bare with
    env :=
      { Env.unresponsive with
        acpi :=
          { integer := fun _ _ _ => some code
            object := fun _ _ _ => none
            validateObject := fun _ name => direct && name == "DMES" } } }

/-- A machine that tells the code of its volume key, and one that has to be asked for it. -/
theorem volume_key_agrees :
    (run System.wmiStep
        { driver := Driver.started (.answering 0x30 true) none 0, lksb := Vector.replicate 2 0 }
        [.op (.message (StartEnv.answering 0 true).env (.deviceNotification 0x30)),
          .op .readF0Ac]).driver.SameConsole
      (run System.wmiStep
        { driver := Driver.started (.answering 0x30 false) none 0, lksb := Vector.replicate 2 0 }
        [.op (.tick (StartEnv.answering 0 true).env),
          .op (.message (StartEnv.answering 0x30 false).env (.deviceNotification 0xD))]).driver :=
  direct_agrees_with_wed none { driver := {}, lksb := Vector.replicate 2 0 }
    { driver := {}, lksb := Vector.replicate 2 0 }
    (rfl : (StartEnv.answering 0x30 true).superStart = true)
    (rfl : (StartEnv.answering 0x30 false).superStart = true)
    (rfl : (StartEnv.answering 0x30 true).env.acpi.validateObject 0 "DMES" = true)
    (rfl : (StartEnv.answering 0x30 false).env.acpi.validateObject 0 "DMES" = false) rfl
    (.cons (SameCode.intro rfl rfl rfl rfl) .nil)

end AsusSMC
