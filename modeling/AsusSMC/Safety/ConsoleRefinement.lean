import AsusSMC.Framework.TraceRefinement
import AsusSMC.Model.History
import AsusSMC.Safety.HostKeys
import AsusSMC.Safety.Reports
import AsusSMC.Safety.WMINames

/-!
# The driver is a console

From `start` on, whatever the driver is entered by, a host that receives its reports and a
daemon that receives its messages see what a `Console` does for the presses of the run,
and the two switches stand as there (`driver_refines_console`).

`ConsoleRefines` relates the two. It is `Idle` that makes it an invariant: no key is down
between two entries, so a dispatch is taps and nothing else (`dispatchReport_refines`),
and the saved level is small enough to be a count. An entry that posts no report and
sends no message is no step of the console (`ConsoleRefines.of_quiet`).
-/

namespace AsusSMC

open ReportDescriptor EventSystem TraceRefinement

/-! ### What host and daemon get of a history -/

/-- An effect that neither of them hears of. -/
def Quiet : Effect → Prop
  | .post _ _ => False
  | .kevMsgPost _ _ => False
  | _ => True

theorem hostOf_append (es fs : List Effect) :
    hostOf (es ++ fs)
      = ((posted fs).map Report.toBytes).foldl (Host.receive keyboardFields) (hostOf es) := by
  rw [hostOf, posted_append, List.map_append, List.foldl_append]
  rfl

theorem kevMsgs_append (es fs : List Effect) : kevMsgs (es ++ fs) = kevMsgs es ++ kevMsgs fs :=
  List.filterMap_append

/-- A tap, as often as it is made: the host gets a key that goes down and up, and holds
what it held. -/
theorem receive_taps (ch : Channel) {code : Int32} (hcode : keyByte code ≠ 0) (n : ℕ) {h : Host}
    (hheld : h.held ch.reportId = []) :
    ((List.replicate n (tap ch.reportId code)).flatten.map Report.toBytes).foldl
        (Host.receive keyboardFields) h
      = { h with events :=
            h.events ++ (ConsoleAction.tap (ch.usage (keyByte code)) n).keyEvents } := by
  have hpress := decode_single ch hcode
  generalize ch.usage (keyByte code) = u at hpress ⊢
  induction n generalizing h with
  | zero => simp [ConsoleAction.keyEvents]
  | succ n ih =>
    have htap : ((tap ch.reportId code).map Report.toBytes).foldl (Host.receive keyboardFields) h
        = { h with events := h.events ++ [.down u, .up u] } :=
      Host.receive_tap hheld hpress (decode_new ch)
    rw [List.replicate_succ, List.flatten_cons, List.map_append, List.foldl_append, htap]
    refine (ih (h := { h with events := h.events ++ [.down u, .up u] }) hheld).trans ?_
    simp [ConsoleAction.keyEvents, List.replicate_succ, List.append_assoc]

/-- A code that fits a byte is tapped as it is. -/
theorem usage_keyByte (ch : Channel) {code : Int32} (hpos : 0 < code.toInt)
    (hlt : code.toInt < 256) : ch.usage (keyByte code) = ⟨ch.page, code.toInt.toNat⟩ := by
  have hcond : code.toInt = if 2 * code.toUInt32.toNat < 2 ^ 32
      then (code.toUInt32.toNat : Int) else code.toUInt32.toNat - (2 ^ 32 : ℕ) :=
    BitVec.toInt_eq_toNat_cond _
  have hbyte : (keyByte code).toNat = code.toUInt32.toNat % 256 := by simp [keyByte]
  have hcode : (keyByte code).toNat = code.toInt.toNat := by
    split at hcond <;> omega
  rw [Channel.usage, hcode]

namespace Driver

variable {d d' : Driver}

/-- Nor does anybody hear of what the firmware is asked. -/
theorem evaluationEffects_quiet : EvaluationEffects Quiet where
  integer _ _ _ _ := trivial
  object _ _ _ := trivial
  nullCall _ := trivial

theorem Grows.quiet (h : Grows Quiet d d') :
    hostOf d'.log = hostOf d.log ∧ kevMsgs d'.log = kevMsgs d.log := by
  obtain ⟨es, hes, hquiet⟩ := h
  have hposted : posted es = [] := by
    refine List.filterMap_eq_nil_iff.mpr fun e he => ?_
    cases e with
    | post r result => exact (hquiet _ he).elim
    | _ => rfl
  have hmsgs : kevMsgs es = [] := by
    refine List.filterMap_eq_nil_iff.mpr fun e he => ?_
    cases e with
    | kevMsgPost msg posted => exact (hquiet _ he).elim
    | _ => rfl
  rw [hes, hostOf_append, kevMsgs_append, hposted, hmsgs]
  exact ⟨rfl, List.append_nil _⟩

/-- What the console is read off, besides the history. -/
def consoleFields (d : Driver) :
    (Report × Report) × (Bool × Bool × UInt32) × Bool × KernEventServer :=
  ((d.csmrreport, d.tcreport), (d.isALSEnabled, d.isPanelBackLightOn, d.panelBrightnessLevel),
    d.hasKeyboardBacklight, d.kev)

/-- `d` has done what `c` has. -/
structure ConsoleRefines (backlight : Bool) (server : KernEventServer) (d : Driver) (c : Console) :
    Prop where
  idle : Idle d
  backlight : d.hasKeyboardBacklight = backlight
  kev : d.kev = server
  lightSensor : d.isALSEnabled = c.lightSensor
  panelOn : d.isPanelBackLightOn = c.panelOn
  level : d.panelBrightnessLevel = c.level
  /-- No key is down, and the keys that were are those of the actions. -/
  host : hostOf d.log = { events := c.actions.flatMap ConsoleAction.keyEvents }
  messages : kevMsgs d.log
    = (c.actions.filterMap ConsoleAction.messageType).map (server.sendMessage · 0 0)

namespace ConsoleRefines

variable {b : Bool} {kev : KernEventServer} {c : Console}

/-- A step that nobody hears of. -/
theorem of_quiet (h : ConsoleRefines b kev d c) (hgrows : Grows Quiet d d')
    (hfields : d'.consoleFields = d.consoleFields) : ConsoleRefines b kev d' c := by
  obtain ⟨⟨hcsmr, htc⟩, ⟨hals, hpanel, hlevel⟩, hbacklight, hkev⟩ :=
    by simpa [consoleFields] using hfields
  obtain ⟨hhost, hmsgs⟩ := hgrows.quiet
  exact
    { idle := h.idle.congr hcsmr htc hlevel
      backlight := hbacklight.trans h.backlight
      kev := hkev.trans h.kev
      lightSensor := hals.trans h.lightSensor
      panelOn := hpanel.trans h.panelOn
      level := hlevel.trans h.level
      host := hhost.trans h.host
      messages := hmsgs.trans h.messages }

/-- A step that changes the console's own fields the way the console does. -/
theorem setIsALSEnabled (h : ConsoleRefines b kev d c) (v : Bool) :
    ConsoleRefines b kev (d.setIsALSEnabled v) { c with lightSensor := v } :=
  { h with lightSensor := rfl, idle := h.idle.congr rfl rfl rfl }

theorem setIsPanelBackLightOn (h : ConsoleRefines b kev d c) (v : Bool) :
    ConsoleRefines b kev (d.setIsPanelBackLightOn v) { c with panelOn := v } :=
  { h with panelOn := rfl, idle := h.idle.setIsPanelBackLightOn v }

/-- A message. -/
theorem sendMessage_refines (h : ConsoleRefines b kev d c) (env : Env) (type : Int32) :
    ConsoleRefines b kev (d.sendMessage env type 0 0).2 (c.act (.message type)) where
  idle := h.idle.congr rfl rfl rfl
  backlight := h.backlight
  kev := h.kev
  lightSensor := h.lightSensor
  panelOn := h.panelOn
  level := h.level
  host := by
    rw [sendMessage, emit_log, hostOf_append, h.host, Console.act]
    simp [posted, ConsoleAction.keyEvents]
  messages := by
    rw [sendMessage, emit_log, kevMsgs_append, h.messages, h.kev, Console.act]
    simp [kevMsgs, ConsoleAction.messageType]

/-- **A dispatch** is taps of one usage. -/
theorem dispatchReport_refines (h : ConsoleRefines b kev d c) (env : Env) (ch : Channel)
    {code loop : Int32} (hpos : 0 < code.toInt) (hlt : code.toInt < 256) (hloop : 0 ≤ loop.toInt) :
    ConsoleRefines b kev (dispatchReport env ch code loop d)
      (c.act (.tap (ch.usage (keyByte code)) loop.toInt.toNat)) := by
  obtain ⟨es, hes, -, hpost⟩ := dispatchReport_idle env h.idle ch hpos hlt hloop
  -- the host holds nothing, so every press is a key going down
  have hheld : (hostOf d.log).held ch.reportId = [] := by rw [h.host]
  -- the messages are as before, for a dispatch sends none
  have hmsgs : kevMsgs (dispatchReport env ch code loop d).log = kevMsgs d.log :=
    Grows.filterMap_eq (dispatchReport_grows ⟨fun _ _ _ => rfl, fun _ _ => rfl⟩ env ch code loop d)
  rw [hes] at hmsgs ⊢
  exact
    { idle := h.idle.record es
      backlight := h.backlight
      kev := h.kev
      lightSensor := h.lightSensor
      panelOn := h.panelOn
      level := h.level
      host := by
        rw [record_log, hostOf_append, hpost, h.idle.report_reportId, taps,
          receive_taps ch (keyByte_ne_zero hpos hlt) _ hheld, h.host, Console.act]
        simp
      messages := by
        rw [hmsgs, h.messages, Console.act]
        simp [ConsoleAction.messageType] }

/-- Reading the brightness of the panel. -/
theorem readPanelBrightnessValue_refines (h : ConsoleRefines b kev d c) (env : Env) :
    ConsoleRefines b kev (d.readPanelBrightnessValue env)
      { c with level := (d.panelReading env).getD c.level } := by
  obtain ⟨hidle, hlog⟩ := readPanelBrightnessValue_idle env h.idle
  have hframe : ∀ {τ : Type} (f : Driver → τ), (∀ d v, f (d.setBacklightEntry v) = f d) →
      (∀ d v, f (d.setPanelBrightnessLevel v) = f d) →
      f (d.readPanelBrightnessValue env) = f d :=
    fun f h h' => readPanelBrightnessValue_frame h h' env d
  -- a read that fails anywhere leaves the level, as the console does without a reading
  have hlevel : (d.readPanelBrightnessValue env).panelBrightnessLevel
      = (d.panelReading env).getD d.panelBrightnessLevel := by
    have hfound : (d.findBacklightEntry env).2.panelBrightnessLevel = d.panelBrightnessLevel :=
      findBacklightEntry_frame (fun _ _ => rfl) env d
    rw [readPanelBrightnessValue, panelReading]
    cases (d.findBacklightEntry env).1 with
    | false => exact hfound
    | true =>
      simp only [Bool.not_true, Bool.false_eq_true, if_false, if_true]
      cases (env.fromPathAgain (d.findBacklightEntry env).2.backlightEntry).bind
        brightnessValue with
      | none => exact hfound
      | some v => rfl
  exact
    { idle := hidle
      backlight := (hframe hasKeyboardBacklight (fun _ _ => rfl) fun _ _ => rfl).trans h.backlight
      kev := (hframe Driver.kev (fun _ _ => rfl) fun _ _ => rfl).trans h.kev
      lightSensor := (hframe isALSEnabled (fun _ _ => rfl) fun _ _ => rfl).trans h.lightSensor
      panelOn := (hframe isPanelBackLightOn (fun _ _ => rfl) fun _ _ => rfl).trans h.panelOn
      level := by rw [hlevel, h.level]
      host := by rw [hlog]; exact h.host
      messages := by rw [hlog]; exact h.messages }

/-- **The panel switch.** -/
theorem displayOff_refines (h : ConsoleRefines b kev d c) (env : Env) :
    ConsoleRefines b kev (d.displayOff env) (c.switchPanel (d.panelReading env)) := by
  have hcount : d.panelBrightnessLevel.toInt32.toInt = d.panelBrightnessLevel.toNat :=
    Countdown.toInt_toInt32_of_lt (by have := h.idle.level; omega)
  rw [displayOff, Console.switchPanel, ← h.panelOn]
  cases hon : d.isPanelBackLightOn with
  | true =>
    -- sixteen steps down, whatever the level is
    have hdown := (h.readPanelBrightnessValue_refines env).dispatchReport_refines env .tc
      (by decide : 0 < kHIDUsage_AV_TopCase_BrightnessDown.toInt) (by decide)
      (by decide : 0 ≤ (16 : Int32).toInt)
    have hstill := hdown.panelOn.trans (h.panelOn.symm.trans hon)
    have hswitched := hdown.setIsPanelBackLightOn false
    simp only [if_true, dispatchTCReport, hstill]
    exact hswitched
  | false =>
    -- as many steps up as the level says, which the conversion to `int` keeps
    have hup := h.dispatchReport_refines env .tc
      (by decide : 0 < kHIDUsage_AV_TopCase_BrightnessUp.toInt) (by decide)
      (by omega : 0 ≤ d.panelBrightnessLevel.toInt32.toInt)
    have hstill := hup.panelOn.trans (h.panelOn.symm.trans hon)
    have hswitched := hup.setIsPanelBackLightOn true
    simp only [Bool.false_eq_true, if_false, dispatchTCReport, hstill]
    rw [hcount, Int.toNat_natCast, h.level] at hswitched
    rw [h.level]
    exact hswitched

/-- The touchpad key is for the consumers. -/
theorem toggleTouchpad_refines (h : ConsoleRefines b kev d c) (env : Env) :
    ConsoleRefines b kev (d.toggleTouchpad env) c := by
  refine h.of_quiet ?_ ?_
  · exact toggleTouchpad_grows (fun _ _ _ _ => trivial) env (fun _ => trivial) fun _ => trivial
  · refine toggleTouchpad_frame ?_ ?_ ?_ env d <;> intros <;> rfl

end ConsoleRefines

/-! ### A hotkey -/

section Press

variable {b : Bool} {kev : KernEventServer} {c : Console} (env : Env)

/-- What a key taps is the usage of its report's code. -/
theorem tapped_eq (key : Hotkey) (u : ConsumerUsages) :
    key.tapped u = (key.report u).map fun r => ⟨r.1.page, r.2.toInt.toNat⟩ := by
  cases key <;> rfl

/-- A key that taps. -/
theorem tap_refines (h : ConsoleRefines b kev d c) (key : Hotkey) :
    ConsoleRefines b kev (d.tap env key) (c.tap b env.usages key) := by
  rw [Driver.tap, Console.tap, tapped_eq, h.backlight]
  cases hr : key.report env.usages with
  | none => exact h
  | some r =>
    obtain ⟨hpos, hlt⟩ := report_byte_sized hr
    simp only [Option.map_some]
    split
    · exact h
    · have hone := h.dispatchReport_refines env r.1 hpos hlt (by decide : 0 ≤ (1 : Int32).toInt)
      rw [usage_keyByte r.1 hpos hlt] at hone
      exact hone

/-- **A key.** -/
theorem perform_refines (h : ConsoleRefines b kev d c) (p : Press) (husages : p.usages = env.usages)
    (hlevel : p.level = d.panelReading env) (key : Hotkey) :
    ConsoleRefines b kev (d.perform env key) (c.perform b p key) := by
  have htap : ConsoleRefines b kev (d.tap env key) (c.tap b p.usages key) := by
    rw [husages]
    exact tap_refines env h key
  cases key with
  | panel =>
    show ConsoleRefines b kev (d.displayOff env) (c.switchPanel p.level)
    rw [hlevel]
    exact h.displayOff_refines env
  | touchpad => exact h.toggleTouchpad_refines env
  | lightSensor =>
    show ConsoleRefines b kev d.toggleALSSensor { c with lightSensor := !c.lightSensor }
    rw [toggleALSSensor, h.lightSensor]
    -- the property of the registry is not the host's
    exact (h.setIsALSEnabled _).of_quiet (.of_log_eq rfl) rfl
  | sleep => exact h.sendMessage_refines env _
  | airplaneMode => exact h.sendMessage_refines env _
  | _ => exact htap

/-- **A press.** -/
theorem handleMessage_refines (h : ConsoleRefines b kev d c) (p : Press)
    (husages : p.usages = env.usages) (hlevel : p.level = d.panelReading env) :
    ConsoleRefines b kev (d.handleMessage env p.code) (c.press b p) := by
  rw [handleMessage_eq, Console.press]
  cases Hotkey.ofCode p.code with
  | none => exact h
  | some key => exact perform_refines env h p husages hlevel key

/-- The evaluation of `_WED` is no step of the console, and does not change what the
driver reads. -/
theorem wedEvaluated_refines (h : ConsoleRefines b kev d c) (event : UInt32) :
    ConsoleRefines b kev (d.wedEvaluated env event) c ∧
      (d.wedEvaluated env event).panelReading env = d.panelReading env := by
  rw [wedEvaluated]
  split
  · exact ⟨h, rfl⟩
  · refine ⟨h.of_quiet (grows_emit (evaluationEffects_quiet.integerEffect env d _ _ _)) rfl, ?_⟩
    rw [panelReading, panelReading, findBacklightEntry_eq, findBacklightEntry_eq]
    rfl

theorem notification_refines (h : ConsoleRefines b kev d c) (event : UInt32) :
    ConsoleRefines b kev (d.message env (.deviceNotification event)).2
      (c.press b ⟨env.usages, d.eventCode env event, d.panelReading env⟩) := by
  obtain ⟨hwed, hreading⟩ := wedEvaluated_refines env h event
  rw [message_deviceNotification]
  exact handleMessage_refines env hwed ⟨env.usages, d.eventCode env event, d.panelReading env⟩ rfl
    hreading.symm

end Press

end Driver

/-! ### The other events -/

namespace WMIEvent

/-- A notification of the device. -/
def isPress : WMIEvent → Bool
  | .op (.message _ (.deviceNotification _)) => true
  | _ => false

end WMIEvent

namespace System

open Driver

/-- The presses of an event. -/
def presses (s : System) : WMIEvent → List Press
  | .op op => s.press op
  | _ => []

/-- `f` does not look at what an event assigns that is no press. -/
structure QuietFrame {τ : Type*} (f : Driver → τ) : Prop where
  emit : ∀ d e, f (d.emit e) = f d
  setProperty : ∀ d k v, f (d.setProperty k v) = f d
  setCurrentLux : ∀ d v, f (d.setCurrentLux v) = f d
  setCurrentFanSpeed : ∀ d v, f (d.setCurrentFanSpeed v) = f d
  setForceBits : ∀ d v, f (d.setForceBits v) = f d
  setNotificationServices : ∀ d v, f (d.setNotificationServices v) = f d
  setPoller : ∀ d v, f (d.setPoller v) = f d
  setWorkloop : ∀ d v, f (d.setWorkloop v) = f d

variable {e : WMIEvent} (s : System) (he : e.isPress = false)

include he

theorem presses_of_not_press : s.presses e = [] := by
  cases e with
  | op op =>
    cases op with
    | message env m =>
      cases m with
      | deviceNotification event => exact Bool.noConfusion he
      | _ => rfl
    | _ => rfl
  | _ => rfl

/-- An event that is no press posts no report and sends no message. -/
theorem wmiStep_quiet : Grows Quiet s.driver (s.wmiStep e).driver := by
  have hbacklight : ∀ env tval,
      Grows Quiet s.driver (s.driver.message env (.setKeyboardBacklight tval)).2 := by
    intro env tval
    rw [message]
    split
    · exact grows_emit (evaluationEffects_quiet.objectEffect _ _ _ _)
    · exact .refl _
  cases e with
  | op op =>
    cases op with
    | message env m =>
      cases m with
      | deviceNotification event => exact Bool.noConfusion he
      | setKeyboardBacklight tval => exact hbacklight env tval
      | other type => exact .refl _
    | tick env =>
      exact fire_grows env (fun _ => evaluationEffects_quiet.integerEffect env _ _ _ _) trivial
        (evaluationEffects_quiet.fanEffect env _)
    | notification service notifier =>
      exact notificationHandler_grows (fun _ => trivial) (fun _ => trivial) service notifier
    | writeAL src => exact .of_log_eq rfl
    | writeLKSB env src => exact hbacklight env _
    | writeBDVT env src =>
      -- the firmware is asked, the host and the daemon are not told
      show Grows Quiet s.driver (System.step s (.writeBDVT env src)).driver
      rw [step]
      split
      · exact toggleBatteryConservativeMode_grows env _ fun _ =>
          evaluationEffects_quiet.wmiEffect env _ _ _ _
      · exact .refl _
    | readALV0 | writeALV0 src | readF0Ac => exact .refl _
  | toggleALS env state =>
    exact wmiEvaluateMethod_grows env (evaluationEffects_quiet.wmiEffect env _ _ _ _)
  | vsmcPublished venv =>
    exact vsmcNotificationHandler_grows (fun _ _ => trivial) venv fun _ => trivial

/-- **Frame.** -/
theorem wmiStep_quietFrame {τ : Type*} {f : Driver → τ} (hf : QuietFrame f) :
    f (s.wmiStep e).driver = f s.driver := by
  have hbacklight : ∀ env tval,
      f (s.driver.message env (.setKeyboardBacklight tval)).2 = f s.driver := by
    intro env tval
    rw [message]
    split
    · exact hf.emit _ _
    · rfl
  cases e with
  | op op =>
    cases op with
    | message env m =>
      cases m with
      | deviceNotification event => exact Bool.noConfusion he
      | setKeyboardBacklight tval => exact hbacklight env tval
      | other type => rfl
    | tick env =>
      exact fire_frame hf.emit hf.setCurrentLux hf.setCurrentFanSpeed hf.setPoller env s.driver
    | notification service notifier =>
      exact notificationHandler_frame hf.emit hf.setNotificationServices service notifier s.driver
    | writeAL src => exact hf.setForceBits s.driver src
    | writeLKSB env src => exact hbacklight env _
    | writeBDVT env src =>
      show f (System.step s (.writeBDVT env src)).driver = f s.driver
      rw [step]
      split
      · exact toggleBatteryConservativeMode_frame hf.emit hf.setProperty env _ s.driver
      · rfl
    | readALV0 | writeALV0 src | readF0Ac => rfl
  | toggleALS env state => exact wmiEvaluateMethod_frame hf.emit env _ _ _ s.driver
  | vsmcPublished venv =>
    exact vsmcNotificationHandler_frame venv s.driver hf.emit hf.setWorkloop hf.setPoller

end System

/-! ### Runs -/

namespace System

open Driver

theorem quietFrame_consoleFields : QuietFrame consoleFields := by
  constructor <;> intros <;> rfl

/-- **Step lemma**: an event is the presses it stands for. -/
theorem wmiStep_refines {s : System} {b : Bool} {kev : KernEventServer} {c : Console}
    (h : ConsoleRefines b kev s.driver c) (e : WMIEvent) :
    ConsoleRefines b kev (s.wmiStep e).driver (run (Console.press b) c (s.presses e)) := by
  cases he : e.isPress with
  | false =>
    rw [presses_of_not_press s he]
    exact h.of_quiet (wmiStep_quiet s he) (wmiStep_quietFrame s he quietFrame_consoleFields)
  | true =>
    match e, he with
    | .op (.message env (.deviceNotification event)), _ => exact notification_refines env h event

/-- **Run lemma.** -/
theorem run_refines_console {s : System} {b : Bool} {kev : KernEventServer} {c : Console}
    (h : ConsoleRefines b kev s.driver c) (es : List WMIEvent) :
    ConsoleRefines b kev (run wmiStep s es).driver
      (run (Console.press b) c (trace wmiStep presses s es)) :=
  run_refines (fun (s : System) c => ConsoleRefines b kev s.driver c)
    (fun _ _ e h => wmiStep_refines h e) h es

end System

namespace Driver

/-- What of the console `start` leaves as it is. -/
def keptFields (d : Driver) : (Report × Report) × (Bool × UInt32) × KernEventServer :=
  ((d.csmrreport, d.tcreport), (d.isPanelBackLightOn, d.panelBrightnessLevel), d.kev)

theorem registerFrame_keptFields : StartStatement.RegisterFrame keptFields := by
  constructor
  · constructor <;> intros <;> rfl
  all_goals intros; rfl

theorem outsideFrame_isALSEnabled : StartStatement.OutsideFrame isALSEnabled := by
  constructor <;> intros <;> rfl

/-- The light sensor is switched on from the first, and `startATKDevice` switches it on. -/
theorem started_isALSEnabled (senv : StartEnv) (vendor : Option UInt32) (provider : ACPIDevice) :
    (started senv vendor provider).isALSEnabled = true := by
  rw [started]
  cases hsuper : senv.superStart with
  | false =>
    -- `start` returns at once, and the member is as constructed
    rw [start, hsuper]
    rfl
  | true =>
    obtain ⟨d, -, hstart⟩ := start_eq_startATKDevice outsideFrame_isALSEnabled hsuper provider
      (({} : Driver).init true vendor).2
    exact hstart

/-- **A started driver** is a fresh console. -/
theorem started_refines (senv : StartEnv) (vendor : Option UInt32) (provider : ACPIDevice) :
    ConsoleRefines (started senv vendor provider).hasKeyboardBacklight
      (({} : Driver).init true vendor).2.kev (started senv vendor provider) {} := by
  have hkept : (started senv vendor provider).keptFields
      = (({} : Driver).init true vendor).2.keptFields := by
    refine start_frame registerFrame_keptFields ?_ ?_ ?_ ?_ senv provider _ <;> intros <;> rfl
  obtain ⟨⟨hcsmr, htc⟩, ⟨hpanel, hlevel⟩, hkev⟩ := by simpa [keptFields] using hkept
  -- `start` presses no key and sends no message
  have hgrows : Grows Quiet (({} : Driver).init true vendor).2 (started senv vendor provider) := by
    refine start_grows ?_ ?_ ?_ ?_ provider _
    · exact fun _ _ => trivial
    · exact fun _ => trivial
    · exact fun _ => trivial
    · exact evaluationEffects_quiet.start senv.env
  obtain ⟨hhost, hmsgs⟩ := hgrows.quiet
  exact
    { idle := ⟨hcsmr, htc, hlevel ▸ (by decide : (16 : UInt32).toNat < 2 ^ 26)⟩
      backlight := rfl
      kev := hkev
      lightSensor := started_isALSEnabled senv vendor provider
      panelOn := hpanel
      level := hlevel
      host := hhost
      messages := hmsgs }

end Driver

/-- **The driver is a console.** Whatever the calls of `start` return, and whatever the
driver is entered by afterwards, it is a console that has made the presses of the run. The
key events a host makes of the reports are those of the console's taps, and no key is left
down; the messages are the console's, in order; and the light sensor, the panel and the
saved level are as they are there. -/
theorem driver_refines_console (senv : StartEnv) (vendor : Option UInt32) (provider : ACPIDevice)
    (s : System) (es : List WMIEvent) :
    let d := Driver.started senv vendor provider
    Driver.ConsoleRefines d.hasKeyboardBacklight (({} : Driver).init true vendor).2.kev
      (run System.wmiStep { s with driver := d } es).driver
      (run (Console.press d.hasKeyboardBacklight) {}
        (trace System.wmiStep System.presses { s with driver := d } es)) :=
  System.run_refines_console (Driver.started_refines senv vendor provider) es

end AsusSMC
