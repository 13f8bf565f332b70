import AsusSMC.Model.Console

/-!
# Reports between two messages

Between two messages no key is down (`Idle`), so every dispatch of a message
starts on a free key array and `dispatchReport_of_idle` applies to it. This
module says, code by code, which dispatch a message makes from an idle state
(`dispatchOf`): it posts the taps of that dispatch and no other report, and
leaves the driver idle.

* `displayOff_of_on`, `displayOff_of_off` — the two directions of the panel
  switch, exactly;
* `handleMessage_eq` — what a code does is what its key does;
* `handleMessage_dispatches` — every code;
* `dispatchOf_of_not_panel` — a key other than the panel switch is tapped once,
  and a brightness key only for a brightness code.
-/

namespace AsusSMC

namespace Driver

/-- The state between two messages. -/
structure Idle (d : Driver) : Prop where
  csmr : d.csmrreport = consumerInput
  tc : d.tcreport = appleVendorTopCaseInput
  /-- The saved level is small enough to be a count. -/
  level : d.panelBrightnessLevel.toNat < 2 ^ 26

/-- From `d` to `d'` the driver makes the dispatch `x`, if there is one, and
posts its taps and no other report. -/
def Dispatches (x : Option Dispatch) (d d' : Driver) : Prop :=
  ∃ es, d'.log = d.log ++ es ∧ dispatched es = x.toList ∧ posted es = x.toList.flatMap taps

/-- A dispatch of a hotkey other than the panel switch. -/
structure HotkeyDispatch (code : Int32) (x : Dispatch) : Prop where
  keyByte_ne_zero : keyByte x.code ≠ 0
  loop : x.loop = 1
  /-- Only a brightness code taps a brightness key. -/
  brightness : ¬ IsBrightnessCode code → x.reportId = 3 →
    keyByte x.code ≠ keyByte kHIDUsage_AV_TopCase_BrightnessUp ∧
      keyByte x.code ≠ keyByte kHIDUsage_AV_TopCase_BrightnessDown

variable {x : Option Dispatch} {d d₁ d' : Driver}

theorem Idle.report_keys (h : Idle d) (ch : Channel) : (d.report ch).keys = Keys.new := by
  cases ch with
  | csmr => exact congrArg Report.keys h.csmr
  | tc => exact congrArg Report.keys h.tc

theorem Idle.report_reportId (h : Idle d) (ch : Channel) :
    (d.report ch).reportId = ch.reportId := by
  cases ch with
  | csmr => exact congrArg Report.reportId h.csmr
  | tc => exact congrArg Report.reportId h.tc

/-- What a state needs to share with an idle one. -/
theorem Idle.congr (h : Idle d) (hcsmr : d'.csmrreport = d.csmrreport)
    (htc : d'.tcreport = d.tcreport) (hlevel : d'.panelBrightnessLevel = d.panelBrightnessLevel) :
    Idle d' where
  csmr := hcsmr.trans h.csmr
  tc := htc.trans h.tc
  level := hlevel ▸ h.level

theorem Idle.record (h : Idle d) (es : List Effect) : Idle (d.record es) := h.congr rfl rfl rfl

theorem Idle.setIsPanelBackLightOn (h : Idle d) (v : Bool) : Idle (d.setIsPanelBackLightOn v) :=
  h.congr rfl rfl rfl

/-! ### Taps in the history -/

/-- A step that posts and dispatches nothing. -/
theorem Dispatches.of_quiet {es : List Effect} (hlog : d'.log = d.log ++ es)
    (hpost : posted es = []) (hdisp : dispatched es = []) : Dispatches none d d' :=
  ⟨es, hlog, hdisp, hpost⟩

theorem Dispatches.of_log_eq (hlog : d'.log = d.log) : Dispatches none d d' :=
  .of_quiet (hlog.trans (List.append_nil _).symm) rfl rfl

/-- A step with one dispatch. -/
theorem Dispatches.of_dispatch {es : List Effect} {x : Dispatch} (hlog : d'.log = d.log ++ es)
    (hdisp : dispatched es = [x]) (hpost : posted es = taps x) : Dispatches (some x) d d' :=
  ⟨es, hlog, hdisp, hpost.trans (List.flatMap_singleton _ _).symm⟩

/-- Earlier calls that post and dispatch nothing do not matter. -/
theorem Dispatches.after_quiet {es : List Effect} (hlog : d₁.log = d.log ++ es)
    (hpost : posted es = []) (hdisp : dispatched es = []) (h : Dispatches x d₁ d') :
    Dispatches x d d' := by
  obtain ⟨fs, hfs, hdisp', hpost'⟩ := h
  refine ⟨es ++ fs, by rw [hfs, hlog, List.append_assoc], ?_, ?_⟩
  · rw [dispatched_append, hdisp, List.nil_append, hdisp']
  · rw [posted_append, hpost, List.nil_append, hpost']

/-! ### Broadcasts post nothing -/

section Broadcasts

variable (env : Env)

/-- A broadcast adds consumer calls to the history, and nothing else. -/
theorem dispatchMessage_record (m : KeyboardMessage) (data : Bool) (d : Driver) :
    ∃ es, (d.dispatchMessage env m data).2 = d.record es ∧ posted es = [] ∧
      dispatched es = [] := by
  rw [dispatchMessage]
  cases d.commandGate with
  | none => exact ⟨_, rfl, rfl, rfl⟩
  | some gate =>
    simp only [dispatchMessageGated]
    cases d.notificationServices with
    | none => exact ⟨_, rfl, rfl, rfl⟩
    | some services =>
      dsimp only
      -- one call for each consumer, in the order of the visit
      induction (env.order m).visit services.members generalizing data d with
      | nil => exact ⟨[], (record_nil d).symm, rfl, rfl⟩
      | cons service rest ih =>
        obtain ⟨es, hes, hpost, hdisp⟩ :=
          ih (env.consumer service m data) (d.emit (.consumer service m data))
        refine ⟨.consumer service m data :: es, ?_, hpost, hdisp⟩
        rw [List.foldl_cons, hes, emit_eq_record, record_record, List.singleton_append]

theorem toggleTouchpad_log (d : Driver) :
    ∃ es, (d.toggleTouchpad env).log = d.log ++ es ∧ posted es = [] ∧ dispatched es = [] := by
  obtain ⟨es, hes, hpost, hdisp⟩ :=
    dispatchMessage_record env .kKeyboardGetTouchStatus d.isTouchpadEnabled d
  -- the flag that is set is the one the consumers have left
  generalize hd₁ : d.dispatchTouchpad env .kKeyboardGetTouchStatus = d₁
  have hlog₁ : d₁.log = d.log ++ es := by
    rw [← hd₁, dispatchTouchpad, hes]
    rfl
  obtain ⟨fs, hfs, hpost', hdisp'⟩ :=
    dispatchMessage_record env .kKeyboardSetTouchStatus (!d₁.isTouchpadEnabled)
      (d₁.setIsTouchpadEnabled (!d₁.isTouchpadEnabled))
  refine ⟨es ++ fs, ?_, by rw [posted_append, hpost, hpost']; rfl,
    by rw [dispatched_append, hdisp, hdisp']; rfl⟩
  have hlog : (d.toggleTouchpad env).log = ((d₁.setIsTouchpadEnabled
      (!d₁.isTouchpadEnabled)).dispatchTouchpad env .kKeyboardSetTouchStatus).log := by
    rw [toggleTouchpad, hd₁]
    split <;> rfl
  rw [hlog, dispatchTouchpad, setIsTouchpadEnabled_isTouchpadEnabled, hfs]
  simp [hlog₁]

end Broadcasts

/-! ### The codes, from an idle state -/

section Codes

variable (env : Env)

/-- A dispatch from an idle state leaves everything but the history. -/
theorem dispatchReport_idle (hidle : Idle d) (ch : Channel) {code loop : Int32}
    (hpos : 0 < code.toInt) (hlt : code.toInt < 256) (hloop : 0 ≤ loop.toInt) :
    ∃ es, dispatchReport env ch code loop d = d.record es ∧
      dispatched es = [⟨(d.report ch).reportId, code, loop⟩] ∧
      posted es = taps ⟨(d.report ch).reportId, code, loop⟩ :=
  dispatchReport_of_idle env ch (hidle.report_keys ch) (keyByte_ne_zero hpos hlt) hloop

/-- The touchpad key leaves the reports and the saved level. -/
theorem toggleTouchpad_idle (hidle : Idle d) : Idle (d.toggleTouchpad env) := by
  have hframe : ∀ {τ : Type} (f : Driver → τ), (∀ d e, f (d.emit e) = f d) →
      (∀ d v, f (d.setIsTouchpadEnabled v) = f d) → (∀ d k v, f (d.setProperty k v) = f d) →
      f (d.toggleTouchpad env) = f d := fun f h₁ h₂ h₃ => toggleTouchpad_frame h₁ h₂ h₃ env d
  refine hidle.congr ?_ ?_ ?_ <;>
  · refine hframe _ ?_ ?_ ?_ <;> intros <;> rfl

/-- A code of another key leaves the panel flag and the saved level. -/
theorem handleMessage_of_not_panel {code : Int32} (hcode : ¬ IsPanelCode code) (d : Driver) :
    (d.handleMessage env code).isPanelBackLightOn = d.isPanelBackLightOn ∧
      (d.handleMessage env code).panelBrightnessLevel = d.panelBrightnessLevel := by
  -- neither is touched by a dispatch
  have hdispatch : ∀ ch usage loop,
      (dispatchReport env ch usage loop d).isPanelBackLightOn = d.isPanelBackLightOn ∧
        (dispatchReport env ch usage loop d).panelBrightnessLevel = d.panelBrightnessLevel := by
    intro ch usage loop
    constructor <;> exact dispatchReport_frame (fun _ _ => rfl) (fun _ _ => rfl) (fun _ _ => rfl)
      env ch usage loop d
  generalize hd' : d.handleMessage env code = d'
  have h := handleMessage_handled env code d
  rw [hd'] at h
  cases h with
  | ignored _ => exact ⟨rfl, rfl⟩
  | csmr usage _ _ _ => exact hdispatch .csmr usage 1
  | brightness usage _ _ _ => exact hdispatch .tc usage 1
  | topCase usage _ _ => exact hdispatch .tc usage 1
  | displayOff hpanel => exact absurd hpanel hcode
  | toggleTouchpad _ =>
    constructor <;> exact toggleTouchpad_frame (fun _ _ => rfl) (fun _ _ => rfl)
      (fun _ _ _ => rfl) env d
  | letSleep _ => exact ⟨rfl, rfl⟩
  | toggleALSSensor _ => exact ⟨rfl, rfl⟩
  | toggleAirplaneMode _ => exact ⟨rfl, rfl⟩

/-- Reading the brightness keeps the level small and calls nothing out. -/
theorem readPanelBrightnessValue_idle (hidle : Idle d) :
    Idle (d.readPanelBrightnessValue env) ∧ (d.readPanelBrightnessValue env).log = d.log := by
  have hframe : ∀ {τ : Type} (f : Driver → τ), (∀ d v, f (d.setBacklightEntry v) = f d) →
      (∀ d v, f (d.setPanelBrightnessLevel v) = f d) →
      f (d.readPanelBrightnessValue env) = f d :=
    fun f h h' => readPanelBrightnessValue_frame h h' env d
  have hfound : (d.findBacklightEntry env).2.panelBrightnessLevel = d.panelBrightnessLevel :=
    findBacklightEntry_frame (fun _ _ => rfl) env d
  -- the search assigns the path, and the level is what is read
  refine ⟨⟨?_, ?_, ?_⟩, hframe log (fun _ _ => rfl) fun _ _ => rfl⟩
  · exact (hframe csmrreport (fun _ _ => rfl) fun _ _ => rfl).trans hidle.csmr
  · exact (hframe tcreport (fun _ _ => rfl) fun _ _ => rfl).trans hidle.tc
  · rw [readPanelBrightnessValue]
    split
    · exact hfound ▸ hidle.level
    · split
      · exact hfound ▸ hidle.level
      · next v _ =>
        -- a 32-bit value divided by 64
        have hv := v.toUInt32.toNat_lt
        rw [setPanelBrightnessLevel_panelBrightnessLevel, UInt32.toNat_div]
        exact Nat.div_lt_of_lt_mul hv

/-- **Switching the panel off**: the level is read, then 16 steps down. -/
theorem displayOff_of_on (hidle : Idle d) (hon : d.isPanelBackLightOn = true) :
    ∃ es, d.displayOff env
        = ((d.readPanelBrightnessValue env).record es).setIsPanelBackLightOn false ∧
      dispatched es = [⟨3, kHIDUsage_AV_TopCase_BrightnessDown, 16⟩] ∧
      posted es = taps ⟨3, kHIDUsage_AV_TopCase_BrightnessDown, 16⟩ := by
  obtain ⟨hread, -⟩ := readPanelBrightnessValue_idle env hidle
  have hon' : (d.readPanelBrightnessValue env).isPanelBackLightOn = true :=
    (readPanelBrightnessValue_frame (fun _ _ => rfl) (fun _ _ => rfl) env d).trans hon
  have hid : ((d.readPanelBrightnessValue env).report .tc).reportId = 3 :=
    hread.report_reportId .tc
  obtain ⟨es, hes, hdisp, hpost⟩ := dispatchReport_idle env hread .tc
    (by decide : 0 < kHIDUsage_AV_TopCase_BrightnessDown.toInt) (by decide)
    (by decide : 0 ≤ (16 : Int32).toInt)
  rw [hid] at hdisp hpost
  refine ⟨es, ?_, hdisp, hpost⟩
  simp only [displayOff, hon, if_true, dispatchTCReport, hes, record_isPanelBackLightOn, hon',
    Bool.not_true]

/-- **Switching the panel on**: as many steps up as were saved. -/
theorem displayOff_of_off (hidle : Idle d) (hoff : d.isPanelBackLightOn = false) :
    ∃ es, d.displayOff env = (d.record es).setIsPanelBackLightOn true ∧
      dispatched es = [⟨3, kHIDUsage_AV_TopCase_BrightnessUp, d.panelBrightnessLevel.toInt32⟩] ∧
      posted es = taps ⟨3, kHIDUsage_AV_TopCase_BrightnessUp, d.panelBrightnessLevel.toInt32⟩ := by
  have hlevel := hidle.level
  -- the saved level is small, so the count is not negative as an `int`
  have hcount := Countdown.toInt_toInt32_of_lt (u := d.panelBrightnessLevel) (by omega)
  have hid : (d.report .tc).reportId = 3 := hidle.report_reportId .tc
  obtain ⟨es, hes, hdisp, hpost⟩ := dispatchReport_idle env hidle .tc
    (by decide : 0 < kHIDUsage_AV_TopCase_BrightnessUp.toInt) (by decide)
    (by omega : 0 ≤ d.panelBrightnessLevel.toInt32.toInt)
  rw [hid] at hdisp hpost
  refine ⟨es, ?_, hdisp, hpost⟩
  simp only [displayOff, hoff, Bool.false_eq_true, if_false, dispatchTCReport, hes,
    record_isPanelBackLightOn, Bool.not_false]

/-- The evaluation before a message posts nothing. -/
theorem wedEvaluated_quiet (hidle : Idle d) (event : UInt32) :
    Idle (d.wedEvaluated env event) ∧
      (∃ es, (d.wedEvaluated env event).log = d.log ++ es ∧ posted es = [] ∧ dispatched es = []) ∧
      (d.wedEvaluated env event).isPanelBackLightOn = d.isPanelBackLightOn ∧
      (d.wedEvaluated env event).panelBrightnessLevel = d.panelBrightnessLevel := by
  rw [wedEvaluated]
  split
  · exact ⟨hidle, ⟨[], (List.append_nil _).symm, rfl, rfl⟩, rfl, rfl⟩
  · refine ⟨hidle.congr rfl rfl rfl, ⟨_, rfl, ?_⟩, rfl, rfl⟩
    rw [integerEffect]
    split <;> exact ⟨rfl, rfl⟩

end Codes

end Driver

/-! ### The keys -/

/-- The report a key is tapped on, and its code there. -/
def Hotkey.report (u : ConsumerUsages) : Hotkey → Option (Channel × Int32)
  | volumeUp => some (.csmr, u.kHIDUsage_Csmr_VolumeIncrement)
  | volumeDown => some (.csmr, u.kHIDUsage_Csmr_VolumeDecrement)
  | mute => some (.csmr, u.kHIDUsage_Csmr_Mute)
  | previousTrack => some (.csmr, u.kHIDUsage_Csmr_ScanPreviousTrack)
  | nextTrack => some (.csmr, u.kHIDUsage_Csmr_ScanNextTrack)
  | playOrPause => some (.csmr, u.kHIDUsage_Csmr_PlayOrPause)
  | videoMirror => some (.tc, kHIDUsage_AV_TopCase_VideoMirror)
  | backlightUp => some (.tc, kHIDUsage_AV_TopCase_IlluminationUp)
  | backlightDown => some (.tc, kHIDUsage_AV_TopCase_IlluminationDown)
  | brightnessUp => some (.tc, kHIDUsage_AV_TopCase_BrightnessUp)
  | brightnessDown => some (.tc, kHIDUsage_AV_TopCase_BrightnessDown)
  | _ => none

/-- A branch of another key is not the one taken. -/
theorem Hotkey.eq_some_of_ite {c : Prop} [Decidable c] {key other : Hotkey} {rest : Option Hotkey}
    (hne : other ≠ key) (h : (if c then some other else rest) = some key) : rest = some key := by
  split at h
  · exact absurd (Option.some.inj h) hne
  · exact h

namespace Driver

theorem ofCode_eq_panel_iff (code : Int32) :
    Hotkey.ofCode code = some .panel ↔ IsPanelCode code := by
  constructor
  · intro h
    unfold Hotkey.ofCode at h
    -- six keys are asked for before the panel switch, and nine after it
    iterate 6 replace h := Hotkey.eq_some_of_ite (by decide) h
    by_contra hpanel
    rw [IsPanelCode] at hpanel
    rw [if_neg hpanel] at h
    iterate 9 replace h := Hotkey.eq_some_of_ite (by decide) h
    exact absurd h (by decide)
  · rintro (rfl | rfl | rfl) <;> rfl

/-- The brightness keys have brightness codes. -/
theorem isBrightnessCode_of_ofCode {code : Int32} {key : Hotkey} (h : Hotkey.ofCode code = some key)
    (hkey : key = .brightnessUp ∨ key = .brightnessDown) : IsBrightnessCode code := by
  unfold Hotkey.ofCode at h
  -- the two ranges come last
  rcases hkey with rfl | rfl
  · iterate 14 replace h := Hotkey.eq_some_of_ite (by decide) h
    split at h
    · next hup => exact ⟨hup.1, Int32.le_trans hup.2 (by decide)⟩
    · exact absurd (Hotkey.eq_some_of_ite (by decide) h) (by decide)
  · iterate 15 replace h := Hotkey.eq_some_of_ite (by decide) h
    split at h
    · next hdown => exact ⟨Int32.le_trans (by decide) hdown.1, hdown.2⟩
    · exact absurd h (by decide)

/-- A key whose report is posted once. -/
def tap (env : Env) (d : Driver) (key : Hotkey) : Driver :=
  match key.report env.usages with
  | none => d
  | some r =>
    if key.NeedsBacklight ∧ d.hasKeyboardBacklight = false then d
    else dispatchReport env r.1 r.2 1 d

/-- What the driver does for a key. -/
def perform (env : Env) (d : Driver) (key : Hotkey) : Driver :=
  match key with
  | .panel => d.displayOff env
  | .touchpad => d.toggleTouchpad env
  | .lightSensor => d.toggleALSSensor
  | .sleep => d.letSleep env
  | .airplaneMode => d.toggleAirplaneMode env
  | key => d.tap env key

theorem handleMessage_eq (env : Env) (code : Int32) (d : Driver) :
    d.handleMessage env code
      = match Hotkey.ofCode code with
        | none => d
        | some key => d.perform env key := by
  have hbacklight : ∀ key : Hotkey, key.NeedsBacklight → ∀ d' : Driver,
      (if d.hasKeyboardBacklight then d' else d)
        = if key.NeedsBacklight ∧ d.hasKeyboardBacklight = false then d else d' := by
    intro key hkey d'
    cases d.hasKeyboardBacklight <;> simp [hkey]
  unfold handleMessage
  split
  case h_22 => exact hbacklight .backlightDown (Or.inr rfl) _
  case h_23 => exact hbacklight .backlightUp (Or.inl rfl) _
  case h_24 =>
    have hkey : Hotkey.ofCode code
        = if 0x10 ≤ code ∧ code ≤ 0x1F then some .brightnessUp
          else if 0x20 ≤ code ∧ code ≤ 0x2F then some .brightnessDown
          else none := by
      unfold Hotkey.ofCode
      -- the code is none of those with a branch of their own
      repeat rw [if_neg (by rintro (h | h | h) <;> contradiction)]
    rw [hkey]
    show (if 0x20 ≤ code ∧ code ≤ 0x2F then _ else if 0x10 ≤ code ∧ code ≤ 0x1F then _ else d) = _
    by_cases hdown : 0x20 ≤ code ∧ code ≤ 0x2F
    · -- the two ranges have no code in common
      have hup : ¬ (0x10 ≤ code ∧ code ≤ 0x1F) := fun h =>
        absurd (Int32.le_trans hdown.1 h.2) (by decide)
      rw [if_pos hdown, if_neg hup, if_pos hdown]
      rfl
    · by_cases hup : 0x10 ≤ code ∧ code ≤ 0x1F
      · rw [if_neg hdown, if_pos hup, if_pos hup]
        rfl
      · rw [if_neg hdown, if_neg hup, if_neg hup, if_neg hdown]
  all_goals rfl

/-- The codes are those of a byte. -/
theorem report_byte_sized {key : Hotkey} {u : ConsumerUsages} {r : Channel × Int32}
    (h : key.report u = some r) : 0 < r.2.toInt ∧ r.2.toInt < 256 := by
  have hu := u.byte_sized
  cases key with
  | volumeUp | volumeDown | mute | previousTrack | nextTrack | playOrPause =>
    obtain rfl := Option.some.inj h
    exact hu _ (by simp)
  | videoMirror | backlightUp | backlightDown | brightnessUp | brightnessDown =>
    obtain rfl := Option.some.inj h
    decide
  | _ => exact absurd h (by simp [Hotkey.report])

/-- The other keys of the top case are no brightness keys, and a consumer report has id `2`. -/
theorem report_not_brightness {key : Hotkey} {u : ConsumerUsages} {r : Channel × Int32}
    (h : key.report u = some r) (hid : r.1.reportId = 3) (hup : key ≠ .brightnessUp)
    (hdown : key ≠ .brightnessDown) :
    keyByte r.2 ≠ keyByte kHIDUsage_AV_TopCase_BrightnessUp ∧
      keyByte r.2 ≠ keyByte kHIDUsage_AV_TopCase_BrightnessDown := by
  cases key with
  | volumeUp | volumeDown | mute | previousTrack | nextTrack | playOrPause =>
    obtain rfl := Option.some.inj h
    exact absurd (show (2 : UInt8) = 3 from hid) (by decide)
  | videoMirror | backlightUp | backlightDown =>
    obtain rfl := Option.some.inj h
    decide
  | brightnessUp => exact absurd rfl hup
  | brightnessDown => exact absurd rfl hdown
  | _ => exact absurd h (by simp [Hotkey.report])

/-- The dispatch of the panel switch. -/
def panelDispatch (d : Driver) : Dispatch :=
  if d.isPanelBackLightOn then ⟨3, kHIDUsage_AV_TopCase_BrightnessDown, 16⟩
  else ⟨3, kHIDUsage_AV_TopCase_BrightnessUp, d.panelBrightnessLevel.toInt32⟩

/-- The dispatch of a key that is only tapped. -/
def tapDispatch (env : Env) (d : Driver) (key : Hotkey) : Option Dispatch :=
  if key.NeedsBacklight ∧ d.hasKeyboardBacklight = false then none
  else (key.report env.usages).map fun r => ⟨r.1.reportId, r.2, 1⟩

/-- The dispatch a code leads to, if it leads to one. -/
def dispatchOf (env : Env) (code : Int32) (d : Driver) : Option Dispatch :=
  match Hotkey.ofCode code with
  | none => none
  | some .panel => some d.panelDispatch
  | some key => d.tapDispatch env key

section Keys

variable (env : Env)

/-- The panel switch, in its two directions. -/
theorem displayOff_dispatches (hidle : Idle d) :
    Idle (d.displayOff env) ∧ Dispatches (some d.panelDispatch) d (d.displayOff env) := by
  rw [panelDispatch]
  cases hon : d.isPanelBackLightOn with
  | true =>
    -- going dark: the read comes first and calls nothing out
    obtain ⟨hread, hlog⟩ := readPanelBrightnessValue_idle env hidle
    obtain ⟨es, hes, hdisp, hpost⟩ := displayOff_of_on env hidle hon
    rw [hes]
    refine ⟨(hread.record es).setIsPanelBackLightOn false, .of_dispatch ?_ hdisp hpost⟩
    change (d.readPanelBrightnessValue env).log ++ es = d.log ++ es
    rw [hlog]
  | false =>
    obtain ⟨es, hes, hdisp, hpost⟩ := displayOff_of_off env hidle hon
    rw [hes]
    exact ⟨(hidle.record es).setIsPanelBackLightOn true, .of_dispatch rfl hdisp hpost⟩

/-- A key that is tapped once, or not at all. -/
theorem tap_dispatches (hidle : Idle d) (key : Hotkey) :
    Idle (d.tap env key) ∧ Dispatches (d.tapDispatch env key) d (d.tap env key) := by
  rw [tap, tapDispatch]
  cases hr : key.report env.usages with
  | none =>
    rw [Option.map_none, ite_self]
    exact ⟨hidle, .of_log_eq rfl⟩
  | some r =>
    dsimp only
    split
    · exact ⟨hidle, .of_log_eq rfl⟩
    · obtain ⟨hpos, hlt⟩ := report_byte_sized hr
      obtain ⟨es, hes, hdisp, hpost⟩ :=
        dispatchReport_idle env hidle r.1 hpos hlt (by decide : 0 ≤ (1 : Int32).toInt)
      rw [hidle.report_reportId] at hdisp hpost
      rw [hes]
      exact ⟨hidle.record es, .of_dispatch rfl hdisp hpost⟩

/-- **Any code**, from an idle state: the dispatch it leads to, and no other. -/
theorem handleMessage_dispatches (hidle : Idle d) (code : Int32) :
    Idle (d.handleMessage env code) ∧
      Dispatches (d.dispatchOf env code) d (d.handleMessage env code) := by
  rw [handleMessage_eq, dispatchOf]
  cases Hotkey.ofCode code with
  | none => exact ⟨hidle, .of_log_eq rfl⟩
  | some key =>
    have htap := tap_dispatches env hidle key
    cases key with
    | panel => exact displayOff_dispatches env hidle
    | touchpad =>
      obtain ⟨es, hlog, hpost, hdisp⟩ := toggleTouchpad_log env d
      exact ⟨toggleTouchpad_idle env hidle, .of_quiet hlog hpost hdisp⟩
    | lightSensor => exact ⟨hidle.congr rfl rfl rfl, .of_log_eq rfl⟩
    | sleep | airplaneMode => exact ⟨hidle.congr rfl rfl rfl, .of_quiet rfl rfl rfl⟩
    | _ => exact htap

/-- The panel codes are those of the panel switch. -/
theorem dispatchOf_of_panel {code : Int32} (hcode : IsPanelCode code) (d : Driver) :
    dispatchOf env code d = some d.panelDispatch := by
  rw [dispatchOf, (ofCode_eq_panel_iff code).mpr hcode]

theorem mem_tapDispatch {key : Hotkey} {x : Dispatch} (hx : x ∈ tapDispatch env d key) :
    ∃ r, key.report env.usages = some r ∧ x = ⟨r.1.reportId, r.2, 1⟩ := by
  rw [tapDispatch] at hx
  split at hx
  · exact absurd hx (by simp)
  · obtain ⟨r, hr, hrx⟩ := Option.map_eq_some_iff.mp hx
    exact ⟨r, hr, hrx.symm⟩

/-- **A key other than the panel switch** is tapped once, if at all. -/
theorem dispatchOf_of_not_panel {code : Int32} (hcode : ¬ IsPanelCode code) {x : Dispatch}
    (hx : x ∈ dispatchOf env code d) : HotkeyDispatch code x := by
  rw [dispatchOf] at hx
  split at hx
  · exact absurd hx (by simp)
  · next hkey => exact absurd ((ofCode_eq_panel_iff code).mp hkey) hcode
  · next key _ hkey =>
    obtain ⟨r, hr, rfl⟩ := mem_tapDispatch env hx
    obtain ⟨hpos, hlt⟩ := report_byte_sized hr
    refine ⟨keyByte_ne_zero hpos hlt, rfl, fun hdark hid => ?_⟩
    refine report_not_brightness hr hid ?_ ?_
    · rintro rfl
      exact hdark (isBrightnessCode_of_ofCode hkey (Or.inl rfl))
    · rintro rfl
      exact hdark (isBrightnessCode_of_ofCode hkey (Or.inr rfl))

end Keys

end Driver

/-- A machine that answers nothing but the brightness of the panel. -/
def Env.brightness (value : UInt64) : Env :=
  { Env.unresponsive with
    fromPath := fun _ => some fun _ => none
    fromPathAgain := fun _ => some fun _ => some (.dictionary fun _ => some (.dictionary fun _ =>
      some (.number value))) }

end AsusSMC
