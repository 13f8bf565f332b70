import AsusSMC.Framework.EventSystem
import AsusSMC.Safety.Reports

/-!
# Display off and on

The panel switch saves the brightness in steps of 64, taps the panel dark, and
taps the saved number of steps up again. Around the driver stands a panel that
moves one step with every brightness key pressed, clamped to `0..1024`
(`PanelWorld`), and a registry that tells its value.

`Dark` is the invariant while the panel is off: the panel is at `0` and the
saved level is the value before the switch-off in whole steps. Sixteen steps
down reach `0` from anywhere, and a saved level of at most sixteen steps up is
never clamped, so nothing but the fraction of a step is lost, and a value that
is a whole number of steps loses nothing (`display_restored`).
-/

namespace AsusSMC

open EventSystem

/-- The driver, the brightness of the panel, and the brightness just before the
most recent switch-off. -/
structure PanelWorld where
  driver : Driver
  panel : ℕ
  beforeOff : ℕ

/-- A device notification, or a change of the brightness from elsewhere. -/
inductive PanelEvent
  | hotkey (env : Env) (event : UInt32)
  | external (value : ℕ)

/-- What the panel does on a report. -/
def press (b : ℕ) (r : Report) : ℕ :=
  if r.reportId = 3 then
    if r.keys.existsKey (keyByte kHIDUsage_AV_TopCase_BrightnessUp) then min 1024 (b + 64)
    else if r.keys.existsKey (keyByte kHIDUsage_AV_TopCase_BrightnessDown) then b - 64
    else b
  else b

namespace Driver

/-- The value `readPanelBrightnessValue` reads, if it gets that far. -/
def brightnessRead (env : Env) (d : Driver) : Option UInt64 :=
  if (d.findBacklightEntry env).1 then
    (env.fromPathAgain (d.findBacklightEntry env).2.backlightEntry).bind brightnessValue
  else none

end Driver

namespace PanelWorld

open Driver

/-- One event. -/
def step (w : PanelWorld) : PanelEvent → PanelWorld
  | .hotkey env event =>
    let driver := w.driver.notify (env, event)
    { driver := driver
      panel := (posted (driver.log.drop w.driver.log.length)).foldl press w.panel
      beforeOff :=
        if w.driver.isPanelBackLightOn && !driver.isPanelBackLightOn then w.panel
        else w.beforeOff }
  | .external value => { w with panel := value }

/-- The events considered: brightness keys and changes from elsewhere only while
the panel is on, and a registry that tells the panel's value when it is asked. -/
def Allowed (w : PanelWorld) : PanelEvent → Prop
  | .hotkey env event =>
    (IsBrightnessCode (w.driver.eventCode env event) → w.driver.isPanelBackLightOn = true) ∧
      (IsPanelCode (w.driver.eventCode env event) → w.driver.isPanelBackLightOn = true →
        w.driver.brightnessRead env = some (UInt64.ofNat w.panel))
  | .external value => w.driver.isPanelBackLightOn = true ∧ value ≤ 1024

/-- An event that is not a brightness change by the user. -/
def KeepsBrightness (w : PanelWorld) : PanelEvent → Prop
  | .hotkey env event => ¬ IsBrightnessCode (w.driver.eventCode env event)
  | .external _ => False

/-- The event is a panel key. -/
def IsSwitch (w : PanelWorld) : PanelEvent → Prop
  | .hotkey env event => IsPanelCode (w.driver.eventCode env event)
  | .external _ => False

/-- While the panel is off it is dark, and the value before is saved in steps. -/
def Dark (w : PanelWorld) : Prop :=
  w.driver.isPanelBackLightOn = false →
    w.panel = 0 ∧ w.driver.panelBrightnessLevel.toNat = w.beforeOff / 64

end PanelWorld

/-! ### The panel under taps -/

theorem Keys.existsKey_new {key : UInt8} (h : key ≠ 0) : new.existsKey key = false := by
  simp [existsKey, new, h]

theorem Keys.existsKey_single {key key' : UInt8} (h : key' ≠ 0) :
    (single key).existsKey key' = decide (key' = key) := by
  simp [existsKey, single, h]

theorem press_new (b : ℕ) (id : UInt8) : press b ⟨id, Keys.new⟩ = b := by
  have hup : Keys.new.existsKey (keyByte kHIDUsage_AV_TopCase_BrightnessUp) = false :=
    Keys.existsKey_new (by decide)
  have hdown : Keys.new.existsKey (keyByte kHIDUsage_AV_TopCase_BrightnessDown) = false :=
    Keys.existsKey_new (by decide)
  simp [press, hup, hdown]

theorem press_le {b : ℕ} (h : b ≤ 1024) (r : Report) : press b r ≤ 1024 := by
  unfold press
  split
  · split
    · exact Nat.min_le_left _ _
    · split
      · omega
      · exact h
  · exact h

theorem foldl_press_le (rs : List Report) {b : ℕ} (h : b ≤ 1024) : rs.foldl press b ≤ 1024 := by
  induction rs generalizing b with
  | nil => exact h
  | cons r rs ih => exact ih (press_le h r)

/-- A dispatch moves the panel as often as its count says. -/
theorem foldl_press_taps (b : ℕ) (x : Dispatch) :
    (taps x).foldl press b
      = (fun b => press b ⟨x.reportId, .single (keyByte x.code)⟩)^[x.loop.toInt.toNat] b := by
  rw [taps]
  induction x.loop.toInt.toNat generalizing b with
  | zero => rfl
  | succ n ih =>
    rw [List.replicate_succ, List.flatten_cons, List.foldl_append, ih, Function.iterate_succ_apply]
    simp only [tap, List.foldl_cons, List.foldl_nil, press_new]

theorem press_up (b : ℕ) :
    press b ⟨3, .single (keyByte kHIDUsage_AV_TopCase_BrightnessUp)⟩ = min 1024 (b + 64) := rfl

theorem press_down (b : ℕ) :
    press b ⟨3, .single (keyByte kHIDUsage_AV_TopCase_BrightnessDown)⟩ = b - 64 := rfl

/-- Steps down add up. -/
theorem iterate_press_down (n b : ℕ) :
    (fun b => press b ⟨3, .single (keyByte kHIDUsage_AV_TopCase_BrightnessDown)⟩)^[n] b
      = b - 64 * n := by
  induction n generalizing b with
  | zero => rfl
  | succ n ih =>
    rw [Function.iterate_succ_apply, ih, press_down]
    omega

/-- Steps up add up as long as they stay below the upper end. -/
theorem iterate_press_up (n b : ℕ) (h : b + 64 * n ≤ 1024) :
    (fun b => press b ⟨3, .single (keyByte kHIDUsage_AV_TopCase_BrightnessUp)⟩)^[n] b
      = b + 64 * n := by
  induction n generalizing b with
  | zero => rfl
  | succ n ih =>
    -- below the upper end a step is not cut short
    have hmin : min 1024 (b + 64) = b + 64 := by omega
    rw [Function.iterate_succ_apply, press_up, hmin, ih _ (by omega)]
    omega

/-- Other keys leave the panel alone. -/
theorem foldl_press_flatMap_taps {code : Int32} (hcode : ¬ Driver.IsBrightnessCode code)
    (xs : List Dispatch) (hxs : ∀ x ∈ xs, Driver.HotkeyDispatch code x) (b : ℕ) :
    (xs.flatMap taps).foldl press b = b := by
  induction xs generalizing b with
  | nil => rfl
  | cons x xs ih =>
    -- a report of the other page, or a key that is not a brightness key
    obtain ⟨hx, hrest⟩ := List.forall_mem_cons.mp hxs
    have hstep : press b ⟨x.reportId, .single (keyByte x.code)⟩ = b := by
      by_cases hid : x.reportId = 3
      · obtain ⟨hup, hdown⟩ := hx.brightness hcode hid
        rw [press, if_pos hid, Keys.existsKey_single (by decide), Keys.existsKey_single (by decide),
          decide_eq_false (Ne.symm hup), decide_eq_false (Ne.symm hdown)]
        rfl
      · rw [press, if_neg hid]
    have hone : x.loop.toInt.toNat = 1 := by
      rw [hx.loop]
      rfl
    rw [List.flatMap_cons, List.foldl_append, foldl_press_taps, hone, Function.iterate_one, hstep,
      ih hrest]

/-! ### The registry -/

namespace Driver

variable (env : Env)

/-- The search for the backlight entry does not look at the history. -/
theorem brightnessRead_emit (d : Driver) (e : Effect) :
    (d.emit e).brightnessRead env = d.brightnessRead env := by
  have hfind : (d.emit e).findBacklightEntry env
      = ((d.findBacklightEntry env).1, (d.findBacklightEntry env).2.emit e) := by
    rw [findBacklightEntry_eq, findBacklightEntry_eq]
    rfl
  rw [brightnessRead, hfind]
  rfl

theorem brightnessRead_wedEvaluated (event : UInt32) (d : Driver) :
    (d.wedEvaluated env event).brightnessRead env = d.brightnessRead env := by
  rw [wedEvaluated]
  split
  · rfl
  · exact brightnessRead_emit env d _

/-- The level after a successful read: the value in steps of 64. -/
theorem readPanelBrightnessValue_level {d : Driver} {b : ℕ} (hb : b ≤ 1024)
    (hread : d.brightnessRead env = some (UInt64.ofNat b)) :
    (d.readPanelBrightnessValue env).panelBrightnessLevel.toNat = b / 64 := by
  rw [brightnessRead] at hread
  split at hread
  · next hfound =>
    -- a brightness survives the way through 64 and 32 bits
    have hval : (UInt64.ofNat b).toUInt32.toNat = b := by
      have hmod : b % 4294967296 = b := Nat.mod_eq_of_lt (by omega)
      simpa using hmod
    rw [readPanelBrightnessValue, hfound, hread]
    change ((UInt64.ofNat b).toUInt32 / 64).toNat = b / 64
    rw [UInt32.toNat_div, hval]
    rfl
  · exact absurd hread (by simp)

end Driver

/-! ### One event -/

namespace PanelWorld

open Driver

/-- The invariant of a run. -/
structure Inv (w : PanelWorld) : Prop where
  idle : Idle w.driver
  panel_le : w.panel ≤ 1024
  beforeOff_le : w.driver.isPanelBackLightOn = false → w.beforeOff ≤ 1024
  dark : Dark w

section Step

variable {w : PanelWorld} (env : Env) (event : UInt32)

/-- What a notification does to the world, once its history is known. -/
theorem step_hotkey {es : List Effect} (hlog : (w.driver.notify (env, event)).log
    = w.driver.log ++ es) :
    w.step (.hotkey env event)
      = { driver := w.driver.notify (env, event)
          panel := (posted es).foldl press w.panel
          beforeOff :=
            if w.driver.isPanelBackLightOn && !(w.driver.notify (env, event)).isPanelBackLightOn
            then w.panel else w.beforeOff } := by
  rw [step, hlog, List.drop_left]

/-- **Switch-off**: the panel goes dark and the steps are saved. -/
theorem step_switchOff (hw : Inv w) (hon : w.driver.isPanelBackLightOn = true)
    (hcode : IsPanelCode (w.driver.eventCode env event))
    (hread : w.driver.brightnessRead env = some (UInt64.ofNat w.panel)) :
    Idle (w.step (.hotkey env event)).driver ∧
      (w.step (.hotkey env event)).driver.isPanelBackLightOn = false ∧
      (w.step (.hotkey env event)).panel = 0 ∧
      (w.step (.hotkey env event)).beforeOff = w.panel ∧
      (w.step (.hotkey env event)).driver.panelBrightnessLevel.toNat = w.panel / 64 := by
  obtain ⟨hidle, ⟨fs, hfs, hpost₁, -⟩, hon₁, -⟩ := wedEvaluated_quiet env hw.idle event
  obtain ⟨hread₁, hlog₁⟩ := readPanelBrightnessValue_idle env hidle
  obtain ⟨es, hes, -, hpost⟩ := displayOff_of_on env hidle (hon₁.trans hon)
  have hnotify : w.driver.notify (env, event)
      = ((((w.driver.wedEvaluated env event).readPanelBrightnessValue env).record
          es).setIsPanelBackLightOn false) := by
    rw [notify, message_deviceNotification, handleMessage_of_panel env hcode, hes]
  have hlog : (w.driver.notify (env, event)).log = w.driver.log ++ (fs ++ es) := by
    rw [hnotify]
    change _ ++ es = _
    rw [hlog₁, hfs, List.append_assoc]
  have hpanel := hw.panel_le
  have hlevel : ((w.driver.wedEvaluated env event).readPanelBrightnessValue
      env).panelBrightnessLevel.toNat = w.panel / 64 := by
    apply readPanelBrightnessValue_level env hpanel
    rw [brightnessRead_wedEvaluated, hread]
  have hsixteen : Int.toNat (Int32.toInt 16) = 16 := rfl
  rw [step_hotkey env event hlog, hnotify]
  -- sixteen steps of 64 reach `0` from any value up to 1024
  refine ⟨(hread₁.record es).setIsPanelBackLightOn false, rfl, ?_, ?_, ?_⟩
  · change (posted (fs ++ es)).foldl press w.panel = 0
    rw [posted_append, hpost₁, List.nil_append, hpost, foldl_press_taps]
    dsimp only
    rw [hsixteen, iterate_press_down]
    omega
  · simp [hon]
  · simp only [setIsPanelBackLightOn_panelBrightnessLevel, record_panelBrightnessLevel, hlevel]

/-- **Switch-on**: the saved steps come back. -/
theorem step_switchOn (hw : Inv w) (hoff : w.driver.isPanelBackLightOn = false)
    (hcode : IsPanelCode (w.driver.eventCode env event)) :
    Idle (w.step (.hotkey env event)).driver ∧
      (w.step (.hotkey env event)).driver.isPanelBackLightOn = true ∧
      (w.step (.hotkey env event)).panel = 64 * (w.beforeOff / 64) ∧
      (w.step (.hotkey env event)).beforeOff = w.beforeOff := by
  obtain ⟨hidle, ⟨fs, hfs, hpost₁, -⟩, hon₁, hlevel₁⟩ := wedEvaluated_quiet env hw.idle event
  obtain ⟨es, hes, -, hpost⟩ := displayOff_of_off env hidle (hon₁.trans hoff)
  have hnotify : w.driver.notify (env, event)
      = ((w.driver.wedEvaluated env event).record es).setIsPanelBackLightOn true := by
    rw [notify, message_deviceNotification, handleMessage_of_panel env hcode, hes]
  have hlog : (w.driver.notify (env, event)).log = w.driver.log ++ (fs ++ es) := by
    rw [hnotify]
    change (w.driver.wedEvaluated env event).log ++ es = _
    rw [hfs, List.append_assoc]
  obtain ⟨hdark, hlevel⟩ := hw.dark hoff
  have hle := hw.beforeOff_le hoff
  -- the dark panel gets as many steps as the value before had
  have hcount : w.driver.panelBrightnessLevel.toInt32.toInt.toNat = w.beforeOff / 64 := by
    rw [Countdown.toInt_toInt32_of_lt (by omega), Int.toNat_natCast, hlevel]
  rw [step_hotkey env event hlog, hnotify]
  refine ⟨(hidle.record es).setIsPanelBackLightOn true, rfl, ?_, ?_⟩
  · change (posted (fs ++ es)).foldl press w.panel = 64 * (w.beforeOff / 64)
    rw [posted_append, hpost₁, List.nil_append, hpost, foldl_press_taps]
    dsimp only
    rw [hlevel₁, hcount, iterate_press_up _ _ (by omega)]
    omega
  · simp [hoff]

/-- **Any other hotkey** leaves flag, level and ghost, and without a brightness
code the panel. -/
theorem step_other (hw : Inv w) (hcode : ¬ IsPanelCode (w.driver.eventCode env event)) :
    Idle (w.step (.hotkey env event)).driver ∧
      (w.step (.hotkey env event)).driver.isPanelBackLightOn = w.driver.isPanelBackLightOn ∧
      (w.step (.hotkey env event)).driver.panelBrightnessLevel = w.driver.panelBrightnessLevel ∧
      (w.step (.hotkey env event)).beforeOff = w.beforeOff ∧
      (w.step (.hotkey env event)).panel ≤ 1024 ∧
      (¬ IsBrightnessCode (w.driver.eventCode env event) →
        (w.step (.hotkey env event)).panel = w.panel) := by
  obtain ⟨hidle, ⟨fs, hfs, hpost₁, -⟩, hon₁, hlevel₁⟩ := wedEvaluated_quiet env hw.idle event
  obtain ⟨hidle', es, hes, -, hpost⟩ :=
    handleMessage_dispatches env hidle (w.driver.eventCode env event)
  obtain ⟨hon, hlevel⟩ := handleMessage_of_not_panel env hcode (w.driver.wedEvaluated env event)
  have hnotify : w.driver.notify (env, event) = (w.driver.wedEvaluated env event).handleMessage env
      (w.driver.eventCode env event) := by
    rw [notify, message_deviceNotification]
  have hlog : (w.driver.notify (env, event)).log = w.driver.log ++ (fs ++ es) := by
    rw [hnotify, hes, hfs, List.append_assoc]
  rw [step_hotkey env event hlog, hnotify]
  refine ⟨hidle', hon.trans hon₁, hlevel.trans hlevel₁, ?_, foldl_press_le _ hw.panel_le, ?_⟩
  · simp [hon, hon₁]
  · intro hbright
    change (posted (fs ++ es)).foldl press w.panel = w.panel
    rw [posted_append, hpost₁, List.nil_append, hpost]
    refine foldl_press_flatMap_taps hbright _ (fun x hx => ?_) w.panel
    exact dispatchOf_of_not_panel env hcode (Option.mem_toList.mp hx)

/-- **Step lemma.** -/
theorem inv_step (hw : Inv w) (e : PanelEvent) (he : Allowed w e) : Inv (w.step e) := by
  cases e with
  | external value =>
    obtain ⟨hon, hle⟩ := he
    exact ⟨hw.idle, hle, hw.beforeOff_le, fun hoff => absurd (hon.symm.trans hoff) (by decide)⟩
  | hotkey env event =>
    obtain ⟨hbright, hread⟩ := he
    by_cases hcode : IsPanelCode (w.driver.eventCode env event)
    · cases hon : w.driver.isPanelBackLightOn with
      | true =>
        obtain ⟨hidle, -, hpanel, hbefore, hlevel⟩ :=
          step_switchOff env event hw hon hcode (hread hcode hon)
        refine ⟨hidle, by omega, fun _ => hbefore ▸ hw.panel_le, fun _ => ⟨hpanel, ?_⟩⟩
        rw [hlevel, hbefore]
      | false =>
        -- the panel is on again, so nothing is claimed of what was saved
        obtain ⟨hidle, hon', hpanel, hbefore⟩ := step_switchOn env event hw hon hcode
        have hle := hw.beforeOff_le hon
        have hne : (w.step (.hotkey env event)).driver.isPanelBackLightOn ≠ false := by simp [hon']
        exact ⟨hidle, by omega, fun h => absurd h hne, fun h => absurd h hne⟩
    · obtain ⟨hidle, hon, hlevel, hbefore, hle, hkeep⟩ := step_other env event hw hcode
      refine ⟨hidle, hle, ?_, ?_⟩
      · rw [hon, hbefore]
        exact hw.beforeOff_le
      · intro hoff
        rw [hon] at hoff
        -- the panel is off, so the code is not a brightness code
        have hquiet : ¬ IsBrightnessCode (w.driver.eventCode env event) := by
          intro h
          exact absurd ((hbright h).symm.trans hoff) (by decide)
        rw [hkeep hquiet, hlevel, hbefore]
        exact hw.dark hoff

/-- A panel key switches the panel, and nothing else does. -/
theorem flag_step (hw : Inv w) (e : PanelEvent) (he : Allowed w e) :
    (IsSwitch w e →
        (w.step e).driver.isPanelBackLightOn = !w.driver.isPanelBackLightOn) ∧
      (¬ IsSwitch w e →
        (w.step e).driver.isPanelBackLightOn = w.driver.isPanelBackLightOn) := by
  cases e with
  | external value => exact ⟨fun h => h.elim, fun _ => rfl⟩
  | hotkey env event =>
    refine ⟨fun hcode => ?_, fun hcode => (step_other env event hw hcode).2.1⟩
    cases hon : w.driver.isPanelBackLightOn with
    | true => exact (step_switchOff env event hw hon hcode (he.2 hcode hon)).2.1
    | false => exact (step_switchOn env event hw hon hcode).2.1

/-- **Cycle lemma.** While the user leaves the brightness alone, a whole number
`b` of steps is what the panel shows when on and what is remembered when off. -/
theorem cycle_step {b : ℕ} (hb : 64 ∣ b) (hw : Inv w)
    (hcycle : if w.driver.isPanelBackLightOn then w.panel = b else w.beforeOff = b)
    (e : PanelEvent) (he : Allowed w e) (hkeep : KeepsBrightness w e) :
    if (w.step e).driver.isPanelBackLightOn then (w.step e).panel = b
    else (w.step e).beforeOff = b := by
  cases e with
  | external value => exact hkeep.elim
  | hotkey env event =>
    by_cases hcode : IsPanelCode (w.driver.eventCode env event)
    · cases hon : w.driver.isPanelBackLightOn with
      | true =>
        obtain ⟨-, hoff', -, hbefore, -⟩ := step_switchOff env event hw hon hcode (he.2 hcode hon)
        rw [hon, if_pos rfl] at hcycle
        rw [hoff', if_neg Bool.false_ne_true, hbefore, hcycle]
      | false =>
        obtain ⟨-, hon', hpanel, -⟩ := step_switchOn env event hw hon hcode
        rw [hon, if_neg Bool.false_ne_true] at hcycle
        rw [hon', if_pos rfl, hpanel, hcycle]
        exact Nat.mul_div_cancel' hb
    · obtain ⟨-, hon, -, hbefore, -, hpanel⟩ := step_other env event hw hcode
      rw [hon, hpanel hkeep, hbefore]
      exact hcycle

end Step

/-! ### Whole runs -/

/-- What a run keeps of the brightness. -/
structure Restored (w : PanelWorld) (es : List PanelEvent) : Prop where
  /-- A panel key switches the panel, and nothing else does. -/
  flips : Throughout step
    (fun w e => (IsSwitch w e →
        (w.step e).driver.isPanelBackLightOn = !w.driver.isPanelBackLightOn) ∧
      (¬ IsSwitch w e →
        (w.step e).driver.isPanelBackLightOn = w.driver.isPanelBackLightOn)) w es
  dark : Always step Dark w es
  /-- Right after a switch-on the panel shows the whole steps of the value before
  the switch-off. -/
  switchOn : Throughout step
    (fun w e => w.driver.isPanelBackLightOn = false →
      (w.step e).driver.isPanelBackLightOn = true →
      (w.step e).panel = 64 * (w.beforeOff / 64)) w es
  /-- A whole number of steps survives any further switching. -/
  cycles : ∀ pre mid, pre ++ mid <+: es →
    (run step w pre).driver.isPanelBackLightOn = true → 64 ∣ (run step w pre).panel →
    Throughout step KeepsBrightness (run step w pre) mid →
    (run step w (pre ++ mid)).driver.isPanelBackLightOn = true →
    (run step w (pre ++ mid)).panel = (run step w pre).panel

/-- **Display off and on restores the brightness.** From any brightness, in
every run in which the brightness changes otherwise only while the panel is on
and the registry tells the truth: the panel keys switch the panel, and no other
key does; while it is off it is dark and the saved level is the value before in
whole steps; each switch-on restores these steps; and further switching loses
nothing more. -/
theorem display_restored {w : PanelWorld} (hidle : Idle w.driver)
    (hon : w.driver.isPanelBackLightOn = true) (hpanel : w.panel ≤ 1024) {es : List PanelEvent}
    (hes : Throughout step Allowed w es) : Restored w es := by
  have hoff : w.driver.isPanelBackLightOn ≠ false := by simp [hon]
  have hinit : Inv w := ⟨hidle, hpanel, fun h => absurd h hoff, fun h => absurd h hoff⟩
  have hinv : Always step Inv w es := .of_guarded hinit (fun _ e h he => inv_step h e he) hes
  refine ⟨?_, hinv.mono fun _ h => h.dark, ?_, ?_⟩
  · intro pre e post hsplit
    exact flag_step (hinv pre ⟨_, hsplit.symm⟩) e (hes pre e post hsplit)
  · intro pre e post hsplit hdark hlit
    have hpre := hinv pre ⟨_, hsplit.symm⟩
    have hallowed := hes pre e post hsplit
    generalize run step w pre = v at *
    cases e with
    | external value => exact absurd (hallowed.1.symm.trans hdark) (by decide)
    | hotkey env event =>
      by_cases hcode : IsPanelCode (v.driver.eventCode env event)
      · exact (step_switchOn env event hpre hdark hcode).2.2.1
      · -- another hotkey does not switch the panel on
        have hsame := (step_other env event hpre hcode).2.1
        exact absurd (hdark.symm.trans (hsame.symm.trans hlit)) (by decide)
  · rintro pre mid ⟨post, rfl⟩ hlit hdvd hkeep hlit'
    have hallowed : Throughout step Allowed (run step w pre) mid := by
      rw [List.append_assoc] at hes
      exact (throughout_append.mp (throughout_append.mp hes).2).1
    have hpre := hinv pre (by rw [List.append_assoc]; exact List.prefix_append _ _)
    rw [run_append] at hlit' ⊢
    generalize run step w pre = v at *
    have hcycle := Always.of_guarded
      (P := fun u : PanelWorld => Inv u ∧
        if u.driver.isPanelBackLightOn then u.panel = v.panel else u.beforeOff = v.panel)
      ⟨hpre, by rw [hlit, if_pos rfl]⟩
      (fun u e h he => ⟨inv_step h.1 e he.1, cycle_step hdvd h.1 h.2 e he.1 he.2⟩)
      (throughout_and.mpr ⟨hallowed, hkeep⟩)
    have hlast := hcycle.last.2
    rwa [hlit', if_pos rfl] at hlast

/-- Off and on again from a brightness of `1000`. -/
theorem display_restored_once :
    Restored ⟨{ directACPImessaging := true }, 1000, 0⟩
      [.hotkey (.brightness 1000) 0x33, .hotkey (.brightness 1000) 0x33] := by
  have hidle : Idle { directACPImessaging := true } := ⟨rfl, rfl, by decide⟩
  have hbright : ¬ IsBrightnessCode 0x33 := by decide
  have hinit : Inv ⟨{ directACPImessaging := true }, 1000, 0⟩ :=
    ⟨hidle, by decide, by simp, by simp [Dark]⟩
  -- the event is the code, and nothing a hotkey does changes that
  have hdirect := message_frame (f := directACPImessaging) (by constructor <;> intros <;> rfl)
    (.brightness 1000) (.deviceNotification 0x33) { directACPImessaging := true }
  have hcode : ∀ d : Driver, d.directACPImessaging = true →
      d.eventCode (.brightness 1000) 0x33 = 0x33 := by
    intro d hd
    rw [eventCode, if_pos hd]
    rfl
  refine display_restored hidle rfl (by decide) ?_
  rw [throughout_cons, throughout_cons]
  refine ⟨⟨?_, fun _ _ => rfl⟩, ⟨?_, ?_⟩, by simp⟩
  · rw [hcode _ rfl]
    exact fun h => absurd h hbright
  · intro h
    refine absurd ?_ hbright
    rw [← hcode _ hdirect]
    exact h
  · -- the first press has switched the panel off, so nothing is read
    intro _ hon
    have hoff := (step_switchOff (.brightness 1000) 0x33 hinit rfl
      (by rw [hcode _ rfl]; decide) rfl).2.1
    exact absurd (hoff.symm.trans hon) (by decide)

end PanelWorld

end AsusSMC
