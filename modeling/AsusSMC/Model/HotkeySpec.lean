import AsusSMC.Framework.ScratchCache
import AsusSMC.Model.Hotkeys

/-!
# What a hotkey does

`Handled` is the inversion of `handleMessage`: it lists what one code can do,
once, with what is known of the code in each case (`handleMessage_handled`).
Every result about hotkeys starts from it.

* `findBacklightEntry_eq` — the search for the backlight entry is a lookup in a cache
  that is its own scratch space.
* `HotkeyFrame` — a quantity of the driver that none of the assignments of a
  hotkey touches is not touched by a message (`message_frame`).
* `dispatchReport_of_idle` — a dispatch on a free key array leaves the driver
  as it was, with one debug line and the *taps* of the dispatch in its history.
-/

namespace AsusSMC

/-! ### Taps -/

/-- The id of a report, as its constructor sets it. -/
def Channel.reportId : Channel → UInt8
  | csmr => 2
  | tc => 3

/-- The reports handed to `postKeyboardInputReport`, in order. -/
def posted (es : List Effect) : List Report :=
  es.filterMap fun | .post report _ => some report | _ => none

/-- A dispatch: the arguments of `dispatchCSMRReport` or `dispatchTCReport`,
with the id of the report it uses. -/
structure Dispatch where
  reportId : UInt8
  code : Int32
  loop : Int32
  deriving DecidableEq, Repr

/-- The dispatches, in order. -/
def dispatched (es : List Effect) : List Dispatch :=
  es.filterMap fun | .dispatched reportId code loop => some ⟨reportId, code, loop⟩ | _ => none

theorem posted_append (es fs : List Effect) : posted (es ++ fs) = posted es ++ posted fs :=
  List.filterMap_append

theorem dispatched_append (es fs : List Effect) :
    dispatched (es ++ fs) = dispatched es ++ dispatched fs := List.filterMap_append

/-- A key pressed and released: the report with the one key, and the empty one. -/
def tap (reportId : UInt8) (code : Int32) : List Report :=
  [⟨reportId, Keys.single (keyByte code)⟩, ⟨reportId, Keys.new⟩]

/-- The taps of a dispatch: as many as its count says. -/
def taps (x : Dispatch) : List Report :=
  (List.replicate x.loop.toInt.toNat (tap x.reportId x.code)).flatten

namespace Driver

/-! ### Inversion -/

/-- The codes of the panel switch. -/
def IsPanelCode (code : Int32) : Prop := code = 0x33 ∨ code = 0x34 ∨ code = 0x35

instance : DecidablePred IsPanelCode := fun _ => inferInstanceAs (Decidable (_ ∨ _ ∨ _))

/-- The codes of the brightness keys. -/
def IsBrightnessCode (code : Int32) : Prop := 0x10 ≤ code ∧ code ≤ 0x2F

instance : DecidablePred IsBrightnessCode := fun _ => inferInstanceAs (Decidable (_ ∧ _))

/-- The states one code can lead to. -/
inductive Handled (env : Env) (code : Int32) (d : Driver) : Driver → Prop
  | ignored : ¬ IsPanelCode code → Handled env code d d
  | csmr (usage : Int32) :
      0 < usage.toInt → usage.toInt < 256 → ¬ IsPanelCode code →
      Handled env code d (d.dispatchCSMRReport env usage)
  | brightness (usage : Int32) :
      usage = kHIDUsage_AV_TopCase_BrightnessDown ∨ usage = kHIDUsage_AV_TopCase_BrightnessUp →
      IsBrightnessCode code → ¬ IsPanelCode code →
      Handled env code d (d.dispatchTCReport env usage)
  | topCase (usage : Int32) :
      usage = kHIDUsage_AV_TopCase_VideoMirror ∨ usage = kHIDUsage_AV_TopCase_IlluminationUp ∨
        usage = kHIDUsage_AV_TopCase_IlluminationDown →
      ¬ IsPanelCode code → Handled env code d (d.dispatchTCReport env usage)
  | displayOff : IsPanelCode code → Handled env code d (d.displayOff env)
  | toggleTouchpad : code = 0x6B → Handled env code d (d.toggleTouchpad env)
  | letSleep : code = 0x5E → Handled env code d (d.letSleep env)
  | toggleALSSensor : code = 0x7A → Handled env code d d.toggleALSSensor
  | toggleAirplaneMode : code = 0x7D → Handled env code d (d.toggleAirplaneMode env)

/-- **Inversion of `handleMessage`.** -/
theorem handleMessage_handled (env : Env) (code : Int32) (d : Driver) :
    Handled env code d (d.handleMessage env code) := by
  have hu := env.usages.byte_sized
  unfold handleMessage
  split
  -- the codes without an action, then the usages of the consumer page
  case h_1 | h_2 | h_20 | h_21 => exact .ignored (by decide)
  case h_3 | h_4 | h_5 | h_6 | h_7 | h_8 | h_9 | h_10 | h_11 =>
    exact .csmr _ (hu _ (by simp)).1 (hu _ (by simp)).2 (by decide)
  case h_12 | h_13 | h_14 => exact .displayOff (by decide)
  case h_15 => exact .topCase _ (Or.inl rfl) (by decide)
  case h_16 => exact .toggleTouchpad rfl
  case h_17 => exact .letSleep rfl
  case h_18 => exact .toggleALSSensor rfl
  case h_19 => exact .toggleAirplaneMode rfl
  -- the backlight keys do nothing on a machine without backlight
  case h_22 =>
    split
    · exact .topCase _ (Or.inr (Or.inr rfl)) (by decide)
    · exact .ignored (by decide)
  case h_23 =>
    split
    · exact .topCase _ (Or.inr (Or.inl rfl)) (by decide)
    · exact .ignored (by decide)
  -- the default branch: the two ranges of brightness codes, or nothing
  case h_24 =>
    have hpanel : ¬ IsPanelCode code := by
      rintro (h | h | h) <;> contradiction
    split
    · next h =>
      refine .brightness _ (Or.inl rfl) ⟨Int32.le_trans (by decide) h.1, h.2⟩ hpanel
    · split
      · next h =>
        refine .brightness _ (Or.inr rfl) ⟨h.1, Int32.le_trans h.2 (by decide)⟩ hpanel
      · exact .ignored hpanel

/-- The panel codes are the three that switch the panel. -/
theorem handleMessage_of_panel (env : Env) {code : Int32} (h : IsPanelCode code) (d : Driver) :
    d.handleMessage env code = d.displayOff env := by
  obtain rfl | rfl | rfl := h <;> rfl

/-- The code a notification hands to `handleMessage`: the event itself, or what
`res` holds after `_WED`. -/
def eventCode (env : Env) (event : UInt32) (d : Driver) : Int32 :=
  if d.directACPImessaging then event.toInt32
  else ((d.integerReply env .atkDevice "_WED" [.number event.toUInt64]).getD
    env.locals.res).toInt32

/-- The driver after the evaluation a notification makes, if it makes one. -/
def wedEvaluated (env : Env) (event : UInt32) (d : Driver) : Driver :=
  if d.directACPImessaging then d
  else d.emit (d.integerEffect env .atkDevice "_WED" [.number event.toUInt64])

/-- **What a notification does.** -/
theorem message_deviceNotification (env : Env) (event : UInt32) (d : Driver) :
    (d.message env (.deviceNotification event)).2
      = (d.wedEvaluated env event).handleMessage env (d.eventCode env event) := by
  cases hd : d.directACPImessaging with
  | true => simp [message, wedEvaluated, eventCode, hd]
  | false =>
    cases hr : d.integerReply env .atkDevice "_WED" [.number event.toUInt64] <;>
      simp [message, wedEvaluated, eventCode, evaluateInteger, hd, hr]

/-! ### The search for the backlight entry -/

/-- The path is one of the registry. -/
def entryExists (env : Env) (path : String) : Bool := (env.fromPath path).isSome

/-- What `backlightEntry` holds once a path has been printed there. -/
def printedEntry (path : String) : String := String.ofList (path.toList.take 999)

section Search

variable (env : Env)

theorem tryEntries_eq (paths : List String) (d : Driver) :
    tryEntries env paths d
      = ((ScratchCache.probe (entryExists env) (paths.map printedEntry) d.backlightEntry).1,
        d.setBacklightEntry
          (ScratchCache.probe (entryExists env) (paths.map printedEntry) d.backlightEntry).2) := by
  induction paths generalizing d with
  | nil => rfl
  | cons path paths ih =>
    rw [tryEntries, List.map_cons, ScratchCache.probe]
    show (if entryExists env (printedEntry path) then
      (true, d.setBacklightEntry (printedEntry path))
      else tryEntries env paths (d.setBacklightEntry (printedEntry path))) = _
    cases entryExists env (printedEntry path) with
    | true => rfl
    | false =>
      rw [if_neg Bool.false_ne_true, if_neg Bool.false_ne_true, ih]
      rfl

/-- **Refinement**: a search is a lookup, with `backlightEntry` for its cell, and touches
nothing else. -/
theorem findBacklightEntry_eq (d : Driver) :
    d.findBacklightEntry env
      = ((ScratchCache.lookup (entryExists env) (candidateEntries.map printedEntry)
          d.backlightEntry).1,
        d.setBacklightEntry
          (ScratchCache.lookup (entryExists env) (candidateEntries.map printedEntry)
            d.backlightEntry).2) := by
  have hcheck : d.checkBacklightEntry env = entryExists env d.backlightEntry := rfl
  rw [findBacklightEntry, ScratchCache.lookup, tryEntries_eq, hcheck]
  split
  · rfl
  · rfl

end Search

/-! ### Frames -/

/-- `f` does not look at what the assignments of a hotkey write. -/
structure HotkeyFrame {τ : Type*} (f : Driver → τ) : Prop where
  emit : ∀ d e, f (d.emit e) = f d
  setCsmrreport : ∀ d v, f (d.setCsmrreport v) = f d
  setTcreport : ∀ d v, f (d.setTcreport v) = f d
  setBacklightEntry : ∀ d v, f (d.setBacklightEntry v) = f d
  setPanelBrightnessLevel : ∀ d v, f (d.setPanelBrightnessLevel v) = f d
  setIsPanelBackLightOn : ∀ d v, f (d.setIsPanelBackLightOn v) = f d
  setIsTouchpadEnabled : ∀ d v, f (d.setIsTouchpadEnabled v) = f d
  setIsALSEnabled : ∀ d v, f (d.setIsALSEnabled v) = f d
  setProperty : ∀ d k v, f (d.setProperty k v) = f d

section Frames

variable {τ : Type*} {f : Driver → τ}

theorem dispatchReport_frame (hemit : ∀ d e, f (d.emit e) = f d)
    (hcsmr : ∀ d v, f (d.setCsmrreport v) = f d) (htc : ∀ d v, f (d.setTcreport v) = f d)
    (env : Env) (ch : Channel) (code loop : Int32) (d : Driver) :
    f (dispatchReport env ch code loop d) = f d := by
  have hkeys : ∀ d ch keys, f (setKeys d ch keys) = f d := by
    intro d ch keys
    cases ch with
    | csmr => exact hcsmr d _
    | tc => exact htc d _
  -- a pass keeps the quantity, so the loop does
  refine Countdown.countdown_induction _ (P := fun d' => f d' = f d) ?_ loop (hemit d _)
  intro d' hd'
  simp only [dispatchPass, postKeyboardInputReport, hemit, hkeys]
  exact hd'

theorem findBacklightEntry_frame (hentry : ∀ d v, f (d.setBacklightEntry v) = f d) (env : Env)
    (d : Driver) : f (findBacklightEntry env d).2 = f d := by
  rw [findBacklightEntry_eq]
  exact hentry d _

theorem readPanelBrightnessValue_frame (hentry : ∀ d v, f (d.setBacklightEntry v) = f d)
    (hlevel : ∀ d v, f (d.setPanelBrightnessLevel v) = f d) (env : Env) (d : Driver) :
    f (readPanelBrightnessValue env d) = f d := by
  rw [readPanelBrightnessValue]
  split
  · exact findBacklightEntry_frame hentry env d
  · split
    · exact findBacklightEntry_frame hentry env d
    · rw [hlevel]
      exact findBacklightEntry_frame hentry env d

theorem displayOff_frame (hemit : ∀ d e, f (d.emit e) = f d)
    (hcsmr : ∀ d v, f (d.setCsmrreport v) = f d) (htc : ∀ d v, f (d.setTcreport v) = f d)
    (hentry : ∀ d v, f (d.setBacklightEntry v) = f d)
    (hlevel : ∀ d v, f (d.setPanelBrightnessLevel v) = f d)
    (hswitch : ∀ d v, f (d.setIsPanelBackLightOn v) = f d) (env : Env) (d : Driver) :
    f (displayOff env d) = f d := by
  have hdispatch := dispatchReport_frame hemit hcsmr htc env
  rw [displayOff, hswitch]
  split
  · rw [dispatchTCReport, hdispatch]
    exact readPanelBrightnessValue_frame hentry hlevel env d
  · exact hdispatch _ _ _ d

theorem dispatchMessageGated_frame (hemit : ∀ d e, f (d.emit e) = f d) (env : Env)
    (m : KeyboardMessage) (data : Bool) (d : Driver) :
    f (dispatchMessageGated env m data d).2 = f d := by
  rw [dispatchMessageGated]
  cases d.notificationServices with
  | none => exact hemit d _
  | some services =>
    dsimp only
    induction (env.order m).visit services.members generalizing data d with
    | nil => rfl
    | cons s rest ih =>
      rw [List.foldl_cons, ih]
      exact hemit d _

theorem dispatchMessage_frame (hemit : ∀ d e, f (d.emit e) = f d) (env : Env)
    (m : KeyboardMessage) (data : Bool) (d : Driver) :
    f (dispatchMessage env m data d).2 = f d := by
  rw [dispatchMessage]
  cases d.commandGate with
  | none => exact hemit d _
  | some gate => exact dispatchMessageGated_frame hemit env m data d

theorem dispatchTouchpad_frame (hemit : ∀ d e, f (d.emit e) = f d)
    (hflag : ∀ d v, f (d.setIsTouchpadEnabled v) = f d) (env : Env) (m : KeyboardMessage)
    (d : Driver) : f (dispatchTouchpad env m d) = f d := by
  rw [dispatchTouchpad, hflag]
  exact dispatchMessage_frame hemit env m _ d

theorem toggleTouchpad_frame (hemit : ∀ d e, f (d.emit e) = f d)
    (hflag : ∀ d v, f (d.setIsTouchpadEnabled v) = f d)
    (hprop : ∀ d k v, f (d.setProperty k v) = f d) (env : Env) (d : Driver) :
    f (toggleTouchpad env d) = f d := by
  have htouch := dispatchTouchpad_frame hemit hflag env
  rw [toggleTouchpad]
  split <;> rw [hprop, htouch, hflag, htouch]

variable (hf : HotkeyFrame f)

include hf

theorem handleMessage_frame (env : Env) (code : Int32) (d : Driver) :
    f (d.handleMessage env code) = f d := by
  have hdispatch := dispatchReport_frame hf.emit hf.setCsmrreport hf.setTcreport env
  generalize hd' : d.handleMessage env code = d'
  have h := handleMessage_handled env code d
  rw [hd'] at h
  cases h with
  | ignored => rfl
  | csmr usage => exact hdispatch _ _ _ d
  | brightness usage => exact hdispatch _ _ _ d
  | topCase usage => exact hdispatch _ _ _ d
  | displayOff =>
    exact displayOff_frame hf.emit hf.setCsmrreport hf.setTcreport hf.setBacklightEntry
      hf.setPanelBrightnessLevel hf.setIsPanelBackLightOn env d
  | toggleTouchpad =>
    exact toggleTouchpad_frame hf.emit hf.setIsTouchpadEnabled hf.setProperty env d
  | letSleep => exact hf.emit d _
  | toggleALSSensor =>
    rw [toggleALSSensor, hf.setProperty]
    exact hf.setIsALSEnabled d _
  | toggleAirplaneMode => exact hf.emit d _

/-- **Frame**: a message changes nothing outside what hotkeys assign. -/
theorem message_frame (env : Env) (m : Message) (d : Driver) : f (d.message env m).2 = f d := by
  cases m with
  | deviceNotification event =>
    rw [message_deviceNotification, handleMessage_frame hf, wedEvaluated]
    split
    · rfl
    · exact hf.emit d _
  | setKeyboardBacklight tval =>
    rw [message]
    split
    · exact hf.emit d _
    · rfl
  | other type => rfl

end Frames

theorem HotkeyFrame.poller : HotkeyFrame poller := by constructor <;> intros <;> rfl

theorem HotkeyFrame.alsDevice : HotkeyFrame alsDevice := by constructor <;> intros <;> rfl

/-! ### Dispatches -/

section Idle

variable (env : Env) (ch : Channel) (d : Driver)

@[simp] theorem report_setKeys (keys : Keys) :
    (d.setKeys ch keys).report ch = ⟨(d.report ch).reportId, keys⟩ := by
  cases ch <;> rfl

@[simp] theorem report_record (es : List Effect) : (d.record es).report ch = d.report ch := by
  cases ch <;> rfl

theorem setKeys_setKeys (keys keys' : Keys) :
    (d.setKeys ch keys).setKeys ch keys' = d.setKeys ch keys' := by
  cases ch <;> rfl

theorem setKeys_record (keys : Keys) (es : List Effect) :
    (d.record es).setKeys ch keys = (d.setKeys ch keys).record es := by
  cases ch <;> rfl

theorem setKeys_self : d.setKeys ch (d.report ch).keys = d := by
  cases ch <;> rfl

/-- Handing over a report adds a post to the history. -/
theorem postKeyboardInputReport_eq (r : Report) :
    ∃ result, (d.postKeyboardInputReport env (some r) Report.size).2
      = d.record [.post r result] := ⟨_, rfl⟩

variable {d} {code : Int32}

/-- One pass on a free key array: the key goes down and up again. -/
theorem dispatchPass_of_idle (hidle : (d.report ch).keys = Keys.new) (hcode : keyByte code ≠ 0) :
    ∃ es, dispatchPass env ch code d = d.record es ∧ dispatched es = [] ∧
      posted es = tap (d.report ch).reportId code := by
  -- after the release the driver is the one before, but for the two posts
  have hself : d.setKeys ch Keys.new = d := by rw [← hidle, setKeys_self]
  have hreleased : d.report ch = ⟨(d.report ch).reportId, Keys.new⟩ := by rw [← hidle]
  obtain ⟨r₁, h₁⟩ := postKeyboardInputReport_eq env
    (d.setKeys ch (Keys.single (keyByte code))) ⟨(d.report ch).reportId, .single (keyByte code)⟩
  obtain ⟨r₂, h₂⟩ := postKeyboardInputReport_eq env
    (d.record [.post ⟨(d.report ch).reportId, .single (keyByte code)⟩ r₁]) (d.report ch)
  refine ⟨[.post ⟨(d.report ch).reportId, .single (keyByte code)⟩ r₁,
    .post (d.report ch) r₂], ?_, rfl, ?_⟩
  · simp only [dispatchPass, hidle, Keys.insert_new hcode, report_setKeys, h₁, setKeys_record,
      report_record, Keys.erase_single, setKeys_setKeys, hself]
    rw [h₂, record_record]
    rfl
  · rw [tap, ← hreleased]
    rfl

/-- **A dispatch on a free key array** changes nothing but the history: a debug
line, and as many taps as its count says. -/
theorem dispatchReport_of_idle (hidle : (d.report ch).keys = Keys.new) (hcode : keyByte code ≠ 0)
    {loop : Int32} (hloop : 0 ≤ loop.toInt) :
    ∃ es, dispatchReport env ch code loop d = d.record es ∧
      dispatched es = [⟨(d.report ch).reportId, code, loop⟩] ∧
      posted es = taps ⟨(d.report ch).reportId, code, loop⟩ := by
  have hpasses : ∀ n, ∃ es, (dispatchPass env ch code)^[n]
      (d.record [.dispatched (d.report ch).reportId code loop]) = d.record es ∧
      dispatched es = [⟨(d.report ch).reportId, code, loop⟩] ∧
      posted es = (List.replicate n (tap (d.report ch).reportId code)).flatten := by
    intro n
    induction n with
    | zero => exact ⟨_, rfl, rfl, rfl⟩
    | succ n ih =>
      -- the array is free again after `n` passes, so one more is a tap
      obtain ⟨es, hes, hdisp, hpost⟩ := ih
      obtain ⟨fs, hfs, hdisp', hpost'⟩ :=
        dispatchPass_of_idle env ch (d := d.record es) (by simpa using hidle) hcode
      refine ⟨es ++ fs, ?_, ?_, ?_⟩
      · rw [Function.iterate_succ_apply', hes, hfs, record_record]
      · rw [dispatched_append, hdisp, hdisp', List.append_nil]
      · rw [posted_append, hpost, hpost', report_record, List.replicate_succ', List.flatten_append,
          List.flatten_singleton]
  obtain ⟨es, hes, hdisp, hpost⟩ := hpasses loop.toInt.toNat
  refine ⟨es, ?_, hdisp, hpost⟩
  rw [dispatchReport, Countdown.countdown_of_nonneg _ hloop, ← hes]
  rfl

end Idle

end Driver

end AsusSMC
