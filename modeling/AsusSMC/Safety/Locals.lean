import AsusSMC.Framework.TwoRun
import AsusSMC.Model.Startup
import AsusSMC.Model.System

/-!
# Output variables of failed evaluations

A failed evaluation leaves the caller's output variable as it was, and the
output variables of the driver are not initialised. `parse_WDG` and
`wmi_evaluate_method` look at the status first, so nothing depends on their
`wdg` and `val` (the `_withLocals` lemmas). `probe` and `message` do not: the
matching decision is taken on `obj`, and the hotkey handled is `res`, whatever
they held.

Two runs that differ only in the locals are runs on look-alike events (`TwoRun`).
They agree exactly if the two unchecked evaluations succeed wherever they are
made (`locals_irrelevant_iff`).
-/

namespace AsusSMC

open EventSystem TwoRun

/-! ### Entries -/

/-- The entries into the driver. -/
inductive Entry
  | probe (env : Env) (superProbe : Bool) (provider : Option ACPIDevice)
  | start (senv : StartEnv) (statement : StartStatement)
  | op (o : Op)

/-- The running driver, and what the last entry before start-up has returned. -/
structure Session where
  system : System
  returned : Bool

namespace Session

/-- One entry. -/
def step (s : Session) : Entry → Session
  | .probe env superProbe provider =>
    let r := s.system.driver.probe env superProbe provider
    { system := { s.system with driver := r.2 }, returned := r.1 }
  | .start senv statement =>
    let r := statement.exec senv s.system.driver
    { system := { s.system with driver := r.2 }, returned := r.1 }
  | .op o => { s with system := s.system.step o }

end Session

def StartEnv.withLocals (senv : StartEnv) (l : Locals) : StartEnv :=
  { senv with env := senv.env.withLocals l }

def Op.withLocals (l : Locals) : Op → Op
  | .tick env => .tick (env.withLocals l)
  | .message env m => .message (env.withLocals l) m
  | .writeLKSB env src => .writeLKSB (env.withLocals l) src
  | .writeBDVT env src => .writeBDVT (env.withLocals l) src
  | o => o

def Entry.withLocals (l : Locals) : Entry → Entry
  | .probe env superProbe provider => .probe (env.withLocals l) superProbe provider
  | .start senv statement => .start (senv.withLocals l) statement
  | .op o => .op (o.withLocals l)

namespace Driver

section Locals

variable (env : Env) (l : Locals)

/-- The search for the backlight entry asks nothing but the registry. -/
theorem readPanelBrightnessValue_withLocals (d : Driver) :
    d.readPanelBrightnessValue (env.withLocals l) = d.readPanelBrightnessValue env := by
  rw [readPanelBrightnessValue, readPanelBrightnessValue, findBacklightEntry_eq,
    findBacklightEntry_eq]
  rfl

theorem displayOff_withLocals (d : Driver) :
    d.displayOff (env.withLocals l) = d.displayOff env := by
  rw [displayOff, displayOff, readPanelBrightnessValue_withLocals]
  rfl

theorem handleMessage_withLocals (code : Int32) (d : Driver) :
    d.handleMessage (env.withLocals l) code = d.handleMessage env code := by
  unfold handleMessage
  rw [displayOff_withLocals]
  rfl

/-- A WMI evaluation checks the status before it reads `val`. -/
theorem wmiEvaluateMethod_withLocals (methodId arg0 arg1 : UInt32) (d : Driver) :
    d.wmiEvaluateMethod (env.withLocals l) methodId arg0 arg1
      = d.wmiEvaluateMethod env methodId arg0 arg1 := by
  rw [wmiEvaluateMethod_eq, wmiEvaluateMethod_eq]
  rfl

theorem toggleBatteryConservativeMode_withLocals (state : Bool) (d : Driver) :
    d.toggleBatteryConservativeMode (env.withLocals l) state
      = d.toggleBatteryConservativeMode env state := by
  simp only [toggleBatteryConservativeMode, wmiEvaluateMethod_withLocals]

theorem refreshFan_withLocals (d : Driver) :
    d.refreshFan (env.withLocals l) = d.refreshFan env := by
  rw [refreshFan_eq, refreshFan_eq]
  rfl

theorem fire_withLocals (d : Driver) : d.fire (env.withLocals l) = d.fire env := by
  simp only [fire, pollerAction, refreshFan_withLocals]
  rfl

/-- `parse_WDG` checks the status before it reads `wdg`. -/
theorem parseWDG_withLocals (d : Driver) : d.parseWDG (env.withLocals l) = d.parseWDG env := by
  have hreply : d.objectReply (env.withLocals l) .atkDevice "_WDG" []
      = d.objectReply env .atkDevice "_WDG" [] := rfl
  unfold parseWDG evaluateObject
  rw [hreply]
  cases d.objectReply env .atkDevice "_WDG" [] with
  | none => rfl
  | some obj => rfl

theorem initBattery_withLocals (kernelVersion kernelMinorVersion : ℕ) (d : Driver) :
    d.initBattery (env.withLocals l) kernelVersion kernelMinorVersion
      = d.initBattery env kernelVersion kernelMinorVersion := by
  have hpresent : d.wmiDevIsPresent (env.withLocals l) ASUS_WMI_DEVID_RSOC
      = d.wmiDevIsPresent env ASUS_WMI_DEVID_RSOC := by
    rw [wmiDevIsPresent, wmiDevIsPresent, wmiEvaluateMethod_withLocals]
  simp only [initBattery, hpresent, toggleBatteryConservativeMode_withLocals]

theorem initEC0Device_withLocals (disc : Discovery) (d : Driver) :
    d.initEC0Device (env.withLocals l) disc = d.initEC0Device env disc := by
  simp only [initEC0Device, refreshFan_withLocals]
  rfl

theorem startATKDevice_withLocals (d : Driver) :
    d.startATKDevice (env.withLocals l) = d.startATKDevice env := by
  simp only [startATKDevice, toggleALS, wmiEvaluateMethod_withLocals]
  rfl

end Locals

end Driver

/-! ### The two unchecked evaluations -/

namespace Driver

section Unchecked

variable {env : Env} {d : Driver}

/-- The firmware's reply to the `_WED` evaluation of a notification. -/
def wedReply (env : Env) (event : UInt32) (d : Driver) : Option UInt32 :=
  d.integerReply env .atkDevice "_WED" [.number event.toUInt64]

/-- A notification with other locals differs in the code it handles alone. -/
theorem notify_withLocals (event : UInt32) (l : Locals) :
    d.notify (env.withLocals l, event)
      = (d.wedEvaluated env event).handleMessage env (d.eventCode (env.withLocals l) event) := by
  rw [notify, message_deviceNotification, handleMessage_withLocals]
  rfl

/-- With the event in the message, or with a reply, `res` is not read. -/
theorem eventCode_withLocals {event : UInt32}
    (h : d.directACPImessaging = true ∨ (d.wedReply env event).isSome = true) (l : Locals) :
    d.eventCode (env.withLocals l) event = d.eventCode env event := by
  -- either nothing is evaluated, or the reply overwrites `res`
  rcases h with hdirect | hreply
  · rw [eventCode, eventCode, if_pos hdirect, if_pos hdirect]
  · obtain ⟨code, hcode⟩ := Option.isSome_iff_exists.mp hreply
    have hcode' : d.integerReply (env.withLocals l) .atkDevice "_WED" [.number event.toUInt64]
        = some code := hcode
    rw [wedReply] at hcode
    rw [eventCode, eventCode, hcode, hcode', Option.getD_some, Option.getD_some]

/-- Without a reply the code is whatever `res` held. -/
theorem eventCode_of_no_reply {event : UInt32} (hdirect : d.directACPImessaging = false)
    (hreply : d.wedReply env event = none) (l : Locals) :
    d.eventCode (env.withLocals l) event = l.res.toInt32 := by
  have hreply' : d.integerReply (env.withLocals l) .atkDevice "_WED" [.number event.toUInt64]
      = none := hreply
  rw [eventCode, hdirect, if_neg Bool.false_ne_true, hreply']
  rfl

/-- So the same notification may put the machine to sleep, or do nothing. -/
theorem notify_depends_on_locals {event : UInt32} (hdirect : d.directACPImessaging = false)
    (hreply : d.wedReply env event = none) :
    ∃ l l' : Locals, d.notify (env.withLocals l, event) ≠ d.notify (env.withLocals l', event) := by
  -- the code of the sleep key, and one that is no hotkey
  refine ⟨{ env.locals with res := 0x5E }, { env.locals with res := 0x57 }, fun heq => ?_⟩
  rw [notify_withLocals, notify_withLocals, eventCode_of_no_reply hdirect hreply,
    eventCode_of_no_reply hdirect hreply] at heq
  -- the first run posts a kernel event, the second does not
  have hlength : ((d.wedEvaluated env event).log ++ [_]).length
      = (d.wedEvaluated env event).log.length := congrArg (fun d : Driver => d.log.length) heq
  simp at hlength

/-- `probe` with a reply, or where it does not get to the evaluation, does not
read `obj`. -/
theorem probe_withLocals {superProbe : Bool} {provider : Option ACPIDevice}
    (h : superProbe = true → ∀ dev, provider = some dev →
      (env.acpi.object dev "_UID" []).isSome = true) (l : Locals) :
    d.probe (env.withLocals l) superProbe provider = d.probe env superProbe provider := by
  cases superProbe with
  | false => rfl
  | true =>
    cases provider with
    | none => rfl
    | some dev =>
      obtain ⟨obj, hobj⟩ := Option.isSome_iff_exists.mp (h rfl dev rfl)
      have hobj' : (env.withLocals l).acpi.object dev "_UID" [] = some obj := hobj
      simp only [probe, hobj, hobj']
      rfl

/-- Without a reply the matching decision is whatever `obj` held. -/
theorem probe_depends_on_locals {dev : ACPIDevice} (h : env.acpi.object dev "_UID" [] = none) :
    ∃ l l' : Locals,
      (d.probe (env.withLocals l) true (some dev)).1
        ≠ (d.probe (env.withLocals l') true (some dev)).1 := by
  refine ⟨{ env.locals with obj := some (.string "ATK") }, { env.locals with obj := none },
    fun heq => ?_⟩
  have hreply : ∀ l, (env.withLocals l).acpi.object dev "_UID" [] = none := fun _ => h
  simp only [probe, hreply] at heq
  -- the names are `"ATK"` and none at all
  change (("ATK" : String) == "ATK") = false at heq
  exact absurd heq (by decide)

end Unchecked

end Driver

/-- No statement of `start` depends on its locals. -/
theorem StartStatement.exec_withLocals (senv : StartEnv) (l : Locals) (k : StartStatement)
    (d : Driver) : k.exec (senv.withLocals l) d = k.exec senv d := by
  cases k with
  | parseWDG => exact congrArg (Prod.mk true) (d.parseWDG_withLocals senv.env l)
  | initATKDevice =>
    exact congrArg (fun r => (true, r.2)) (d.wmiEvaluateMethod_withLocals senv.env l _ _ _)
  | initEC0Device => exact congrArg (Prod.mk true) (d.initEC0Device_withLocals senv.env l _)
  | initBattery => exact congrArg (Prod.mk true) (d.initBattery_withLocals senv.env l _ _)
  | startATKDevice => exact congrArg (Prod.mk true) (d.startATKDevice_withLocals senv.env l)
  | _ => rfl

/-! ### One entry -/

/-- The same entry, but for what the locals hold. -/
def SameButLocals (e e' : Entry) : Prop := ∃ l, e' = e.withLocals l

theorem SameButLocals.refl (e : Entry) : SameButLocals e e := by
  cases e with
  | probe env superProbe provider => exact ⟨env.locals, rfl⟩
  | start senv statement => exact ⟨senv.env.locals, rfl⟩
  | op o =>
    cases o with
    | tick env => exact ⟨env.locals, rfl⟩
    | message env m => exact ⟨env.locals, rfl⟩
    | writeLKSB env src => exact ⟨env.locals, rfl⟩
    | writeBDVT env src => exact ⟨env.locals, rfl⟩
    -- the other entries evaluate nothing
    | _ => exact ⟨Env.unresponsive.locals, rfl⟩

namespace Session

/-- The two evaluations whose status is not checked succeed, where the entry
makes one: `_UID` in `probe`, `_WED` in `message`. -/
def Replied (s : Session) : Entry → Prop
  | .probe env superProbe provider =>
    superProbe = true → ∀ dev, provider = some dev → (env.acpi.object dev "_UID" []).isSome = true
  | .op (.message env (.deviceNotification event)) =>
    s.system.driver.directACPImessaging = true ∨
      (s.system.driver.wedReply env event).isSome = true
  | _ => True

/-- A notification whose `_WED` evaluation fails does nothing but evaluate. -/
def FailedWEDIsIgnored (s : Session) : Entry → Prop
  | .op (.message env (.deviceNotification event)) =>
    s.system.driver.directACPImessaging = false → s.system.driver.wedReply env event = none →
      (s.step (.op (.message env (.deviceNotification event)))).system.driver
        = s.system.driver.emit
            (s.system.driver.integerEffect env .atkDevice "_WED" [.number event.toUInt64])
  | _ => True

variable {s : Session}

/-- **Step lemma**: where the unchecked evaluations succeed, no entry depends on
its locals. -/
theorem step_withLocals {e : Entry} (h : Replied s e) (l : Locals) :
    s.step (e.withLocals l) = s.step e := by
  cases e with
  | probe env superProbe provider =>
    simp only [step, Entry.withLocals, Driver.probe_withLocals h]
  | start senv statement =>
    simp only [step, Entry.withLocals, StartStatement.exec_withLocals]
  | op o =>
    -- the decision of `probe` is not touched
    suffices hop : s.system.step (o.withLocals l) = s.system.step o by
      rw [step, Entry.withLocals, step, hop]
    cases o with
    | tick env => simp only [System.step, Op.withLocals, Driver.fire_withLocals]
    | message env m =>
      cases m with
      | deviceNotification event =>
        have hnotify : s.system.driver.notify (env.withLocals l, event)
            = s.system.driver.notify (env, event) := by
          rw [Driver.notify_withLocals, Driver.eventCode_withLocals h, Driver.notify,
            Driver.message_deviceNotification]
        exact congrArg (fun d => { s.system with driver := d }) hnotify
      | setKeyboardBacklight tval => rfl
      | other type => rfl
    | writeLKSB env src => rfl
    | writeBDVT env src =>
      -- the byte is a `bool` of the same value whatever the locals hold
      simp only [System.step, Op.withLocals, BDVT.update, Env.withLocals_bool,
        Driver.toggleBatteryConservativeMode_withLocals]
    | _ => rfl

/-- An entry is independent of its locals exactly if the evaluations whose status
it does not check succeed. -/
theorem independent_iff (e : Entry) : Independent step SameButLocals s e ↔ Replied s e := by
  constructor
  · intro h
    -- any two fillings of the locals lead to one state
    have hsame : ∀ l l', s.step (e.withLocals l) = s.step (e.withLocals l') := by
      intro l l'
      rw [h _ ⟨l, rfl⟩, h _ ⟨l', rfl⟩]
    cases e with
    | probe env superProbe provider =>
      rintro rfl dev rfl
      by_contra hreply
      obtain ⟨l, l', hne⟩ := Driver.probe_depends_on_locals (d := s.system.driver)
        (Option.not_isSome_iff_eq_none.mp hreply)
      exact hne (congrArg Session.returned (hsame l l'))
    | start senv statement => trivial
    | op o =>
      cases o with
      | message env m =>
        cases m with
        | deviceNotification event =>
          by_contra hreply
          rw [Replied, not_or, Bool.not_eq_true, Option.not_isSome_iff_eq_none] at hreply
          obtain ⟨l, l', hne⟩ := Driver.notify_depends_on_locals hreply.1 hreply.2
          exact hne (congrArg (fun s : Session => s.system.driver) (hsame l l'))
        | _ => trivial
      | _ => trivial
  · rintro h e' ⟨l, rfl⟩
    exact step_withLocals h l

/-! ### Whole runs -/

/-- **Output variables of failed evaluations.** From every state and for every
list of entries: two runs that differ only in what the locals hold return the
same decisions and go through the same states, the history of reports, kernel
events and messages included, and every notification whose `_WED` evaluation
fails is ignored, exactly if `_UID` and `_WED` are evaluated successfully wherever
they are evaluated. -/
theorem locals_irrelevant_iff (s : Session) (es : List Entry) :
    (Agrees step SameButLocals s es ∧ Throughout step FailedWEDIsIgnored s es) ↔
      Throughout step Replied s es := by
  have hagrees : Agrees step SameButLocals s es ↔ Throughout step Replied s es := by
    rw [agrees_iff_throughout SameButLocals.refl]
    exact throughout_congr (P := fun _ => True) (fun _ _ => trivial) fun _ e _ => independent_iff e
  rw [hagrees, and_iff_left_iff_imp]
  intro h
  -- where the evaluation succeeds there is no failed one to ignore
  refine h.mono fun s e hreplied => ?_
  cases e with
  | op o =>
    cases o with
    | message env m =>
      cases m with
      | deviceNotification event =>
        intro hdirect hnone
        rcases hreplied with htrue | hsome
        · exact absurd (hdirect.symm.trans htrue) (by decide)
        · exact absurd (hnone ▸ hsome) (by decide)
      | _ => trivial
    | _ => trivial
  | _ => trivial

/-- A notification on a machine that answers nothing: what the message does is
what its local happens to hold. -/
theorem locals_leak_on_failed_wed :
    ¬ (Agrees step SameButLocals ⟨{ driver := { atkDevice := some 0 } }, true⟩
          [.op (.message .unresponsive (.deviceNotification 0x20))] ∧
        Throughout step FailedWEDIsIgnored ⟨{ driver := { atkDevice := some 0 } }, true⟩
          [.op (.message .unresponsive (.deviceNotification 0x20))]) := by
  rintro ⟨hagrees, -⟩
  have hsame := hagrees _
    [.op (.message (Env.unresponsive.withLocals ⟨none, none, fun _ _ _ => 0, 0x5E⟩)
      (.deviceNotification 0x20))] List.prefix_rfl (.cons ⟨_, rfl⟩ .nil)
  have hlength := congrArg (fun s : Session => s.system.driver.log.length) hsame
  exact absurd hlength (by decide)

end Session

end AsusSMC
