import AsusSMC.Model.History
import AsusSMC.Model.System
import AsusSMC.Safety.ManagementBlock

/-!
# The name of the WMI method

Every WMI call evaluates the method that `parse_WDG` has named, once and for all, at
the beginning of `start`. Its comment promises `WMNB` where no management block is
found, but only the end of the loop keeps the promise: without a `_WDG`, or with one
that is not a buffer, the name stays empty, and every later call evaluates it
(`wmi_named_iff`).
-/

namespace AsusSMC

open EventSystem

/-- What is done with a driver after `start` that may call a WMI method. -/
inductive WMIEvent
  | op (o : Op)
  | toggleALS (env : Env) (state : Bool)
  | vsmcPublished (venv : VSMCEnv)

namespace System

def wmiStep (s : System) : WMIEvent → System
  | .op o => s.step o
  | .toggleALS env state => { s with driver := s.driver.toggleALS env state }
  | .vsmcPublished venv => { s with driver := (s.driver.vsmcNotificationHandler venv).2 }

end System

namespace Driver

/-- The firmware answers `_WDG` with a buffer. -/
def WDGIsBuffer (env : Env) (provider : ACPIDevice) : Prop :=
  ∃ data, env.acpi.object provider "_WDG" [] = some (some (.data data))

/-- With a buffer that has a management block. -/
def WDGHasManagementBlock (env : Env) (provider : ACPIDevice) : Prop :=
  ∃ data, env.acpi.object provider "_WDG" [] = some (some (.data data)) ∧
    ∃ i, IsManagementBlock data i

/-- Not an evaluation of the empty name. -/
def Named (e : Effect) : Prop := ∀ dev args reply, e ≠ .evaluateInteger dev "" args reply

/-- A driver as `init` has made it, after `start`. -/
def started (senv : StartEnv) (vendor : Option UInt32) (provider : ACPIDevice) : Driver :=
  (start senv provider (({} : Driver).init true vendor).2).2

/-! ### What is evaluated -/

/-- `A` holds of everything but evaluations of the empty name. -/
structure NameEffects (A : Effect → Prop) : Prop where
  other : ∀ e, (∀ dev method args reply, e ≠ .evaluateInteger dev method args reply) → A e
  named : ∀ dev method args reply, method ≠ "" → A (.evaluateInteger dev method args reply)

/-- `A` holds of the WMI calls of the driver. -/
def AdmitsWMI (A : Effect → Prop) (d : Driver) : Prop :=
  ∀ env methodId arg0 arg1, A (d.wmiEffect env methodId arg0 arg1)

/-- What a WMI call depends on. -/
def wmiName (d : Driver) : Option ACPIDevice × Vector UInt8 5 := (d.atkDevice, d.wmiMethod)

theorem nameEffects_named : NameEffects Named where
  other _ he := fun dev args reply => he dev "" args reply
  named dev method args reply hmethod := by
    intro dev' args' reply' h
    exact hmethod (Effect.evaluateInteger.inj h).2.1

/-- Where nothing is asked of the effects, what is left is what becomes of the name. -/
theorem nameEffects_true : NameEffects fun _ => True :=
  ⟨fun _ _ => trivial, fun _ _ _ _ _ => trivial⟩

section Admitted

variable {A : Effect → Prop} {d d' : Driver}

theorem AdmitsWMI.congr (h : AdmitsWMI A d) (hd : wmiName d' = wmiName d) : AdmitsWMI A d' := by
  intro env methodId arg0 arg1
  obtain ⟨hdevice, hmethod⟩ := Prod.mk.inj hd
  rw [wmiEffect_congr hdevice hmethod]
  exact h env methodId arg0 arg1

variable (hA : NameEffects A)

include hA

theorem NameEffects.hotkey : HotkeyEffects A := by
  refine ⟨⟨?_, ?_⟩, ?_, ?_⟩ <;> intros <;> exact hA.other _ (by simp)

theorem NameEffects.resource (object : Resource) (call : ResourceCall) :
    A (.resource object call) := hA.other _ (by simp)

theorem NameEffects.nullCall (p : Pointer) : A (.nullCall p) := hA.other _ (by simp)

theorem NameEffects.submitPlugin (data : List VirtualSMCKeyValue) : A (.submitPlugin data) :=
  hA.other _ (by simp)

theorem NameEffects.integerEffect {method : String} (hmethod : method ≠ "") (env : Env)
    (field : DeviceField) (args : List ACPIArg) (d : Driver) :
    A (d.integerEffect env field method args) := by
  rw [Driver.integerEffect]
  split
  · exact hA.nullCall _
  · exact hA.named _ _ _ _ hmethod

theorem NameEffects.objectEffect (field : DeviceField) (method : String) (args : List ACPIArg)
    (d : Driver) : A (d.objectEffect field method args) := by
  rw [Driver.objectEffect]
  split
  · exact hA.nullCall _
  · exact hA.other _ (by simp)

theorem NameEffects.message (env : Env) (m : Message) (d : Driver) :
    Grows A d (d.message env m).2 := by
  cases m with
  | deviceNotification event =>
    exact notification_grows hA.hotkey env event
      (fun _ => hA.integerEffect (by decide) env _ _ d) (fun _ _ => hA.nullCall _)
      fun _ _ => hA.nullCall _
  | setKeyboardBacklight tval =>
    rw [Driver.message]
    split
    · exact grows_emit (hA.objectEffect _ _ _ d)
    · exact .refl d
  | other type => exact .refl d

theorem NameEffects.notificationHandler (service : Service) (notifier : Notifier) (d : Driver) :
    Grows A d (d.notificationHandler service notifier).2 :=
  notificationHandler_grows (fun _ => hA.nullCall _) (fun _ => hA.nullCall _) service notifier

theorem NameEffects.fanEffect (h : AdmitsWMI A d) (env : Env) : A (d.fanEffect env) := by
  rw [Driver.fanEffect]
  split
  · exact hA.integerEffect (by decide) env _ _ d
  · exact h env _ _ _

end Admitted

/-! ### `start` -/

section Start

variable {A : Effect → Prop} (hA : NameEffects A) {k : StartStatement} {d : Driver}

/-- After `parse_WDG` no statement changes the name. -/
theorem exec_wmiName (senv : StartEnv) (hk : k ≠ .parseWDG) (d : Driver) :
    wmiName (StartStatement.exec senv k d).2 = wmiName d := by
  have hframe : StartStatement.RegisterFrame wmiName := by
    constructor
    · constructor <;> intros <;> rfl
    all_goals intros; rfl
  by_cases hals : k = .initALSDevice
  · subst hals
    exact initALSDevice_frame (fun _ _ => rfl) (fun _ _ => rfl) (fun _ _ => rfl) (fun _ _ => rfl)
      senv.env senv.alsDiscovery d
  · exact StartStatement.exec_registerFrame hframe senv hk hals d

include hA

/-- **Step lemma**: what a statement of `start` records. -/
theorem exec_named (senv : StartEnv) (hd : AdmitsWMI A d) :
    Grows A d (StartStatement.exec senv k d).2 := by
  have hstart : StartEffects A senv.env d :=
    ⟨hA.objectEffect _ _ _ d, hd senv.env, fun _ => hA.named _ _ _ _ (by decide),
      fun _ => hA.named _ _ _ _ (by decide)⟩
  cases k with
  | registerNotifications =>
    show Grows A d (Thread.runAll NotifyState.exec AsusSMC.registerNotifications
      { driver := d, published := senv.services, alive := senv.services }).2.driver
    refine Thread.runAll_related (R := fun s s' : NotifyState => Grows A s.driver s'.driver)
      (fun s => .refl _) (fun _ _ _ => Grows.trans) _ ?_ _
    intro k _ s
    cases k with
    | addPublish =>
      -- the handler runs for every service that is there
      simp only [NotifyState.exec]
      generalize s.driver = d
      induction s.alive generalizing d with
      | nil => exact .refl d
      | cons x services ih => exact (hA.notificationHandler x .publish d).trans (ih _)
    | assignPublish => exact .of_log_eq rfl
    | addTerminate => exact .of_log_eq rfl
    | assignTerminate => exact .of_log_eq rfl
  | registerVSMC =>
    show Grows A d (Thread.runAll (VSMCState.exec senv.numbering) AsusSMC.registerVSMC
      { driver := d, published := senv.vsmc, installed := false }).2.driver
    exact Thread.runAll_related (R := fun s s' : VSMCState => Grows A s.driver s'.driver)
      (fun s => .refl _) (fun _ _ _ => Grows.trans) _
      (fun k _ s => vsmcStatement_grows hA.resource hA.submitPlugin senv.numbering k s) _
  -- the other statements evaluate methods that have a name, or acquire an object
  | _ => exact startStatement_grows hA.resource senv hstart (by decide) (by decide)

/-- **Run lemma**: the statements after `parse_WDG`. -/
theorem runAll_named (senv : StartEnv) (prog : List StartStatement) (hprog : .parseWDG ∉ prog)
    (hd : AdmitsWMI A d) :
    Grows A d (Thread.runAll (StartStatement.exec senv) prog d).2 ∧
      wmiName (Thread.runAll (StartStatement.exec senv) prog d).2 = wmiName d := by
  refine Thread.runAll_related
    (R := fun d d' => AdmitsWMI A d → Grows A d d' ∧ wmiName d' = wmiName d)
    (fun d _ => ⟨.refl d, rfl⟩) ?_ prog ?_ d hd
  · intro d d' d'' h h' hd
    -- the first half keeps the name, so the second half finds it admitted
    obtain ⟨hgrown, hname⟩ := h hd
    obtain ⟨hgrown', hname'⟩ := h' (hd.congr hname)
    exact ⟨hgrown.trans hgrown', hname'.trans hname⟩
  · intro k hk d hd
    exact ⟨exec_named hA senv hd, exec_wmiName senv (fun h => hprog (h ▸ hk)) d⟩

end Start

/-! ### After `start` -/

section Running

variable {A : Effect → Prop} (hA : NameEffects A) {s : System}

theorem wmiStep_wmiName (e : WMIEvent) (s : System) :
    wmiName (s.wmiStep e).driver = wmiName s.driver := by
  have hotkey : HotkeyFrame wmiName := by constructor <;> intros <;> rfl
  cases e with
  | op o =>
    by_cases htick : o.IsTick
    · cases o with
      | tick env =>
        exact fire_frame (fun _ _ => rfl) (fun _ _ => rfl) (fun _ _ => rfl) (fun _ _ => rfl) env
          s.driver
      | _ => exact absurd htick id
    · exact System.step_frame hotkey (fun _ _ => rfl) (fun _ _ => rfl) s htick
  | toggleALS env state => exact wmiEvaluateMethod_frame (fun _ _ => rfl) env _ _ _ s.driver
  | vsmcPublished venv =>
    exact vsmcNotificationHandler_frame venv s.driver (fun _ _ => rfl) (fun _ _ => rfl)
      fun _ _ => rfl

include hA

/-- **Step lemma**: what an event records. -/
theorem wmiStep_named (hd : AdmitsWMI A s.driver) (e : WMIEvent) :
    Grows A s.driver (s.wmiStep e).driver := by
  cases e with
  | op o =>
    cases o with
    | tick env =>
      exact fire_grows env (fun _ => hA.integerEffect (by decide) env _ _ _) (hA.other _ (by simp))
        (hA.fanEffect hd env)
    | message env m => exact hA.message env m s.driver
    | notification service notifier => exact hA.notificationHandler service notifier s.driver
    | writeLKSB env src => exact hA.message env _ s.driver
    | writeBDVT env src =>
      simp only [System.wmiStep, System.step]
      split
      · exact toggleBatteryConservativeMode_grows env _ fun limit => hd env _ _ limit
      · exact .refl _
    | _ => exact .of_log_eq rfl
  | toggleALS env state => exact wmiEvaluateMethod_grows env (hd env _ _ _)
  | vsmcPublished venv => exact vsmcNotificationHandler_grows hA.resource venv hA.submitPlugin

omit hA in
/-- **Run lemma**: a driver whose calls have a name evaluates no empty one. -/
theorem named_run (hadmits : AdmitsWMI Named s.driver) (hnamed : ∀ e ∈ s.driver.log, Named e)
    (es : List WMIEvent) :
    Always System.wmiStep (fun s => ∀ e ∈ s.driver.log, Named e) s es := by
  -- the name is part of the invariant: no event changes it
  have hrun := Always.of_step (P := fun s : System =>
    AdmitsWMI Named s.driver ∧ ∀ e ∈ s.driver.log, Named e) ⟨hadmits, hnamed⟩
    (fun s e hs => ⟨hs.1.congr (wmiStep_wmiName e s),
      (wmiStep_named nameEffects_named hs.1 e).forall_mem hs.2⟩) es
  exact hrun.mono fun _ hs => hs.2

end Running

/-! ### The name -/

section Name

variable (senv : StartEnv) (vendor : Option UInt32) (provider : ACPIDevice)

/-- The driver when its provider has been assigned: its name is empty. -/
def assigned : Driver := (({} : Driver).init true vendor).2.setAtkDevice (some provider)

/-- `parse_WDG` comes first, and returns to `start`. -/
theorem started_eq (h : senv.superStart = true) :
    started senv vendor provider
      = (Thread.runAll (StartStatement.exec senv) StartStatement.program.tail
          ((assigned vendor provider).parseWDG senv.env)).2 := by
  rw [started, start, h]
  rfl

/-- A driver that has not been started calls nothing, for it has no device. -/
theorem started_of_not_superStart (h : senv.superStart = false) :
    (started senv vendor provider).log = [] ∧ (started senv vendor provider).atkDevice = none := by
  rw [started, start, h]
  exact ⟨rfl, rfl⟩

theorem admitsWMI_of_no_device {A : Effect → Prop} (hA : NameEffects A) {d : Driver}
    (h : d.atkDevice = none) : AdmitsWMI A d := by
  intro env methodId arg0 arg1
  rw [wmiEffect, integerEffect, device, h]
  exact hA.nullCall _

theorem cString_blockMethod_ne (a b : UInt8) : cString (blockMethod a b).toList ≠ "" := by
  intro h
  -- the text starts with a `W`
  have hlist := congrArg String.toList h
  simp [cString, blockMethod] at hlist

variable {senv provider}

/-- A buffer gives a name, and the fallback where it has no management block. -/
theorem name_of_buffer (h : WDGIsBuffer senv.env provider) :
    (∃ a b, ((assigned vendor provider).parseWDG senv.env).wmiMethod = blockMethod a b) ∧
      (¬ WDGHasManagementBlock senv.env provider →
        ((assigned vendor provider).parseWDG senv.env).wmiMethod = fallbackMethod) := by
  obtain ⟨data, hdata⟩ := h
  have hreply : (assigned vendor provider).objectReply senv.env .atkDevice "_WDG" []
      = some (some (.data data)) := hdata
  by_cases hsome : ∃ i, IsManagementBlock data i
  · obtain ⟨i, hfirst⟩ := exists_first hsome
    obtain ⟨a, b, -, -, hmethod⟩ := wmiMethod_of_first hreply hfirst
    exact ⟨⟨a, b, hmethod⟩, fun hnone => absurd ⟨data, hdata, hsome⟩ hnone⟩
  · have hnone : ∀ i, ¬ IsManagementBlock data i := fun i hi => hsome ⟨i, hi⟩
    have hmethod := wmiMethod_of_none hreply hnone
    exact ⟨⟨_, _, hmethod⟩, fun _ => hmethod⟩

/-- Without a buffer the name stays empty. -/
theorem name_of_not_buffer (h : ¬ WDGIsBuffer senv.env provider) :
    ((assigned vendor provider).parseWDG senv.env).wmiMethod = Vector.replicate 5 0 := by
  have hreply : ∀ data, (assigned vendor provider).objectReply senv.env .atkDevice "_WDG" []
      ≠ some (some (.data data)) := fun data hdata => h ⟨data, hdata⟩
  rw [parseWDG_of_not_data hreply]
  rfl

theorem parsed_atkDevice :
    ((assigned vendor provider).parseWDG senv.env).atkDevice = some provider :=
  parseWDG_frame (f := atkDevice) (fun _ _ => rfl) (fun _ _ => rfl) senv.env _

/-- The name that `parse_WDG` has left is the one of the started driver. -/
theorem wmiMethod_started (h : senv.superStart = true) :
    (started senv vendor provider).wmiMethod
      = ((assigned vendor provider).parseWDG senv.env).wmiMethod := by
  have hrun := (runAll_named nameEffects_true (d := (assigned vendor provider).parseWDG senv.env)
    senv StartStatement.program.tail (by decide) fun _ _ _ _ => trivial).2
  rw [started_eq senv vendor provider h]
  exact congrArg Prod.snd hrun

/-- Without a buffer `start` itself evaluates the empty name: `initATKDevice` does. -/
theorem empty_name_evaluated (h : senv.superStart = true)
    (hbuffer : ¬ WDGIsBuffer senv.env provider) :
    ∃ e ∈ (started senv vendor provider).log, ¬ Named e := by
  generalize hd : (assigned vendor provider).parseWDG senv.env = d
  have hname : cString d.wmiMethod.toList = "" := by
    rw [← hd, name_of_not_buffer vendor hbuffer]
    decide
  have hdevice : d.atkDevice = some provider := by
    rw [← hd]
    exact parsed_atkDevice vendor
  refine ⟨d.wmiEffect senv.env ASUS_WMI_METHODID_INIT 0 0, ?_, ?_⟩
  · -- it is recorded first, and nothing is taken back
    have hprogram : StartStatement.program.tail
        = .initATKDevice :: StartStatement.program.tail.tail := rfl
    have hinit : StartStatement.exec senv .initATKDevice d
        = (true, d.emit (d.wmiEffect senv.env ASUS_WMI_METHODID_INIT 0 0)) := by
      rw [StartStatement.exec, initATKDevice, wmiEvaluateMethod_eq]
    have hrun := (runAll_named nameEffects_true
      (d := d.emit (d.wmiEffect senv.env ASUS_WMI_METHODID_INIT 0 0)) senv
      StartStatement.program.tail.tail (by decide) fun _ _ _ _ => trivial).1
    rw [started_eq senv vendor provider h, hd, hprogram, Thread.runAll, hinit]
    refine hrun.mem ?_
    rw [emit_log]
    exact List.mem_append_right _ (List.mem_singleton_self _)
  · intro hnamed
    -- the provider is there, so the method is evaluated by its empty name
    refine hnamed provider (wmiParams ASUS_WMI_METHODID_INIT 0 0)
      (senv.env.acpi.integer provider "" (wmiParams ASUS_WMI_METHODID_INIT 0 0)) ?_
    rw [wmiEffect, integerEffect, device, hdevice, hname]

/-- A started driver whose calls have a name. -/
theorem started_named (h : senv.superStart = true → WDGIsBuffer senv.env provider) :
    AdmitsWMI Named (started senv vendor provider) ∧
      ∀ e ∈ (started senv vendor provider).log, Named e := by
  cases hsuper : senv.superStart with
  | false =>
    obtain ⟨hlog, hdevice⟩ := started_of_not_superStart senv vendor provider hsuper
    refine ⟨admitsWMI_of_no_device nameEffects_named hdevice, fun e he => ?_⟩
    rw [hlog] at he
    exact absurd he List.not_mem_nil
  | true =>
    generalize hd : (assigned vendor provider).parseWDG senv.env = d
    -- the buffer has given a name
    have hadmits : AdmitsWMI Named d := by
      obtain ⟨a, b, hmethod⟩ := (name_of_buffer vendor (h hsuper)).1
      intro env methodId arg0 arg1
      refine nameEffects_named.integerEffect ?_ env _ _ d
      rw [← hd, hmethod]
      exact cString_blockMethod_ne a b
    -- until then `_WDG` is all that has been evaluated
    have hparsed : ∀ e ∈ d.log, Named e := by
      have hgrown := parseWDG_grows (d := assigned vendor provider) senv.env
        (nameEffects_named.objectEffect .atkDevice "_WDG" [] _)
      rw [← hd]
      exact hgrown.forall_mem fun e he => absurd he List.not_mem_nil
    have hrun := runAll_named nameEffects_named senv StartStatement.program.tail (by decide)
      hadmits
    rw [started_eq senv vendor provider hsuper, hd]
    exact ⟨hadmits.congr hrun.2, hrun.1.forall_mem hparsed⟩

end Name

/-- **Theorem.** `parse_WDG` leaves `WMNB` where it finds no management block exactly if
the firmware answers `_WDG` with a buffer, and exactly then no WMI call of a run, be it
of `start` or of anything after it, evaluates the empty name. -/
theorem wmi_named_iff (senv : StartEnv) (vendor : Option UInt32) (provider : ACPIDevice) :
    ((senv.superStart = true → ¬ WDGHasManagementBlock senv.env provider →
        (started senv vendor provider).wmiMethod = fallbackMethod) ↔
      (senv.superStart = true → WDGIsBuffer senv.env provider)) ∧
    ∀ es : List WMIEvent,
      Always System.wmiStep (fun s => ∀ e ∈ s.driver.log, Named e)
          { driver := started senv vendor provider } es ↔
        (senv.superStart = true → WDGIsBuffer senv.env provider) := by
  refine ⟨⟨fun h hsuper => ?_, fun h hsuper hnone => ?_⟩,
    fun es => ⟨fun h hsuper => ?_, fun h => ?_⟩⟩
  · by_contra hbuffer
    have hnone : ¬ WDGHasManagementBlock senv.env provider := by
      rintro ⟨data, hdata, -⟩
      exact hbuffer ⟨data, hdata⟩
    -- the name is empty, and not the fallback
    have hmethod := h hsuper hnone
    rw [wmiMethod_started vendor hsuper, name_of_not_buffer vendor hbuffer] at hmethod
    exact absurd hmethod (by decide)
  · rw [wmiMethod_started vendor hsuper]
    exact (name_of_buffer vendor (h hsuper)).2 hnone
  · by_contra hbuffer
    obtain ⟨e, he, hnamed⟩ := empty_name_evaluated vendor hsuper hbuffer
    exact hnamed (h.head e he)
  · obtain ⟨hadmits, hnamed⟩ := started_named vendor h
    -- how the driver was started does not matter any more
    generalize started senv vendor provider = d at hadmits hnamed ⊢
    exact named_run hadmits hnamed es

/-- A firmware without `_WDG`: the name stays empty, and is evaluated. -/
theorem no_WDG_no_name :
    ¬ WDGHasManagementBlock StartEnv.bare.env 0 ∧
      (started .bare none 0).wmiMethod ≠ fallbackMethod ∧
      .evaluateInteger 0 "" (wmiParams ASUS_WMI_METHODID_INIT 0 0) none
        ∈ (started .bare none 0).log := by
  refine ⟨?_, by decide, by decide⟩
  rintro ⟨data, hdata, -⟩
  exact absurd hdata (by simp [StartEnv.bare, Env.unresponsive])

end Driver

end AsusSMC
