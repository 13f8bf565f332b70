import AsusSMC.Model.Startup
import AsusSMC.Model.System

/-!
# Validity of the light reading

`ALV0` is read at any time, and whether it claims to be valid is carried in-band:
`refreshALS` stores the sentinel `0xFFFFFFFF` when it has no reading. `init`
stores `0` instead, so until a `refreshALS` has got past the check for the device
the key claims a reading nobody took. `reads_conform_iff` says for every
interleaving of start-up, ticks, hotkeys and accesses to keys that this is the
only way for a read to be wrong.

`LightWorld` adds to the driver what the most recent `refreshALS` of the device
has met (`reading`). The invariant `Sensed` ties the stored value to it.
-/

namespace AsusSMC

open EventSystem

/-- The driver with its keys, and the outcome of the most recent `refreshALS` of
the light sensor. -/
structure LightWorld where
  system : System
  reading : Option Bool := none

/-- What can happen while and after the driver starts. -/
inductive LightEvent
  | op (o : Op)
  | vsmcNotification (venv : VSMCEnv)

namespace Driver

/-- The outcome of a `refreshALS`: there is a reading if the sensor is switched
off, or `_ALI` returns a value other than the sentinel. -/
def obtainsReading (env : Env) (d : Driver) : Bool :=
  !d.isALSEnabled ||
    match d.integerReply env .alsDevice "_ALI" [] with
    | some v => v != 0xFFFFFFFF
    | none => false

/-- What is stored is the sentinel exactly if there is no reading. -/
theorem luxReading_ne_iff (env : Env) (d : Driver) :
    d.luxReading env ≠ 0xFFFFFFFF ↔ d.obtainsReading env = true := by
  rw [luxReading, obtainsReading]
  cases d.isALSEnabled with
  | false => simp
  | true =>
    cases d.integerReply env .alsDevice "_ALI" [] <;> simp

end Driver

namespace LightWorld

open Driver

/-- A call of `refreshALS` in the driver state `d`. -/
def refreshed (env : Env) (d : Driver) (reading : Option Bool) : Option Bool :=
  if d.alsDevice.isSome then some (d.obtainsReading env) else reading

/-- A statement of `start`. -/
def exec (senv : StartEnv) (k : StartStatement) (w : LightWorld) : Bool × LightWorld :=
  let r := StartStatement.exec senv k w.system.driver
  let reading :=
    match k, senv.alsDiscovery.found with
    | .initALSDevice, some dev =>
      let d := w.system.driver.setAlsDevice (some dev)
      if d.validateObject senv.env .alsDevice "_ALI" then refreshed senv.env d w.reading
      else w.reading
    | _, _ => w.reading
  (r.1, { system := { w.system with driver := r.2 }, reading := reading })

/-- An event around it. -/
def react (e : LightEvent) (w : LightWorld) : LightWorld :=
  match e with
  | .op o =>
    { system := w.system.step o
      reading :=
        match o with
        | .tick env =>
          if w.system.driver.armed then refreshed env w.system.driver w.reading else w.reading
        | _ => w.reading }
  | .vsmcNotification venv =>
    let driver := (w.system.driver.vsmcNotificationHandler venv).2
    { w with system := { w.system with driver := driver } }

/-- A schedule of `start` and its surroundings. -/
abbrev Config := Thread.Config StartStatement LightWorld

def step (senv : StartEnv) : Config → Thread.Event LightEvent → Config :=
  Thread.step (exec senv) react

/-- The valid byte after a read. -/
def validByte (w : LightWorld) : UInt8 := (w.system.step .readALV0).alv0.valid

/-- A read tells the truth: it is valid exactly if the light sensor exists and its
most recent refresh met a reading. -/
def ReadConforms (w : LightWorld) : Prop :=
  w.validByte ≠ 0 ↔ w.system.driver.alsDevice ≠ none ∧ w.reading = some true

/-- **Invariant**: the stored value tells the outcome of the most recent refresh,
once there is one. -/
structure Sensed (rest : List StartStatement) (w : LightWorld) : Prop where
  nodup : rest.Nodup
  undiscovered : .initALSDevice ∈ rest → w.system.driver.alsDevice = none
  unread : w.reading = none → w.system.driver.currentLux = 0
  read : ∀ b, w.reading = some b → w.system.driver.alsDevice ≠ none ∧
    (w.system.driver.currentLux ≠ 0xFFFFFFFF ↔ b = true)

end LightWorld

/-! ### What leaves the sensor alone -/

namespace Driver

/-- The members of the driver the sensor consists of. -/
def sensorOf (d : Driver) : Option ACPIDevice × UInt32 := (d.alsDevice, d.currentLux)

theorem HotkeyFrame.sensorOf : HotkeyFrame sensorOf := by constructor <;> intros <;> rfl

theorem RegisterFrame.sensorOf : StartStatement.RegisterFrame sensorOf := by
  constructor
  · constructor <;> intros <;> rfl
  all_goals intros; rfl

/-- A statement of `start` other than `initALSDevice` leaves the sensor alone. -/
theorem exec_sensorOf (senv : StartEnv) {k : StartStatement} (hk : k ≠ .initALSDevice)
    (d : Driver) : (StartStatement.exec senv k d).2.sensorOf = d.sensorOf := by
  by_cases hwdg : k = .parseWDG
  · subst hwdg
    exact parseWDG_frame (fun _ _ => rfl) (fun _ _ => rfl) senv.env d
  · exact StartStatement.exec_registerFrame RegisterFrame.sensorOf senv hwdg hk d

end Driver

/-! ### One refresh -/

namespace Driver

variable {d : Driver} {dev : ACPIDevice} (env : Env) (post : Bool)

/-- A refresh of a device that is there stores the reading. -/
theorem refreshALS_sensorOf (hdev : d.alsDevice = some dev) :
    (d.refreshALS env post).2.sensorOf = (some dev, d.luxReading env) := by
  have htimeout := setTimeoutMS_frame (f := sensorOf) (fun _ _ => rfl) (fun _ _ => rfl)
  have hali : (d.aliEvaluated env).alsDevice = some dev := by
    rw [aliEvaluated]
    split <;> exact hdev
  have hstored : ((d.aliEvaluated env).setCurrentLux (d.luxReading env)).sensorOf
      = (some dev, d.luxReading env) := by
    rw [sensorOf, setCurrentLux_alsDevice, hali]
    rfl
  -- arming the timer comes last, and touches neither
  rw [refreshALS_of_some env d post hdev]
  split
  · exact (htimeout _).trans hstored
  · exact hstored

/-- The tick of an armed poller, as far as the sensor is concerned. -/
theorem fire_sensorOf (harmed : d.armed = true) :
    (d.fire env).sensorOf
      = if d.alsDevice.isSome then (d.alsDevice, d.luxReading env) else d.sensorOf := by
  cases hp : d.poller with
  | none => exact absurd harmed (by simp [armed, hp])
  | some p =>
    have hboth : (p.armed && p.onWorkLoop) = true := by simpa [armed, hp] using harmed
    rw [fire, hp]
    dsimp only
    rw [if_pos hboth, pollerAction,
      refreshFan_frame (f := sensorOf) (fun _ _ => rfl) fun _ _ => rfl]
    cases hdev : d.alsDevice with
    | none =>
      have hkept := refreshALS_of_none env (d.setPoller (some { p with armed := false })) true hdev
      rw [hkept]
      rfl
    | some dev =>
      have hstored :=
        refreshALS_sensorOf (d := d.setPoller (some { p with armed := false })) env true hdev
      exact hstored

theorem fire_of_not_armed (harmed : d.armed = false) : d.fire env = d := by
  rw [fire]
  rw [armed] at harmed
  split
  · rfl
  · next p hp =>
    rw [hp] at harmed
    dsimp only at harmed
    rw [harmed]
    rfl

/-- `initALSDevice` of a driver without a light sensor. -/
theorem initALSDevice_sensorOf (disc : Discovery) (hnone : d.alsDevice = none) :
    (d.initALSDevice env disc).sensorOf
      = match disc.found with
        | none => d.sensorOf
        | some dev =>
          (some dev, if (d.setAlsDevice (some dev)).validateObject env .alsDevice "_ALI" then
            (d.setAlsDevice (some dev)).luxReading env else d.currentLux) := by
  obtain ⟨expertDict, expert, deviceDict, iterator⟩ := disc
  cases expertDict with
  | false => rfl
  | true =>
    cases expert with
    | false => rfl
    | true =>
      cases deviceDict with
      | false => rfl
      | true =>
        rcases iterator with _ | _ | dev
        · rfl
        · simp only [initALSDevice, Discovery.found, sensorOf, hnone]
          rfl
        · have hfound : Discovery.found ⟨true, true, true, some (some dev)⟩ = some dev := rfl
          rw [hfound]
          dsimp only
          cases hvalid : (d.setAlsDevice (some dev)).validateObject env .alsDevice "_ALI" with
          | false =>
            simp only [initALSDevice, hvalid]
            rfl
          | true =>
            simp only [initALSDevice, hvalid]
            exact refreshALS_sensorOf (d := d.setAlsDevice (some dev)) env false rfl

end Driver

/-! ### One event -/

namespace LightWorld

open Driver

variable {rest rest' : List StartStatement} {w w' : LightWorld}

/-- An event that leaves the sensor and the outcome alone. -/
theorem Sensed.congr (h : Sensed rest w) (hrest : rest'.Sublist rest)
    (hsensor : w'.system.driver.sensorOf = w.system.driver.sensorOf)
    (hreading : w'.reading = w.reading) : Sensed rest' w' := by
  obtain ⟨hals, hlux⟩ := Prod.mk.inj hsensor
  refine ⟨h.nodup.sublist hrest, ?_, ?_, ?_⟩
  · intro hmem
    rw [hals]
    exact h.undiscovered (hrest.subset hmem)
  · intro hnone
    rw [hlux]
    exact h.unread (hreading ▸ hnone)
  · intro b hb
    rw [hals, hlux]
    exact h.read b (hreading ▸ hb)

/-- A refresh of a device that is there. -/
theorem sensed_refresh (hnodup : rest.Nodup) (hdone : .initALSDevice ∉ rest) {dev : ACPIDevice}
    {env : Env} {d : Driver} (hsensor : w'.system.driver.sensorOf = (some dev, d.luxReading env))
    (hreading : w'.reading = some (d.obtainsReading env)) : Sensed rest w' := by
  obtain ⟨hals, hlux⟩ := Prod.mk.inj hsensor
  refine ⟨hnodup, fun hmem => absurd hmem hdone, ?_, ?_⟩
  · intro hnone
    exact absurd (hreading.symm.trans hnone) (by simp)
  · intro b hb
    obtain rfl : d.obtainsReading env = b := Option.some.inj (hreading.symm.trans hb)
    rw [hals, hlux]
    exact ⟨by simp, luxReading_ne_iff env d⟩

theorem sensed_exec (senv : StartEnv) (k : StartStatement) (h : Sensed (k :: rest) w) :
    Sensed (Thread.remaining (exec senv k w).1 rest) (exec senv k w).2 := by
  -- `initALSDevice` is the one statement that can refresh
  have hsub : (Thread.remaining (exec senv k w).1 rest).Sublist (k :: rest) :=
    (Thread.remaining_suffix _ rest).sublist.trans (List.sublist_cons_self k rest)
  by_cases hk : k = .initALSDevice
  · subst hk
    have hnone := h.undiscovered List.mem_cons_self
    -- a reading would have needed the device that is only looked for now
    have hunread : w.reading = none := by
      cases hr : w.reading with
      | none => rfl
      | some b => exact absurd hnone (h.read b hr).1
    obtain ⟨hdone, hnodup⟩ := List.nodup_cons.mp h.nodup
    have hsensor := initALSDevice_sensorOf senv.env senv.alsDiscovery hnone
    cases hfound : senv.alsDiscovery.found with
    | none =>
      rw [hfound] at hsensor
      refine h.congr hsub hsensor ?_
      simp only [exec, hfound]
    | some dev =>
      rw [hfound] at hsensor
      dsimp only at hsensor
      cases hvalid : (w.system.driver.setAlsDevice (some dev)).validateObject senv.env .alsDevice
          "_ALI" with
      | false =>
        -- found, but not refreshed: the value is still the initial one
        rw [hvalid] at hsensor
        obtain ⟨hals, hlux⟩ := Prod.mk.inj hsensor
        have hreading : (exec senv .initALSDevice w).2.reading = none := by
          simp only [exec, hfound, hvalid]
          exact hunread
        refine ⟨hnodup, fun hmem => absurd hmem hdone, fun _ => ?_, ?_⟩
        · exact hlux.trans (h.unread hunread)
        · intro b hb
          exact absurd (hreading.symm.trans hb) (by simp)
      | true =>
        rw [hvalid, if_pos rfl] at hsensor
        refine sensed_refresh hnodup hdone hsensor ?_
        simp only [exec, hfound, hvalid]
        rfl
  · refine h.congr hsub (exec_sensorOf senv hk w.system.driver) ?_
    cases k with
    | initALSDevice => exact absurd rfl hk
    | _ => rfl

theorem sensed_react (e : LightEvent) (h : Sensed rest w) : Sensed rest (react e w) := by
  cases e with
  | vsmcNotification venv =>
    exact h.congr (.refl _) (vsmcNotificationHandler_frame venv w.system.driver (fun _ _ => rfl)
      (fun _ _ => rfl) fun _ _ => rfl) rfl
  | op o =>
    by_cases ho : o.IsTick
    · cases o with
      | tick env =>
        cases harmed : w.system.driver.armed with
        | false =>
          refine h.congr (.refl _) ?_ ?_
          · exact congrArg sensorOf (fire_of_not_armed env harmed)
          · simp only [react, harmed]
            rfl
        | true =>
          have hsensor := fire_sensorOf env harmed
          cases hdev : w.system.driver.alsDevice with
          | none =>
            -- the early return: no refresh, and nothing stored
            rw [hdev] at hsensor
            refine h.congr (.refl _) hsensor ?_
            simp only [react, harmed, refreshed, hdev]
            rfl
          | some dev =>
            -- the device is there, so the statement that looks for it has run
            have hdone : .initALSDevice ∉ rest := by
              intro hmem
              exact absurd (hdev.symm.trans (h.undiscovered hmem)) (by simp)
            rw [hdev] at hsensor
            refine sensed_refresh h.nodup hdone hsensor ?_
            simp only [react, harmed, refreshed, hdev]
            rfl
      | _ => exact ho.elim
    · refine h.congr (.refl _) ?_ ?_
      · exact System.step_frame .sensorOf (fun _ _ => rfl) (fun _ _ => rfl) w.system ho
      · cases o with
        | tick env => exact absurd trivial ho
        | _ => rfl

/-- **Read lemma.** A read tells the truth exactly if there has been a refresh. -/
theorem readConforms_iff (h : Sensed rest w) : ReadConforms w ↔ w.reading.isSome = true := by
  have hbyte : w.validByte ≠ 0 ↔ w.system.driver.currentLux ≠ 0xFFFFFFFF := by
    rw [validByte, System.step, SMCALSValue.readAccess_valid]
    split <;> simp [*]
  rw [ReadConforms, hbyte]
  cases hr : w.reading with
  -- the initial `0` is no sentinel, so the byte is set
  | none => simp [h.unread hr]
  | some b =>
    obtain ⟨hdev, hlux⟩ := h.read b hr
    rw [hlux]
    simp [hdev]

/-! ### Whole schedules -/

/-- **The light reading.** In every interleaving of start-up, ticks, hotkeys and
accesses to keys, every read of `ALV0` tells the truth exactly if every read comes
after a `refreshALS` that found the light sensor. -/
theorem reads_conform_iff (senv : StartEnv) (vendor : Option UInt32) {d : Driver}
    (hd : d.alsDevice = none) (es : List (Thread.Event LightEvent)) :
    Throughout (step senv) (fun c e => e = .env (.op .readALV0) → ReadConforms c.state)
        ⟨StartStatement.program, { system := { driver := (d.init true vendor).2 } }⟩ es ↔
      Throughout (step senv) (fun c e => e = .env (.op .readALV0) → c.state.reading.isSome = true)
        ⟨StartStatement.program, { system := { driver := (d.init true vendor).2 } }⟩ es := by
  have hinit : Sensed StartStatement.program { system := { driver := (d.init true vendor).2 } } :=
    ⟨by decide, fun _ => hd, fun _ => rfl, fun b hb => absurd hb (by simp)⟩
  -- in a state of the invariant the two conditions on a read are one
  refine throughout_congr (P := fun c : Config => Sensed c.rest c.state) ?_ ?_
  · exact Thread.always_of_stages Sensed hinit (fun k _ _ h => sensed_exec senv k h)
      (fun e _ _ h => sensed_react e h) es
  · intro c e hc
    rw [readConforms_iff hc]

/-- A start on a machine without light sensor, a published VirtualSMC, and a read. -/
def bareSchedule : List (Thread.Event LightEvent) :=
  List.replicate 12 .thread ++ [.env (.vsmcNotification .answering), .env (.op .readALV0)]

theorem reads_conform_iff_bare :
    Throughout (step .bare) (fun c e => e = .env (.op .readALV0) → ReadConforms c.state)
        ⟨StartStatement.program, { system := { driver := (({} : Driver).init true none).2 } }⟩
        bareSchedule ↔
      Throughout (step .bare) (fun c e => e = .env (.op .readALV0) → c.state.reading.isSome = true)
        ⟨StartStatement.program, { system := { driver := (({} : Driver).init true none).2 } }⟩
        bareSchedule :=
  reads_conform_iff .bare none rfl _

/-- The read claims a valid reading where there is no sensor. -/
theorem read_claims_validity_without_als :
    ¬ Throughout (step .bare) (fun c e => e = .env (.op .readALV0) → ReadConforms c.state)
        ⟨StartStatement.program, { system := { driver := (({} : Driver).init true none).2 } }⟩
        bareSchedule := by
  intro h
  have hread : ReadConforms _ :=
    h (List.replicate 12 .thread ++ [.env (.vsmcNotification .answering)])
      (.env (.op .readALV0)) [] rfl rfl
  have hnone := (hread.mp (by decide)).1
  exact hnone rfl

end LightWorld

end AsusSMC
