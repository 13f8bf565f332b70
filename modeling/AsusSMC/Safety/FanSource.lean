import AsusSMC.Safety.FanReading
import AsusSMC.Safety.MissingObjects

/-!
# Which fan sensor is read

`refreshFan` tells its caller whether it could read the speed by comparing the speed
with `10000`, the value it stores when it could not. `initEC0Device` asks it once and
chooses the source for good.

The comparison takes a fan that runs at 10000 for one that cannot be read, and so
does the all-ones device state (`fan_source_iff`). The pointer that the flag stands
for is there in every schedule of the driver's life.
-/

namespace AsusSMC

open EventSystem

namespace Driver

/-- An EC0 device was found, its `TACH` validates, and evaluates to `speed`. -/
def WorkingTACH (env : Env) (disc : Discovery) (speed : UInt32) : Prop :=
  ∃ dev, disc.found = some dev ∧ env.acpi.validateObject dev "TACH" = true ∧
    env.acpi.integer dev "TACH" [.number 0] = some speed

section Selection

variable (env : Env)

/-- `refreshFan` succeeds if a speed is reported that is not one of the two failure
values. -/
theorem refreshFan_fst (d : Driver) :
    (d.refreshFan env).1 = true ↔
      ¬ d.AllOnes env ∧ ∃ speed, d.reportedSpeed env = some speed ∧ speed ≠ 10000 := by
  rw [refreshFan_eq, decide_eq_true_iff]
  -- the all-ones state is read as a failure, whatever speed it stands for
  by_cases hones : d.AllOnes env
  · rw [fanReading_of_allOnes hones]
    simp [hones]
  · rw [fanReading_of_not_allOnes hones]
    cases d.reportedSpeed env <;> simp [hones]

/-- Without a device every exit clears the flag. -/
theorem initEC0Device_of_not_found {disc : Discovery} (h : disc.found = none) (d : Driver) :
    (d.initEC0Device env disc).isTACHAvailable = false := by
  -- one exit for each step of the discovery
  unfold initEC0Device
  dsimp only
  split
  · rfl
  · split
    · rfl
    · split
      · rfl
      · split
        · rfl
        · next dev hit =>
          cases dev with
          | none => rfl
          | some dev => simp_all [Discovery.found]

/-- With a device the first reading decides. -/
theorem initEC0Device_of_found {disc : Discovery} {dev : ACPIDevice} (h : disc.found = some dev)
    (d : Driver) :
    (d.initEC0Device env disc).isTACHAvailable
      = (env.acpi.validateObject dev "TACH" &&
          (((d.setIsTACHAvailable true).setEc0Device (some dev)).refreshFan env).1) := by
  have hflag : ∀ d : Driver, (d.refreshFan env).2.isTACHAvailable = d.isTACHAvailable :=
    refreshFan_frame (f := isTACHAvailable) (fun _ _ => rfl) (fun _ _ => rfl) env
  have hsteps : disc.expertDict = true ∧ disc.expert = true ∧ disc.deviceDict = true ∧
      disc.iterator = some (some dev) := by
    simpa [Discovery.found, and_assoc, Option.join_eq_some_iff] using h
  obtain ⟨hexpertDict, hexpert, hdeviceDict, hit⟩ := hsteps
  simp only [initEC0Device, hexpertDict, hexpert, hdeviceDict, hit]
  generalize hd' : (d.setIsTACHAvailable true).setEc0Device (some dev) = d'
  -- the flag is set before the first reading, and the reading leaves it alone
  have hset : d'.ec0Device = some dev ∧ d'.isTACHAvailable = true := by
    rw [← hd']
    exact ⟨rfl, rfl⟩
  simp only [validateObject, device, hset.1]
  cases env.acpi.validateObject dev "TACH" with
  | false => rfl
  | true =>
    cases hread : (d'.refreshFan env).1 <;> simp [hflag, hset.2]

/-- What `initEC0Device` decides. -/
theorem initEC0Device_isTACHAvailable (disc : Discovery) (d : Driver) :
    (d.initEC0Device env disc).isTACHAvailable = true ↔
      ∃ speed, WorkingTACH env disc speed ∧ speed ≠ 10000 := by
  cases hfound : disc.found with
  | none =>
    rw [initEC0Device_of_not_found env hfound]
    simp [WorkingTACH, hfound]
  | some dev =>
    rw [initEC0Device_of_found env hfound, Bool.and_eq_true_iff, refreshFan_fst]
    -- the reading is one of `TACH`, so the all-ones state does not matter
    simp [WorkingTACH, hfound, AllOnes, reportedSpeed, integerReply, device, and_assoc]

/-- When `refreshFan` tells the truth about its evaluation. -/
theorem refreshFan_truthful_iff (d : Driver) :
    ((d.refreshFan env).1 = true ↔ (d.reportedSpeed env).isSome) ↔
      d.reportedSpeed env ≠ some 10000 ∧ ¬ d.AllOnes env := by
  rw [refreshFan_fst]
  by_cases hones : d.AllOnes env
  · -- the state is read as a failure, and stands for a speed
    have hsome : (d.reportedSpeed env).isSome := by
      simp only [reportedSpeed, hones.1, hones.2]
      rfl
    simp [hones, hsome]
  · cases hspeed : d.reportedSpeed env <;> simp [hones]

/-- A device answers with one speed. -/
theorem WorkingTACH.unique {env : Env} {disc : Discovery} {speed speed' : UInt32}
    (h : WorkingTACH env disc speed) (h' : WorkingTACH env disc speed') : speed = speed' := by
  obtain ⟨dev, hfound, -, hreply⟩ := h
  obtain ⟨dev', hfound', -, hreply'⟩ := h'
  obtain rfl : dev = dev' := Option.some.inj (hfound.symm.trans hfound')
  exact Option.some.inj (hreply.symm.trans hreply')

/-- When `initEC0Device` decides by whether `TACH` works. -/
theorem initEC0Device_truthful_iff (disc : Discovery) (d : Driver) :
    ((d.initEC0Device env disc).isTACHAvailable = true ↔ ∃ speed, WorkingTACH env disc speed) ↔
      ¬ WorkingTACH env disc 10000 := by
  rw [initEC0Device_isTACHAvailable]
  constructor
  · intro hiff htaken
    obtain ⟨speed, hworks, hne⟩ := hiff.mpr ⟨10000, htaken⟩
    exact hne (hworks.unique htaken)
  · intro hother
    constructor
    · rintro ⟨speed, hworks, -⟩
      exact ⟨speed, hworks⟩
    · rintro ⟨speed, hworks⟩
      refine ⟨speed, hworks, ?_⟩
      rintro rfl
      exact hother hworks

end Selection

/-- No effect of a life is a call through the EC0 device when it is not there. -/
theorem lifeEffects_ec0Device : Life.LifeEffects (· ≠ .nullCall (.device .ec0Device)) where
  effect e he := he _
  atkDevice := by decide

/-- In every schedule the EC0 device is there whenever the flag is set, and is never
called through null. -/
theorem ec0Device_always (senv : StartEnv) (vendor : Option UInt32) (provider : ACPIDevice)
    (es : List (Thread.Event LifeEvent)) :
    Always (Life.step senv)
      (fun c => Life.Wired senv c.rest c.state ∧
        ∀ e ∈ c.state.driver.log, e ≠ .nullCall (.device .ec0Device))
      ⟨Life.program, Life.initial vendor provider⟩ es := by
  refine Always.of_step (P := fun c : Life.Config => Life.Wired senv c.rest c.state ∧
    ∀ e ∈ c.state.driver.log, e ≠ .nullCall (.device .ec0Device))
    ⟨Life.wired_initial senv vendor provider, ?_⟩ ?_ es
  · intro e he
    exact absurd he (by simp [Life.initial, Life.driver, init])
  · rintro ⟨rest, s⟩ e ⟨hwired, hclean⟩
    refine ⟨Life.wired_step senv _ e hwired, ?_⟩
    cases e with
    | env e =>
      -- calls through the gate and the set are no matter here
      have hgrown := hwired.react_grows lifeEffects_ec0Device (e := e)
        fun _ => Or.inr ⟨by decide, by decide⟩
      exact hgrown.forall_mem hclean
    | thread =>
      cases rest with
      | nil => exact hclean
      | cons k rest => exact (hwired.exec_grows lifeEffects_ec0Device).forall_mem hclean

/-- **Theorem.** `refreshFan` succeeds exactly when its evaluation does, except for a
speed of 10000 and the all-ones device state; and `initEC0Device` chooses `TACH`
exactly when it works, except when it says 10000. In every schedule of the driver's
life the device is there whenever the flag is set, and is never called through null. -/
theorem fan_source_iff (env : Env) (d : Driver) (disc : Discovery) (senv : StartEnv)
    (vendor : Option UInt32) (provider : ACPIDevice) (es : List (Thread.Event LifeEvent)) :
    (((d.refreshFan env).1 = true ↔ (d.reportedSpeed env).isSome) ↔
      d.reportedSpeed env ≠ some 10000 ∧ ¬ d.AllOnes env) ∧
    (((d.initEC0Device env disc).isTACHAvailable = true ↔ ∃ speed, WorkingTACH env disc speed) ↔
      ¬ WorkingTACH env disc 10000) ∧
    Always (Life.step senv)
      (fun c => (c.state.driver.isTACHAvailable = true → c.state.driver.ec0Device ≠ none) ∧
        .nullCall (.device .ec0Device) ∉ c.state.driver.log)
      ⟨Life.program, Life.initial vendor provider⟩ es := by
  refine ⟨refreshFan_truthful_iff env d, initEC0Device_truthful_iff env disc d, ?_⟩
  -- the invariant has the pointer, and the history no call through it
  refine (ec0Device_always senv vendor provider es).mono fun c hc => ⟨fun htach => ?_, ?_⟩
  · exact Option.isSome_iff_ne_none.mp (hc.1.ec0Device htach)
  · exact fun hmem => hc.2 _ hmem rfl

/-- A machine whose EC0 device has a working `TACH`, and a fan at `speed`. -/
def tachEnv (speed : UInt32) : Env :=
  { Env.unresponsive with
    acpi := ⟨fun _ _ _ => some speed, fun _ _ _ => none, fun _ _ => true⟩ }

/-- A fan that runs at 10000 is given up for good. -/
theorem fast_fan_given_up :
    ¬ ((fanDriver.refreshFan (tachEnv 10000)).1 = true ↔
        (fanDriver.reportedSpeed (tachEnv 10000)).isSome) ∧
      WorkingTACH (tachEnv 10000) ⟨true, true, true, some (some 2)⟩ 10000 ∧
      (({} : Driver).initEC0Device (tachEnv 10000)
        ⟨true, true, true, some (some 2)⟩).isTACHAvailable = false := by
  refine ⟨by decide, ⟨2, rfl, rfl, rfl⟩, rfl⟩

end Driver

end AsusSMC
