import AsusSMC.Framework.EventSystem
import AsusSMC.Model.Startup
import AsusSMC.Model.System

/-!
# The battery mode

One fact, whether the battery is charged to 80 or to 100 percent, is kept in
three places: the byte of the key `BDVT` (`00` for 80), the threshold in the
firmware, and the registry property `BatteryConservativeMode`. `initBattery`
sets the first threshold before the key exists; each write of the key sets the
next one.

`toggleBatteryConservativeMode` drops the result of its evaluation and
`BDVT::update` stores the byte in any case. So a write the firmware does not
accept keeps the three copies together only if it writes the byte that is there
already (`coherent_step_iff`), and it reports success all the same. What the
claim of coherence takes is that every evaluation is accepted, the one at
boot included (`battery_coherent_iff`).
-/

namespace AsusSMC

open EventSystem

/-- The charge threshold of the two modes. -/
def chargeThreshold (state : Bool) : UInt32 := if state then 80 else 100

/-- The charge threshold an evaluation has set: a call of the method that sets
devices, for the charge threshold, which returned `1`. -/
def thresholdAccepted : Effect → Option UInt32
  | .evaluateInteger _ _ [.number _, .number methodId, .data args] (some ret) =>
    if ret = 1 ∧ methodId = ASUS_WMI_METHODID_DEVS.toUInt64 ∧
        LittleEndian.toWord args = ASUS_WMI_DEVID_RSOC then
      some (LittleEndian.toWord (args.drop 4))
    else none
  | _ => none

/-- The threshold the firmware holds after a history. -/
def firmware (es : List Effect) (threshold : Option UInt32) : Option UInt32 :=
  es.foldl (fun t e => (thresholdAccepted e).or t) threshold

/-- A write of the key `BDVT`; its byte is read into a `bool`. -/
structure BatteryWrite where
  env : Env
  src : UInt8
  isBool : src = 0 ∨ src = 1

/-- The running driver, and the last charge threshold the firmware has accepted. -/
structure BatteryWorld where
  system : System
  threshold : Option UInt32

namespace Driver

/-- The firmware accepts the threshold of a mode. -/
def Accepts (env : Env) (state : Bool) (d : Driver) : Prop :=
  d.wmiReply env ASUS_WMI_METHODID_DEVS ASUS_WMI_DEVID_RSOC (chargeThreshold state) = some 1

/-- The evaluation that sets the threshold of a mode. -/
def rsocEffect (env : Env) (state : Bool) (d : Driver) : Effect :=
  d.wmiEffect env ASUS_WMI_METHODID_DEVS ASUS_WMI_DEVID_RSOC (chargeThreshold state)

end Driver

namespace BatteryWorld

open Driver

/-- One write. -/
def step (w : BatteryWorld) (e : BatteryWrite) : BatteryWorld :=
  let system := w.system.step (.writeBDVT e.env e.src)
  { system := system
    threshold := firmware (system.driver.log.drop w.system.driver.log.length) w.threshold }

/-- What VirtualSMC is told of a write. -/
def result (w : BatteryWorld) (e : BatteryWrite) : SMCResult :=
  (BDVT.update e.env e.src w.system.driver).1

/-- The world after `initBattery`, the firmware holding `threshold` before. -/
def boot (env : Env) (kernelVersion kernelMinorVersion : ℕ) (d : Driver)
    (threshold : Option UInt32) : BatteryWorld :=
  let driver := d.initBattery env kernelVersion kernelMinorVersion
  { system := { driver := driver }
    threshold := firmware (driver.log.drop d.log.length) threshold }

/-- The three copies of the mode agree. -/
structure Coherent (w : BatteryWorld) : Prop where
  byte : w.system.bdvt = 0 ↔ w.threshold = some 80
  property : ∀ state, w.system.driver.properties "BatteryConservativeMode" = some state →
    (state = true ↔ w.threshold = some 80)

/-- The key `BDVT` exists, and its byte is one of the two. -/
structure HasKey (w : BatteryWorld) : Prop where
  available : w.system.driver.isBatteryRSOCAvailable = true
  byte : w.system.bdvt = 0 ∨ w.system.bdvt = 1

/-- The firmware accepts the threshold of a write. -/
def Accepted (w : BatteryWorld) (e : BatteryWrite) : Prop :=
  w.system.driver.Accepts e.env (e.src == 0)

/-- A write that fails leaves the byte as it was and says so. -/
def FailsCleanly (w : BatteryWorld) (e : BatteryWrite) : Prop :=
  ¬ Accepted w e → (w.step e).system.bdvt = w.system.bdvt ∧ w.result e ≠ .success

end BatteryWorld

/-! ### The two outcomes of an evaluation -/

theorem chargeThreshold_eq {state : Bool} : chargeThreshold state = 80 ↔ state = true := by
  cases state <;> decide

namespace Driver

section Toggle

variable {env : Env} {state : Bool} {d : Driver}

/-- An accepted threshold reaches the registry. -/
theorem toggleBatteryConservativeMode_of_accepts (havail : d.isBatteryRSOCAvailable = true)
    (h : d.Accepts env state) :
    d.toggleBatteryConservativeMode env state
      = (d.emit (d.rsocEffect env state)).setProperty "BatteryConservativeMode" state := by
  have hone : wmiResult (d.wmiReply env ASUS_WMI_METHODID_DEVS ASUS_WMI_DEVID_RSOC
      (if state then 80 else 100)) = 1 := wmiResult_eq_one.mpr h
  rw [toggleBatteryConservativeMode, havail, wmiEvaluateMethod_eq]
  dsimp only
  rw [if_neg (by decide), if_neg (not_not_intro hone)]
  rfl

/-- A refused threshold leaves a line in the history and nothing else. -/
theorem toggleBatteryConservativeMode_of_not_accepts (havail : d.isBatteryRSOCAvailable = true)
    (h : ¬ d.Accepts env state) :
    d.toggleBatteryConservativeMode env state = d.emit (d.rsocEffect env state) := by
  have hone : wmiResult (d.wmiReply env ASUS_WMI_METHODID_DEVS ASUS_WMI_DEVID_RSOC
      (if state then 80 else 100)) ≠ 1 := fun heq => h (wmiResult_eq_one.mp heq)
  rw [toggleBatteryConservativeMode, havail, wmiEvaluateMethod_eq]
  dsimp only
  rw [if_neg (by decide), if_pos hone]
  rfl

/-- What the firmware has accepted when the threshold `limit` has been set. -/
theorem thresholdAccepted_wmiEffect (limit : UInt32) :
    thresholdAccepted (d.wmiEffect env ASUS_WMI_METHODID_DEVS ASUS_WMI_DEVID_RSOC limit)
      = (d.wmiReply env ASUS_WMI_METHODID_DEVS ASUS_WMI_DEVID_RSOC limit).bind
          fun ret => if ret = 1 then some limit else none := by
  -- the buffer of the arguments is read back as the device and the limit
  unfold wmiEffect wmiReply integerEffect integerReply wmiParams
  cases d.device .atkDevice with
  | none => rfl
  | some dev =>
    dsimp only [Option.bind_some]
    cases env.acpi.integer dev (cString d.wmiMethod.toList) [.number 0,
        .number ASUS_WMI_METHODID_DEVS.toUInt64, .data (wmiArgs ASUS_WMI_DEVID_RSOC limit)] with
    | none => rfl
    | some ret =>
      rw [thresholdAccepted, wmiArgs, LittleEndian.toWord_ofWord_append,
        LittleEndian.drop_ofWord_append, LittleEndian.toWord_ofWord]
      simp

theorem thresholdAccepted_of_accepts (h : d.Accepts env state) :
    thresholdAccepted (d.rsocEffect env state) = some (chargeThreshold state) := by
  rw [rsocEffect, thresholdAccepted_wmiEffect, h]
  rfl

theorem thresholdAccepted_of_not_accepts (h : ¬ d.Accepts env state) :
    thresholdAccepted (d.rsocEffect env state) = none := by
  rw [rsocEffect, thresholdAccepted_wmiEffect]
  cases hreply : d.wmiReply env ASUS_WMI_METHODID_DEVS ASUS_WMI_DEVID_RSOC
      (chargeThreshold state) with
  | none => rfl
  | some ret =>
    have hret : ret ≠ 1 := by
      intro heq
      exact h (hreply.trans (congrArg some heq))
    exact if_neg hret

end Toggle

/-- Asking for the state of a device sets no threshold. -/
theorem thresholdAccepted_present (env : Env) (d : Driver) :
    thresholdAccepted (d.wmiEffect env ASUS_WMI_METHODID_DSTS ASUS_WMI_DEVID_RSOC 0) = none := by
  rw [wmiEffect, integerEffect, wmiParams]
  cases d.device .atkDevice with
  | none => rfl
  | some dev =>
    dsimp only
    cases env.acpi.integer dev (cString d.wmiMethod.toList) [.number 0,
        .number ASUS_WMI_METHODID_DSTS.toUInt64, .data (wmiArgs ASUS_WMI_DEVID_RSOC 0)] with
    | none => rfl
    | some ret =>
      have hmethod : ASUS_WMI_METHODID_DSTS.toUInt64 ≠ ASUS_WMI_METHODID_DEVS.toUInt64 := by decide
      rw [thresholdAccepted, if_neg]
      -- the evaluation asks, and its method is another one
      exact fun h => hmethod h.2.1

/-- `initBattery`, where it finds the charge threshold: it asks, and sets the
threshold of the conservative mode. -/
theorem initBattery_of_available {env : Env} {kernelVersion kernelMinorVersion : ℕ} {d : Driver}
    (hnew : d.isBatteryRSOCAvailable = false)
    (havail : (d.initBattery env kernelVersion kernelMinorVersion).isBatteryRSOCAvailable = true) :
    d.initBattery env kernelVersion kernelMinorVersion
      = ((d.emit (d.wmiEffect env ASUS_WMI_METHODID_DSTS ASUS_WMI_DEVID_RSOC
          0)).setIsBatteryRSOCAvailable true).toggleBatteryConservativeMode env true := by
  rw [initBattery] at havail ⊢
  -- the kernel is too old, or the firmware is asked
  split at havail
  · exact absurd (hnew.symm.trans havail) (by decide)
  · next hkernel =>
    rw [if_neg hkernel]
    have hpair : d.wmiDevIsPresent env ASUS_WMI_DEVID_RSOC
        = ((d.wmiDevIsPresent env ASUS_WMI_DEVID_RSOC).1,
            d.emit (d.wmiEffect env ASUS_WMI_METHODID_DSTS ASUS_WMI_DEVID_RSOC 0)) := by
      rw [wmiDevIsPresent, wmiEvaluateMethod_eq]
    rw [hpair] at havail ⊢
    generalize (d.wmiDevIsPresent env ASUS_WMI_DEVID_RSOC).1 = present at havail ⊢
    cases present with
    | true => rfl
    | false => exact Bool.noConfusion havail

end Driver

/-! ### One write -/

namespace BatteryWorld

open Driver

section Step

variable {w : BatteryWorld} {e : BatteryWrite}

/-- A byte that is a `bool` already is negated as one. -/
theorem not_read (r : BoolReading) {src : UInt8} (h : src = 0 ∨ src = 1) :
    (!r.read src) = (src == 0) := by
  obtain rfl | rfl := h
  · rw [r.read_zero]
    rfl
  · rw [r.read_one]
    rfl

/-- A write on a machine with the key is an update of the key. -/
theorem system_step (havail : w.system.driver.isBatteryRSOCAvailable = true) :
    w.system.step (.writeBDVT e.env e.src)
      = { w.system with
          bdvt := e.src
          driver := w.system.driver.toggleBatteryConservativeMode e.env (e.src == 0) } := by
  rw [System.step, if_pos havail, ← not_read e.env.bool e.isBool]
  rfl

/-- An accepted write sets all three copies. -/
theorem step_of_accepted (havail : w.system.driver.isBatteryRSOCAvailable = true)
    (h : Accepted w e) :
    (w.step e).system.bdvt = e.src ∧
      (w.step e).threshold = some (chargeThreshold (e.src == 0)) ∧
      (w.step e).system.driver.properties "BatteryConservativeMode" = some (e.src == 0) := by
  rw [step, system_step havail, toggleBatteryConservativeMode_of_accepts havail h]
  refine ⟨rfl, ?_, by simp⟩
  simp only [setProperty_log, emit_log, List.drop_left]
  rw [firmware, List.foldl_cons, List.foldl_nil, thresholdAccepted_of_accepts h]
  rfl

/-- A refused write stores the byte and changes neither of the other two. -/
theorem step_of_not_accepted (havail : w.system.driver.isBatteryRSOCAvailable = true)
    (h : ¬ Accepted w e) :
    (w.step e).system.bdvt = e.src ∧ (w.step e).threshold = w.threshold ∧
      (w.step e).system.driver.properties = w.system.driver.properties := by
  rw [step, system_step havail, toggleBatteryConservativeMode_of_not_accepts havail h]
  refine ⟨rfl, ?_, rfl⟩
  simp only [emit_log, List.drop_left]
  rw [firmware, List.foldl_cons, List.foldl_nil, thresholdAccepted_of_not_accepts h]
  rfl

/-- The key stays, and its byte is one of the two. -/
theorem hasKey_step (e : BatteryWrite) (hw : HasKey w) : HasKey (w.step e) := by
  rw [step, system_step hw.available]
  refine ⟨?_, e.isBool⟩
  exact (toggleBatteryConservativeMode_frame (fun _ _ => rfl) (fun _ _ _ => rfl) e.env _
    w.system.driver).trans hw.available

/-- **Step lemma.** A write leads from a coherent state to a coherent state
exactly if it is accepted or writes the byte that is there. -/
theorem coherent_step_iff (hkey : HasKey w) (hw : Coherent w) :
    Coherent (w.step e) ↔ Accepted w e ∨ e.src = w.system.bdvt := by
  by_cases h : Accepted w e
  · -- all three copies are set from one `state`
    obtain ⟨hbdvt, hthreshold, hproperty⟩ := step_of_accepted hkey.available h
    have hmode : (e.src == 0) = true ↔ (w.step e).threshold = some 80 := by
      rw [hthreshold, Option.some_inj, chargeThreshold_eq]
    refine iff_of_true ⟨?_, ?_⟩ (Or.inl h)
    · rw [hbdvt, ← hmode, beq_iff_eq]
    · intro state hstate
      obtain rfl : (e.src == 0) = state := Option.some.inj (hproperty.symm.trans hstate)
      exact hmode
  · -- the byte moves alone
    obtain ⟨hbdvt, hthreshold, hproperty⟩ := step_of_not_accepted hkey.available h
    rw [or_iff_right h]
    constructor
    · intro hcoherent
      have hsame : e.src = 0 ↔ w.system.bdvt = 0 := by
        rw [hw.byte, ← hthreshold, ← hcoherent.byte, hbdvt]
      -- two bits that are zero together are equal
      rcases hkey.byte with hzero | hone
      · rw [hzero]
        exact hsame.mpr hzero
      · have hsrc : e.src ≠ 0 := by
          intro heq
          exact absurd (hone.symm.trans (hsame.mp heq)) (by decide)
        rw [hone]
        exact e.isBool.resolve_left hsrc
    · intro hsrc
      refine ⟨?_, ?_⟩
      · rw [hbdvt, hthreshold, hsrc]
        exact hw.byte
      · rw [hproperty, hthreshold]
        exact hw.property

end Step

/-! ### Start-up and whole runs -/

section Run

variable {env : Env} {kernelVersion kernelMinorVersion : ℕ} {d : Driver}
  (hnew : d.isBatteryRSOCAvailable = false)
  (hunset : d.properties "BatteryConservativeMode" = none)
  (havail : (d.initBattery env kernelVersion kernelMinorVersion).isBatteryRSOCAvailable = true)
  (threshold : Option UInt32)

include hnew hunset havail

/-- The state after `initBattery` is coherent exactly if the firmware accepted
the threshold, or held it before. -/
theorem coherent_boot_iff :
    Coherent (boot env kernelVersion kernelMinorVersion d threshold) ↔
      d.Accepts env true ∨ threshold = some 80 := by
  have hpresent := thresholdAccepted_present env d
  rw [boot, initBattery_of_available hnew havail]
  generalize d.wmiEffect env ASUS_WMI_METHODID_DSTS ASUS_WMI_DEVID_RSOC 0 = present at hpresent ⊢
  have hsame : ((d.emit present).setIsBatteryRSOCAvailable true).rsocEffect env true
      = d.rsocEffect env true := rfl
  by_cases h : d.Accepts env true
  · have hlimit := thresholdAccepted_of_accepts h
    rw [toggleBatteryConservativeMode_of_accepts (d := (d.emit present).setIsBatteryRSOCAvailable
      true) rfl h, hsame]
    -- the question sets nothing, and the threshold after it is accepted
    have hset : firmware ([present] ++ [d.rsocEffect env true]) threshold = some 80 := by
      simp [firmware, hpresent, hlimit, chargeThreshold]
    simp only [setProperty_log, emit_log, setIsBatteryRSOCAvailable_log, List.append_assoc,
      List.drop_left, hset]
    refine iff_of_true ⟨by simp, fun state hstate => ?_⟩ (Or.inl h)
    have htrue : some true = some state := by simpa using hstate
    exact iff_of_true (Option.some.inj htrue).symm rfl
  · have hlimit := thresholdAccepted_of_not_accepts h
    rw [toggleBatteryConservativeMode_of_not_accepts
      (d := (d.emit present).setIsBatteryRSOCAvailable true) rfl h, hsame]
    -- neither of the two evaluations sets a threshold
    have hkeep : firmware ([present] ++ [d.rsocEffect env true]) threshold = threshold := by
      simp [firmware, hpresent, hlimit]
    simp only [emit_log, setIsBatteryRSOCAvailable_log, List.append_assoc, List.drop_left, hkeep]
    -- the key starts at `00` and the property is not set
    rw [or_iff_right h]
    constructor
    · intro hcoherent
      exact hcoherent.byte.mp rfl
    · intro heighty
      refine ⟨iff_of_true rfl heighty, fun state hstate => ?_⟩
      exact absurd (hunset.symm.trans hstate) (by simp)

/-- A run is coherent throughout exactly if the state after `initBattery` is and
each write is accepted or writes the byte that is there. -/
theorem always_coherent_iff (es : List BatteryWrite) :
    Always step Coherent (boot env kernelVersion kernelMinorVersion d threshold) es ↔
      (d.Accepts env true ∨ threshold = some 80) ∧
        Throughout step (fun w e => Accepted w e ∨ e.src = w.system.bdvt)
          (boot env kernelVersion kernelMinorVersion d threshold) es := by
  rw [← coherent_boot_iff hnew hunset havail]
  have hstep : ∀ (w : BatteryWorld) (e : BatteryWrite), HasKey w → HasKey (w.step e) :=
    fun w e hw => hasKey_step e hw
  have hiff := fun hboot => always_iff_throughout (P := Coherent) (I := HasKey) (s := boot env
    kernelVersion kernelMinorVersion d threshold) ⟨havail, Or.inl rfl⟩ hstep hboot
    (fun w e hw hcoherent => coherent_step_iff (e := e) hw hcoherent) es
  constructor
  · intro h
    exact ⟨h.head, (hiff h.head).mp h⟩
  · rintro ⟨hboot, h⟩
    exact (hiff hboot).mpr h

/-- **The battery mode.** On a machine with a charge threshold, in every run of
`initBattery` and writes of the key, the three copies of the mode agree between
any two operations and every failing write fails cleanly, exactly if the
firmware accepts every threshold it is sent; the one sent by `initBattery` may be
refused where the firmware holds it already. -/
theorem battery_coherent_iff (es : List BatteryWrite) :
    (Always step Coherent (boot env kernelVersion kernelMinorVersion d threshold) es ∧
        Throughout step FailsCleanly (boot env kernelVersion kernelMinorVersion d threshold) es) ↔
      (d.Accepts env true ∨ threshold = some 80) ∧
        Throughout step Accepted (boot env kernelVersion kernelMinorVersion d threshold) es := by
  rw [always_coherent_iff hnew hunset havail]
  constructor
  · rintro ⟨⟨hboot, -⟩, hclean⟩
    refine ⟨hboot, hclean.mono fun w e h => ?_⟩
    -- a write always reports success
    by_contra hrefused
    exact (h hrefused).2 rfl
  · rintro ⟨hboot, haccepted⟩
    exact ⟨⟨hboot, haccepted.mono fun _ _ h => Or.inl h⟩,
      haccepted.mono fun _ _ h hrefused => absurd h hrefused⟩

end Run

/-- Firmware that has a charge threshold and accepts every value. -/
def acceptingEnv : Env :=
  { Env.unresponsive with
    acpi := {
      integer := fun _ _ args =>
        match args with
        | [_, .number methodId, _] =>
          if methodId = ASUS_WMI_METHODID_DSTS.toUInt64 then some 0x10001 else some 1
        | _ => none
      object := fun _ _ _ => none
      validateObject := fun _ _ => false } }

/-- A boot whose evaluations succeed, and one write that disables the mode. -/
theorem battery_coherent_iff_disable :
    (Always step Coherent (boot acceptingEnv 19 5 { atkDevice := some 0 } none)
        [⟨acceptingEnv, 1, Or.inr rfl⟩] ∧
      Throughout step FailsCleanly (boot acceptingEnv 19 5 { atkDevice := some 0 } none)
        [⟨acceptingEnv, 1, Or.inr rfl⟩]) ↔
      (Driver.Accepts acceptingEnv true { atkDevice := some 0 } ∨
        (none : Option UInt32) = some 80) ∧
      Throughout step Accepted (boot acceptingEnv 19 5 { atkDevice := some 0 } none)
        [⟨acceptingEnv, 1, Or.inr rfl⟩] :=
  battery_coherent_iff rfl rfl rfl none _

/-- The same write with an evaluation that fails: the key says that the mode is
disabled, and the firmware still charges to 80. -/
theorem battery_incoherent_of_failed_write :
    ¬ (Always step Coherent (boot acceptingEnv 19 5 { atkDevice := some 0 } none)
        [⟨.unresponsive, 1, Or.inr rfl⟩] ∧
      Throughout step FailsCleanly (boot acceptingEnv 19 5 { atkDevice := some 0 } none)
        [⟨.unresponsive, 1, Or.inr rfl⟩]) := by
  rintro ⟨hcoherent, -⟩
  have hthreshold : (run step (boot acceptingEnv 19 5 { atkDevice := some 0 } none)
      [⟨.unresponsive, 1, Or.inr rfl⟩]).threshold = some 80 := by decide
  exact absurd (hcoherent.last.byte.mpr hthreshold) (by decide)

end BatteryWorld

end AsusSMC
