import AsusSMC.Model.Sensors
import Mathlib.Algebra.Order.Field.Rat

/-!
# What a fan reading says

The way of a fan speed from the firmware to a client of `F0Ac`: `refreshFan` takes
it in 32 bits and stores it in the 16 bits of `currentFanSpeed`, and `readAccess`
makes an `fpe2` word of it, which has 14 bits before the point.

A speed of more than 14 bits is cut without a word (`fan_exact_iff`): the failure
value that `refreshFan` has for a speed it could not read is not used for one it
cannot represent.
-/

namespace AsusSMC

namespace Driver

/-- The speed the hardware reports, if the evaluation that `refreshFan` makes
succeeds. A WMI evaluation also fails by the reply `0xfffffffe`. -/
def reportedSpeed (env : Env) (d : Driver) : Option UInt32 :=
  if d.isTACHAvailable then d.integerReply env .ec0Device "TACH" [.number 0]
  else
    (d.wmiReply env ASUS_WMI_METHODID_DSTS ASUS_WMI_DEVID_CPU_FAN_CTRL 0).bind fun v =>
      if v = 0xfffffffe then none else some ((v &&& 0xffff) * 100)

/-- The device state is all ones, which is the failure value of `wmi_get_devstate`. -/
def AllOnes (env : Env) (d : Driver) : Prop :=
  d.isTACHAvailable = false ∧
    d.wmiReply env ASUS_WMI_METHODID_DSTS ASUS_WMI_DEVID_CPU_FAN_CTRL 0 = some 0xffffffff

/-- The speed a client of `F0Ac` decodes: an `fpe2` word has two bits after the
point. -/
def publishedSpeed (d : Driver) : ℚ :=
  BigEndian.value (LittleEndian.bytes 2 (F0Ac.readAccess d.currentFanSpeed).2.toNat) / 4

/-- The speed is stored and published as it is, or it is not representable and the
failure value is stored. -/
def SaysSpeed (speed : UInt32) (d : Driver) : Prop :=
  d.currentFanSpeed.toNat = speed.toNat ∧ d.publishedSpeed = speed.toNat ∨
    16383 < speed.toNat ∧ d.currentFanSpeed = 10000

variable {env : Env} {d : Driver} {speed : UInt32}

/-- A WMI reply other than the two that are read as `-1`. -/
theorem wmiResult_eq_neg_one {reply : Option UInt32} :
    wmiResult reply = -1 ↔ reply = none ∨ reply = some 0xfffffffe ∨ reply = some 0xffffffff := by
  cases reply with
  | none => simp [wmiResult]
  | some v =>
    rw [wmiResult]
    split
    · next h => simp [h]
    · next h =>
      -- the conversion to `int` loses nothing
      have hconv : v.toInt32 = -1 ↔ v = 0xffffffff := by
        constructor
        · intro heq
          have hback : v.toInt32.toUInt32 = (-1 : Int32).toUInt32 := congrArg Int32.toUInt32 heq
          exact hback
        · rintro rfl
          rfl
      simp [h, hconv]

/-- The speed that `refreshFan` computes is the reported one, or the failure value. -/
theorem fanReading_of_allOnes (h : d.AllOnes env) : d.fanReading env = 10000 := by
  simp [fanReading, h.1, h.2, wmiResult]

theorem fanReading_of_not_allOnes (h : ¬ d.AllOnes env) :
    d.fanReading env = (d.reportedSpeed env).getD 10000 := by
  unfold fanReading reportedSpeed
  split
  · rfl
  · next htach =>
    -- without `TACH` the state is not all ones
    have hones : d.wmiReply env ASUS_WMI_METHODID_DSTS ASUS_WMI_DEVID_CPU_FAN_CTRL 0
        ≠ some 0xffffffff := fun heq => h ⟨by simpa using htach, heq⟩
    cases hreply : d.wmiReply env ASUS_WMI_METHODID_DSTS ASUS_WMI_DEVID_CPU_FAN_CTRL 0 with
    | none => rfl
    | some v =>
      by_cases hv : v = 0xfffffffe
      · subst hv
        rfl
      · -- the reply is a device state, and its low half is the speed
        have hne : wmiResult (some v) ≠ -1 := by
          rw [Ne, wmiResult_eq_neg_one]
          rintro (hnone | hinvalid | hall)
          · exact Option.some_ne_none v hnone
          · exact hv (Option.some.inj hinvalid)
          · exact hones (hreply.trans hall)
        dsimp only
        rw [if_neg hne, Option.bind_some, if_neg hv, wmiResult, if_neg hv]
        rfl

/-- What a client decodes: 14 bits of the speed. -/
theorem publishedSpeed_eq (d : Driver) :
    d.publishedSpeed = (d.currentFanSpeed.toNat % 16384 : ℕ) := by
  -- 14 bits stay, moved up by two
  have hshift : (d.currentFanSpeed <<< 2).toNat = d.currentFanSpeed.toNat % 16384 * 4 := by
    have h2 : (2 : UInt16).toNat % 16 = 2 := rfl
    rw [UInt16.toNat_shiftLeft, h2, Nat.shiftLeft_eq]
    omega
  calc d.publishedSpeed
      = ((d.currentFanSpeed.toNat % 16384 * 4 : ℕ) : ℚ) / 4 := by
        rw [publishedSpeed, F0Ac.readAccess, value_swapHostToBigInt16, hshift]
    -- the client moves the point back by the same two bits
    _ = (d.currentFanSpeed.toNat % 16384 : ℕ) := by
        rw [Nat.cast_mul]
        exact mul_div_cancel_right₀ _ (by norm_num)

/-- What is stored of the speed that has been computed. -/
theorem currentFanSpeed_refreshFan (env : Env) (d : Driver) :
    (d.refreshFan env).2.currentFanSpeed = (d.fanReading env).toUInt16 := by
  rw [refreshFan_eq]
  rfl

/-- The speed is cut to 16 bits in the driver and to 14 on the way to the client. -/
theorem saysSpeed_of_stored {s : UInt32} (h : d.currentFanSpeed = s.toUInt16) :
    d.SaysSpeed s ↔ s.toNat ≤ 16383 ∨ s.toNat % 65536 = 10000 := by
  have hnarrow : d.currentFanSpeed.toNat = s.toNat % 65536 := by
    rw [h]
    exact UInt32.toNat_toUInt16 s
  have hfailure : d.currentFanSpeed = 10000 ↔ s.toNat % 65536 = 10000 := by
    rw [← hnarrow]
    exact UInt16.toNat_inj.symm
  -- a speed above 16383 is not what the client decodes, so only the failure value is left
  rw [SaysSpeed, publishedSpeed_eq, hnarrow, hfailure, Nat.cast_inj]
  omega

/-- **Fan readings.** A speed that the hardware reports is published as it is, or as
the failure value when it is not representable, exactly if it has no more than 14
bits, or is cut to the failure value by chance, or came as the all-ones state. -/
theorem fan_exact_iff (h : d.reportedSpeed env = some speed) :
    (d.refreshFan env).2.SaysSpeed speed ↔
      speed.toNat ≤ 16383 ∨ speed.toNat % 65536 = 10000 ∨ d.AllOnes env := by
  by_cases hones : d.AllOnes env
  · -- the failure value is stored, and the speed the state stands for is too large
    have hspeed : speed = 6553500 := by
      have hreported : d.reportedSpeed env = some 6553500 := by
        simp only [reportedSpeed, hones.1, hones.2]
        rfl
      exact Option.some.inj (h.symm.trans hreported)
    have hstored : (d.refreshFan env).2.currentFanSpeed = 10000 := by
      rw [currentFanSpeed_refreshFan, fanReading_of_allOnes hones]
      rfl
    refine iff_of_true (Or.inr ⟨?_, hstored⟩) (Or.inr (Or.inr hones))
    rw [hspeed]
    decide
  · have hstored : (d.refreshFan env).2.currentFanSpeed = speed.toUInt16 := by
      rw [currentFanSpeed_refreshFan, fanReading_of_not_allOnes hones, h, Option.getD_some]
    rw [saysSpeed_of_stored hstored]
    simp [hones]

/-- A machine whose `TACH` says `speed`. -/
def fanEnv (speed : UInt32) : Env :=
  { Env.unresponsive with
    acpi := { Env.unresponsive.acpi with integer := fun _ _ _ => some speed } }

def fanDriver : Driver := { ec0Device := some 2, isTACHAvailable := true }

/-- A fan at an ordinary speed. -/
theorem fan_exact_iff_ordinary :
    (fanDriver.refreshFan (fanEnv 3200)).2.SaysSpeed 3200 ↔
      (3200 : UInt32).toNat ≤ 16383 ∨ (3200 : UInt32).toNat % 65536 = 10000 ∨
        fanDriver.AllOnes (fanEnv 3200) :=
  fan_exact_iff rfl

/-- A speed of 15 bits is published as one that was never read. -/
theorem fan_speed_cut :
    fanDriver.reportedSpeed (fanEnv 20000) = some 20000 ∧
      ¬ (fanDriver.refreshFan (fanEnv 20000)).2.SaysSpeed 20000 := by
  refine ⟨rfl, ?_⟩
  rw [saysSpeed_of_stored rfl]
  decide

end Driver

end AsusSMC
