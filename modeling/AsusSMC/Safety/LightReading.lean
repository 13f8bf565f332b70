import AsusSMC.Model.Sensors
import Mathlib.Algebra.Order.Field.Rat

/-!
# What a light reading says

The way of an illuminance from the firmware to a client of `ALV0`: `refreshALS`
stores it in 32 bits, `readAccess` narrows it to the 16 bits of `chan0` and shifts
it by 14 bits into the 32 bits of `roomLux`, and the client reads both fields
big-endian, the second with 14 bits after the point.

Nothing on the way looks at the size of the value, so `chan0` says the illuminance
modulo `65536` and `roomLux` says it modulo `262144`. Each is exact below its bound.
Beyond it a brighter room may be reported as darker: `light_monotone_iff` says for
every pair of values when it is not.
-/

namespace AsusSMC

namespace SMCALSValue.Value

/-- The two bytes of `chan0`, as a client decodes them. -/
def chan0Reading (v : Value) : ℕ := BigEndian.value ((v.toBytes.drop 2).take 2)

/-- The four bytes of `roomLux`, as a client decodes them: an 18.14 number. -/
def roomLuxReading (v : Value) : ℚ := BigEndian.value ((v.toBytes.drop 6).take 4) / 16384

/-- The fields say the illuminance as far as they have room for it. -/
structure Faithful (lux : UInt32) (v : Value) : Prop where
  chan0 : lux.toNat ≤ 65535 → v.chan0Reading = lux.toNat
  roomLux : lux.toNat < 262144 → v.roomLuxReading = lux.toNat

/-- What the second value says is not darker than what the first says. -/
@[mk_iff] structure NotDarker (v w : Value) : Prop where
  chan0 : v.chan0Reading ≤ w.chan0Reading
  roomLux : v.roomLuxReading ≤ w.roomLuxReading

theorem chan0Reading_eq (v : Value) :
    v.chan0Reading = BigEndian.value (LittleEndian.bytes 2 v.chan0.toNat) := rfl

theorem roomLuxReading_eq (v : Value) :
    v.roomLuxReading = BigEndian.value (LittleEndian.bytes 4 v.roomLux.toNat) / 16384 := rfl

end SMCALSValue.Value

namespace Driver

/-- A refresh of this driver takes the illuminance from a successful `_ALI`. -/
structure Samples (env : Env) (d : Driver) (lux : UInt32) : Prop where
  alsDevice : d.alsDevice.isSome
  isALSEnabled : d.isALSEnabled = true
  reply : d.integerReply env .alsDevice "_ALI" [] = some lux

/-- The data of `ALV0` after a refresh and a read. -/
def alv0After (env : Env) (post : Bool) (bits : UInt8) (value : SMCALSValue.Value) (d : Driver) :
    SMCALSValue.Value :=
  (SMCALSValue.readAccess (d.refreshALS env post).2.currentLux bits value).2

variable {env : Env} {d : Driver} {lux : UInt32} {bits : UInt8}

/-- What a refresh stores is what the firmware said. -/
theorem Samples.currentLux (h : Samples env d lux) (post : Bool) :
    (d.refreshALS env post).2.currentLux = lux := by
  obtain ⟨dev, hdev⟩ := Option.isSome_iff_exists.mp h.alsDevice
  have hlux : d.luxReading env = lux := by
    rw [luxReading, if_pos h.isALSEnabled, h.reply]
    rfl
  rw [refreshALS_of_some env d post hdev, hlux]
  split
  · exact setTimeoutMS_frame (fun _ _ => rfl) (fun _ _ => rfl) _
  · rfl

/-- **One reading**: the fields say the illuminance modulo what they have room for. -/
theorem Samples.readings (h : Samples env d lux) (hlux : lux ≠ 0xFFFFFFFF)
    (hchan : bits &&& SMCALSValue.kALSForceChan = 0) (hroom : bits &&& SMCALSValue.kALSForceLux = 0)
    (post : Bool) (value : SMCALSValue.Value) :
    (d.alv0After env post bits value).chan0Reading = lux.toNat % 65536 ∧
      (d.alv0After env post bits value).roomLuxReading = (lux.toNat % 262144 : ℕ) := by
  have hnarrow : lux.toUInt16.toNat = lux.toNat % 65536 := UInt32.toNat_toUInt16 lux
  -- 18 bits stay, moved up by 14
  have hshift : (lux <<< 14).toNat = lux.toNat % 262144 * 16384 := by
    have h14 : (14 : UInt32).toNat % 32 = 14 := rfl
    rw [UInt32.toNat_shiftLeft, h14, Nat.shiftLeft_eq]
    omega
  rw [alv0After, h.currentLux, SMCALSValue.readAccess_of_reading lux bits value hlux, if_pos hchan,
    if_pos hroom]
  constructor
  · rw [SMCALSValue.Value.chan0Reading_eq]
    exact (value_swapHostToBigInt16 _).trans hnarrow
  · rw [SMCALSValue.Value.roomLuxReading_eq]
    dsimp only
    rw [value_swapHostToBigInt32, hshift, Nat.cast_mul]
    -- the client moves the point back by the same 14 bits
    exact mul_div_cancel_right₀ _ (by norm_num)

/-- Each field is exact as long as it has room. -/
theorem Samples.faithful (h : Samples env d lux) (hlux : lux ≠ 0xFFFFFFFF)
    (hchan : bits &&& SMCALSValue.kALSForceChan = 0) (hroom : bits &&& SMCALSValue.kALSForceLux = 0)
    (post : Bool) (value : SMCALSValue.Value) :
    (d.alv0After env post bits value).Faithful lux := by
  obtain ⟨hchan0, hroomLux⟩ := h.readings hlux hchan hroom post value
  constructor
  · intro hle
    rw [hchan0, Nat.mod_eq_of_lt (Nat.lt_succ_of_le hle)]
  · intro hlt
    rw [hroomLux, Nat.mod_eq_of_lt hlt]

/-- **Light readings.** Two illuminances that `_ALI` returns are each said as far as
the fields have room for them, and the second is not reported as darker than the
first, exactly if it is not below the first modulo `65536` and modulo `262144`. -/
theorem light_monotone_iff {envA envB : Env} {dA dB : Driver} {a b : UInt32}
    (hA : Samples envA dA a) (hB : Samples envB dB b) (ha : a ≠ 0xFFFFFFFF) (hb : b ≠ 0xFFFFFFFF)
    (hchan : bits &&& SMCALSValue.kALSForceChan = 0) (hroom : bits &&& SMCALSValue.kALSForceLux = 0)
    (post : Bool) (vA vB : SMCALSValue.Value) :
    ((dA.alv0After envA post bits vA).Faithful a ∧ (dB.alv0After envB post bits vB).Faithful b ∧
        (dA.alv0After envA post bits vA).NotDarker (dB.alv0After envB post bits vB)) ↔
      a.toNat % 65536 ≤ b.toNat % 65536 ∧ a.toNat % 262144 ≤ b.toNat % 262144 := by
  obtain ⟨hchanA, hroomA⟩ := hA.readings ha hchan hroom post vA
  obtain ⟨hchanB, hroomB⟩ := hB.readings hb hchan hroom post vB
  -- the comparison of the fields is that of the two residues
  have hdarker : (dA.alv0After envA post bits vA).NotDarker (dB.alv0After envB post bits vB) ↔
      a.toNat % 65536 ≤ b.toNat % 65536 ∧ a.toNat % 262144 ≤ b.toNat % 262144 := by
    rw [SMCALSValue.Value.notDarker_iff, hchanA, hchanB, hroomA, hroomB, Nat.cast_le]
  rw [hdarker]
  constructor
  -- each reading is faithful in any case
  · exact fun h => h.2.2
  · intro h
    exact ⟨hA.faithful ha hchan hroom post vA, hB.faithful hb hchan hroom post vB, h⟩

/-- A machine with a light sensor that reads `lux`. -/
def litEnv (lux : UInt32) : Env :=
  { Env.unresponsive with
    acpi := { Env.unresponsive.acpi with integer := fun _ _ _ => some lux } }

def litDriver : Driver := { alsDevice := some 1 }

theorem samples_lit (lux : UInt32) : Samples (litEnv lux) litDriver lux := ⟨rfl, rfl, rfl⟩

/-- Indoors. -/
theorem light_monotone_iff_indoors :
    ((litDriver.alv0After (litEnv 100) false 0 {}).Faithful 100 ∧
        (litDriver.alv0After (litEnv 500) false 0 {}).Faithful 500 ∧
        (litDriver.alv0After (litEnv 100) false 0 {}).NotDarker
          (litDriver.alv0After (litEnv 500) false 0 {})) ↔
      (100 : UInt32).toNat % 65536 ≤ (500 : UInt32).toNat % 65536 ∧
        (100 : UInt32).toNat % 262144 ≤ (500 : UInt32).toNat % 262144 :=
  light_monotone_iff (samples_lit 100) (samples_lit 500) (by decide) (by decide) rfl rfl false {} {}

/-- In the sun, one more lux is reported as none at all. -/
theorem brighter_reported_darker :
    (65535 : UInt32) ≤ 65536 ∧
      ¬ (litDriver.alv0After (litEnv 65535) false 0 {}).NotDarker
        (litDriver.alv0After (litEnv 65536) false 0 {}) := by
  refine ⟨by decide, fun h => ?_⟩
  have hchan : (0 : UInt8) &&& SMCALSValue.kALSForceChan = 0 := rfl
  have hroom : (0 : UInt8) &&& SMCALSValue.kALSForceLux = 0 := rfl
  have hA := (samples_lit 65535).readings (by decide) hchan hroom false {}
  have hB := (samples_lit 65536).readings (by decide) hchan hroom false {}
  have hchan := h.chan0
  rw [hA.1, hB.1] at hchan
  exact absurd hchan (by decide)

end Driver

end AsusSMC
