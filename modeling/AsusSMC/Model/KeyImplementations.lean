import AsusSMC.Model.Hotkeys
import AsusSMC.Model.WMI

/-!
# The SMC key values that call the driver

`AsusSMC/KeyImplementations.cpp`, the two `update` functions. Each returns its
status, the data it has stored, and the driver after the call it makes.
-/

namespace AsusSMC

/-- The 12-bit brightness of `SMCKBrdBLightValue::update`: a byte and a nibble. -/
def SMCKBrdBLightValue.tval (src : Vector UInt8 2) : UInt16 :=
  ((firstByte src).toUInt16 <<< 4) ||| (secondByte src >>> 4).toUInt16

/-- `SMCKBrdBLightValue::update`. -/
def SMCKBrdBLightValue.update (env : Env) (src : Vector UInt8 2) (d : Driver) :
    SMCResult × Vector UInt8 2 × Driver :=
  (.success, src, (d.message env (.setKeyboardBacklight (tval src))).2)

/-- `BDVT::update`. The key is `00` when battery health is enabled and `01` when
it is disabled. -/
def BDVT.update (env : Env) (src : UInt8) (d : Driver) : SMCResult × UInt8 × Driver :=
  let state := env.bool.read src
  let state := !state
  (.success, src, d.toggleBatteryConservativeMode env state)

end AsusSMC
