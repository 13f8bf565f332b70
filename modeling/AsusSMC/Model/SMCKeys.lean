import AsusSMC.Framework.BigEndian

/-!
# The SMC keys of the plugin

The declarations of `AsusSMC/KeyImplementations.hpp`: the keys, the entries of
`vsmcPlugin.data`, and the values that compute what a client reads. The values
that call into the driver (`LKSB`, `BDVT`) are in `Model/KeyImplementations`.
-/

namespace AsusSMC

/-- The bytes of a two-byte buffer, in memory order. -/
def firstByte (buf : Vector UInt8 2) : UInt8 := buf[0]
def secondByte (buf : Vector UInt8 2) : UInt8 := buf[1]

/-- The four characters a key is made of. -/
structure SMCKey where
  c0 : Char
  c1 : Char
  c2 : Char
  c3 : Char
  deriving DecidableEq, Repr

def KeyAL : SMCKey := ⟨'A', 'L', '!', ' '⟩
def KeyALI0 : SMCKey := ⟨'A', 'L', 'I', '0'⟩
def KeyALI1 : SMCKey := ⟨'A', 'L', 'I', '1'⟩
def KeyALRV : SMCKey := ⟨'A', 'L', 'R', 'V'⟩
def KeyALV0 : SMCKey := ⟨'A', 'L', 'V', '0'⟩
def KeyALV1 : SMCKey := ⟨'A', 'L', 'V', '1'⟩
def KeyLKSB : SMCKey := ⟨'L', 'K', 'S', 'B'⟩
def KeyLKSS : SMCKey := ⟨'L', 'K', 'S', 'S'⟩
def KeyMSLD : SMCKey := ⟨'M', 'S', 'L', 'D'⟩
def KeyFNum : SMCKey := ⟨'F', 'N', 'u', 'm'⟩
def KeyF0ID : SMCKey := ⟨'F', '0', 'I', 'D'⟩
def KeyF0Ac : SMCKey := ⟨'F', '0', 'A', 'c'⟩
def KeyBDVT : SMCKey := ⟨'B', 'D', 'V', 'T'⟩

/-- The number `SMC_MAKE_IDENTIFIER` makes of a key; it is what the SDK's
comparison function compares. Different keys have different numbers. -/
structure KeyNumbering where
  number : SMCKey → ℕ
  injective : Function.Injective number

/-- A key numbering: the four characters as the digits of a number. -/
def KeyNumbering.digits : KeyNumbering where
  number k := ((k.c0.toNat * 2 ^ 32 + k.c1.toNat) * 2 ^ 32 + k.c2.toNat) * 2 ^ 32 + k.c3.toNat
  injective := by
    intro x y h
    have hbound : ∀ c : Char, c.toNat < 2 ^ 32 := fun c => c.val.toNat_lt
    obtain ⟨x0, x1, x2, x3⟩ := x
    obtain ⟨y0, y1, y2, y3⟩ := y
    have h0 := hbound x1; have h1 := hbound x2; have h2 := hbound x3
    have h3 := hbound y1; have h4 := hbound y2; have h5 := hbound y3
    dsimp only at h
    -- every character is a digit below the base, so the digits agree one by one
    have e0 : x0.toNat = y0.toNat := by omega
    have e1 : x1.toNat = y1.toNat := by omega
    have e2 : x2.toNat = y2.toNat := by omega
    have e3 : x3.toNat = y3.toNat := by omega
    rw [Char.toNat_inj] at e0 e1 e2 e3
    rw [e0, e1, e2, e3]

/-- The attribute bits of a key. -/
inductive SMCAttribute
  | read
  | write
  | function
  | const
  | atomic
  deriving DecidableEq, Repr

/-- The class of a key's value: the SDK's own, or one of the plugin's. -/
inductive SMCValueClass
  | standard
  | forceBits
  | alsValue
  | keyboardBacklight
  | f0Ac
  | bdvt
  deriving DecidableEq, Repr

/-- The SMC types the plugin names. -/
inductive SMCKeyType
  | ali
  | alv
  | lkb
  | lks
  | fds
  | fpe2
  deriving DecidableEq, Repr

/-- How a value is made: the call of `VirtualSMCAPI` and its data. -/
inductive SMCInitialValue
  | valueWithUint8 (v : UInt8)
  | valueWithUint16 (v : UInt16)
  | valueWithFlag (v : Bool)
  | valueWithFp (v : UInt16) (type : SMCKeyType)
  | valueWithData (bytes : List UInt8) (type : SMCKeyType)
  deriving DecidableEq, Repr

/-- An entry of `vsmcPlugin.data`: the key, how its value is made, the value's
class and the attributes. -/
structure VirtualSMCKeyValue where
  key : SMCKey
  initial : SMCInitialValue
  value : SMCValueClass
  attributes : List SMCAttribute
  deriving DecidableEq, Repr

/-- `SMC_RESULT`, as far as the plugin returns it. -/
inductive SMCResult
  | success
  | error
  deriving DecidableEq, Repr

/-! ### The light sensor value -/

/-- `OSSwapHostToBigInt16` on a little-endian host. -/
def swapHostToBigInt16 (x : UInt16) : UInt16 := (x >>> 8) ||| (x <<< 8)

/-- `OSSwapHostToBigInt32` on a little-endian host. -/
def swapHostToBigInt32 (x : UInt32) : UInt32 :=
  (x >>> 24) ||| ((x >>> 8) &&& (0xFF00 : UInt32)) ||| ((x <<< 8) &&& (0xFF0000 : UInt32)) |||
    (x <<< 24)

/-- The swapped word is the big-endian reading of its bytes. -/
theorem swapHostToBigInt16_toNat (x : UInt16) :
    (swapHostToBigInt16 x).toNat = BigEndian.value (LittleEndian.bytes 2 x.toNat) := by
  have hx := x.toNat_lt
  have h8 : (8 : UInt16).toNat % 16 = 8 := rfl
  have hhigh : x.toNat >>> 8 = x.toNat / 256 := Nat.shiftRight_eq_div_pow _ _
  have hlow : x.toNat <<< 8 % 2 ^ 16 = (x.toNat % 256) <<< 8 := by
    rw [Nat.shiftLeft_eq, Nat.shiftLeft_eq]
    omega
  have hbyte : x.toNat / 256 < 256 := by omega
  rw [swapHostToBigInt16, UInt16.toNat_or, UInt16.toNat_shiftRight, UInt16.toNat_shiftLeft, h8,
    hhigh, hlow, BigEndian.or_shiftLeft _ (by norm_num) hbyte]
  simp only [BigEndian.value_bytes_succ, BigEndian.value_bytes_zero]
  omega

theorem swapHostToBigInt32_toNat (x : UInt32) :
    (swapHostToBigInt32 x).toNat = BigEndian.value (LittleEndian.bytes 4 x.toNat) := by
  have hx := x.toNat_lt
  have h24 : (24 : UInt32).toNat % 32 = 24 := rfl
  have h8 : (8 : UInt32).toNat % 32 = 8 := rfl
  have hmask1 : (0xFF00 : UInt32).toNat = 255 <<< (8 * 1) := rfl
  have hmask2 : (0xFF0000 : UInt32).toNat = 255 <<< (8 * 2) := rfl
  -- the four bytes, at their new places
  have hbyte0 : x.toNat >>> 24 = x.toNat / 16777216 := Nat.shiftRight_eq_div_pow _ _
  have hbyte1 : x.toNat >>> 8 / 2 ^ (8 * 1) % 256 = x.toNat / 65536 % 256 := by
    rw [Nat.shiftRight_eq_div_pow]
    omega
  have hbyte2 : x.toNat <<< 8 % 2 ^ 32 / 2 ^ (8 * 2) % 256 = x.toNat / 256 % 256 := by
    rw [Nat.shiftLeft_eq]
    omega
  have hbyte3 : x.toNat <<< 24 % 2 ^ 32 = (x.toNat % 256) <<< 24 := by
    rw [Nat.shiftLeft_eq, Nat.shiftLeft_eq]
    omega
  have hdigit : ∀ n : ℕ, n % 256 < 256 := fun n => Nat.mod_lt n (by decide)
  rw [swapHostToBigInt32]
  simp only [UInt32.toNat_or, UInt32.toNat_and, UInt32.toNat_shiftRight, UInt32.toNat_shiftLeft,
    h24, h8, hmask1, hmask2, BigEndian.and_byte, hbyte0, hbyte1, hbyte2, hbyte3]
  rw [BigEndian.or_digits _ (Nat.div_lt_of_lt_mul hx) (hdigit _) (hdigit _)]
  simp only [BigEndian.value_bytes_succ, BigEndian.value_bytes_zero, Nat.div_div_eq_div_mul]
  clear hbyte1 hbyte2 hbyte3
  omega

/-- A client that reads the bytes of a swapped word as big-endian gets the word. -/
theorem value_swapHostToBigInt16 (x : UInt16) :
    BigEndian.value (LittleEndian.bytes 2 (swapHostToBigInt16 x).toNat) = x.toNat := by
  rw [swapHostToBigInt16_toNat, BigEndian.value_bytes_value]
  exact Nat.mod_eq_of_lt x.toNat_lt

theorem value_swapHostToBigInt32 (x : UInt32) :
    BigEndian.value (LittleEndian.bytes 4 (swapHostToBigInt32 x).toNat) = x.toNat := by
  rw [swapHostToBigInt32_toNat, BigEndian.value_bytes_value]
  exact Nat.mod_eq_of_lt x.toNat_lt

namespace SMCALSValue

/-- `struct Value`. It is packed, so a client sees the fields back to back; the
two `bool`s are bytes because a client may write any byte there. -/
structure Value where
  valid : UInt8 := 0
  highGain : UInt8 := 1
  chan0 : UInt16 := 0
  chan1 : UInt16 := 0
  roomLux : UInt32 := 0
  deriving DecidableEq, Repr

/-- The bytes of the value, as a client reads them. -/
def Value.toBytes (v : Value) : List UInt8 :=
  v.valid :: v.highGain :: (LittleEndian.bytes 2 v.chan0.toNat ++ LittleEndian.bytes 2 v.chan1.toNat
    ++ LittleEndian.bytes 4 v.roomLux.toNat)

/-- The value a client's ten bytes make: `memcpy` over the packed struct. -/
def Value.ofBytes (src : Vector UInt8 10) : Value where
  valid := src[0]
  highGain := src[1]
  chan0 := .ofNat (LittleEndian.value [src[2], src[3]])
  chan1 := .ofNat (LittleEndian.value [src[4], src[5]])
  roomLux := .ofNat (LittleEndian.value [src[6], src[7], src[8], src[9]])

theorem toList_eq_getElem (src : Vector UInt8 10) :
    src.toList
      = [src[0], src[1], src[2], src[3], src[4], src[5], src[6], src[7], src[8], src[9]] := by
  obtain ⟨⟨l⟩, hl⟩ := src
  match l, hl with
  | [_, _, _, _, _, _, _, _, _, _], _ => rfl

/-- A client reads back what it has written. -/
theorem Value.toBytes_ofBytes (src : Vector UInt8 10) :
    (Value.ofBytes src).toBytes = src.toList := by
  have h16 (a b : UInt8) :
      LittleEndian.bytes 2 (UInt16.ofNat (LittleEndian.value [a, b])).toNat = [a, b] := by
    have hlt : LittleEndian.value [a, b] < 65536 := by simpa using LittleEndian.value_lt [a, b]
    rw [UInt16.toNat_ofNat_of_lt' hlt]
    exact LittleEndian.bytes_value [a, b]
  have h32 (a b c d : UInt8) :
      LittleEndian.bytes 4 (UInt32.ofNat (LittleEndian.value [a, b, c, d])).toNat
        = [a, b, c, d] := by
    have hlt : LittleEndian.value [a, b, c, d] < 4294967296 := by
      simpa using LittleEndian.value_lt [a, b, c, d]
    rw [UInt32.toNat_ofNat_of_lt' hlt]
    exact LittleEndian.bytes_value [a, b, c, d]
  rw [toList_eq_getElem]
  simp only [Value.ofBytes, Value.toBytes, h16, h32]
  rfl

/-- `kALSForceChan`, `kALSForceLux` and `kALSForceHighGain`. -/
def kALSForceChan : UInt8 := 2
def kALSForceLux : UInt8 := 4
def kALSForceHighGain : UInt8 := 8

/-- `SMCALSValue::readAccess`: `lux` is the current light value and `bits` the
force bits. -/
def readAccess (lux : UInt32) (bits : UInt8) (value : Value) : SMCResult × Value :=
  if lux = 0xFFFFFFFF then
    (.success, { value with valid := 0 })
  else
    let value := { value with valid := 1 }
    let value := if bits &&& kALSForceHighGain = 0 then { value with highGain := 1 } else value
    let value :=
      if bits &&& kALSForceChan = 0 then
        { value with chan0 := swapHostToBigInt16 lux.toUInt16 }
      else value
    let value :=
      if bits &&& kALSForceLux = 0 then
        { value with roomLux := swapHostToBigInt32 (lux <<< 14) }
      else value
    (.success, value)

section Read

variable (lux : UInt32) (bits : UInt8) (value : Value)

/-- Without a reading only the valid byte changes. -/
theorem readAccess_of_sentinel :
    (readAccess 0xFFFFFFFF bits value).2 = { value with valid := 0 } := rfl

/-- **What a read does with a reading**: each field is written unless it is forced. -/
theorem readAccess_of_reading (h : lux ≠ 0xFFFFFFFF) :
    (readAccess lux bits value).2 =
      { valid := 1
        highGain := if bits &&& kALSForceHighGain = 0 then 1 else value.highGain
        chan0 := if bits &&& kALSForceChan = 0 then swapHostToBigInt16 lux.toUInt16 else value.chan0
        chan1 := value.chan1
        roomLux :=
          if bits &&& kALSForceLux = 0 then swapHostToBigInt32 (lux <<< 14)
          else value.roomLux } := by
  rw [readAccess, if_neg h]
  dsimp only
  split <;> split <;> split <;> rfl

/-- The valid byte after a read: set unless the light value is the sentinel. -/
theorem readAccess_valid :
    (readAccess lux bits value).2.valid = if lux = 0xFFFFFFFF then 0 else 1 := by
  split
  · next h =>
    subst h
    rfl
  · next h => rw [readAccess_of_reading lux bits value h]

end Read

end SMCALSValue

/-- `F0Ac::readAccess`: the `fpe2` word of the current fan speed.
`encodeIntFp` of the SDK keeps two fraction bits in a big-endian word. -/
def F0Ac.readAccess (speed : UInt16) : SMCResult × UInt16 :=
  (.success, swapHostToBigInt16 (speed <<< 2))

end AsusSMC
