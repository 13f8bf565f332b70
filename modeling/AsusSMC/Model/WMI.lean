import AsusSMC.Framework.CString
import AsusSMC.Framework.HexText
import AsusSMC.Model.Driver
import Mathlib.Tactic.IntervalCases

/-!
# The WMI methods

The `wmi_*` functions of `AsusSMC.cpp`, `parse_WDG`, and the two switches that
go through WMI (`toggleALS`, `toggleBatteryConservativeMode`).

`wmi_evaluate_method` returns an `int`, and `-1` is its failure value: a failed
evaluation, the reply `0xfffffffe`, and also the reply `0xffffffff`, which is
`-1` once converted, all look the same to its callers
(`wmiEvaluateMethod_eq`).

`wmi_parse_guid` stands here twice. `wmiParseGuidOut` stores into a buffer, call by call,
and `wmiParseGuid` is the text that these calls make (`wmiParseGuidCalls_text`).
-/

namespace AsusSMC

def ASUS_WMI_METHODID_DSTS : UInt32 := 0x53545344
def ASUS_WMI_METHODID_DEVS : UInt32 := 0x53564544
def ASUS_WMI_METHODID_INIT : UInt32 := 0x54494E49
def ASUS_WMI_DEVID_ALS_ENABLE : UInt32 := 0x00050001
def ASUS_WMI_DEVID_CPU_FAN_CTRL : UInt32 := 0x00110013
def ASUS_WMI_DEVID_RSOC : UInt32 := 0x00120057
def ASUS_WMI_DSTS_PRESENCE_BIT : UInt32 := 0x00010000
def ASUS_WMI_MGMT_GUID : String := "97845ED0-4E6D-11DE-8A39-0800200C9A66"

/-- The C string in a character buffer: the characters before the first `0`. -/
def cString (buf : List UInt8) : String :=
  String.ofList ((buf.takeWhile (· != 0)).map fun c => Char.ofNat c.toNat)

/-- The packed `struct wmi_args`, as the buffer handed to the firmware. -/
def wmiArgs (arg0 arg1 : UInt32) : List UInt8 :=
  LittleEndian.ofWord arg0 ++ LittleEndian.ofWord arg1

/-- The arguments of a WMI evaluation. -/
def wmiParams (methodId arg0 arg1 : UInt32) : List ACPIArg :=
  [.number 0, .number methodId.toUInt64, .data (wmiArgs arg0 arg1)]

namespace Driver

/-- `wmi_evaluate_method`. -/
def wmiEvaluateMethod (env : Env) (methodId arg0 arg1 : UInt32) (d : Driver) : Int32 × Driver :=
  let val := env.locals.val methodId arg0 arg1
  let e := d.evaluateInteger env .atkDevice (cString d.wmiMethod.toList)
    (wmiParams methodId arg0 arg1) val
  -- the status is tested before `val` is read
  if e.ret ≠ .success then
    (-1, e.driver)
  -- the firmware's reply to an unknown method id
  else if e.out = 0xfffffffe then
    (-1, e.driver)
  else
    (e.out.toInt32, e.driver)

/-- `wmi_get_devstate`. -/
def wmiGetDevstate (env : Env) (devId : UInt32) (d : Driver) : Int32 × Driver :=
  wmiEvaluateMethod env ASUS_WMI_METHODID_DSTS devId 0 d

/-- `wmi_dev_is_present`. -/
def wmiDevIsPresent (env : Env) (devId : UInt32) (d : Driver) : Bool × Driver :=
  let status := wmiEvaluateMethod env ASUS_WMI_METHODID_DSTS devId 0 d
  (status.1 ≠ -1 && status.1.toUInt32 &&& ASUS_WMI_DSTS_PRESENCE_BIT ≠ 0, status.2)

/-! ### `_WDG` -/

/-- `%02X`. -/
def hexByte (b : UInt8) : List Char :=
  let digit (n : ℕ) : Char := if n < 10 then Char.ofNat (0x30 + n) else Char.ofNat (0x41 + n - 10)
  [digit (b.toNat / 16), digit (b.toNat % 16)]

/-- The text `wmi_parse_guid` writes for the sixteen bytes at `in`. -/
def wmiParseGuid (guid : Vector UInt8 16) : List Char :=
  [guid[3], guid[2], guid[1], guid[0]].flatMap hexByte
    ++ ['-'] ++ hexByte guid[5] ++ hexByte guid[4]
    ++ ['-'] ++ hexByte guid[7] ++ hexByte guid[6]
    ++ ['-'] ++ hexByte guid[8] ++ hexByte guid[9]
    ++ ['-'] ++ [guid[10], guid[11], guid[12], guid[13], guid[14], guid[15]].flatMap hexByte

/-- `snprintf(out, 3, "%02X", in[i] & 0xFF)`. -/
def printByte (input : Vector Int8 16) (i : Fin 16) : CString.Call Char :=
  -- the `char` is an `int` before it is masked, and a negative one has its sign in all of it
  ⟨3, HexText.format 2 ((input.get i).toInt32 &&& 0xFF).toUInt32.toNat⟩

/-- `snprintf(out, 2, "-")`. -/
def printHyphen : CString.Call Char := ⟨2, ['-']⟩

/-- The calls of `wmi_parse_guid`, in its order. -/
def wmiParseGuidCalls (input : Vector Int8 16) : List (CString.Call Char) :=
  [3, 2, 1, 0].map (printByte input)
    ++ [printHyphen, printByte input 5, printByte input 4]
    ++ [printHyphen, printByte input 7, printByte input 6]
    ++ [printHyphen, printByte input 8, printByte input 9]
    ++ printHyphen :: [10, 11, 12, 13, 14, 15].map (printByte input)

/-- `wmi_parse_guid`, on the buffer that begins at `out`. A store past its end is `none`. -/
def wmiParseGuidOut (input : Vector Int8 16) (out : List Char) : Option (List Char) :=
  CString.write '\x00' ⟨out, 0⟩ (wmiParseGuidCalls input)

/-- The two lines of `parse_WDG` that test a block: `wmi_parse_guid(g->guid, guid_string)`
and `strncmp(guid_string, ASUS_WMI_MGMT_GUID, 36) == 0`. -/
def guidStringMatches (input : Vector Int8 16) (guidString : List Char) : Option Bool :=
  (wmiParseGuidOut input guidString).bind fun text =>
    CString.strncmpEq '\x00' 36 text (ASUS_WMI_MGMT_GUID.toList ++ ['\x00'])

/-- `struct guid_block`: the fields `parse_WDG` reads. -/
structure GuidBlock where
  guid : Vector UInt8 16
  objectId : Vector UInt8 2

/-- The size of `struct guid_block`. -/
def guidBlockSize : ℕ := 20

/-- The block at index `i` of the buffer, if the buffer holds all of it. -/
def guidBlock (data : List UInt8) (i : ℕ) : Option GuidBlock :=
  if h : ((data.drop (i * guidBlockSize)).take guidBlockSize).length = guidBlockSize then
    let block : Vector UInt8 20 := ⟨((data.drop (i * guidBlockSize)).take guidBlockSize).toArray, h⟩
    some ⟨block.extract 0 16, block.extract 16 18⟩
  else none

/-- The loop of `parse_WDG` from index `i` on, `fuel` blocks before the end: the
`object_id` of the first block with the management GUID. -/
def findManagementBlock (data : List UInt8) : (fuel i : ℕ) → Option (Vector UInt8 2)
  | 0, _ => none
  | fuel + 1, i =>
    match guidBlock data i with
    | none => none
    | some g =>
      if wmiParseGuid g.guid = ASUS_WMI_MGMT_GUID.toList then some g.objectId
      else findManagementBlock data fuel (i + 1)

/-- `parse_WDG`. -/
def parseWDG (env : Env) (d : Driver) : Driver :=
  let e := d.evaluateObject env .atkDevice "_WDG" [] env.locals.wdg
  -- both early returns leave `wmi_method` as it was
  if e.ret ≠ .success then
    e.driver
  else
    match OSObject.asData e.out with
    | none => e.driver
    | some data =>
      match findManagementBlock data (data.length / guidBlockSize) 0 with
      | some id => e.driver.setWmiMethod #v[0x57, 0x4D, firstByte id, secondByte id, 0]
      -- the fallback `WMNB`
      | none => e.driver.setWmiMethod #v[0x57, 0x4D, 0x4E, 0x42, 0]

/-! ### Switches -/

def initATKDevice (env : Env) (d : Driver) : Driver :=
  (wmiEvaluateMethod env ASUS_WMI_METHODID_INIT 0 0 d).2

/-- `toggleALS`. Its two outcomes differ in a log line. -/
def toggleALS (env : Env) (state : Bool) (d : Driver) : Driver :=
  (wmiEvaluateMethod env ASUS_WMI_METHODID_DEVS ASUS_WMI_DEVID_ALS_ENABLE
    (if state then 1 else 0) d).2

def toggleBatteryConservativeMode (env : Env) (state : Bool) (d : Driver) : Driver :=
  if !d.isBatteryRSOCAvailable then
    d
  else
    let r := wmiEvaluateMethod env ASUS_WMI_METHODID_DEVS ASUS_WMI_DEVID_RSOC
      (if state then 80 else 100) d
    -- a failure is logged, and the caller is not told
    if r.1 ≠ 1 then
      r.2
    else
      r.2.setProperty "BatteryConservativeMode" state

/-! ### What a WMI evaluation does -/

section Spec

variable (env : Env) (methodId arg0 arg1 : UInt32) (d : Driver)

/-- The firmware's reply to a WMI evaluation. -/
def wmiReply : Option UInt32 :=
  d.integerReply env .atkDevice (cString d.wmiMethod.toList) (wmiParams methodId arg0 arg1)

/-- The effect a WMI evaluation leaves in the history. -/
def wmiEffect : Effect :=
  d.integerEffect env .atkDevice (cString d.wmiMethod.toList) (wmiParams methodId arg0 arg1)

/-- The `int` a WMI evaluation returns for a reply. -/
def wmiResult : Option UInt32 → Int32
  | none => -1
  | some v => if v = 0xfffffffe then -1 else v.toInt32

/-- **What a WMI evaluation does.** It returns `wmiResult` of the firmware's
reply, whatever its local `val` held, and changes the history alone. -/
theorem wmiEvaluateMethod_eq :
    wmiEvaluateMethod env methodId arg0 arg1 d
      = (wmiResult (d.wmiReply env methodId arg0 arg1),
          d.emit (d.wmiEffect env methodId arg0 arg1)) := by
  cases h : d.wmiReply env methodId arg0 arg1 with
  | none =>
    -- the status is tested first, so `val` is not read
    rw [wmiReply] at h
    simp [wmiEvaluateMethod, evaluateInteger, h, wmiResult, wmiEffect]
  | some v =>
    rw [wmiReply] at h
    by_cases hv : v = 0xfffffffe <;>
      simp [wmiEvaluateMethod, evaluateInteger, h, hv, wmiResult, wmiEffect]

/-- The reply `1` is the only one that is read as the `int` `1`. -/
theorem wmiResult_eq_one {reply : Option UInt32} : wmiResult reply = 1 ↔ reply = some 1 := by
  cases reply with
  | none => decide
  | some v =>
    rw [wmiResult, Option.some_inj]
    split
    · next h =>
      subst h
      decide
    · constructor
      · intro h
        have hv : v.toInt32.toUInt32 = (1 : Int32).toUInt32 := congrArg Int32.toUInt32 h
        exact hv
      · rintro rfl
        rfl

end Spec

/-! ### What the text of a GUID says -/

/-- `%02X` on a byte, as a pair of digits. -/
theorem hexByte_eq (b : UInt8) : hexByte b = HexText.byte b := rfl

theorem hexByte_injective : Function.Injective hexByte := HexText.byte_injective

theorem hexByte_append_inj {a b : UInt8} {l l' : List Char} :
    hexByte a ++ l = hexByte b ++ l' ↔ a = b ∧ l = l' := by
  constructor
  · intro h
    obtain ⟨hdigits, hrest⟩ := List.append_inj h rfl
    exact ⟨hexByte_injective hdigits, hrest⟩
  · rintro ⟨rfl, rfl⟩
    rfl

/-- **The text tells the bytes.** -/
theorem wmiParseGuid_injective : Function.Injective wmiParseGuid := by
  intro guid guid' h
  -- the pairs of digits, in the order of the text
  simp only [wmiParseGuid, List.flatMap_cons, List.flatMap_nil, List.append_assoc,
    List.cons_append, List.nil_append, hexByte_append_inj, List.cons.injEq, true_and, and_true] at h
  obtain ⟨h3, h2, h1, h0, h5, h4, h7, h6, h8, h9, h10, h11, h12, h13, h14, h15⟩ := h
  apply Vector.ext
  intro i hi
  interval_cases i <;> assumption

/-! ### The calls of `wmi_parse_guid` -/

/-- A byte is printed as it is, whatever its sign: the mask takes off what the sign has
filled. -/
theorem toNat_and_mask (c : Int8) : (c.toInt32 &&& 0xFF).toUInt32.toNat = c.toUInt8.toNat := by
  have hmask : (c.toInt32 &&& 0xFF).toUInt32.toNat = c.toInt32.toUInt32.toNat % 2 ^ 8 := by
    rw [Int32.toUInt32_and, UInt32.toNat_and]
    exact Nat.and_two_pow_sub_one_eq_mod c.toInt32.toUInt32.toNat 8
  have hround : c.toInt32.toUInt32.toUInt8 = c.toUInt8 := by
    apply UInt8.toBitVec_inj.mp
    show (BitVec.signExtend 32 c.toBitVec).setWidth 8 = c.toBitVec
    rw [← BitVec.signExtend_eq_setWidth_of_le _ (by decide)]
    exact congrArg Int8.toBitVec (Int8.toInt8_toInt32 c)
  rw [hmask, ← hround, UInt32.toNat_toUInt8]

-- without the mask a negative `char` would be printed with eight digits
example : HexText.format 2 (-2 : Int8).toInt32.toUInt32.toNat = "FFFFFFFE".toList := by decide

theorem printByte_text (input : Vector Int8 16) (i : Fin 16) :
    (printByte input i).text = hexByte ((input.map Int8.toUInt8).get i) := by
  have hbyte : (input.map Int8.toUInt8).get i = (input.get i).toUInt8 := Vector.getElem_map _ _
  show HexText.format 2 _ = _
  rw [toNat_and_mask, HexText.format_byte, hbyte, hexByte_eq]

/-- None of the sizes is off: each call has room for its text and the terminator. -/
theorem wmiParseGuidCalls_fit (input : Vector Int8 16) :
    ∀ c ∈ wmiParseGuidCalls input, ¬ c.Truncates := by
  have hbyte (i : Fin 16) : ¬ (printByte input i).Truncates := by
    show ¬ 3 ≤ (printByte input i).text.length
    rw [printByte_text, hexByte_eq, HexText.length_byte]
    decide
  have hhyphen : ¬ printHyphen.Truncates := by decide
  simp [wmiParseGuidCalls, hbyte, hhyphen]

/-- The texts of the calls, one behind the other. -/
theorem wmiParseGuidCalls_text (input : Vector Int8 16) :
    (wmiParseGuidCalls input).flatMap CString.Call.text
      = wmiParseGuid (input.map Int8.toUInt8) := by
  simp only [wmiParseGuidCalls, List.flatMap_append, List.flatMap_cons, List.flatMap_nil,
    List.map_cons, List.map_nil, printByte_text]
  generalize input.map Int8.toUInt8 = guid
  have hget (i : ℕ) (hi : i < 16) : guid[i] = guid.get ⟨i, hi⟩ := rfl
  simp only [wmiParseGuid, hget, List.flatMap_cons, List.flatMap_nil, List.append_nil,
    List.append_assoc]
  rfl

theorem length_wmiParseGuid (guid : Vector UInt8 16) : (wmiParseGuid guid).length = 36 := by
  simp [wmiParseGuid, hexByte_eq, HexText.length_byte]

section Frames

variable {τ : Type*} {f : Driver → τ}

theorem wmiEvaluateMethod_frame (hemit : ∀ d e, f (d.emit e) = f d) (env : Env)
    (methodId arg0 arg1 : UInt32) (d : Driver) :
    f (wmiEvaluateMethod env methodId arg0 arg1 d).2 = f d := by
  rw [wmiEvaluateMethod_eq]
  exact hemit d _

theorem parseWDG_frame (hemit : ∀ d e, f (d.emit e) = f d)
    (hmethod : ∀ d v, f (d.setWmiMethod v) = f d) (env : Env) (d : Driver) :
    f (d.parseWDG env) = f d := by
  simp only [parseWDG, evaluateObject_driver]
  repeat' split
  all_goals simp only [hmethod, hemit]

theorem toggleBatteryConservativeMode_frame (hemit : ∀ d e, f (d.emit e) = f d)
    (hprop : ∀ d k v, f (d.setProperty k v) = f d) (env : Env) (state : Bool) (d : Driver) :
    f (d.toggleBatteryConservativeMode env state) = f d := by
  have hwmi := wmiEvaluateMethod_frame hemit env ASUS_WMI_METHODID_DEVS ASUS_WMI_DEVID_RSOC
  rw [toggleBatteryConservativeMode]
  split
  · rfl
  · generalize (if state then (80 : UInt32) else 100) = limit
    dsimp only
    split
    · exact hwmi limit d
    · exact (hprop _ _ _).trans (hwmi limit d)

end Frames

end Driver

end AsusSMC
