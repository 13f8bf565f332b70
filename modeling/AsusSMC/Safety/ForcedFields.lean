import AsusSMC.Framework.EventSystem
import AsusSMC.Model.System

/-!
# Forced light-sensor fields

A client may write all ten bytes of `ALV0` and tell, by the force bits in `AL!`, which
of three fields a read must leave alone. `forced_fields` follows the bytes of the
buffer over every run of writes, reads, and changes of the light value: a read writes a
field exactly if it is not forced, a forced field keeps the client's bytes, and `chan1`
is the client's alone.
-/

namespace AsusSMC

open EventSystem

/-! ### The fields -/

/-- The fields of `ALV0` that a client can force. -/
inductive ALSField
  | highGain
  | chan0
  | roomLux
  deriving DecidableEq, Repr

namespace ALSField

/-- The force bit of the field. -/
def forceBit : ALSField → UInt8
  | highGain => SMCALSValue.kALSForceHighGain
  | chan0 => SMCALSValue.kALSForceChan
  | roomLux => SMCALSValue.kALSForceLux

/-- Its bytes in the buffer of the key. -/
def bytes : ALSField → List UInt8 → List UInt8
  | highGain, buf => (buf.drop 1).take 1
  | chan0, buf => (buf.drop 2).take 2
  | roomLux, buf => (buf.drop 6).take 4

/-- The bytes that the light value stands for. -/
def current (lux : UInt32) : ALSField → List UInt8
  | highGain => [1]
  | chan0 => LittleEndian.bytes 2 (swapHostToBigInt16 lux.toUInt16).toNat
  | roomLux => LittleEndian.bytes 4 (swapHostToBigInt32 (lux <<< 14)).toNat

/-- The client has set the field's force bit. -/
def Forced (field : ALSField) (d : Driver) : Prop := firstByte d.forceBits &&& field.forceBit ≠ 0

instance (field : ALSField) (d : Driver) : Decidable (field.Forced d) :=
  inferInstanceAs (Decidable (_ ≠ _))

/-- The test of the source, which asks whether the bit is clear. -/
theorem if_forced {α : Type} (field : ALSField) (d : Driver) (a b : α) :
    (if field.Forced d then a else b)
      = if firstByte d.forceBits &&& field.forceBit = 0 then b else a := by
  by_cases h : firstByte d.forceBits &&& field.forceBit = 0
  · rw [if_pos h, if_neg (fun hforced : field.Forced d => hforced h)]
  · rw [if_neg h, if_pos (show field.Forced d from h)]

end ALSField

/-- The byte of `valid` and those of `chan1`. -/
def validBytes (buf : List UInt8) : List UInt8 := buf.take 1
def chan1Bytes (buf : List UInt8) : List UInt8 := (buf.drop 4).take 2

/-! ### Runs -/

/-- An entry into the driver, or a change of the light value. -/
inductive ALSEvent
  | op (o : Op)
  | lux (v : UInt32)

namespace ALSEvent

/-- The bytes a client writes to `ALV0`. -/
def written : ALSEvent → Option (Vector UInt8 10)
  | op (.writeALV0 src) => some src
  | _ => none

/-- The last bytes written in a run. -/
def lastWritten : List ALSEvent → Option (Vector UInt8 10)
  | [] => none
  | e :: es => (lastWritten es).or e.written

end ALSEvent

namespace System

def alsStep (s : System) : ALSEvent → System
  | .op o => s.step o
  | .lux v => { s with driver := s.driver.setCurrentLux v }

end System

/-! ### One event -/

namespace System

variable (s : System)

/-- A read while there is no light value. -/
theorem readALV0_of_sentinel (h : s.driver.currentLux = 0xFFFFFFFF) :
    s.step .readALV0 = { s with alv0 := { s.alv0 with valid := 0 } } := by
  rw [step, h, SMCALSValue.readAccess_of_sentinel]

/-- **A read**: a field is written unless it is forced. -/
theorem readALV0_of_reading (h : s.driver.currentLux ≠ 0xFFFFFFFF) :
    (s.step .readALV0).driver = s.driver ∧ validBytes (s.step .readALV0).alv0.toBytes = [1] ∧
      ∀ field : ALSField, field.bytes (s.step .readALV0).alv0.toBytes
        = if field.Forced s.driver then field.bytes s.alv0.toBytes
          else field.current s.driver.currentLux := by
  have hvalue := SMCALSValue.readAccess_of_reading s.driver.currentLux
    (firstByte s.driver.forceBits) s.alv0 h
  have halv0 : (s.step .readALV0).alv0 = (SMCALSValue.readAccess s.driver.currentLux
      (firstByte s.driver.forceBits) s.alv0).2 := rfl
  rw [halv0, hvalue]
  refine ⟨rfl, rfl, fun field => ?_⟩
  rw [ALSField.if_forced]
  -- what is written to the field goes to its bytes
  cases field with
  | highGain => exact apply_ite (fun gain : UInt8 => [gain]) _ _ _
  | chan0 => exact apply_ite (fun chan : UInt16 => LittleEndian.bytes 2 chan.toNat) _ _ _
  | roomLux => exact apply_ite (fun lux : UInt32 => LittleEndian.bytes 4 lux.toNat) _ _ _

/-- A read with no light value to write, or of a forced field, leaves the field alone. -/
theorem readALV0_of_forced {field : ALSField} (h : field.Forced s.driver) :
    field.bytes (s.step .readALV0).alv0.toBytes = field.bytes s.alv0.toBytes := by
  by_cases hlux : s.driver.currentLux = 0xFFFFFFFF
  · -- the valid byte is not in any of the fields
    rw [readALV0_of_sentinel s hlux]
    cases field <;> rfl
  · rw [(readALV0_of_reading s hlux).2.2 field, if_pos h]

/-- The other entries leave the buffer alone, a write apart. -/
theorem alsStep_alv0 {e : ALSEvent} (hread : e ≠ .op .readALV0) (hwrite : e.written = none) :
    (s.alsStep e).alv0 = s.alv0 := by
  cases e with
  | lux v => rfl
  | op o =>
    cases o with
    | readALV0 => exact absurd rfl hread
    | writeALV0 src => exact absurd hwrite (by simp [ALSEvent.written])
    | writeBDVT env src =>
      -- with or without the key, the write is for the battery
      simp only [alsStep, step]
      split <;> rfl
    | _ => rfl

/-- **Step lemma**: an event keeps a forced field. -/
theorem alsStep_forced {field : ALSField} (h : field.Forced s.driver) {e : ALSEvent}
    (hwrite : e.written = none) :
    field.bytes (s.alsStep e).alv0.toBytes = field.bytes s.alv0.toBytes := by
  by_cases hread : e = .op .readALV0
  · subst hread
    exact readALV0_of_forced s h
  · rw [alsStep_alv0 s hread hwrite]

/-- **Step lemma**: `chan1` changes only by a write. -/
theorem alsStep_chan1 (e : ALSEvent) :
    chan1Bytes (s.alsStep e).alv0.toBytes
      = (e.written.map fun src => chan1Bytes src.toList).getD (chan1Bytes s.alv0.toBytes) := by
  cases hwrite : e.written with
  | none =>
    by_cases hread : e = .op .readALV0
    · -- a read assigns the other members of the value
      subst hread
      by_cases hlux : s.driver.currentLux = 0xFFFFFFFF
      · simp only [alsStep, readALV0_of_sentinel s hlux]
        rfl
      · simp only [alsStep, step, SMCALSValue.readAccess_of_reading _ _ _ hlux]
        rfl
    · rw [alsStep_alv0 s hread hwrite]
      rfl
  | some src =>
    obtain rfl : e = .op (.writeALV0 src) := by
      cases e with
      | lux v => exact absurd hwrite (by simp [ALSEvent.written])
      | op o =>
        cases o <;> simp_all [ALSEvent.written]
    exact congrArg chan1Bytes (SMCALSValue.Value.toBytes_ofBytes src)

end System

/-! ### Whole runs -/

/-- **Run lemma**: a field that is forced at every position keeps its bytes. -/
theorem forced_run {field : ALSField} {s : System} {es : List ALSEvent}
    (hforced : Always System.alsStep (fun s => field.Forced s.driver) s es)
    (hwrite : ∀ e ∈ es, e.written = none) :
    field.bytes (run System.alsStep s es).alv0.toBytes = field.bytes s.alv0.toBytes := by
  induction es generalizing s with
  | nil => rfl
  | cons e es ih =>
    obtain ⟨hhead, htail⟩ := always_cons.mp hforced
    rw [run_cons, ih htail fun e he => hwrite e (List.mem_cons_of_mem _ he)]
    exact s.alsStep_forced hhead (hwrite e List.mem_cons_self)

/-- **Run lemma**: `chan1` holds what was written last. -/
theorem chan1_run (s : System) (es : List ALSEvent) :
    chan1Bytes (run System.alsStep s es).alv0.toBytes
      = ((ALSEvent.lastWritten es).map fun src => chan1Bytes src.toList).getD
          (chan1Bytes s.alv0.toBytes) := by
  induction es generalizing s with
  | nil => rfl
  | cons e es ih =>
    rw [run_cons, ih, s.alsStep_chan1 e, ALSEvent.lastWritten]
    -- a later write overrides this one
    cases ALSEvent.lastWritten es <;> rfl

/-- **Theorem.** Over every run of entries into the driver and changes of the light value:
a read without a light value changes the valid byte alone; any other read sets it, and
writes a field exactly if it is not forced. A field that has been forced ever since a
client wrote it holds the client's bytes, `chan1` holds what was written last, and a
field that is not forced says the light value and nothing of the history. -/
theorem forced_fields :
    (∀ s : System, s.driver.currentLux = 0xFFFFFFFF →
      s.step .readALV0 = { s with alv0 := { s.alv0 with valid := 0 } }) ∧
    (∀ s : System, s.driver.currentLux ≠ 0xFFFFFFFF →
      (s.step .readALV0).driver = s.driver ∧ validBytes (s.step .readALV0).alv0.toBytes = [1] ∧
        ∀ field : ALSField, field.bytes (s.step .readALV0).alv0.toBytes
          = if field.Forced s.driver then field.bytes s.alv0.toBytes
            else field.current s.driver.currentLux) ∧
    (∀ (s : System) (src : Vector UInt8 10) (es : List ALSEvent) (field : ALSField),
      (∀ e ∈ es, e.written = none) →
      Always System.alsStep (fun s => field.Forced s.driver)
        (s.alsStep (.op (.writeALV0 src))) es →
      Always System.alsStep (fun s => field.bytes s.alv0.toBytes = field.bytes src.toList)
        (s.alsStep (.op (.writeALV0 src))) es) ∧
    (∀ (s : System) (es : List ALSEvent), chan1Bytes (run System.alsStep s es).alv0.toBytes
      = ((ALSEvent.lastWritten es).map fun src => chan1Bytes src.toList).getD
          (chan1Bytes s.alv0.toBytes)) ∧
    ∀ (s t : System) (es fs : List ALSEvent) (field : ALSField),
      (run System.alsStep s es).driver.currentLux = (run System.alsStep t fs).driver.currentLux →
      (run System.alsStep s es).driver.currentLux ≠ 0xFFFFFFFF →
      ¬ field.Forced (run System.alsStep s es).driver →
      ¬ field.Forced (run System.alsStep t fs).driver →
      field.bytes ((run System.alsStep s es).step .readALV0).alv0.toBytes
        = field.bytes ((run System.alsStep t fs).step .readALV0).alv0.toBytes := by
  refine ⟨System.readALV0_of_sentinel, System.readALV0_of_reading, ?_, chan1_run, ?_⟩
  · intro s src es field hwrite hforced pre hpre
    have hwritten : field.bytes (s.alsStep (.op (.writeALV0 src))).alv0.toBytes
        = field.bytes src.toList :=
      congrArg field.bytes (SMCALSValue.Value.toBytes_ofBytes src)
    rw [← hwritten]
    -- a shorter run is forced at all its positions too
    refine forced_run (fun pre' hpre' => hforced pre' (hpre'.trans hpre)) fun e he => ?_
    exact hwrite e (hpre.subset he)
  · intro s t es fs field hsame hlux hs ht
    rw [(System.readALV0_of_reading _ hlux).2.2 field, if_neg hs,
      (System.readALV0_of_reading _ (hsame ▸ hlux)).2.2 field, if_neg ht, hsame]

end AsusSMC
