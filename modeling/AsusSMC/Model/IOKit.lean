import AsusSMC.Model.KernEventServer
import Mathlib.Data.List.Nodup
import Mathlib.Tactic.Common

/-!
# What the driver sees of its environment

The vocabulary the driver shares with the kernel: status codes, objects and
their casts, ACPI evaluations, the registry, the HID system and the services
that consume its messages.

None of this is code of the driver. Everything the driver *asks* of the
environment is a field of `Env`, read as an oracle: one `Env` answers the calls
of one entry into the driver, and every entry of a run brings its own, so no
two answers of a run are tied to each other. Within one entry the driver never
makes the same ACPI evaluation twice, so an answer may be a function of the
call.

An evaluation that fails leaves the caller's output variable as it was
(`ACPI.store`). What the uninitialised variables of the driver hold before such
a call is `Locals`.
-/

namespace AsusSMC

/-- `IOReturn`, as far as the driver tells the codes apart. -/
inductive IOReturn
  | success
  | error
  | badArgument
  | invalid
  | unsupported
  | other (code : UInt32)
  deriving DecidableEq, Repr

/-- Objects of the kernel's collection classes. A dictionary is its
`getObject`. -/
inductive OSObject
  | string (s : String)
  | number (value : UInt64)
  | data (bytes : List UInt8)
  | dictionary (getObject : String → Option OSObject)
  | other

namespace OSObject

/-- `OSDynamicCast(OSString, obj)`, `obj` possibly null. -/
def asString : Option OSObject → Option String
  | some (string s) => some s
  | _ => none

/-- `OSDynamicCast(OSNumber, obj)`. -/
def asNumber : Option OSObject → Option UInt64
  | some (number v) => some v
  | _ => none

/-- `OSDynamicCast(OSData, obj)`. -/
def asData : Option OSObject → Option (List UInt8)
  | some (data bytes) => some bytes
  | _ => none

/-- `OSDynamicCast(OSDictionary, obj)`. -/
def asDictionary : Option OSObject → Option (String → Option OSObject)
  | some (dictionary get) => some get
  | _ => none

end OSObject

/-- A device of the ACPI plane. -/
abbrev ACPIDevice := ℕ

/-- An argument of an ACPI evaluation: an `OSNumber` or an `OSData`. -/
inductive ACPIArg
  | number (value : UInt64)
  | data (bytes : List UInt8)
  deriving DecidableEq, Repr

/-- The firmware: for each evaluation its result, or `none` for a status other
than `kIOReturnSuccess`. -/
structure ACPI where
  integer : ACPIDevice → String → List ACPIArg → Option UInt32
  object : ACPIDevice → String → List ACPIArg → Option (Option OSObject)
  /-- `validateObject(name) == kIOReturnSuccess`. -/
  validateObject : ACPIDevice → String → Bool

/-- The status of an evaluation and the caller's output variable after it. On
failure the variable still holds `out`. -/
def ACPI.store {α : Type} (reply : Option α) (out : α) : IOReturn × α :=
  match reply with
  | some v => (.success, v)
  | none => (.error, out)

@[simp] theorem ACPI.store_some {α : Type} (v out : α) :
    ACPI.store (some v) out = (.success, v) := rfl

@[simp] theorem ACPI.store_none {α : Type} (out : α) :
    ACPI.store none out = (.error, out) := rfl

/-- A service of the registry that registered for the driver's messages. -/
abbrev Service := ℕ

/-- The `IONotifier` objects the driver is handed. -/
inductive Notifier
  | publish
  | terminate
  | vsmc
  deriving DecidableEq, Repr

/-- Kernel objects the driver only stores, retains and releases. -/
abbrev Object := ℕ

/-- The two messages the driver sends to its consumers; the argument of both is
a `bool *`. -/
inductive KeyboardMessage
  | kKeyboardSetTouchStatus
  | kKeyboardGetTouchStatus
  deriving DecidableEq, Repr

/-! ### `OSSet` -/

/-- An `OSSet`: its members in insertion order, each once. -/
structure OSSet (α : Type) where
  members : List α
  nodup : members.Nodup

namespace OSSet

variable {α : Type}

/-- `OSSet::withCapacity`. -/
def empty : OSSet α := ⟨[], List.nodup_nil⟩

variable [DecidableEq α]

/-- `setObject`: a member is not inserted again. -/
def setObject (s : OSSet α) (x : α) : OSSet α :=
  if h : x ∈ s.members then s
  else ⟨s.members ++ [x], List.Nodup.append s.nodup (List.nodup_singleton x) (by simpa using h)⟩

/-- `removeObject`. -/
def removeObject (s : OSSet α) (x : α) : OSSet α :=
  ⟨s.members.erase x, s.nodup.erase x⟩

@[simp] theorem mem_setObject (s : OSSet α) (x y : α) :
    y ∈ (s.setObject x).members ↔ y = x ∨ y ∈ s.members := by
  unfold setObject
  split
  · next h =>
    -- a member is not inserted again, and is one already
    constructor
    · exact Or.inr
    · rintro (rfl | hy)
      · exact h
      · exact hy
  · simp [or_comm]

@[simp] theorem mem_removeObject (s : OSSet α) (x y : α) :
    y ∈ (s.removeObject x).members ↔ y ≠ x ∧ y ∈ s.members := s.nodup.mem_erase_iff

end OSSet

/-- The order in which an iterator visits a collection: any rearrangement. -/
structure VisitOrder where
  visit : List Service → List Service
  perm : ∀ l, (visit l).Perm l

/-! ### The environment of one entry -/

/-- What the uninitialised locals of the driver hold when they come into scope:
`obj` of `probe`, `wdg` of `parse_WDG`, `res` of `message`, and `val` of each
call of `wmi_evaluate_method` (told apart by its arguments). -/
structure Locals where
  obj : Option OSObject
  wdg : Option OSObject
  val : UInt32 → UInt32 → UInt32 → UInt32
  res : UInt32

/-- A registry entry is its `getProperty`. -/
abbrev RegistryEntry := String → Option OSObject

/-- Posting to the virtual keyboard. The answers are indexed by the position of
the post in the driver's history, so each post has its own. -/
structure HIDSystem where
  /-- `IOBufferMemoryDescriptor::withBytes` returned a buffer. -/
  withBytes : ℕ → Bool
  handleReport : ℕ → IOReturn

/-- The consumer usages of Apple's HID usage tables (not part of the
repository): nonzero, and small enough for a key byte. -/
structure ConsumerUsages where
  kHIDUsage_Csmr_VolumeIncrement : Int32
  kHIDUsage_Csmr_VolumeDecrement : Int32
  kHIDUsage_Csmr_Mute : Int32
  kHIDUsage_Csmr_ScanPreviousTrack : Int32
  kHIDUsage_Csmr_ScanNextTrack : Int32
  kHIDUsage_Csmr_PlayOrPause : Int32
  byte_sized : ∀ u ∈ [kHIDUsage_Csmr_VolumeIncrement, kHIDUsage_Csmr_VolumeDecrement,
    kHIDUsage_Csmr_Mute, kHIDUsage_Csmr_ScanPreviousTrack, kHIDUsage_Csmr_ScanNextTrack,
    kHIDUsage_Csmr_PlayOrPause], 0 < u.toInt ∧ u.toInt < 256

/-- What a byte is once it has been copied into a `bool`. The language says so for two
bytes and leaves the others open. -/
structure BoolReading where
  read : UInt8 → Bool
  read_zero : read 0 = false
  read_one : read 1 = true

/-- The environment of one entry into the driver. -/
structure Env where
  usages : ConsumerUsages
  locals : Locals
  acpi : ACPI
  /-- `IORegistryEntry::fromPath` while the backlight entry is searched. -/
  fromPath : String → Option RegistryEntry
  /-- `IORegistryEntry::fromPath` when the entry found is read. -/
  fromPathAgain : String → Option RegistryEntry
  hid : HIDSystem
  /-- What a consumer leaves in the pointed-to `bool` of a message. -/
  consumer : Service → KeyboardMessage → Bool → Bool
  order : KeyboardMessage → VisitOrder
  /-- `kev_msg_post(&msg) == KERN_SUCCESS`. -/
  kevMsgPost : KevMsg → Bool
  bool : BoolReading

/-- The same entry with other contents of the uninitialised locals. -/
def Env.withLocals (env : Env) (l : Locals) : Env := { env with locals := l }

@[simp] theorem Env.withLocals_bool (env : Env) (l : Locals) :
    (env.withLocals l).bool = env.bool := rfl

/-- The usages of Apple's tables. -/
def ConsumerUsages.apple : ConsumerUsages where
  kHIDUsage_Csmr_VolumeIncrement := 0xE9
  kHIDUsage_Csmr_VolumeDecrement := 0xEA
  kHIDUsage_Csmr_Mute := 0xE2
  kHIDUsage_Csmr_ScanPreviousTrack := 0xB6
  kHIDUsage_Csmr_ScanNextTrack := 0xB5
  kHIDUsage_Csmr_PlayOrPause := 0xCD
  byte_sized := by
    simp only [List.forall_mem_cons, List.not_mem_nil, false_implies, implies_true, and_true]
    decide

/-- A machine that answers nothing: every evaluation, lookup and post fails. -/
def Env.unresponsive : Env where
  usages := .apple
  locals := ⟨none, none, fun _ _ _ => 0, 0⟩
  acpi := ⟨fun _ _ _ => none, fun _ _ _ => none, fun _ _ => false⟩
  fromPath := fun _ => none
  fromPathAgain := fun _ => none
  hid := ⟨fun _ => false, fun _ => .error⟩
  consumer := fun _ _ data => data
  order := fun _ => ⟨id, fun _ => .rfl⟩
  kevMsgPost := fun _ => false
  bool := ⟨(· != 0), rfl, rfl⟩

end AsusSMC
