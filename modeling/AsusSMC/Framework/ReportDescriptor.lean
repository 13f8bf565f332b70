import AsusSMC.Framework.LittleEndian
import Mathlib.Data.List.Nodup
import Mathlib.Logic.Function.Basic

/-!
# HID report descriptors

A report descriptor is a small program. It is a list of items, each of them a byte
that names it and up to four data bytes (`parse`). Run from left to right (`exec`), the
global and local items fill a table, and each main item `Input` declares a field of a
report as the table stands then. The fields with the same report id, in order, are the
layout of that report.

`decode` reads a report by its layout: the payload is cut into values, bit by bit, and a
value of an array field selects a usage. A `Host` receives one report after the other and
makes key events of the differences.

Only descriptors that number their reports are read here, and of the items those that
declare input fields; a descriptor with other items is refused.

* `decode_of_array` — a report that is one array of bytes is decoded slot by slot.
* `changes_nodup`, `down_mem_changes`, `up_mem_changes` — the key events of a difference.
* `Host.receive_tap` — a report with one usage and an empty one after it are a key that
  goes down and up.
-/

namespace ReportDescriptor

/-! ### Items -/

/-- The type and tag of an item: its first byte without the two bits of the size. -/
inductive Tag
  | input
  | collection
  | endCollection
  | usagePage
  | logicalMinimum
  | logicalMaximum
  | reportSize
  | reportId
  | reportCount
  | usage
  | usageMinimum
  | usageMaximum
  deriving DecidableEq, Repr

def Tag.ofByte : ℕ → Option Tag
  | 0x80 => some input
  | 0xA0 => some collection
  | 0xC0 => some endCollection
  | 0x04 => some usagePage
  | 0x14 => some logicalMinimum
  | 0x24 => some logicalMaximum
  | 0x74 => some reportSize
  | 0x84 => some reportId
  | 0x94 => some reportCount
  | 0x08 => some usage
  | 0x18 => some usageMinimum
  | 0x28 => some usageMaximum
  | _ => none

structure Item where
  tag : Tag
  data : List UInt8
  deriving DecidableEq, Repr

/-- An item in front of the others, if its tag is known. -/
def consItem (first : UInt8) (data : List UInt8) (items : Option (List Item)) :
    Option (List Item) :=
  (Tag.ofByte (first.toNat - first.toNat % 4)).bind fun tag => items.map (⟨tag, data⟩ :: ·)

/-- The items of a descriptor. The last of the four sizes is four bytes. -/
def parse : List UInt8 → Option (List Item)
  | [] => some []
  | first :: rest =>
    match first.toNat % 4, rest with
    | 0, rest => consItem first [] (parse rest)
    | 1, b :: rest => consItem first [b] (parse rest)
    | 2, b :: c :: rest => consItem first [b, c] (parse rest)
    | 3, b :: c :: d :: e :: rest => consItem first [b, c, d, e] (parse rest)
    -- the descriptor ends inside an item
    | _, _ => none

namespace Item

/-- The data, read as an unsigned number. -/
def unsigned (i : Item) : ℕ := LittleEndian.value i.data

/-- The data, read as a signed number that is not negative. The limits of a field are
signed, so the limit `255` takes two bytes. -/
def nonnegative (i : Item) : Option ℕ :=
  if 2 * i.unsigned < 256 ^ i.data.length then some i.unsigned else none

end Item

/-! ### Fields -/

/-- A field of a report: `count` values of `size` bits each. -/
structure Field where
  reportId : ℕ
  usagePage : ℕ
  logicalMinimum : ℕ
  logicalMaximum : ℕ
  /-- The usages, as ranges. -/
  usages : List (ℕ × ℕ)
  size : ℕ
  count : ℕ
  /-- Padding. -/
  isConstant : Bool
  /-- A value stands for its own usage, and does not select one. -/
  isVariable : Bool
  deriving DecidableEq, Repr

def Field.bits (f : Field) : ℕ := f.size * f.count

/-- The tables, the collections that are open, and the fields declared so far. -/
structure State where
  usagePage : ℕ := 0
  logicalMinimum : ℕ := 0
  logicalMaximum : ℕ := 0
  reportSize : ℕ := 0
  reportId : ℕ := 0
  reportCount : ℕ := 0
  usages : List (ℕ × ℕ) := []
  usageMinimum : Option ℕ := none
  depth : ℕ := 0
  fields : List Field := []

namespace State

/-- A main item ends what the local items have said. -/
def endMain (s : State) : State := { s with usages := [], usageMinimum := none }

/-- The field an `Input` declares; `flags` are its data. -/
def field (s : State) (flags : ℕ) : Field where
  reportId := s.reportId
  usagePage := s.usagePage
  logicalMinimum := s.logicalMinimum
  logicalMaximum := s.logicalMaximum
  usages := s.usages
  size := s.reportSize
  count := s.reportCount
  isConstant := flags.testBit 0
  isVariable := flags.testBit 1

end State

/-- One item. -/
def exec (s : State) (i : Item) : Option State :=
  match i.tag with
  | .usagePage => some { s with usagePage := i.unsigned }
  | .logicalMinimum => i.nonnegative.map fun n => { s with logicalMinimum := n }
  | .logicalMaximum => i.nonnegative.map fun n => { s with logicalMaximum := n }
  | .reportSize => some { s with reportSize := i.unsigned }
  | .reportCount => some { s with reportCount := i.unsigned }
  -- zero is not a report id
  | .reportId => if i.unsigned = 0 then none else some { s with reportId := i.unsigned }
  -- a usage of four bytes would bring its own page
  | .usage =>
    if i.data.length ≤ 2 then some { s with usages := s.usages ++ [(i.unsigned, i.unsigned)] }
    else none
  | .usageMinimum =>
    if i.data.length ≤ 2 then some { s with usageMinimum := some i.unsigned } else none
  | .usageMaximum =>
    if i.data.length ≤ 2 then
      s.usageMinimum.map fun n =>
        { s with usages := s.usages ++ [(n, i.unsigned)], usageMinimum := none }
    else none
  | .collection => some { s.endMain with depth := s.depth + 1 }
  | .endCollection =>
    match s.depth with
    | 0 => none
    | depth + 1 => some { s.endMain with depth := depth }
  | .input =>
    if s.depth = 0 ∨ s.reportId = 0 then none
    else some { s.endMain with fields := s.fields ++ [s.field i.unsigned] }

/-- The fields a descriptor declares, if every collection it opens is closed. -/
def fields (descriptor : List UInt8) : Option (List Field) := do
  let items ← parse descriptor
  let s ← items.foldlM exec {}
  if s.depth = 0 then some s.fields else none

/-! ### Reports -/

structure Usage where
  page : ℕ
  id : ℕ
  deriving DecidableEq, Repr

/-- The bits of a byte, least significant first. -/
def byteBits (b : UInt8) : List Bool := (List.range 8).map b.toNat.testBit

/-- The number its bits stand for. -/
def ofBits : List Bool → ℕ
  | [] => 0
  | b :: bs => b.toNat + 2 * ofBits bs

/-- The first `count` values of `size` bits. -/
def values (size : ℕ) : (count : ℕ) → List Bool → List ℕ
  | 0, _ => []
  | count + 1, bs => ofBits (bs.take size) :: values size count (bs.drop size)

/-- The usage at an index of a list of ranges. -/
def usageAt : List (ℕ × ℕ) → ℕ → Option ℕ
  | [], _ => none
  | (low, high) :: ranges, i =>
    if low + i ≤ high then some (low + i) else usageAt ranges (i - (high + 1 - low))

namespace Field

/-- The usage at an index. The usage zero stands for no key. -/
def usage (f : Field) (i : ℕ) : Option Usage :=
  (usageAt f.usages i).bind fun id => if id = 0 then none else some ⟨f.usagePage, id⟩

/-- The usage a value of an array selects. -/
def select (f : Field) (value : ℕ) : Option Usage :=
  if f.logicalMinimum ≤ value ∧ value ≤ f.logicalMaximum then f.usage (value - f.logicalMinimum)
  else none

/-- What the values of a field report. -/
def reported (f : Field) (vs : List ℕ) : List Usage :=
  if f.isConstant then []
  else if f.isVariable then
    (vs.zipIdx).filterMap fun v => if v.1 = 0 then none else f.usage v.2
  else vs.filterMap f.select

end Field

/-- The fields one after the other. -/
def reportedBy : List Field → List Bool → List Usage
  | [], _ => []
  | f :: fs, bs => f.reported (values f.size f.count bs) ++ reportedBy fs (bs.drop f.bits)

/-- The usages a report says are on: its first byte is the id, and the rest has to have the
length of the fields with this id. -/
def decode (fs : List Field) : List UInt8 → Option (List Usage)
  | [] => none
  | id :: payload =>
    let own := fs.filter fun f => f.reportId == id.toNat
    if own = [] ∨ (own.map Field.bits).sum ≠ 8 * payload.length then none
    else some (reportedBy own (payload.flatMap byteBits))

@[simp] theorem length_byteBits (b : UInt8) : (byteBits b).length = 8 := by
  simp [byteBits]

/-- The low `w` bits of a number. -/
theorem ofBits_testBit (w n : ℕ) : ofBits ((List.range w).map n.testBit) = n % 2 ^ w := by
  induction w generalizing n with
  | zero => simp [ofBits, Nat.mod_one]
  | succ w ih =>
    -- the first bit is the parity, and the others are the bits of the half
    have hshift : (n.testBit ∘ Nat.succ) = (n / 2).testBit := by
      funext i
      exact Nat.testBit_succ n i
    have hparity : (n.testBit 0).toNat = n % 2 := by
      rw [Nat.testBit_zero]
      rcases Nat.mod_two_eq_zero_or_one n with h | h <;> simp [h]
    rw [List.range_succ_eq_map, List.map_cons, List.map_map, hshift, ofBits, ih, hparity, pow_succ',
      Nat.mod_mul]

theorem ofBits_byteBits (b : UInt8) : ofBits (byteBits b) = b.toNat := by
  rw [byteBits, ofBits_testBit]
  exact Nat.mod_eq_of_lt b.toNat_lt

/-- Values of a byte each are the bytes. -/
theorem values_byteBits (payload : List UInt8) :
    values 8 payload.length (payload.flatMap byteBits) = payload.map UInt8.toNat := by
  induction payload with
  | nil => rfl
  | cons b payload ih =>
    rw [List.flatMap_cons, List.length_cons, values, List.take_left' (length_byteBits b),
      List.drop_left' (length_byteBits b), ofBits_byteBits, ih, List.map_cons]

/-- **A report that is one array of bytes** is decoded slot by slot. -/
theorem decode_of_array {fs : List Field} {f : Field} {id : UInt8} {payload : List UInt8}
    (hown : fs.filter (fun f => f.reportId == id.toNat) = [f]) (hsize : f.size = 8)
    (hcount : f.count = payload.length) (hdata : f.isConstant = false)
    (harray : f.isVariable = false) :
    decode fs (id :: payload) = some (payload.filterMap fun b => f.select b.toNat) := by
  have hbits : ([f].map Field.bits).sum = 8 * payload.length := by
    simp [Field.bits, hsize, hcount]
  have hvalid : ¬ ([f] = [] ∨ ([f].map Field.bits).sum ≠ 8 * payload.length) := by
    rw [hbits]
    simp
  rw [decode, hown, if_neg hvalid, reportedBy, reportedBy, List.append_nil, hsize, hcount,
    values_byteBits, Field.reported, hdata, harray]
  simp [List.filterMap_map]

/-! ### The host -/

inductive KeyEvent
  | down (usage : Usage)
  | up (usage : Usage)
  deriving DecidableEq, Repr

/-- What changes from one report to the next: keys go up first. -/
def changes (held now : List Usage) : List KeyEvent :=
  (held.filter (· ∉ now)).map .up ++ (now.filter (· ∉ held)).map .down

section Changes

variable {held now : List Usage} {u : Usage}

theorem down_mem_changes : .down u ∈ changes held now ↔ u ∉ held ∧ u ∈ now := by
  simp [changes, and_comm]

theorem up_mem_changes : .up u ∈ changes held now ↔ u ∈ held ∧ u ∉ now := by
  simp [changes]

/-- Every change is told once. -/
theorem changes_nodup (hheld : held.Nodup) (hnow : now.Nodup) : (changes held now).Nodup := by
  have hup : Function.Injective KeyEvent.up := fun _ _ h => KeyEvent.up.inj h
  have hdown : Function.Injective KeyEvent.down := fun _ _ h => KeyEvent.down.inj h
  refine List.Nodup.append ((hheld.filter _).map hup) ((hnow.filter _).map hdown) ?_
  -- no key event is both
  rw [List.disjoint_left]
  intro e he he'
  obtain ⟨u, -, rfl⟩ := List.mem_map.mp he
  obtain ⟨v, -, hv⟩ := List.mem_map.mp he'
  exact KeyEvent.noConfusion hv

end Changes

/-- The usages held by each report id, and the key events so far. -/
structure Host where
  held : UInt8 → List Usage := fun _ => []
  events : List KeyEvent := []

namespace Host

/-- A report that is not of the descriptor is dropped. -/
def receive (fs : List Field) (h : Host) (report : List UInt8) : Host :=
  match decode fs report, report.head? with
  | some now, some id =>
    { held := Function.update h.held id now, events := h.events ++ changes (h.held id) now }
  | _, _ => h

variable {fs : List Field} {h : Host} {id : UInt8} {payload : List UInt8} {now : List Usage}

theorem receive_of_decode (hdecode : decode fs (id :: payload) = some now) :
    h.receive fs (id :: payload)
      = { held := Function.update h.held id now
          events := h.events ++ changes (h.held id) now } := by
  rw [receive, hdecode]
  rfl

/-- **A tap**: one usage, and none after it. -/
theorem receive_tap {payload' : List UInt8} {u : Usage} (hheld : h.held id = [])
    (hpress : decode fs (id :: payload) = some [u])
    (hrelease : decode fs (id :: payload') = some []) :
    (h.receive fs (id :: payload)).receive fs (id :: payload')
      = { h with events := h.events ++ [.down u, .up u] } := by
  have hback : Function.update (Function.update h.held id [u]) id [] = h.held := by
    rw [Function.update_idem, ← hheld, Function.update_eq_self]
  rw [receive_of_decode hpress, receive_of_decode hrelease, hback]
  simp [changes, hheld]

end Host

end ReportDescriptor
