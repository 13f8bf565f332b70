import AsusSMC.Model.Console
import AsusSMC.Safety.KeySet

/-!
# The host's keys

A report leaves the driver as 33 bytes, and what they mean is written in another file: the
report descriptor of the virtual keyboard. `decode_report` reads the bytes by it. Reports
`2` and `3` have 32 slots, no other length is accepted, and a slot that is not zero is a
usage of the report's page.

So a host that gets a report after every change of a key array holds the keys of the set
the array stands for, and its key events are the changes of that set
(`host_follows_keys`).
-/

namespace AsusSMC

open ReportDescriptor EventSystem

namespace Channel

/-- The page of its usages. -/
def page : Channel → ℕ
  | csmr => kHIDPage_Consumer
  | tc => kHIDPage_AppleVendorTopCase

/-- The usage a slot stands for. -/
def usage (ch : Channel) (key : UInt8) : Usage := ⟨ch.page, key.toNat⟩

theorem usage_injective (ch : Channel) : Function.Injective ch.usage := by
  intro k k' h
  exact UInt8.toNat.inj (Usage.mk.inj h).2

end Channel

/-! ### Reading a report -/

/-- The field of a report that the driver posts. -/
def slotField (ch : Channel) : Field where
  reportId := ch.reportId.toNat
  usagePage := ch.page
  logicalMinimum := 0
  logicalMaximum := 255
  usages := [(0, 255)]
  size := 8
  count := 32
  isConstant := false
  isVariable := false

/-- **The descriptor** declares one array of 32 slots for each of the two reports. -/
theorem keyboardFields_reportId (ch : Channel) :
    keyboardFields.filter (fun f => f.reportId == ch.reportId.toNat) = [slotField ch] := by
  cases ch <;> decide

/-- A slot selects its own value, unless it is free. -/
theorem slotField_select (ch : Channel) (b : UInt8) :
    (slotField ch).select b.toNat = if b = 0 then none else some (ch.usage b) := by
  have hb : b.toNat ≤ 255 := Nat.le_of_lt_succ b.toNat_lt
  have hzero : b.toNat = 0 ↔ b = 0 := by
    rw [← UInt8.toNat_inj]
    rfl
  have hrange : usageAt [(0, 255)] b.toNat = some b.toNat := by
    simp [usageAt, hb]
  show (if 0 ≤ b.toNat ∧ b.toNat ≤ 255 then (slotField ch).usage (b.toNat - 0) else none) = _
  rw [if_pos ⟨Nat.zero_le _, hb⟩, Nat.sub_zero]
  show (usageAt [(0, 255)] b.toNat).bind _ = _
  rw [hrange, Option.bind_some]
  simp only [hzero]
  rfl

/-- The slots that are not free, as usages. -/
theorem filterMap_select (ch : Channel) (payload : List UInt8) :
    (payload.filterMap fun b => (slotField ch).select b.toNat)
      = (payload.filter (· != 0)).map ch.usage := by
  induction payload with
  | nil => rfl
  | cons b payload ih =>
    by_cases hb : b = 0
    · rw [List.filterMap_cons_none (by rw [slotField_select, if_pos hb]), ih,
        List.filter_cons_of_neg (by simp [hb])]
    · rw [List.filterMap_cons_some (by rw [slotField_select, if_neg hb]), ih,
        List.filter_cons_of_pos (by simp [hb]), List.map_cons]

/-- **The bytes of a report**: of 32 slots, those that are not free. -/
theorem decode_report (ch : Channel) (payload : List UInt8) :
    decode keyboardFields (ch.reportId :: payload)
      = if payload.length = 32 then some ((payload.filter (· != 0)).map ch.usage) else none := by
  split
  · next hlength =>
    rw [decode_of_array (keyboardFields_reportId ch) rfl hlength.symm rfl rfl, filterMap_select]
  · next hlength =>
    -- the field is 256 bits long, and a payload is whole bytes
    rw [decode, keyboardFields_reportId]
    refine if_pos (Or.inr ?_)
    show 256 + 0 ≠ 8 * payload.length
    omega

theorem decode_toBytes (ch : Channel) (ks : Keys) :
    decode keyboardFields (Report.toBytes ⟨ch.reportId, ks⟩) = some (ks.pressed.map ch.usage) := by
  rw [Report.toBytes, decode_report, if_pos ks.length_raw]
  rfl

/-- The report of a key that is down, and of none. -/
theorem decode_single (ch : Channel) {key : UInt8} (hkey : key ≠ 0) :
    decode keyboardFields (Report.toBytes ⟨ch.reportId, Keys.single key⟩)
      = some [ch.usage key] := by
  have hpressed : (Keys.single key).pressed = [key] := by
    rw [Keys.pressed, Keys.single, List.filter_cons_of_pos (by simpa using hkey)]
    simp
  rw [decode_toBytes, hpressed]
  rfl

theorem decode_new (ch : Channel) :
    decode keyboardFields (Report.toBytes ⟨ch.reportId, Keys.new⟩) = some [] := by
  rw [decode_toBytes, Keys.pressed_new]
  rfl

/-! ### A host and a key array -/

/-- A key array, and a host that gets a report after each change of it. -/
structure ReportedKeys where
  keys : Keys := Keys.new
  host : Host := {}

namespace ReportedKeys

def step (ch : Channel) (w : ReportedKeys) (op : KeyOp) : ReportedKeys where
  keys := w.keys.step op
  host := w.host.receive keyboardFields (Report.toBytes ⟨ch.reportId, w.keys.step op⟩)

/-- The host holds the keys of the set. -/
structure Follows (ch : Channel) (w : ReportedKeys) (S : KeySet) : Prop where
  represents : w.keys.Represents S
  held : w.host.held ch.reportId = w.keys.pressed.map ch.usage

/-- The key events of one operation are the changes of the set, each once. -/
structure Reports (ch : Channel) (w : ReportedKeys) (S : KeySet) (op : KeyOp) : Prop where
  events : ∃ es, (w.step ch op).host.events = w.host.events ++ es ∧ es.Nodup ∧
    ∀ e, e ∈ es ↔ ∃ key,
      e = .down (ch.usage key) ∧ key ∉ S.elems ∧ key ∈ (S.step op).elems ∨
        e = .up (ch.usage key) ∧ key ∈ S.elems ∧ key ∉ (S.step op).elems
  /-- No other usage is reported. -/
  held : ∀ u, u ∈ (w.step ch op).host.held ch.reportId ↔
    ∃ key ∈ (S.step op).elems, u = ch.usage key

variable {ch : Channel} {w : ReportedKeys} {S : KeySet}

theorem mem_pressed {ks : Keys} (h : ks.Represents S) (key : UInt8) :
    key ∈ ks.pressed ↔ key ∈ S.elems := by
  rw [← h.toFinset_occupied, List.mem_toFinset, ← Keys.pressed_eq]

theorem host_step (h : w.host.held ch.reportId = w.keys.pressed.map ch.usage) (op : KeyOp) :
    (w.step ch op).host
      = { held := Function.update w.host.held ch.reportId ((w.keys.step op).pressed.map ch.usage)
          events := w.host.events ++
            changes (w.keys.pressed.map ch.usage) ((w.keys.step op).pressed.map ch.usage) } := by
  rw [step, ← h]
  exact Host.receive_of_decode (decode_toBytes ch _)

/-- **Step lemma.** -/
theorem follows_step (h : Follows ch w S) (op : KeyOp) :
    Follows ch (w.step ch op) (S.step op) := by
  refine ⟨Keys.represents_step h.represents op, ?_⟩
  rw [host_step h.held]
  exact Function.update_self _ _ _

theorem reports_step (h : Follows ch w S) (op : KeyOp) : Reports ch w S op := by
  have hnext := Keys.represents_step h.represents op
  -- the usages of an array are those of its set
  have hmem : ∀ {ks : Keys} {T : KeySet}, ks.Represents T → ∀ u,
      u ∈ ks.pressed.map ch.usage ↔ ∃ key ∈ T.elems, u = ch.usage key := by
    intro ks T hT u
    simp only [List.mem_map, mem_pressed hT, eq_comm]
  -- and no two keys share a usage, so an event tells its key
  have hkey : ∀ {T : KeySet} key, (∃ k ∈ T.elems, ch.usage key = ch.usage k) ↔ key ∈ T.elems := by
    intro T key
    simp only [ch.usage_injective.eq_iff, exists_eq_right']
  -- an array has each key at most once, so no event comes twice
  have hnodup : ∀ {ks : Keys} {T : KeySet}, ks.Represents T → (ks.pressed.map ch.usage).Nodup :=
    fun hT => hT.shows.pressed_nodup.map ch.usage_injective
  refine ⟨⟨_, congrArg Host.events (host_step h.held op), ?_, fun e => ?_⟩, fun u => ?_⟩
  · exact changes_nodup (hnodup h.represents) (hnodup hnext)
  · cases e with
    | down u =>
      rw [down_mem_changes, hmem h.represents, hmem hnext]
      constructor
      · rintro ⟨hnot, key, hin, rfl⟩
        exact ⟨key, Or.inl ⟨rfl, (hkey key).not.mp hnot, hin⟩⟩
      · rintro ⟨key, ⟨heq, hnot, hin⟩ | ⟨heq, -⟩⟩
        · obtain rfl := KeyEvent.down.inj heq
          exact ⟨(hkey key).not.mpr hnot, key, hin, rfl⟩
        · exact KeyEvent.noConfusion heq
    | up u =>
      rw [up_mem_changes, hmem h.represents, hmem hnext]
      constructor
      · rintro ⟨⟨key, hin, rfl⟩, hnot⟩
        exact ⟨key, Or.inr ⟨rfl, hin, (hkey key).not.mp hnot⟩⟩
      · rintro ⟨key, ⟨heq, -⟩ | ⟨heq, hin, hnot⟩⟩
        · exact KeyEvent.noConfusion heq
        · obtain rfl := KeyEvent.up.inj heq
          exact ⟨⟨key, hin, rfl⟩, (hkey key).not.mpr hnot⟩
  · rw [(follows_step h op).held]
    exact hmem hnext u

/-- **The host's keys.** Let a report be posted after every operation on a fresh key array,
whatever bytes the operations are given. Then each operation makes the key events that are
the changes of the set the array stands for, each of them once, and the host holds the keys
of that set, as usages of the report's page, and no other. -/
theorem host_follows_keys (ch : Channel) (ops : List KeyOp) :
    Throughout (step ch) (fun w op => ∃ S : KeySet, w.keys.Represents S ∧ Reports ch w S op)
      {} ops := by
  -- the fresh array stands for the empty set, and the host holds nothing
  have hfollows : Always (step ch) (fun w => ∃ S, Follows ch w S) {} ops := by
    refine .of_step ⟨SlotArray.BoundedSet.empty, SlotArray.represents_replicate 0 32, rfl⟩ ?_ ops
    rintro w op ⟨S, hS⟩
    exact ⟨S.step op, follows_step hS op⟩
  intro pre op post hsplit
  obtain ⟨S, hS⟩ := hfollows pre ⟨_, hsplit.symm⟩
  exact ⟨S, hS.represents, reports_step hS op⟩

end ReportedKeys

end AsusSMC
