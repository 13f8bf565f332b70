import AsusSMC.Safety.GuidText

/-!
# The management block of `_WDG`

`parse_WDG` compares texts: it formats the GUID of each block and looks for
`ASUS_WMI_MGMT_GUID`. Since the text tells the bytes, a block is taken exactly if its
sixteen bytes are those of the GUID (`parseGuid_eq_iff`), the first such block wins,
and without one the method is `WMNB` (`parseWDG_exact`). The fallback is reached only after
the loop: if `_WDG` cannot be evaluated, or is no buffer, the name stays empty
(`parseWDG_of_not_data`).
-/

namespace AsusSMC

namespace Driver

/-- `97845ED0-4E6D-11DE-8A39-0800200C9A66`, as it stands in a block: the first three
groups with their low byte first. -/
def managementGuid : Vector UInt8 16 :=
  #v[0xD0, 0x5E, 0x84, 0x97, 0x6D, 0x4E, 0xDE, 0x11,
    0x8A, 0x39, 0x08, 0x00, 0x20, 0x0C, 0x9A, 0x66]

/-- The management method of a block with these two bytes of `object_id`. -/
def blockMethod (a b : UInt8) : Vector UInt8 5 := #v[0x57, 0x4D, a, b, 0]

/-- `WMNB`. -/
def fallbackMethod : Vector UInt8 5 := blockMethod 0x4E 0x42

/-- The block at index `i` is one of the complete blocks of the buffer, and its GUID is
the management GUID. -/
def IsManagementBlock (data : List UInt8) (i : ℕ) : Prop :=
  i < data.length / 20 ∧ (data.drop (20 * i)).take 16 = managementGuid.toList

instance (data : List UInt8) (i : ℕ) : Decidable (IsManagementBlock data i) :=
  inferInstanceAs (Decidable (_ ∧ _))

/-- The texts are equal exactly if the bytes are. -/
theorem parseGuid_eq_iff (guid : Vector UInt8 16) :
    wmiParseGuid guid = ASUS_WMI_MGMT_GUID.toList ↔ guid = managementGuid := by
  -- the constant of the source is the text of these sixteen bytes
  have htext : wmiParseGuid managementGuid = ASUS_WMI_MGMT_GUID.toList := by decide
  rw [← htext]
  exact wmiParseGuid_injective.eq_iff

/-- The first block with the management GUID. -/
def IsFirstManagementBlock (data : List UInt8) (i : ℕ) : Prop :=
  IsManagementBlock data i ∧ ∀ j < i, ¬ IsManagementBlock data j

/-- Among the management blocks one is the first. -/
theorem exists_first {data : List UInt8} (h : ∃ i, IsManagementBlock data i) :
    ∃ i, IsFirstManagementBlock data i := by
  classical
  exact ⟨Nat.find h, Nat.find_spec h, fun j hj => Nat.find_min h hj⟩

/-! ### One block -/

section Block

variable {data : List UInt8} {i : ℕ}

/-- A complete block can be read, and its bytes are those of the buffer. -/
theorem guidBlock_of_lt (h : i < data.length / 20) :
    ∃ g, guidBlock data i = some g ∧ g.guid.toList = (data.drop (20 * i)).take 16 ∧
      data[20 * i + 16]? = some (firstByte g.objectId) ∧
      data[20 * i + 17]? = some (secondByte g.objectId) := by
  have hlen : ((data.drop (i * guidBlockSize)).take guidBlockSize).length = guidBlockSize := by
    simp [guidBlockSize]
    omega
  -- the GUID is the first sixteen bytes of the twenty, and `object_id` the next two
  rw [guidBlock, dif_pos hlen]
  refine ⟨_, rfl, ?_, ?_, ?_⟩
  · simp [guidBlockSize, mul_comm, List.take_take]
  · simp [guidBlockSize, mul_comm, firstByte]
  · simp [guidBlockSize, mul_comm, secondByte]

/-- The blocks that can be read are the complete ones. -/
theorem guidBlock_isSome : (guidBlock data i).isSome ↔ 20 * i + 20 ≤ data.length := by
  constructor
  · intro h
    by_contra hlong
    have hlen : ((data.drop (i * guidBlockSize)).take guidBlockSize).length ≠ guidBlockSize := by
      simp [guidBlockSize]
      omega
    rw [guidBlock, dif_neg hlen] at h
    exact absurd h (by decide)
  · intro h
    obtain ⟨g, hg, -⟩ := guidBlock_of_lt (show i < data.length / 20 by omega)
    rw [hg]
    rfl

/-- The test of the loop, on the bytes of the buffer. -/
theorem isManagementBlock_iff {g : GuidBlock} (h : i < data.length / 20)
    (hg : g.guid.toList = (data.drop (20 * i)).take 16) :
    wmiParseGuid g.guid = ASUS_WMI_MGMT_GUID.toList ↔ IsManagementBlock data i := by
  rw [parseGuid_eq_iff, IsManagementBlock, ← hg, Vector.toList_inj]
  exact (and_iff_right h).symm

/-- The same test, made in the buffer `guid_string`. -/
theorem guidStringMatches_of_block {g : GuidBlock} (hg : guidBlock data i = some g)
    {guidString : List Char} (h : 37 ≤ guidString.length) :
    guidStringMatches (g.guid.map UInt8.toInt8) guidString
      = some (decide (IsManagementBlock data i)) := by
  have hlt : i < data.length / 20 := by
    have hcomplete := guidBlock_isSome.mp (hg ▸ rfl : (guidBlock data i).isSome)
    omega
  obtain ⟨g', hg', hguid, -⟩ := guidBlock_of_lt hlt
  obtain rfl : g = g' := Option.some.inj (hg.symm.trans hg')
  rw [guidStringMatches_eq g.guid h, decide_eq_decide.mpr (isManagementBlock_iff hlt hguid)]

end Block

/-! ### The loop -/

section Loop

variable {data : List UInt8}

/-- The loop stops at the first management block. -/
theorem findManagementBlock_of_first {k : ℕ} (hk : IsFirstManagementBlock data k) :
    ∀ fuel i, fuel + i = data.length / 20 → i ≤ k →
      ∃ id, findManagementBlock data fuel i = some id ∧
        data[20 * k + 16]? = some (firstByte id) ∧ data[20 * k + 17]? = some (secondByte id) := by
  -- the induction is on the blocks that are left, and the loop is never past `k`
  intro fuel
  induction fuel with
  | zero =>
    intro i hi hik
    -- no block is left, but `k` is still to come
    have hlt := hk.1.1
    omega
  | succ fuel ih =>
    intro i hi hik
    have hlt : i < data.length / 20 := by omega
    obtain ⟨g, hg, hguid, hid, hid'⟩ := guidBlock_of_lt hlt
    rw [findManagementBlock, hg]
    dsimp only
    by_cases hmatch : IsManagementBlock data i
    · -- there is none before `k`
      obtain rfl : i = k := by
        by_contra hne
        exact hk.2 i (by omega) hmatch
      rw [if_pos ((isManagementBlock_iff hlt hguid).mpr hmatch)]
      exact ⟨g.objectId, rfl, hid, hid'⟩
    · rw [if_neg fun h => hmatch ((isManagementBlock_iff hlt hguid).mp h)]
      -- block `i` is passed over, so `k` is a later one
      have hne : i ≠ k := by
        rintro rfl
        exact hmatch hk.1
      exact ih (i + 1) (by omega) (by omega)

/-- Without a management block the loop runs to its end. -/
theorem findManagementBlock_of_none (hnone : ∀ i, ¬ IsManagementBlock data i) :
    ∀ fuel i, fuel + i = data.length / 20 → findManagementBlock data fuel i = none := by
  intro fuel
  induction fuel with
  | zero => exact fun _ _ => rfl
  | succ fuel ih =>
    intro i hi
    have hlt : i < data.length / 20 := by omega
    obtain ⟨g, hg, hguid, -⟩ := guidBlock_of_lt hlt
    rw [findManagementBlock, hg]
    dsimp only
    -- no block is taken, so the loop goes on
    rw [if_neg fun h => hnone i ((isManagementBlock_iff hlt hguid).mp h)]
    exact ih (i + 1) (by omega)

end Loop

/-! ### `parse_WDG` -/

section Parse

variable {env : Env} {d : Driver} {data : List UInt8}

/-- What `parse_WDG` does with a buffer. -/
theorem parseWDG_of_data
    (h : d.objectReply env .atkDevice "_WDG" [] = some (some (.data data))) :
    d.parseWDG env = (d.emit (d.objectEffect .atkDevice "_WDG" [])).setWmiMethod
      (match findManagementBlock data (data.length / 20) 0 with
        | some id => blockMethod (firstByte id) (secondByte id)
        | none => fallbackMethod) := by
  simp only [parseWDG, evaluateObject, h, ACPI.store_some, OSObject.asData, guidBlockSize]
  cases findManagementBlock data (data.length / 20) 0 <;> rfl

/-- Without a buffer `parse_WDG` sets nothing. -/
theorem parseWDG_of_not_data
    (h : ∀ data, d.objectReply env .atkDevice "_WDG" [] ≠ some (some (.data data))) :
    d.parseWDG env = d.emit (d.objectEffect .atkDevice "_WDG" []) := by
  -- the two early returns of the source: the evaluation fails, or the cast does
  cases hreply : d.objectReply env .atkDevice "_WDG" [] with
  | none => simp [parseWDG, evaluateObject, hreply]
  | some obj =>
    have hcast : OSObject.asData obj = none := by
      rw [OSObject.asData.eq_def]
      split
      · next data => exact absurd hreply (h data)
      · rfl
    simp [parseWDG, evaluateObject, hreply, hcast]

theorem wmiMethod_of_first {i : ℕ}
    (h : d.objectReply env .atkDevice "_WDG" [] = some (some (.data data)))
    (hi : IsFirstManagementBlock data i) :
    ∃ a b, data[20 * i + 16]? = some a ∧ data[20 * i + 17]? = some b ∧
      (d.parseWDG env).wmiMethod = blockMethod a b := by
  obtain ⟨id, hfound, ha, hb⟩ :=
    findManagementBlock_of_first hi (data.length / 20) 0 rfl (Nat.zero_le i)
  refine ⟨firstByte id, secondByte id, ha, hb, ?_⟩
  rw [parseWDG_of_data h, hfound]
  rfl

theorem wmiMethod_of_none
    (h : d.objectReply env .atkDevice "_WDG" [] = some (some (.data data)))
    (hnone : ∀ i, ¬ IsManagementBlock data i) :
    (d.parseWDG env).wmiMethod = fallbackMethod := by
  rw [parseWDG_of_data h, findManagementBlock_of_none hnone (data.length / 20) 0 rfl]
  rfl

/-- The blocks of a buffer without its incomplete block are the same. -/
theorem isManagementBlock_complete (i : ℕ) :
    IsManagementBlock (data.take (20 * (data.length / 20))) i ↔ IsManagementBlock data i := by
  have hlen : (data.take (20 * (data.length / 20))).length / 20 = data.length / 20 := by
    rw [List.length_take]
    omega
  rw [IsManagementBlock, IsManagementBlock, hlen]
  -- the bytes of a complete block lie before the cut
  refine and_congr_right fun hi => ?_
  rw [List.drop_take, List.take_take, Nat.min_eq_left (by omega)]

end Parse

/-- **Theorem.** The loop of `parse_WDG` runs over the complete blocks of the buffer,
and over nothing else, and the test it makes in `guid_string` finds a block exactly if its
sixteen bytes are those of the management GUID, whatever the 37 characters held. The method
is that of the first such block, and `WMNB` if there is none. What follows the last complete
block does not matter. -/
theorem parseWDG_exact {env : Env} {d : Driver} {data : List UInt8}
    (h : d.objectReply env .atkDevice "_WDG" [] = some (some (.data data))) :
    (∀ i, (i < data.length / guidBlockSize ↔ 20 * i + 20 ≤ data.length) ∧
      ((guidBlock data i).isSome ↔ 20 * i + 20 ≤ data.length)) ∧
    (∀ i g, guidBlock data i = some g → ∀ guidString : List Char, 37 ≤ guidString.length →
      guidStringMatches (g.guid.map UInt8.toInt8) guidString
        = some (decide (IsManagementBlock data i))) ∧
    (∀ i, IsFirstManagementBlock data i →
      ∃ a b, data[20 * i + 16]? = some a ∧ data[20 * i + 17]? = some b ∧
        (d.parseWDG env).wmiMethod = blockMethod a b) ∧
    ((∀ i, ¬ IsManagementBlock data i) → (d.parseWDG env).wmiMethod = fallbackMethod) ∧
    ∀ env', d.objectReply env' .atkDevice "_WDG" []
        = some (some (.data (data.take (20 * (data.length / 20))))) →
      (d.parseWDG env').wmiMethod = (d.parseWDG env).wmiMethod := by
  refine ⟨fun i => ⟨?_, guidBlock_isSome⟩,
    fun i g hg guidString => guidStringMatches_of_block hg,
    fun i hi => wmiMethod_of_first h hi, wmiMethod_of_none h, fun env' h' => ?_⟩
  · rw [guidBlockSize]
    omega
  · by_cases hsome : ∃ i, IsManagementBlock data i
    · -- the first management block is the same, and so are its two bytes
      obtain ⟨i, hfirst⟩ := exists_first hsome
      have hfirst' : IsFirstManagementBlock (data.take (20 * (data.length / 20))) i :=
        ⟨(isManagementBlock_complete i).mpr hfirst.1, fun j hj htaken =>
          hfirst.2 j hj ((isManagementBlock_complete j).mp htaken)⟩
      obtain ⟨a, b, ha, hb, hmethod⟩ := wmiMethod_of_first h hfirst
      obtain ⟨a', b', ha', hb', hmethod'⟩ := wmiMethod_of_first h' hfirst'
      have hlt := hfirst.1.1
      rw [List.getElem?_take_of_lt (by omega)] at ha' hb'
      rw [hmethod, hmethod', Option.some.inj (ha.symm.trans ha'),
        Option.some.inj (hb.symm.trans hb')]
    · have hnone : ∀ i, ¬ IsManagementBlock data i := fun i hi => hsome ⟨i, hi⟩
      rw [wmiMethod_of_none h hnone, wmiMethod_of_none h' fun i hi =>
        hnone i ((isManagementBlock_complete i).mp hi)]

/-- A buffer with a block that differs from the management GUID in its last bit, a block
with it, and the beginning of a third. -/
def sampleWDG : List UInt8 :=
  managementGuid.toList.dropLast ++ [0x67, 0x41, 0x41, 1, 0] ++
    managementGuid.toList ++ [0x42, 0x43, 1, 0] ++ managementGuid.toList

/-- A machine whose `_WDG` is `data`. -/
def wdgEnv (data : List UInt8) : Env :=
  { Env.unresponsive with
    acpi := { Env.unresponsive.acpi with object := fun _ _ _ => some (some (.data data)) } }

theorem parseWDG_exact_sample :
    (Driver.parseWDG (wdgEnv sampleWDG) { atkDevice := some 0 }).wmiMethod
      = blockMethod 0x42 0x43 := by
  have hfirst : IsFirstManagementBlock sampleWDG 1 := by
    refine ⟨⟨by decide, by decide⟩, fun j hj => ?_⟩
    obtain rfl : j = 0 := by omega
    exact fun h => absurd h.2 (by decide)
  have hreply : objectReply (wdgEnv sampleWDG) .atkDevice "_WDG" [] { atkDevice := some 0 }
      = some (some (.data sampleWDG)) := rfl
  obtain ⟨a, b, ha, hb, hmethod⟩ := (parseWDG_exact hreply).2.2.1 1 hfirst
  rw [hmethod, ← Option.some.inj ha, ← Option.some.inj hb]

end Driver

end AsusSMC
