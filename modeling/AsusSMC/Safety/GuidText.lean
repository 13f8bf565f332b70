import AsusSMC.Model.WMI
import Mathlib.Data.List.SplitLengths
import Mathlib.Data.Set.Function

/-!
# The text of a GUID

`wmi_parse_guid` moves a pointer through twenty calls of `snprintf`. What it leaves in
the buffer is the canonical text of a GUID: upper-case digits in groups of 8, 4, 4, 4
and 12, the first three groups being numbers whose low byte is stored first
(`guidText`). No call truncates, and the 37th byte of the buffer is the last that is
written.

The text can be read back (`decodeGuid_eq_some`), and every text of that form is the
text of sixteen bytes (`isGuidText_iff`), so that the function is a bijection onto these
texts (`wmiParseGuidOut_bijOn`). The test that `parse_WDG` makes in its buffer is the one on
texts (`guidStringMatches_eq`).
-/

namespace AsusSMC

namespace Driver

/-! ### Canonical text -/

/-- The sizes of the groups of a GUID, in bytes. -/
def guidShape : List ℕ := [4, 2, 2, 2, 6]

/-- The first three groups are numbers with their low byte first. -/
def swapFields : List (List UInt8) → List (List UInt8)
  | a :: b :: c :: groups => a.reverse :: b.reverse :: c.reverse :: groups
  | groups => groups

/-- The canonical text of sixteen bytes. -/
def guidText (bytes : List UInt8) : List Char :=
  HexText.group '-' (swapFields (guidShape.splitLengths bytes))

/-- The bytes that a canonical text stands for. -/
def decodeGuid (text : List Char) : Option (List UInt8) :=
  (HexText.ungroup '-' text).bind fun groups =>
    if groups.map List.length = guidShape then some (swapFields groups).flatten else none

/-- Five words of upper-case digits, 8-4-4-4-12. -/
def IsGuidText (text : List Char) : Prop :=
  ∃ words : List (List Char), words.map List.length = [8, 4, 4, 4, 12] ∧
    (∀ word ∈ words, ∀ c ∈ word, HexText.IsDigit c) ∧ text = ['-'].intercalate words

section Groups

variable {groups : List (List UInt8)} {bytes : List UInt8} {text : List Char}

/-- Swapping is its own inverse. -/
theorem swapFields_swapFields (groups : List (List UInt8)) :
    swapFields (swapFields groups) = groups := by
  match groups with
  | [] | [_] | [_, _] => rfl
  | a :: b :: c :: groups => simp only [swapFields, List.reverse_reverse]

theorem map_length_swapFields (groups : List (List UInt8)) :
    (swapFields groups).map List.length = groups.map List.length := by
  match groups with
  | [] | [_] | [_, _] => rfl
  | a :: b :: c :: groups => simp only [swapFields, List.map_cons, List.length_reverse]

/-- Cutting at the lengths of the groups gives the groups back. -/
theorem splitLengths_flatten {sizes : List ℕ} (h : groups.map List.length = sizes) :
    sizes.splitLengths groups.flatten = groups := by
  subst h
  induction groups with
  | nil => rfl
  | cons bs groups ih =>
    rw [List.map_cons, List.splitLengths_cons, List.flatten_cons, List.take_left, List.drop_left,
      ih]

theorem map_length_split (h : bytes.length = 16) :
    (guidShape.splitLengths bytes).map List.length = guidShape := by
  apply List.map_splitLengths_length
  rw [h]
  decide

theorem length_flatten_of_shape (h : groups.map List.length = guidShape) :
    (swapFields groups).flatten.length = 16 := by
  rw [List.length_flatten, map_length_swapFields, h]
  rfl

/-- The groups of the bytes that a text stands for are the groups of the text. -/
theorem guidText_of_groups (h : groups.map List.length = guidShape) :
    guidText (swapFields groups).flatten = HexText.group '-' groups := by
  have hshape : (swapFields groups).map List.length = guidShape :=
    (map_length_swapFields groups).trans h
  rw [guidText, splitLengths_flatten hshape, swapFields_swapFields]

theorem ne_nil_of_shape (h : groups.map List.length = guidShape) : groups ≠ [] := by
  rintro rfl
  exact absurd h (by decide)

theorem ungroup_of_shape (h : groups.map List.length = guidShape) :
    HexText.ungroup '-' text = some groups ↔ HexText.group '-' groups = text :=
  HexText.ungroup_eq_some (by decide) (ne_nil_of_shape h)

/-- **Round trip**: a text is read as the sixteen bytes that it is the text of. -/
theorem decodeGuid_eq_some :
    decodeGuid text = some bytes ↔ bytes.length = 16 ∧ guidText bytes = text := by
  constructor
  · intro h
    obtain ⟨groups, hgroups, hbytes⟩ := Option.bind_eq_some_iff.mp h
    split at hbytes
    · next hshape =>
      obtain rfl := Option.some.inj hbytes
      refine ⟨length_flatten_of_shape hshape, ?_⟩
      rw [guidText_of_groups hshape]
      exact (ungroup_of_shape hshape).mp hgroups
    · exact nomatch hbytes
  · rintro ⟨hlen, rfl⟩
    -- the groups of the text are those of the bytes, swapped
    have hsplit := map_length_split hlen
    have hshape : (swapFields (guidShape.splitLengths bytes)).map List.length = guidShape :=
      (map_length_swapFields _).trans hsplit
    have hflatten : (guidShape.splitLengths bytes).flatten = bytes := by
      apply List.flatten_splitLengths
      rw [hlen]
      decide
    rw [decodeGuid, guidText, (ungroup_of_shape hshape).mpr rfl, Option.bind_some, if_pos hshape,
      swapFields_swapFields, hflatten]

/-- **The canonical texts** are the texts of sixteen bytes. -/
theorem isGuidText_iff : IsGuidText text ↔ ∃ bytes, bytes.length = 16 ∧ guidText bytes = text := by
  constructor
  · rintro ⟨words, hlen, hdigits, rfl⟩
    have hsizes : words.map List.length = guidShape.map (2 * ·) := hlen
    obtain ⟨groups, hshape, rfl⟩ := HexText.exists_group hsizes hdigits
    exact ⟨_, length_flatten_of_shape hshape, guidText_of_groups hshape⟩
  · rintro ⟨bytes, hlen, rfl⟩
    refine ⟨(swapFields (guidShape.splitLengths bytes)).map HexText.encode, ?_, ?_, rfl⟩
    · -- two digits for each byte
      have hlengths := (map_length_swapFields _).trans (map_length_split hlen)
      calc ((swapFields (guidShape.splitLengths bytes)).map HexText.encode).map List.length
          = ((swapFields (guidShape.splitLengths bytes)).map List.length).map (2 * ·) := by
            simp only [List.map_map, Function.comp_def, HexText.length_encode]
        _ = [8, 4, 4, 4, 12] := by
            rw [hlengths]
            rfl
    · intro word hword c hc
      obtain ⟨bs, -, rfl⟩ := List.mem_map.mp hword
      exact HexText.isDigit_of_mem_encode hc

end Groups

/-! ### What the function writes -/

section Write

variable (guid : Vector UInt8 16) (input : Vector Int8 16) {out : List Char}

/-- The text that the calls make is the canonical one. -/
theorem wmiParseGuid_eq : wmiParseGuid guid = guidText guid.toList := by
  -- spelled out, so that the groups of the calls can be compared with the cuts
  have hlist : guid.toList = [guid[0], guid[1], guid[2], guid[3], guid[4], guid[5], guid[6],
      guid[7], guid[8], guid[9], guid[10], guid[11], guid[12], guid[13], guid[14], guid[15]] := by
    apply List.ext_getElem
    · exact Vector.length_toList
    · intro i hi hi'
      rw [Vector.length_toList] at hi
      interval_cases i <;> rfl
  rw [hlist]
  simp [wmiParseGuid, guidText, guidShape, swapFields, HexText.group, HexText.encode, hexByte_eq]

theorem zero_notMem_wmiParseGuid : '\x00' ∉ wmiParseGuid guid := by
  have hbyte (b : UInt8) : '\x00' ∉ hexByte b := by
    intro h
    have hmem : '\x00' ∈ HexText.encode [b] := by
      rwa [HexText.encode_cons, HexText.encode_nil, List.append_nil, ← hexByte_eq]
    exact absurd (HexText.isDigit_of_mem_encode hmem) (by decide)
  simp [wmiParseGuid, hbyte]

/-- **What `wmi_parse_guid` leaves in the buffer**: the text, one terminator, and what was
behind it. -/
theorem wmiParseGuidOut_eq (h : 37 ≤ out.length) :
    wmiParseGuidOut input out
      = some (wmiParseGuid (input.map Int8.toUInt8) ++ '\x00' :: out.drop 37) := by
  have hlen : ((wmiParseGuidCalls input).flatMap CString.Call.text).length = 36 := by
    rw [wmiParseGuidCalls_text, length_wmiParseGuid]
  -- `out` points at the first byte of the buffer
  have hwrite := CString.write_eq (z := '\x00') (w := ⟨out, 0⟩) (wmiParseGuidCalls_fit input)
  dsimp only at hwrite
  rw [hlen, Nat.zero_add, List.take_zero, List.nil_append, wmiParseGuidCalls_text] at hwrite
  exact hwrite (by omega)

/-- One byte less, and the terminator is stored past the end. -/
theorem wmiParseGuidOut_of_short (h : out.length < 37) : wmiParseGuidOut input out = none := by
  apply CString.write_of_short
  rw [wmiParseGuidCalls_text, length_wmiParseGuid]
  show out.length ≤ 0 + 36
  omega

/-- **The test of `parse_WDG`**, made in a buffer, is the one on texts, whatever
`guid_string` held. -/
theorem guidStringMatches_eq (h : 37 ≤ out.length) :
    guidStringMatches (guid.map UInt8.toInt8) out
      = some (decide (wmiParseGuid guid = ASUS_WMI_MGMT_GUID.toList)) := by
  have hback : (guid.map UInt8.toInt8).map Int8.toUInt8 = guid := by
    simp [Vector.map_map, Function.comp_def]
  have hlen : (wmiParseGuid guid).length = ASUS_WMI_MGMT_GUID.toList.length := by
    rw [length_wmiParseGuid]
    decide
  -- both texts are 36 long, so `strncmp` ends at the two terminators
  have hcmp := CString.strncmpEq_append (zero_notMem_wmiParseGuid guid) hlen
    ('\x00' :: out.drop 37) ['\x00']
  rw [length_wmiParseGuid] at hcmp
  rw [guidStringMatches, wmiParseGuidOut_eq _ h, hback, Option.bind_some, hcmp]

end Write

/-- The characters of `input` are read back from `text`, which is canonical and ends where
its terminator stands. -/
structure IsTextOf (input : Vector Int8 16) (text : List Char) : Prop where
  length : text.length = 36
  zero_notMem : '\x00' ∉ text
  canonical : IsGuidText text
  eq_guidText : text = guidText (input.map Int8.toUInt8).toList
  decode : (decodeGuid text).map (List.map UInt8.toInt8) = some input.toList

theorem isTextOf_wmiParseGuid (input : Vector Int8 16) :
    IsTextOf input (wmiParseGuid (input.map Int8.toUInt8)) := by
  have hlen : (input.map Int8.toUInt8).toList.length = 16 := Vector.length_toList
  have htext := wmiParseGuid_eq (input.map Int8.toUInt8)
  refine ⟨length_wmiParseGuid _, zero_notMem_wmiParseGuid _, ?_, htext, ?_⟩
  · exact isGuidText_iff.mpr ⟨_, hlen, htext.symm⟩
  · rw [decodeGuid_eq_some.mpr ⟨hlen, htext.symm⟩, Option.map_some, Vector.toList_map, List.map_map]
    simp [Function.comp_def]

/-- **Theorem.** No call of `wmi_parse_guid` truncates. A buffer of 37 bytes is enough, and
one of fewer is overrun. What is written are 36 characters, the canonical text of the
input, and a terminator. Texts and inputs correspond one to one: each input has its own
text, and every canonical text is the text of an input. -/
theorem wmiParseGuidOut_bijOn :
    (∀ input, ∀ c ∈ wmiParseGuidCalls input, ¬ c.Truncates) ∧
    (∀ input out, out.length < 37 → wmiParseGuidOut input out = none) ∧
    (∀ input out, 37 ≤ out.length →
      ∃ text, wmiParseGuidOut input out = some (text ++ '\x00' :: out.drop 37) ∧
        IsTextOf input text) ∧
    ∀ out, 37 ≤ out.length →
      Set.BijOn (fun input => (wmiParseGuidOut input out).map (CString.read '\x00')) Set.univ
        (Set.image some {text | IsGuidText text}) := by
  refine ⟨wmiParseGuidCalls_fit, fun input out => wmiParseGuidOut_of_short input,
    fun input out h => ⟨_, wmiParseGuidOut_eq input h, isTextOf_wmiParseGuid input⟩,
    fun out h => ?_⟩
  have hread (input : Vector Int8 16) : (wmiParseGuidOut input out).map (CString.read '\x00')
      = some (wmiParseGuid (input.map Int8.toUInt8)) := by
    rw [wmiParseGuidOut_eq input h, Option.map_some,
      CString.read_append (zero_notMem_wmiParseGuid _)]
  -- what was behind the terminator is not read
  simp only [hread]
  refine ⟨?_, ?_, ?_⟩
  · intro input _
    exact ⟨_, (isTextOf_wmiParseGuid input).canonical, rfl⟩
  · -- the text tells the bytes, and the bytes tell the characters
    intro input _ input' _ htext
    have hbytes := wmiParseGuid_injective (Option.some.inj htext)
    have hback := congrArg (Vector.map UInt8.toInt8) hbytes
    simpa [Vector.map_map, Function.comp_def] using hback
  · rintro _ ⟨text, hcanonical, rfl⟩
    obtain ⟨bytes, hlen, rfl⟩ := isGuidText_iff.mp hcanonical
    refine ⟨Vector.map UInt8.toInt8 ⟨bytes.toArray, hlen⟩, Set.mem_univ _, ?_⟩
    simp only [wmiParseGuid_eq]
    simp [Function.comp_def]

end Driver

end AsusSMC
