import AsusSMC.Framework.CString
import AsusSMC.Framework.EventSystem
import AsusSMC.Model.HotkeySpec

/-!
# The backlight entry

`backlightEntry` is where `findBacklightEntry` keeps the path that it found last, and
also where it prints each path that it tries. So a search in vain overwrites the path
that was found before, and leaves the last of the candidates there.

This does no harm. The buffer holds nothing but candidates (`EntryKnown`), each of them
printed whole (`PrintedWhole`), and whichever is there is a candidate of the next search
as well. So the registry alone decides whether a search finds something
(`findBacklightEntry_correct`), and messages keep it that way (`notify_entryKnown`).
-/

namespace AsusSMC

open EventSystem

namespace Driver

/-- The buffer is empty or holds a candidate. -/
def EntryKnown (d : Driver) : Prop := d.backlightEntry = "" ∨ d.backlightEntry ∈ candidateEntries

/-- The first candidate that exists. -/
def IsFirstEntry (env : Env) (path : String) : Prop :=
  ∃ before after, candidateEntries = before ++ path :: after ∧
    (∀ other ∈ before, entryExists env other = false) ∧ entryExists env path = true

/-- `snprintf` prints the whole path into the 1000 characters of the buffer, whatever they
were. -/
def PrintedWhole (path : String) : Prop :=
  ∀ buf : List Char, buf.length = 1000 →
    ∃ w, CString.print '\x00' ⟨buf, 0⟩ ⟨1000, path.toList⟩ = some w ∧
      CString.read '\x00' w.buf = path.toList

/-- A call of `findBacklightEntry`, for its effect on the driver. -/
def searchEntry (d : Driver) (env : Env) : Driver := (d.findBacklightEntry env).2

/-- A call of `findBacklightEntry` does what it should. -/
structure SearchCorrect (d : Driver) (env : Env) : Prop where
  returns : (d.findBacklightEntry env).1 = true ↔
    entryExists env d.backlightEntry = true ∨ ∃ path ∈ candidateEntries, entryExists env path = true
  /-- A path that is found exists. -/
  sound : (d.findBacklightEntry env).1 = true →
    entryExists env (d.searchEntry env).backlightEntry = true
  cached : entryExists env d.backlightEntry = true → d.searchEntry env = d
  first : entryExists env d.backlightEntry = false → (d.findBacklightEntry env).1 = true →
    IsFirstEntry env (d.searchEntry env).backlightEntry
  /-- Whatever earlier searches have left in the buffer. -/
  memoryless : (d.findBacklightEntry env).1 = true ↔
    ∃ path ∈ candidateEntries, entryExists env path = true

/-! ### Printing a path -/

/-- A string of at most `n` characters, none of them a terminator. -/
def FitsIn (n : ℕ) (s : String) : Prop := s.toList.length ≤ n ∧ '\x00' ∉ s.toList

theorem fitsIn_ofList {n : ℕ} {cs : List Char} (h : cs.length ≤ n ∧ '\x00' ∉ cs) :
    FitsIn n (String.ofList cs) := by
  rw [FitsIn, String.toList_ofList]
  exact h

theorem FitsIn.append {m n : ℕ} {s t : String} (hs : FitsIn m s) (ht : FitsIn n t) :
    FitsIn (m + n) (s ++ t) := by
  rw [FitsIn, String.toList_append, List.length_append, List.mem_append, not_or]
  exact ⟨Nat.add_le_add hs.1 ht.1, hs.2, ht.2⟩

theorem FitsIn.mono {m n : ℕ} {s : String} (h : FitsIn m s) (hle : m ≤ n) : FitsIn n s :=
  ⟨h.1.trans hle, h.2⟩

theorem fitsIn_nvidiaEntries {n : ℕ} {name : String} (h : FitsIn n name) :
    ∀ path ∈ nvidiaEntries name, FitsIn (100 + n + 100) path := by
  have happend (s t : String) (hs : FitsIn 100 s) (ht : FitsIn 100 t) :
      FitsIn (100 + n + 100) (s ++ name ++ t) := (hs.append h).append ht
  -- six entries, each with the name between two texts of the source
  simp only [nvidiaEntries, List.forall_mem_cons]
  refine ⟨?_, ?_, ?_, ?_, ?_, ?_, List.forall_mem_nil _⟩ <;>
    exact happend _ _ (fitsIn_ofList (by decide)) (fitsIn_ofList (by decide))

/-- The longest candidate is far from filling the buffer. -/
theorem fitsIn_candidateEntries : ∀ path ∈ candidateEntries, FitsIn 999 path := by
  have hnames : ∀ name ∈ deviceName, FitsIn 4 name := by
    simp only [deviceName, List.forall_mem_cons]
    refine ⟨?_, ?_, ?_, ?_, ?_, List.forall_mem_nil _⟩ <;> exact fitsIn_ofList (by decide)
  rw [candidateEntries, List.forall_mem_cons, List.forall_mem_cons]
  refine ⟨fitsIn_ofList (by decide), fitsIn_ofList (by decide), fun path hpath => ?_⟩
  obtain ⟨name, hname, hmem⟩ := List.mem_flatMap.mp hpath
  exact (fitsIn_nvidiaEntries (hnames name hname) path hmem).mono (by decide)

/-- **Printing into the buffer** of 1000 characters, read back as a C string. -/
theorem print_backlightEntry {buf : List Char} (hbuf : buf.length = 1000) {path : String}
    (hpath : '\x00' ∉ path.toList) (d : Driver) :
    ∃ w, CString.print '\x00' ⟨buf, 0⟩ ⟨1000, path.toList⟩ = some w ∧ w.buf.length = 1000 ∧
      (d.printBacklightEntry path).backlightEntry = String.ofList (CString.read '\x00' w.buf) := by
  obtain ⟨w, hprint, hlen, hread⟩ := CString.read_print (n := 999) hbuf.ge hpath
  refine ⟨w, hprint, hlen.trans hbuf, ?_⟩
  rw [hread]
  rfl

theorem FitsIn.printedWhole {path : String} (h : FitsIn 999 path) : PrintedWhole path := by
  intro buf hbuf
  obtain ⟨w, hprint, -, hread⟩ := CString.read_print (n := 999) hbuf.ge h.2
  rw [List.take_of_length_le h.1] at hread
  exact ⟨w, hprint, hread⟩

/-- The candidates are printed as they are. -/
theorem map_printedEntry : candidateEntries.map printedEntry = candidateEntries := by
  have hprinted : ∀ path ∈ candidateEntries, printedEntry path = id path := by
    intro path hpath
    rw [printedEntry, List.take_of_length_le (fitsIn_candidateEntries path hpath).1,
      String.ofList_toList]
    rfl
  calc candidateEntries.map printedEntry = candidateEntries.map id := List.map_congr_left hprinted
    _ = candidateEntries := List.map_id candidateEntries

/-! ### One search -/

section Search

variable (env : Env) (d : Driver)

theorem findBacklightEntry_outcome :
    ScratchCache.Outcome (entryExists env) candidateEntries d.backlightEntry
      ((d.findBacklightEntry env).1, (d.searchEntry env).backlightEntry) := by
  rw [searchEntry, findBacklightEntry_eq, map_printedEntry]
  exact ScratchCache.lookup_outcome (entryExists env) candidateEntries d.backlightEntry

variable {env d}

/-- **Step**: the buffer of a search that begins with a candidate, or with nothing, ends
with one of these. -/
theorem searchEntry_known (h : d.EntryKnown) : (d.searchEntry env).EntryKnown :=
  (findBacklightEntry_outcome env d).known h

theorem searchCorrect (h : d.EntryKnown) (hempty : env.fromPath "" = none) :
    SearchCorrect d env := by
  have houtcome := findBacklightEntry_outcome env d
  -- an empty buffer is not taken for an entry
  have hblank : entryExists env "" = false := by
    rw [entryExists, hempty]
    rfl
  refine ⟨houtcome.found_iff, houtcome.sound, fun hcell => ?_, houtcome.first,
    houtcome.found_iff_of_known hblank h⟩
  -- nothing is written at all
  have hcheck : d.checkBacklightEntry env = true := hcell
  rw [searchEntry, findBacklightEntry, if_pos hcheck]

end Search

/-! ### Messages -/

section Messages

variable {env : Env} {d d' : Driver}

theorem EntryKnown.of_eq (h : d.EntryKnown) (heq : d'.backlightEntry = d.backlightEntry) :
    d'.EntryKnown := by
  rw [EntryKnown, heq]
  exact h

/-- What is read from the entry that is found does not go into the buffer. -/
theorem readPanelBrightnessValue_backlightEntry :
    (d.readPanelBrightnessValue env).backlightEntry = (d.searchEntry env).backlightEntry := by
  unfold readPanelBrightnessValue searchEntry
  dsimp only
  split
  · rfl
  · split
    · rfl
    · rfl

/-- **Step**: a code writes to the buffer only by searching. -/
theorem handleMessage_known (code : Int32) (h : d.EntryKnown) :
    (d.handleMessage env code).EntryKnown := by
  -- a dispatch assigns key arrays, and no path
  have hdispatch := dispatchReport_frame (f := backlightEntry) (fun _ _ => rfl) (fun _ _ => rfl)
    (fun _ _ => rfl) env
  generalize hd' : d.handleMessage env code = d'
  have hhandled := handleMessage_handled env code d
  rw [hd'] at hhandled
  cases hhandled with
  | ignored => exact h
  | csmr usage => exact h.of_eq (hdispatch _ _ _ d)
  | brightness usage => exact h.of_eq (hdispatch _ _ _ d)
  | topCase usage => exact h.of_eq (hdispatch _ _ _ d)
  | displayOff =>
    show (Driver.setIsPanelBackLightOn _ _).EntryKnown
    split
    · -- on the way to off the panel's value is read
      have hread : (d.readPanelBrightnessValue env).EntryKnown :=
        (searchEntry_known h).of_eq readPanelBrightnessValue_backlightEntry
      exact hread.of_eq (hdispatch _ _ _ _)
    · exact h.of_eq (hdispatch _ _ _ d)
  | toggleTouchpad =>
    exact h.of_eq (toggleTouchpad_frame (fun _ _ => rfl) (fun _ _ => rfl) (fun _ _ _ => rfl) env d)
  | letSleep => exact h.of_eq rfl
  | toggleALSSensor => exact h.of_eq rfl
  | toggleAirplaneMode => exact h.of_eq rfl

/-- **Invariant** of the driver: whatever messages it gets, the buffer is empty or holds a
candidate, so that the next search is correct. -/
theorem notify_entryKnown (h : d.EntryKnown) (es : List (Env × UInt32)) :
    Always notify EntryKnown d es := by
  refine Always.of_step h (fun d e hd => ?_) es
  rw [notify, message_deviceNotification]
  apply handleMessage_known
  unfold wedEvaluated
  split
  · exact hd
  · exact hd.of_eq rfl

end Messages

/-! ### Runs -/

/-- **Theorem.** In every run of searches that begins with an empty buffer, in a registry
without an empty path, each search does what it should, and the buffer is always empty
or holds one of the 32 candidates, each of which is printed whole. -/
theorem findBacklightEntry_correct {d : Driver} {es : List Env} (hd : d.backlightEntry = "")
    (hempty : ∀ env ∈ es, env.fromPath "" = none) :
    Always searchEntry EntryKnown d es ∧ Throughout searchEntry SearchCorrect d es ∧
      candidateEntries.length = 32 ∧ ∀ path ∈ candidateEntries, PrintedWhole path := by
  have hstart : d.EntryKnown := Or.inl hd
  have hknown : Always searchEntry EntryKnown d es :=
    Always.of_step hstart (fun _ _ h => searchEntry_known h) es
  refine ⟨hknown, ?_, rfl, ?_⟩
  · intro pre env post hsplit
    have henv : env ∈ es := by
      rw [hsplit]
      exact List.mem_append_right pre List.mem_cons_self
    exact searchCorrect (hknown pre ⟨_, hsplit.symm⟩) (hempty env henv)
  · intro path hpath
    exact (fitsIn_candidateEntries path hpath).printedWhole

/-- A registry with one entry. -/
def registryWith (path : String) : Env :=
  { Env.unresponsive with fromPath := fun p => if p = path then some fun _ => none else none }

theorem entryExists_registryWith {path p : String} :
    entryExists (registryWith path) p = true ↔ p = path := by
  show (if p = path then some fun _ => none else none : Option RegistryEntry).isSome = true ↔ _
  split
  · next h => exact iff_of_true rfl h
  · next h => exact iff_of_false Bool.false_ne_true h

/-- The second of the entries tried for `PEGR`. -/
def pegrEntry : String :=
  "IOService:/AppleACPIPlatformExpert/PCI0@0/AppleACPIPCI/" ++ "PEGR" ++
    "@3/IOPP/GFX0@0/NVDA,Display-A@0/NVDATesla/display0/AppleBacklightDisplay"

/-- An entry that comes up after a search in vain is found. -/
theorem findBacklightEntry_correct_pegr :
    (findBacklightEntry (registryWith pegrEntry) (searchEntry {} Env.unresponsive)).1 = true ∧
      (searchEntry (searchEntry {} Env.unresponsive) (registryWith pegrEntry)).backlightEntry
        = pegrEntry := by
  have hne : "" ≠ pegrEntry := by
    intro h
    unfold pegrEntry at h
    obtain ⟨hfront, -⟩ := String.append_eq_empty_iff.mp h.symm
    exact absurd (String.append_eq_empty_iff.mp hfront).2 (by decide)
  have hempty : ∀ env ∈ [Env.unresponsive, registryWith pegrEntry], env.fromPath "" = none := by
    rw [List.forall_mem_cons, List.forall_mem_singleton]
    refine ⟨rfl, Option.not_isSome_iff_eq_none.mp fun h => ?_⟩
    exact hne (entryExists_registryWith.mp h)
  have hmem : pegrEntry ∈ candidateEntries := by
    refine List.mem_cons_of_mem _ (List.mem_cons_of_mem _ (List.mem_flatMap.mpr ⟨"PEGR", ?_, ?_⟩))
    · exact List.mem_cons_of_mem _ (List.mem_cons_of_mem _ List.mem_cons_self)
    · exact List.mem_cons_of_mem _ List.mem_cons_self
  -- the second search is the one at the position behind the first
  obtain ⟨-, hsearches, -⟩ := findBacklightEntry_correct (d := {}) rfl hempty
  have hsecond : SearchCorrect (searchEntry {} Env.unresponsive) (registryWith pegrEntry) :=
    hsearches [Env.unresponsive] (registryWith pegrEntry) [] rfl
  have hfound := hsecond.memoryless.mpr ⟨pegrEntry, hmem, entryExists_registryWith.mpr rfl⟩
  exact ⟨hfound, entryExists_registryWith.mp (hsecond.sound hfound)⟩

end Driver

end AsusSMC
