import AsusSMC.Model.Plugin

/-!
# Plugin submission

VirtualSMC may be published before `registerVSMC` runs, between any two of its
statements, or later, and each run of the handler submits `vsmcPlugin.data` as it
is at that moment. `submissions_complete_iff` says for every interleaving when
all submissions are complete: exactly if no run of the handler falls before the
end of `registerVSMC`. (One moment before the end would do as well on a machine
whose key numbers happen to have the order of the `addKey` calls: when only the
sorting is left.)

The invariant `Staged` ties the data to the statements still to run: what is
there and what is still to be added make up all keys, until the last statement
sorts them.
-/

namespace AsusSMC

open EventSystem

/-- The submissions, in order. -/
def submitted (es : List Effect) : List (List VirtualSMCKeyValue) :=
  es.filterMap fun | .submitPlugin data => some data | _ => none

/-- What a submission should be: every key of this machine, `BDVT` exactly if the
battery can be controlled, none twice, sorted. -/
structure Complete (numbering : KeyNumbering) (isBatteryRSOCAvailable : Bool)
    (data : List VirtualSMCKeyValue) : Prop where
  keys : ∀ key ∈ pluginKeys isBatteryRSOCAvailable, key ∈ data
  bdvt : KeyBDVT ∈ data.map VirtualSMCKeyValue.key ↔ isBatteryRSOCAvailable = true
  nodup : (data.map VirtualSMCKeyValue.key).Nodup
  sorted : data.Pairwise fun a b => numbering.le a b

namespace VSMCState

/-- A schedule of `registerVSMC` and the publication of VirtualSMC. -/
abbrev Config := Thread.Config VSMCStatement VSMCState

/-- One event of a schedule. -/
def step (numbering : KeyNumbering) : Config → Thread.Event VSMCEnv → Config :=
  Thread.step (exec numbering) publish

/-- Every submission so far is complete. -/
def AllComplete (numbering : KeyNumbering) (c : Config) : Prop :=
  ∀ data ∈ submitted c.state.driver.log,
    Complete numbering c.state.driver.isBatteryRSOCAvailable data

/-- The run of the handler an event sets off, if it does. -/
def handlerRun (c : Config) : Thread.Event VSMCEnv → Option VSMCEnv
  | .thread =>
    match c.rest with
    | .registerHandler :: _ => c.state.published
    | _ => none
  | .env venv => if c.state.published.isNone && c.state.installed then some venv else none

/-- The keys a statement adds. -/
def added (isBatteryRSOCAvailable : Bool) : VSMCStatement → List VirtualSMCKeyValue
  | .addKey key => [key]
  | .addBDVT => if isBatteryRSOCAvailable then [bdvtKey] else []
  | _ => []

/-- The keys still to be added. -/
def pending (c : Config) : List VirtualSMCKeyValue :=
  c.rest.flatMap (added c.state.driver.isBatteryRSOCAvailable)

/-- The order of the `addKey` calls is the order of the keys already. -/
def InKeyOrder (numbering : KeyNumbering) (isBatteryRSOCAvailable : Bool) : Prop :=
  (pluginKeys isBatteryRSOCAvailable).Pairwise fun a b => numbering.le a b

/-- `registerVSMC` has returned, or only has to sort what is sorted. -/
def Ready (numbering : KeyNumbering) (c : Config) : Prop :=
  c.Returned ∨ pending c = [] ∧ InKeyOrder numbering c.state.driver.isBatteryRSOCAvailable

/-- A run of the handler that submits the plugin happens in a ready state. -/
def HandledReady (numbering : KeyNumbering) (c : Config) (e : Thread.Event VSMCEnv) : Prop :=
  ∀ venv, handlerRun c e = some venv → venv.sensors = true → venv.vsmc = true →
    Ready numbering c

/-- **Invariant**: the data and the statements still to run. -/
def Staged (numbering : KeyNumbering) (rest : List VSMCStatement) (s : VSMCState) : Prop :=
  (rest = [] ∧ s.driver.vsmcPlugin
    = (pluginKeys s.driver.isBatteryRSOCAvailable).mergeSort numbering.le) ∨
  ∃ adds, rest = adds ++ [.sort] ∧ .sort ∉ adds ∧
    s.driver.vsmcPlugin ++ adds.flatMap (added s.driver.isBatteryRSOCAvailable)
      = pluginKeys s.driver.isBatteryRSOCAvailable

end VSMCState

/-! ### The handler -/

namespace Driver

variable (venv : VSMCEnv) (d : Driver)

/-- The handler submits the data it finds, unless it is called with null. -/
theorem vsmcNotificationHandler_submitted :
    submitted (d.vsmcNotificationHandler venv).2.log
      = submitted d.log ++ if venv.sensors && venv.vsmc then [d.vsmcPlugin] else [] := by
  rw [vsmcNotificationHandler]
  cases hnull : venv.sensors && venv.vsmc with
  | false => simp
  | true =>
    simp only [Bool.not_true, Bool.false_eq_true, if_false, if_true]
    repeat' split
    all_goals simp [setTimeoutMS, submitted]

theorem vsmcNotificationHandler_vsmcPlugin :
    (d.vsmcNotificationHandler venv).2.vsmcPlugin = d.vsmcPlugin :=
  vsmcNotificationHandler_frame venv d (fun _ _ => rfl) (fun _ _ => rfl) fun _ _ => rfl

theorem vsmcNotificationHandler_isBatteryRSOCAvailable :
    (d.vsmcNotificationHandler venv).2.isBatteryRSOCAvailable = d.isBatteryRSOCAvailable :=
  vsmcNotificationHandler_frame venv d (fun _ _ => rfl) (fun _ _ => rfl) fun _ _ => rfl

end Driver

/-! ### When the data is complete -/

section Complete

variable (numbering : KeyNumbering) (b : Bool)

theorem KeyNumbering.le_trans (x y z : VirtualSMCKeyValue) (hxy : numbering.le x y)
    (hyz : numbering.le y z) : numbering.le x z := by
  simp only [KeyNumbering.le, decide_eq_true_eq] at *
  exact Nat.le_trans hxy hyz

theorem KeyNumbering.le_total (x y : VirtualSMCKeyValue) :
    numbering.le x y || numbering.le y x := by
  simp only [KeyNumbering.le, Bool.or_eq_true, decide_eq_true_eq]
  exact Nat.le_total _ _

/-- `BDVT` is one of the keys exactly if the battery can be controlled. -/
theorem keyBDVT_mem : KeyBDVT ∈ (pluginKeys b).map VirtualSMCKeyValue.key ↔ b = true := by
  cases b <;> decide

/-- A rearrangement of all keys in key order is complete. -/
theorem Complete.of_perm {data : List VirtualSMCKeyValue} (hperm : data.Perm (pluginKeys b))
    (hsorted : data.Pairwise fun x y => numbering.le x y) : Complete numbering b data where
  keys _ hkey := hperm.mem_iff.mpr hkey
  bdvt := by
    rw [(hperm.map _).mem_iff]
    exact keyBDVT_mem b
  nodup := (hperm.map _).nodup_iff.mpr (pluginKeys_nodup b)
  sorted := hsorted

/-- What `sort` leaves is complete. -/
theorem complete_mergeSort : Complete numbering b ((pluginKeys b).mergeSort numbering.le) :=
  .of_perm numbering b (List.mergeSort_perm _ _)
    (List.pairwise_mergeSort numbering.le_trans numbering.le_total _)

/-- While keys are being added, the data is complete only if nothing is missing
and the order is right already. -/
theorem complete_iff_of_append {data missing : List VirtualSMCKeyValue}
    (h : data ++ missing = pluginKeys b) :
    Complete numbering b data ↔ missing = [] ∧ VSMCState.InKeyOrder numbering b := by
  constructor
  · intro hdata
    have hnodup : (data ++ missing).Nodup := h ▸ (pluginKeys_nodup b).of_map
    -- a key still to be added would be there twice
    have hmissing : missing = [] := by
      refine List.eq_nil_iff_forall_not_mem.mpr ?_
      intro key hkey
      have hmem : key ∈ data := hdata.keys key (h ▸ List.mem_append_right _ hkey)
      exact (List.disjoint_of_nodup_append hnodup) hmem hkey
    refine ⟨hmissing, ?_⟩
    rw [hmissing, List.append_nil] at h
    rw [VSMCState.InKeyOrder, ← h]
    exact hdata.sorted
  · rintro ⟨rfl, horder⟩
    rw [List.append_nil] at h
    rw [h]
    exact .of_perm numbering b .rfl horder

end Complete

/-! ### One event -/

namespace VSMCState

variable {numbering : KeyNumbering}

/-- In a staged state the data is complete exactly if the state is ready. -/
theorem complete_iff_ready {c : Config} (hc : Staged numbering c.rest c.state) :
    Complete numbering c.state.driver.isBatteryRSOCAvailable c.state.driver.vsmcPlugin ↔
      Ready numbering c := by
  -- sorted at the end, or still a part of the keys in the order they are added
  rcases hc with ⟨hrest, hdata⟩ | ⟨adds, hrest, -, hdata⟩
  · rw [hdata]
    exact iff_of_true (complete_mergeSort _ _) (Or.inl hrest)
  · -- `sort` is still to run, so nothing has returned
    have hpending : pending c
        = adds.flatMap (added c.state.driver.isBatteryRSOCAvailable) := by
      rw [pending, hrest, List.flatMap_append]
      exact List.append_nil _
    have hreturned : ¬ c.Returned := by
      intro h
      rw [Thread.Config.Returned, hrest] at h
      exact absurd h (by simp)
    rw [complete_iff_of_append _ _ hdata, Ready, hpending]
    exact ⟨Or.inr, fun h => h.resolve_left hreturned⟩

/-- The program at its start. -/
theorem staged_registerVSMC {s : VSMCState} (hs : s.driver.vsmcPlugin = []) :
    Staged numbering registerVSMC s := by
  -- every statement but the last adds keys, or none
  refine Or.inr ⟨.registerHandler :: baseKeys.map .addKey ++ [.addBDVT], rfl, by decide, ?_⟩
  rw [hs]
  cases s.driver.isBatteryRSOCAvailable <;> rfl

theorem Staged.congr {rest : List VSMCStatement} {s s' : VSMCState} (h : Staged numbering rest s)
    (hplugin : s'.driver.vsmcPlugin = s.driver.vsmcPlugin)
    (hbattery : s'.driver.isBatteryRSOCAvailable = s.driver.isBatteryRSOCAvailable) :
    Staged numbering rest s' := by
  rw [Staged, hplugin, hbattery]
  exact h

/-- A handler run keeps the stage. -/
theorem Staged.handle {rest : List VSMCStatement} {s : VSMCState} (venv : VSMCEnv)
    (h : Staged numbering rest s) : Staged numbering rest (s.handle venv) :=
  h.congr (Driver.vsmcNotificationHandler_vsmcPlugin venv s.driver)
    (Driver.vsmcNotificationHandler_isBatteryRSOCAvailable venv s.driver)

/-- Before a statement that adds keys, they are missing. -/
theorem Staged.cons {k : VSMCStatement} {rest : List VSMCStatement} {s : VSMCState}
    (h : Staged numbering (k :: rest) s) (hk : k ≠ .sort) :
    ∃ adds, rest = adds ++ [.sort] ∧ .sort ∉ adds ∧
      s.driver.vsmcPlugin ++ (added s.driver.isBatteryRSOCAvailable k
        ++ adds.flatMap (added s.driver.isBatteryRSOCAvailable))
        = pluginKeys s.driver.isBatteryRSOCAvailable := by
  rcases h with ⟨hrest, -⟩ | ⟨adds, hrest, hsort, hdata⟩
  · exact absurd hrest (by simp)
  · cases adds with
    -- only `sort` would be left, and `k` is another statement
    | nil => exact absurd (List.cons.inj hrest).1 hk
    | cons a adds =>
      obtain ⟨rfl, rfl⟩ := List.cons.inj hrest
      exact ⟨adds, rfl, fun hmem => hsort (List.mem_cons_of_mem _ hmem), hdata⟩

/-- Before the sorting, nothing is missing. -/
theorem Staged.sort {rest : List VSMCStatement} {s : VSMCState}
    (h : Staged numbering (.sort :: rest) s) :
    rest = [] ∧ s.driver.vsmcPlugin = pluginKeys s.driver.isBatteryRSOCAvailable := by
  rcases h with ⟨hrest, -⟩ | ⟨adds, hrest, hsort, hdata⟩
  · exact absurd hrest (by simp)
  · cases adds with
    | nil =>
      refine ⟨(List.cons.inj hrest).2, ?_⟩
      rw [← hdata]
      exact (List.append_nil _).symm
    | cons a adds =>
      exact absurd (List.mem_cons.mpr (Or.inl (List.cons.inj hrest).1)) hsort

theorem staged_exec (k : VSMCStatement) (rest : List VSMCStatement) (s : VSMCState)
    (h : Staged numbering (k :: rest) s) :
    Staged numbering (Thread.remaining (exec numbering k s).1 rest) (exec numbering k s).2 := by
  cases k with
  | registerHandler =>
    -- the registration adds no key, but may call the handler at once
    obtain ⟨adds, hrest, hsort, hdata⟩ := h.cons (by decide)
    have hnext : Staged numbering rest s := Or.inr ⟨adds, hrest, hsort, hdata⟩
    cases hp : s.published with
    | none => exact hnext.congr (by simp [exec, hp]) (by simp [exec, hp])
    | some venv =>
      refine (hnext.handle venv).congr ?_ ?_ <;>
      · simp only [exec, hp]
        rfl
  | addKey key =>
    -- the key moves from the missing ones to the end of the data
    obtain ⟨adds, hrest, hsort, hdata⟩ := h.cons (by simp)
    refine Or.inr ⟨adds, hrest, hsort, ?_⟩
    rw [← List.append_assoc] at hdata
    exact hdata
  | addBDVT =>
    -- one key more, or none, as `added` says
    obtain ⟨adds, hrest, hsort, hdata⟩ := h.cons (by decide)
    refine Or.inr ⟨adds, hrest, hsort, ?_⟩
    rw [← List.append_assoc] at hdata
    cases hb : s.driver.isBatteryRSOCAvailable with
    | true => simpa [exec, added, hb] using hdata
    | false => simpa [exec, added, hb] using hdata
  | sort =>
    obtain ⟨rfl, hdata⟩ := h.sort
    refine Or.inl ⟨rfl, ?_⟩
    simp only [exec, Driver.setVsmcPlugin_vsmcPlugin, hdata]
    rfl

theorem staged_publish (venv : VSMCEnv) (rest : List VSMCStatement) (s : VSMCState)
    (h : Staged numbering rest s) : Staged numbering rest (s.publish venv) := by
  rw [publish]
  cases s.published with
  | some _ => exact h
  | none =>
    dsimp only
    split
    · exact Staged.handle venv (h.congr rfl rfl)
    · exact h.congr rfl rfl

/-- What an event submits. -/
def submission (c : Config) (e : Thread.Event VSMCEnv) : List (List VirtualSMCKeyValue) :=
  match handlerRun c e with
  | some venv => if venv.sensors && venv.vsmc then [c.state.driver.vsmcPlugin] else []
  | none => []

theorem submitted_step (c : Config) (e : Thread.Event VSMCEnv) :
    submitted (step numbering c e).state.driver.log
      = submitted c.state.driver.log ++ submission c e := by
  have hnothing : submitted c.state.driver.log = submitted c.state.driver.log ++ [] :=
    (List.append_nil _).symm
  obtain ⟨rest, s⟩ := c
  cases e with
  | env venv =>
    cases hp : s.published with
    | some _ => simp [step, Thread.step, publish, submission, handlerRun, hp]
    | none =>
      -- published for the first time: the handler runs if it is installed
      cases hi : s.installed with
      | false => simp [step, Thread.step, publish, submission, handlerRun, hp, hi]
      | true =>
        simp only [step, Thread.step, publish, submission, handlerRun, hp, hi]
        exact Driver.vsmcNotificationHandler_submitted venv s.driver
  | thread =>
    cases rest with
    | nil => exact hnothing
    | cons k rest =>
      cases k with
      | registerHandler =>
        cases hp : s.published with
        | none => simp [step, Thread.step, exec, submission, handlerRun, hp]
        | some venv =>
          simp only [step, Thread.step, exec, submission, handlerRun, hp]
          exact Driver.vsmcNotificationHandler_submitted venv s.driver
      | addKey key => exact hnothing
      | addBDVT =>
        cases hb : s.driver.isBatteryRSOCAvailable with
        | true => simp [step, Thread.step, exec, submission, handlerRun, hb]
        | false => simp [step, Thread.step, exec, submission, handlerRun, hb]
      | sort => exact hnothing

theorem isBatteryRSOCAvailable_step (c : Config) (e : Thread.Event VSMCEnv) :
    (step numbering c e).state.driver.isBatteryRSOCAvailable
      = c.state.driver.isBatteryRSOCAvailable := by
  obtain ⟨rest, s⟩ := c
  cases e with
  | env venv =>
    simp only [step, Thread.step, publish]
    split
    · rfl
    · split
      · exact Driver.vsmcNotificationHandler_isBatteryRSOCAvailable venv s.driver
      · rfl
  | thread =>
    cases rest with
    | nil => rfl
    | cons k rest =>
      cases k with
      | registerHandler =>
        cases hp : s.published with
        | none => simp [step, Thread.step, exec, hp]
        | some venv =>
          simp only [step, Thread.step, exec, hp]
          exact Driver.vsmcNotificationHandler_isBatteryRSOCAvailable venv s.driver
      | addKey key => rfl
      | addBDVT =>
        simp only [step, Thread.step, exec]
        split <;> rfl
      | sort => rfl

/-- **Step lemma.** An event keeps all submissions complete exactly if it does not
run the handler, or runs it in a ready state. -/
theorem allComplete_step {c : Config} (hc : Staged numbering c.rest c.state)
    (hall : AllComplete numbering c) (e : Thread.Event VSMCEnv) :
    AllComplete numbering (step numbering c e) ↔ HandledReady numbering c e := by
  have hiff := complete_iff_ready hc
  -- the submissions of the past are complete already
  have hstep : AllComplete numbering (step numbering c e) ↔ ∀ data ∈ submission c e,
      Complete numbering c.state.driver.isBatteryRSOCAvailable data := by
    rw [AllComplete, submitted_step, isBatteryRSOCAvailable_step]
    constructor
    · intro h data hdata
      exact h data (List.mem_append_right _ hdata)
    · intro h data hdata
      rcases List.mem_append.mp hdata with hold | hnew
      · exact hall data hold
      · exact h data hnew
  rw [hstep, submission, HandledReady]
  cases handlerRun c e with
  | none => simp
  | some venv =>
    -- the handler submits only where both pointers are there
    cases hsensors : venv.sensors <;> cases hvsmc : venv.vsmc <;> simp [hsensors, hvsmc, hiff]

/-! ### Whole schedules -/

/-- **Plugin submission.** In every interleaving of `registerVSMC` with the
publication of VirtualSMC, all submissions are complete exactly if every run of
the handler that submits happens after `registerVSMC` has returned (or when it
only has to sort keys that were added in key order). -/
theorem submissions_complete_iff {s : VSMCState} (hplugin : s.driver.vsmcPlugin = [])
    (hlog : submitted s.driver.log = []) (es : List (Thread.Event VSMCEnv)) :
    Always (step numbering) (AllComplete numbering) ⟨registerVSMC, s⟩ es ↔
      Throughout (step numbering) (HandledReady numbering) ⟨registerVSMC, s⟩ es := by
  refine always_iff_throughout (I := fun c : Config => Staged numbering c.rest c.state)
    (staged_registerVSMC hplugin) ?_ ?_ ?_ es
  · intro c e hc
    obtain ⟨rest, s⟩ := c
    cases e with
    | env venv => exact staged_publish venv rest s hc
    | thread =>
      cases rest with
      | nil => exact hc
      | cons k rest => exact staged_exec k rest s hc
  · intro data hdata
    rw [hlog] at hdata
    exact absurd hdata List.not_mem_nil
  · exact fun c e hc hall => allComplete_step hc hall e

/-- A new driver registers first, and VirtualSMC is published afterwards. -/
theorem submissions_complete_iff_published_last :
    let es := List.replicate 15 .thread ++ [.env .answering]
    Always (step .digits) (AllComplete .digits) ⟨registerVSMC, {}, none, false⟩ es ↔
      Throughout (step .digits) (HandledReady .digits)
        ⟨registerVSMC, {}, none, false⟩ es :=
  submissions_complete_iff rfl rfl _

/-- With VirtualSMC published before, `registerHandler` submits no keys at all. -/
theorem submission_incomplete_of_published :
    ¬ Always (step .digits) (AllComplete .digits)
        ⟨registerVSMC, {}, some .answering, false⟩ [.thread] := by
  intro h
  have hempty : Complete .digits false [] := h.last [] (by decide)
  have hkey := hempty.keys ⟨KeyAL, .valueWithUint16 0, .forceBits, [.read, .write]⟩ (by decide)
  exact absurd hkey List.not_mem_nil

end VSMCState

end AsusSMC
