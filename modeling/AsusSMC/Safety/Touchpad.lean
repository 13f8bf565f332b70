import AsusSMC.Framework.EventSystem
import AsusSMC.Model.HotkeySpec
import AsusSMC.Model.Notifications

/-!
# Touchpad agreement

The touchpad flag passes by address through every registered consumer, twice:
first each consumer overwrites it with its own status, then, negated, each
consumer adopts it. So the last consumer of the first round decides, and after
the second round all of them agree with the driver (`touchpad_agreement`).

The driver runs in a `TouchpadWorld`, in which a consumer has a status of its
own. `answers` is how a consumer treats the pointed-to `bool`, `adopt` what the
messages sent to it make of its status.
-/

namespace AsusSMC

open EventSystem

/-- The driver and the statuses of the services around it. -/
structure TouchpadWorld where
  driver : Driver
  status : Service → Bool

/-- What can happen: a notification is handled, a consumer changes its status
by itself, the touchpad key is pressed. -/
inductive TouchpadEvent
  | notification (service : Service) (notifier : Notifier)
  | statusChange (service : Service) (value : Bool)
  | toggle (env : Env)

/-- A consumer writes its status on `kKeyboardGetTouchStatus`, and only reads
on `kKeyboardSetTouchStatus`. -/
def answers (status : Service → Bool) : Service → KeyboardMessage → Bool → Bool
  | service, .kKeyboardGetTouchStatus, _ => status service
  | _, .kKeyboardSetTouchStatus, data => data

/-- The statuses after the calls of `es`. -/
def adopt (status : Service → Bool) (es : List Effect) : Service → Bool :=
  es.foldl
    (fun status e =>
      match e with
      | .consumer service .kKeyboardSetTouchStatus data => Function.update status service data
      | _ => status)
    status

/-- The environment in which the consumers have the given statuses. -/
def Env.withStatus (env : Env) (status : Service → Bool) : Env :=
  { env with consumer := answers status }

namespace TouchpadWorld

/-- One event. -/
def step (w : TouchpadWorld) : TouchpadEvent → TouchpadWorld
  | .notification service notifier =>
    { w with driver := (w.driver.notificationHandler service notifier).2 }
  | .statusChange service value => { w with status := Function.update w.status service value }
  | .toggle env =>
    let driver := w.driver.toggleTouchpad (env.withStatus w.status)
    { driver := driver, status := adopt w.status (driver.log.drop w.driver.log.length) }

/-- Every registered consumer, the flag and the registry property agree. -/
structure Agreed (w : TouchpadWorld) : Prop where
  consumers : ∀ s ∈ w.driver.consumers, w.status s = w.driver.isTouchpadEnabled
  property : w.driver.properties "IsTouchpadEnabled" = some w.driver.isTouchpadEnabled

end TouchpadWorld

/-! ### The two broadcasts -/

section Broadcast

variable (env : Env) (status : Service → Bool) {d : Driver}

namespace Driver

/-- The order in which a broadcast visits the consumers. -/
def visited (env : Env) (m : KeyboardMessage) (d : Driver) : List Service :=
  (env.order m).visit d.consumers

theorem mem_visited (m : KeyboardMessage) (s : Service) :
    s ∈ d.visited env m ↔ s ∈ d.consumers := ((env.order m).perm _).mem_iff

theorem visited_eq_nil_iff (m : KeyboardMessage) : d.visited env m = [] ↔ d.consumers = [] := by
  have hperm : (d.visited env m).Perm d.consumers := (env.order m).perm _
  constructor
  · intro h
    exact (h ▸ hperm).nil_eq.symm
  · intro h
    exact (h ▸ hperm).eq_nil

/-- With the gate open a broadcast goes through all consumers. -/
theorem dispatchMessage_of_gated (hd : Gated d) (m : KeyboardMessage) (data : Bool) :
    d.dispatchMessage env m data = (d.visited env m).foldl
      (fun r s => (env.consumer s m r.1, r.2.emit (.consumer s m r.1))) (data, d) := by
  obtain ⟨gate, hgate⟩ := Option.isSome_iff_exists.mp hd.commandGate
  obtain ⟨services, hservices⟩ := Option.isSome_iff_exists.mp hd.notificationServices
  simp only [dispatchMessage, hgate, dispatchMessageGated, hservices, visited, consumers]

/-- **First round**: the flag ends up with the status of the last consumer
visited. -/
theorem dispatchMessage_get (hd : Gated d) (data : Bool) :
    ∃ es, d.dispatchMessage (env.withStatus status) .kKeyboardGetTouchStatus data
        = (((d.visited env .kKeyboardGetTouchStatus).getLast?.map status).getD data, d.record es) ∧
      ∀ st, adopt st es = st := by
  rw [dispatchMessage_of_gated _ hd]
  change ∃ es, (d.visited env .kKeyboardGetTouchStatus).foldl _ _ = _ ∧ _
  generalize d.visited env .kKeyboardGetTouchStatus = l
  clear hd
  induction l generalizing data d with
  | nil => exact ⟨[], by simp, fun _ => rfl⟩
  | cons s rest ih =>
    -- what `s` writes is overwritten by the next consumer, if there is one
    obtain ⟨es, hes, hadopt⟩ :=
      ih (d := d.emit (.consumer s .kKeyboardGetTouchStatus data)) (status s)
    refine ⟨.consumer s .kKeyboardGetTouchStatus data :: es, ?_, fun st => hadopt st⟩
    have hlast : ((s :: rest).getLast?.map status).getD data
        = (rest.getLast?.map status).getD (status s) := by
      rw [List.getLast?_cons]
      cases rest.getLast? <;> rfl
    rw [List.foldl_cons, hlast]
    refine hes.trans ?_
    rw [emit_eq_record, record_record, List.singleton_append]

/-- **Second round**: every consumer is handed the same flag. -/
theorem dispatchMessage_set (hd : Gated d) (data : Bool) :
    d.dispatchMessage (env.withStatus status) .kKeyboardSetTouchStatus data
      = (data, d.record ((d.visited env .kKeyboardSetTouchStatus).map
          fun s => .consumer s .kKeyboardSetTouchStatus data)) := by
  rw [dispatchMessage_of_gated _ hd]
  change (d.visited env .kKeyboardSetTouchStatus).foldl _ _ = _
  generalize d.visited env .kKeyboardSetTouchStatus = l
  clear hd
  induction l generalizing d with
  | nil => simp
  | cons s rest ih =>
    rw [List.foldl_cons]
    refine (ih (d := d.emit (.consumer s .kKeyboardSetTouchStatus data))).trans ?_
    rw [emit_eq_record, record_record, List.map_cons, List.singleton_append]

end Driver

/-- Who was handed the flag has adopted it. -/
theorem adopt_set (l : List Service) (data : Bool) (s : Service) :
    adopt status (l.map fun s => .consumer s .kKeyboardSetTouchStatus data) s
      = if s ∈ l then data else status s := by
  induction l generalizing status with
  | nil => simp [adopt]
  | cons t rest ih =>
    -- `t` adopts the flag first, and the rest of the list does not change that
    change adopt (Function.update status t data) (rest.map _) s = _
    rw [ih]
    by_cases hs : s = t
    · subst hs
      simp
    · simp [hs]

end Broadcast

/-! ### One press of the touchpad key -/

section Toggle

namespace Driver

variable {d : Driver}

/-- The flag after a press: the negated status of the last consumer visited. -/
def toggledFlag (env : Env) (status : Service → Bool) (d : Driver) : Bool :=
  !((d.visited env .kKeyboardGetTouchStatus).getLast?.map status).getD d.isTouchpadEnabled

/-- **What the touchpad key does**: both rounds, and the registry property. -/
theorem toggleTouchpad_eq (env : Env) (status : Service → Bool) (hd : Gated d) :
    ∃ es, d.toggleTouchpad (env.withStatus status)
        = ((d.record es).setIsTouchpadEnabled (d.toggledFlag env status)).setProperty
            "IsTouchpadEnabled" (d.toggledFlag env status) ∧
      ∀ st s, adopt st es s = if s ∈ d.consumers then d.toggledFlag env status else st s := by
  obtain ⟨es, hes, hadopt⟩ := dispatchMessage_get env status hd d.isTouchpadEnabled
  -- asking leaves the status in the flag, which is the negation of the flag sent later
  have hget : d.dispatchTouchpad (env.withStatus status) .kKeyboardGetTouchStatus
      = (d.record es).setIsTouchpadEnabled (!d.toggledFlag env status) := by
    rw [dispatchTouchpad, hes, toggledFlag, Bool.not_not]
  generalize d.toggledFlag env status = flag at hget ⊢
  let fs : List Effect :=
    (d.visited env .kKeyboardSetTouchStatus).map fun s => .consumer s .kKeyboardSetTouchStatus flag
  have hset : ((d.record es).setIsTouchpadEnabled flag).dispatchTouchpad
      (env.withStatus status) .kKeyboardSetTouchStatus
      = (d.record (es ++ fs)).setIsTouchpadEnabled flag := by
    have hd' : Gated ((d.record es).setIsTouchpadEnabled flag) := hd.congr rfl rfl
    rw [dispatchTouchpad, setIsTouchpadEnabled_isTouchpadEnabled,
      dispatchMessage_set env status hd', ← record_record]
    rfl
  refine ⟨es ++ fs, ?_, ?_⟩
  · -- the flag read in the first round is negated before the second
    have hnot : ((d.record es).setIsTouchpadEnabled (!flag)).setIsTouchpadEnabled (!!flag)
        = (d.record es).setIsTouchpadEnabled flag := by
      rw [Bool.not_not]
      rfl
    rw [toggleTouchpad, hget, setIsTouchpadEnabled_isTouchpadEnabled, hnot, hset]
    cases flag <;> rfl
  · intro st s
    have happend : ∀ fs, adopt st (es ++ fs) = adopt (adopt st es) fs := by
      intro fs
      rw [adopt, List.foldl_append]
      rfl
    simp only [happend, hadopt, fs, adopt_set, mem_visited]

end Driver

end Toggle

/-! ### Whole runs -/

namespace TouchpadWorld

open Driver

variable {w : TouchpadWorld}

/-- No event closes the gate or loses the set. -/
theorem gated_step (hw : Gated w.driver) (e : TouchpadEvent) : Gated (w.step e).driver := by
  cases e with
  | statusChange service value => exact hw
  | toggle env =>
    exact hw.congr
      (toggleTouchpad_frame (fun _ _ => rfl) (fun _ _ => rfl) (fun _ _ _ => rfl) _ _)
      (toggleTouchpad_frame (fun _ _ => rfl) (fun _ _ => rfl) (fun _ _ _ => rfl) _ _)
  | notification service notifier => exact notificationHandler_gated hw service notifier

/-- **Step lemma.** After a press everybody has the toggled flag. -/
theorem toggle_step (hw : Gated w.driver) (env : Env) :
    Agreed (w.step (.toggle env)) ∧ (w.step (.toggle env)).driver.isTouchpadEnabled
      = w.driver.toggledFlag env w.status := by
  obtain ⟨es, hes, hadopt⟩ := toggleTouchpad_eq env w.status hw
  -- the world adopts what this press has appended to the history, and nothing before
  have hlog : (w.driver.toggleTouchpad (env.withStatus w.status)).log.drop w.driver.log.length
      = es := by
    rw [hes]
    exact List.drop_left
  have hstatus : (w.step (.toggle env)).status = adopt w.status es := by
    rw [step, hlog]
  have hdriver : (w.step (.toggle env)).driver
      = ((w.driver.record es).setIsTouchpadEnabled (w.driver.toggledFlag env w.status)).setProperty
          "IsTouchpadEnabled" (w.driver.toggledFlag env w.status) := hes
  refine ⟨⟨?_, ?_⟩, by rw [hdriver]; rfl⟩
  · -- whoever is registered was visited in the second round
    intro s hs
    have hmem : s ∈ w.driver.consumers := by
      rw [hdriver] at hs
      exact hs
    rw [hstatus, hadopt, if_pos hmem, hdriver]
    rfl
  · rw [hdriver]
    simp

/-- What a press establishes. -/
structure PressAgrees (w : TouchpadWorld) (env : Env) : Prop where
  agreed : Agreed (w.step (.toggle env))
  /-- A status all consumers had is not the new one. -/
  common : ∀ b, w.driver.consumers ≠ [] → (∀ s ∈ w.driver.consumers, w.status s = b) →
    (w.step (.toggle env)).driver.isTouchpadEnabled ≠ b
  /-- The last consumer visited decides. -/
  last : ∀ s, (w.driver.visited env .kKeyboardGetTouchStatus).getLast? = some s →
    (w.step (.toggle env)).driver.isTouchpadEnabled = !w.status s
  /-- With no consumer the flag is negated. -/
  alone : w.driver.consumers = [] →
    (w.step (.toggle env)).driver.isTouchpadEnabled = !w.driver.isTouchpadEnabled

/-- **Touchpad agreement.** In every run of registrations, removals, spontaneous
changes and presses, every press leaves all registered consumers, the flag and
the registry property in agreement. -/
theorem touchpad_agreement (hw : Gated w.driver) (es : List TouchpadEvent) :
    Throughout step (fun w e => ∀ env, e = .toggle env → PressAgrees w env) w es := by
  have hgated : Always step (fun w => Gated w.driver) w es :=
    .of_step (P := fun w : TouchpadWorld => Gated w.driver) hw (fun _ e h => gated_step h e) es
  intro pre e post hsplit env he
  subst he
  have hpre := hgated pre ⟨_, hsplit.symm⟩
  -- only the gate and the set matter of how the state was reached
  generalize run step w pre = v at hpre ⊢
  obtain ⟨hagreed, hflag⟩ := toggle_step hpre env
  refine ⟨hagreed, ?_, ?_, ?_⟩
  · intro b hne hall hb
    rw [hflag, toggledFlag] at hb
    cases hlast : (v.driver.visited env .kKeyboardGetTouchStatus).getLast? with
    | none =>
      -- nobody is visited, so nobody is registered
      exact hne ((visited_eq_nil_iff env _).mp (List.getLast?_eq_none_iff.mp hlast))
    | some s =>
      have hs : s ∈ v.driver.consumers :=
        (mem_visited env _ s).mp (List.mem_of_getLast? hlast)
      simp [hlast, hall s hs] at hb
  · intro s hlast
    rw [hflag, toggledFlag, hlast]
    rfl
  · intro hnil
    rw [hflag, toggledFlag, (visited_eq_nil_iff env _).mpr hnil]
    rfl

/-- Two consumers that disagree are registered, and the key is pressed twice. -/
theorem touchpad_agreement_two :
    Throughout step (fun w e => ∀ env, e = .toggle env → PressAgrees w env)
      ⟨{ commandGate := some 0, notificationServices := some .empty,
         publishNotify := some .publish, terminateNotify := some .terminate }, fun s => s == 0⟩
      [.notification 0 .publish, .notification 1 .publish, .toggle .unresponsive,
        .statusChange 0 true, .toggle .unresponsive] :=
  touchpad_agreement ⟨rfl, rfl⟩ _

end TouchpadWorld

end AsusSMC
