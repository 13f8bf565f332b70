import AsusSMC.Model.Notifications
import Mathlib.Data.List.Sublists

/-!
# The set of notification consumers

`registerNotifications` runs against services that are published and terminated
at any time. The handler recognises a notifier only once the member it is
compared with has been assigned, which is after `addMatchingNotification` has
returned; and a termination before the second notification is installed is not
delivered at all.

`consumers_exact_iff` says for every schedule what this costs: the set is exact
exactly if every service that is there had its publication handled with
`_publishNotify` assigned, and every service that had this and is gone had its
termination handled with `_terminateNotify` assigned.

The invariant `Tracked` follows each service on its own. The notifications it
has had and those under way are a part of *publish, terminate* in this order, so
no publication is handled after a termination, and membership in the set can be
read off the ones handled with their member assigned (`Tracked.consumers`).
-/

namespace AsusSMC

open EventSystem Driver

namespace NotifyState

/-- A schedule of `registerNotifications` and its surroundings. -/
abbrev Config := Thread.Config RegisterStatement NotifyState

/-- One event of a schedule. -/
def step : Config → Thread.Event ServiceEvent → Config := Thread.step exec react

/-- The set holds the services that are there, each once. -/
structure Exact (s : NotifyState) : Prop where
  mem : ∀ x, x ∈ s.driver.consumers ↔ x ∈ s.alive
  nodup : s.driver.consumers.Nodup

/-- `registerNotifications` has returned, and nothing is under way. -/
def Settled (c : Config) : Prop := c.Returned ∧ ∀ x, c.state.pending x = []

/-- A notification about the service was handled with its member assigned. -/
def Heard (notifier : Notifier) (x : Service) (s : NotifyState) : Prop :=
  (notifier, true) ∈ s.handled x

/-- No service was missed: neither when it came nor when it went. -/
structure AllHeard (s : NotifyState) : Prop where
  publish : ∀ x ∈ s.alive, Heard .publish x s
  terminate : ∀ x ∈ s.published, x ∉ s.alive → Heard .publish x s → Heard .terminate x s

/-- The notifications a service has had, and those under way. -/
def deliveries (x : Service) (s : NotifyState) : List Notifier :=
  (s.handled x).map Prod.fst ++ s.pending x

/-- **Invariant**: what is known of every service, and of the two members. -/
structure Tracked (rest : List RegisterStatement) (s : NotifyState) : Prop where
  gated : Gated s.driver
  publishNotify : s.driver.publishNotify = if .assignPublish ∈ rest then none else some .publish
  terminateNotify :
    s.driver.terminateNotify = if .assignTerminate ∈ rest then none else some .terminate
  rest_suffix : rest <:+ registerNotifications
  alive_published : ∀ x ∈ s.alive, x ∈ s.published
  order : ∀ x, (deliveries x s).Sublist [.publish, .terminate]
  unpublished : ∀ x, x ∉ s.published → deliveries x s = []
  terminated : ∀ x, .terminate ∈ deliveries x s → x ∉ s.alive
  consumers : ∀ x, x ∈ s.driver.consumers ↔ Heard .publish x s ∧ ¬ Heard .terminate x s

/-- A driver whose notifications are still to be registered. -/
structure Unregistered (d : Driver) : Prop where
  gated : Gated d
  publishNotify : d.publishNotify = none
  terminateNotify : d.terminateNotify = none
  consumers : d.consumers = []

/-! ### The handler -/

section Handler

variable {d : Driver} (x : Service)

/-- A notifier that is not known changes nothing. -/
theorem notificationHandler_of_unknown (hd : Gated d) {notifier : Notifier}
    (hpublish : d.publishNotify ≠ some notifier) (hterminate : d.terminateNotify ≠ some notifier) :
    (d.notificationHandler x notifier).2 = d := by
  obtain ⟨gate, hgate⟩ := Option.isSome_iff_exists.mp hd.commandGate
  rw [notificationHandler, hgate]
  simp only [notificationHandlerGated]
  rw [if_neg (Ne.symm hpublish), if_neg (Ne.symm hterminate)]

/-- A known publication inserts the service. -/
theorem mem_consumers_publish (hd : Gated d) (hpublish : d.publishNotify = some .publish)
    (hterminate : d.terminateNotify ≠ some .publish) (y : Service) :
    y ∈ (d.notificationHandler x .publish).2.consumers ↔ y = x ∨ y ∈ d.consumers := by
  obtain ⟨gate, hgate⟩ := Option.isSome_iff_exists.mp hd.commandGate
  obtain ⟨services, hadd, hmem⟩ := addConsumer_of_gated hd x
  rw [notificationHandler, hgate]
  simp only [notificationHandlerGated]
  rw [if_pos hpublish.symm, hadd, setNotificationServices_terminateNotify,
    if_neg (Ne.symm hterminate)]
  exact hmem y

/-- A known termination removes it. -/
theorem mem_consumers_terminate (hd : Gated d) (hpublish : d.publishNotify ≠ some .terminate)
    (hterminate : d.terminateNotify = some .terminate) (y : Service) :
    y ∈ (d.notificationHandler x .terminate).2.consumers ↔ y ≠ x ∧ y ∈ d.consumers := by
  obtain ⟨gate, hgate⟩ := Option.isSome_iff_exists.mp hd.commandGate
  obtain ⟨services, hremove, hmem⟩ := removeConsumer_of_gated hd x
  rw [notificationHandler, hgate]
  simp only [notificationHandlerGated]
  rw [if_neg (Ne.symm hpublish), if_pos hterminate.symm, hremove]
  exact hmem y

end Handler

/-! ### One statement -/

section Exec

variable {rest : List RegisterStatement} {s : NotifyState}

/-- The final parts of `registerNotifications`. -/
theorem suffix_cases {k : RegisterStatement} (h : k :: rest <:+ registerNotifications) :
    (k = .addPublish ∧ rest = [.assignPublish, .addTerminate, .assignTerminate]) ∨
    (k = .assignPublish ∧ rest = [.addTerminate, .assignTerminate]) ∨
    (k = .addTerminate ∧ rest = [.assignTerminate]) ∨ (k = .assignTerminate ∧ rest = []) := by
  simpa [registerNotifications, List.suffix_cons_iff] using h

/-- The services published before are handed to the handler, which does not know
the notifier yet. -/
theorem foldl_notificationHandler (hd : Gated s.driver) (hpublish : s.driver.publishNotify = none)
    (hterminate : s.driver.terminateNotify = none) (services : List Service) :
    services.foldl (fun d x => (d.notificationHandler x .publish).2) s.driver = s.driver := by
  -- no service changes the driver, so each finds it as the one before did
  induction services with
  | nil => rfl
  | cons x services ih =>
    rw [List.foldl_cons, notificationHandler_of_unknown x hd (by simp [hpublish])
      (by simp [hterminate]), ih]

theorem tracked_exec (k : RegisterStatement) (h : Tracked (k :: rest) s) :
    Tracked rest (exec k s).2 := by
  have hsuffix : rest <:+ registerNotifications := (List.suffix_cons k rest).trans h.rest_suffix
  have hpublish := h.publishNotify
  have hterminate := h.terminateNotify
  obtain ⟨rfl, rfl⟩ | ⟨rfl, rfl⟩ | ⟨rfl, rfl⟩ | ⟨rfl, rfl⟩ := suffix_cases h.rest_suffix
  · -- `addPublish` calls the handler, but no member is assigned yet
    have hdriver := foldl_notificationHandler h.gated hpublish hterminate s.alive
    simp only [exec, hdriver]
    exact ⟨h.gated, hpublish, hterminate, hsuffix, h.alive_published, h.order, h.unpublished,
      h.terminated, h.consumers⟩
  -- the member is assigned, and from now on publications are known
  · exact ⟨h.gated.congr rfl rfl, rfl, hterminate, hsuffix, h.alive_published, h.order,
      h.unpublished, h.terminated, h.consumers⟩
  · exact ⟨h.gated, hpublish, hterminate, hsuffix, h.alive_published, h.order, h.unpublished,
      h.terminated, h.consumers⟩
  -- and from now on terminations are known too
  · exact ⟨h.gated.congr rfl rfl, hpublish, rfl, hsuffix, h.alive_published, h.order,
      h.unpublished, h.terminated, h.consumers⟩

end Exec

/-! ### One event -/

section React

variable {rest : List RegisterStatement} {s : NotifyState}

/-- The parts of *publish, terminate*. -/
theorem sublist_cases {l : List Notifier} (h : l.Sublist [.publish, .terminate]) :
    l = [] ∨ l = [.publish] ∨ l = [.terminate] ∨ l = [.publish, .terminate] := by
  simpa [List.sublists, or_assoc] using List.mem_sublists.mpr h

/-- Nothing comes before a publication. -/
theorem nil_of_append_publish {l r : List Notifier}
    (h : (l ++ .publish :: r).Sublist [.publish, .terminate]) : l = [] := by
  cases l with
  | nil => rfl
  | cons a l =>
    -- a list that has something before a publication is not one of the four
    exfalso
    rcases sublist_cases h with h | h | h | h <;> cases l <;> simp at h

/-- Before a termination there is room for it. -/
theorem append_terminate_sublist {l : List Notifier} (h : l.Sublist [.publish, .terminate])
    (hl : Notifier.terminate ∉ l) : (l ++ [Notifier.terminate]).Sublist [.publish, .terminate] := by
  rcases sublist_cases h with rfl | rfl | rfl | rfl
  · decide
  · decide
  · exact absurd (by simp) hl
  · exact absurd (by simp) hl

theorem deliveries_send (x y : Service) (notifier : Notifier) :
    deliveries y (s.send x notifier)
      = if y = x then deliveries x s ++ [notifier] else deliveries y s := by
  rw [deliveries, send]
  by_cases hy : y = x
  · subst hy
    simp [deliveries]
  · simp [deliveries, hy]

/-- A notification gets under way. -/
theorem Tracked.send (h : Tracked rest s) {x : Service} {notifier : Notifier}
    (horder : (deliveries x s ++ [notifier]).Sublist [.publish, .terminate])
    (hpublished : x ∈ s.published) (hgone : notifier = .terminate → x ∉ s.alive) :
    Tracked rest (s.send x notifier) where
  gated := h.gated
  publishNotify := h.publishNotify
  terminateNotify := h.terminateNotify
  rest_suffix := h.rest_suffix
  alive_published := h.alive_published
  order y := by
    rw [deliveries_send]
    split
    · exact horder
    · exact h.order y
  unpublished y hy := by
    have hne : y ≠ x := fun heq => hy (heq ▸ hpublished)
    rw [deliveries_send, if_neg hne]
    exact h.unpublished y hy
  terminated y hy := by
    rw [deliveries_send] at hy
    by_cases hyx : y = x
    · -- a termination sent earlier, or the one sent now
      subst hyx
      rw [if_pos rfl] at hy
      rcases List.mem_append.mp hy with hold | hnew
      · exact h.terminated y hold
      · exact hgone (List.mem_singleton.mp hnew).symm
    · rw [if_neg hyx] at hy
      exact h.terminated y hy
  consumers := h.consumers

theorem tracked_publish (h : Tracked rest s) (x : Service) :
    Tracked rest (react (.publish x) s) := by
  rw [react]
  split
  · exact h
  · next hx =>
    have hnone : deliveries x s = [] := h.unpublished x hx
    have hnew : Tracked rest { s with published := x :: s.published, alive := x :: s.alive } := by
      refine ⟨h.gated, h.publishNotify, h.terminateNotify, h.rest_suffix, ?_, h.order, ?_, ?_,
        h.consumers⟩
      · intro y hy
        rcases List.mem_cons.mp hy with rfl | hy
        · exact List.mem_cons_self
        · exact List.mem_cons_of_mem _ (h.alive_published y hy)
      · intro y hy
        exact h.unpublished y fun hmem => hy (List.mem_cons_of_mem _ hmem)
      · intro y hy hmem
        rcases List.mem_cons.mp hmem with rfl | hmem
        · -- nothing has been sent about `x` yet
          exact absurd (hnone ▸ hy : Notifier.terminate ∈ []) List.not_mem_nil
        · exact h.terminated y hy hmem
    -- the matching is told of it if it is installed
    dsimp only
    split
    · refine hnew.send ?_ List.mem_cons_self (fun h => absurd h (by decide))
      change (deliveries x s ++ [Notifier.publish]).Sublist _
      rw [hnone]
      decide
    · exact hnew

theorem tracked_terminate (h : Tracked rest s) (x : Service) :
    Tracked rest (react (.terminate x) s) := by
  rw [react]
  split
  · next hx =>
    -- the service leaves the list, and no other comes in
    have hgone : ∀ y, y ∈ s.alive.filter (· ≠ x) → y ∈ s.alive := fun y hy =>
      (List.mem_filter.mp hy).1
    have hnew : Tracked rest { s with alive := s.alive.filter (· ≠ x) } :=
      ⟨h.gated, h.publishNotify, h.terminateNotify, h.rest_suffix,
        fun y hy => h.alive_published y (hgone y hy), h.order, h.unpublished,
        fun y hy hmem => h.terminated y hy (hgone y hmem), h.consumers⟩
    dsimp only
    split
    · -- the service was there until now, so it has not been terminated before
      have hfirst : .terminate ∉ deliveries x s := fun hmem => h.terminated x hmem hx
      refine hnew.send (append_terminate_sublist (h.order x) hfirst) (h.alive_published x hx) ?_
      intro _ hmem
      exact absurd (List.mem_filter.mp hmem).2 (by simp)
    · exact hnew
  · exact h

/-- A notifier is known exactly if its member has been assigned. -/
theorem unknown_of_tracked (h : Tracked rest s) {notifier : Notifier}
    (hunknown : known s.driver notifier = false) :
    s.driver.publishNotify ≠ some notifier ∧ s.driver.terminateNotify ≠ some notifier := by
  have hpublish := h.publishNotify
  have hterminate := h.terminateNotify
  cases notifier with
  | publish =>
    refine ⟨by simpa [known] using hunknown, ?_⟩
    rw [hterminate]
    split <;> simp
  | terminate =>
    refine ⟨?_, by simpa [known] using hunknown⟩
    rw [hpublish]
    split <;> simp
  | vsmc =>
    rw [hpublish, hterminate]
    constructor <;> split <;> simp

/-- Who is in the set after a delivery: a notification that is not known changes
nothing, a publication adds its service, a termination removes it. -/
theorem Tracked.mem_consumers_deliver (h : Tracked rest s) {x : Service} {notifier : Notifier}
    {queue : List Notifier} (hpending : s.pending x = notifier :: queue) (y : Service) :
    y ∈ (s.driver.notificationHandler x notifier).2.consumers ↔
      (Heard .publish y s ∨ y = x ∧ .publish = notifier ∧ known s.driver notifier = true) ∧
        ¬ (Heard .terminate y s ∨
          y = x ∧ .terminate = notifier ∧ known s.driver notifier = true) := by
  cases hknown : known s.driver notifier with
  | false =>
    -- the member is still null, and the handler returns without a change
    obtain ⟨hp, ht⟩ := unknown_of_tracked h hknown
    rw [notificationHandler_of_unknown x h.gated hp ht]
    simpa using h.consumers y
  | true =>
    cases notifier with
    | publish =>
      have hp : s.driver.publishNotify = some .publish := by simpa [known] using hknown
      have ht : s.driver.terminateNotify ≠ some .publish := by
        rw [h.terminateNotify]
        split <;> simp
      -- nothing was handled before a publication, so no termination was
      have hfirst : ¬ Heard .terminate x s := by
        have horder : ((s.handled x).map Prod.fst ++ .publish :: queue).Sublist
            [.publish, .terminate] := by
          rw [← hpending]
          exact h.order x
        have hnil : s.handled x = [] := List.map_eq_nil_iff.mp (nil_of_append_publish horder)
        simp [Heard, hnil]
      rw [mem_consumers_publish x h.gated hp ht, h.consumers]
      by_cases hy : y = x
      · subst hy
        simp [hfirst]
      · simp [hy]
    -- whatever was handled before, the service goes
    | terminate =>
      have ht : s.driver.terminateNotify = some .terminate := by simpa [known] using hknown
      have hp : s.driver.publishNotify ≠ some .terminate := by
        rw [h.publishNotify]
        split <;> simp
      rw [mem_consumers_terminate x h.gated hp ht, h.consumers]
      by_cases hy : y = x
      · subst hy
        simp
      · simp [hy]
    | vsmc => exact absurd hknown (by simp [known])

section Deliver

variable {x : Service} {notifier : Notifier} {queue : List Notifier}

theorem react_deliver (hpending : s.pending x = notifier :: queue) :
    react (.deliver x) s =
      { s with
        driver := (s.driver.notificationHandler x notifier).2
        pending := Function.update s.pending x queue
        handled := Function.update s.handled x
          (s.handled x ++ [(notifier, known s.driver notifier)]) } := by
  rw [react, hpending]

/-- The notification moves from those under way to those handled. -/
theorem deliveries_deliver (hpending : s.pending x = notifier :: queue) (y : Service) :
    deliveries y (react (.deliver x) s) = deliveries y s := by
  rw [react_deliver hpending]
  by_cases hy : y = x
  · subst hy
    simp [deliveries, hpending]
  · simp [deliveries, hy]

/-- What is handled now is heard now, if its notifier is known. -/
theorem heard_deliver (hpending : s.pending x = notifier :: queue) (n : Notifier) (y : Service) :
    Heard n y (react (.deliver x) s) ↔
      Heard n y s ∨ y = x ∧ n = notifier ∧ known s.driver notifier = true := by
  rw [react_deliver hpending]
  by_cases hy : y = x
  · subst hy
    simp [Heard]
  · simp [Heard, hy]

/-- A notification is handled. -/
theorem Tracked.deliver (h : Tracked rest s) (hpending : s.pending x = notifier :: queue) :
    Tracked rest (react (.deliver x) s) := by
  have hheard := heard_deliver hpending
  have hdeliveries := deliveries_deliver hpending
  have hdriver : (react (.deliver x) s).driver = (s.driver.notificationHandler x notifier).2 := by
    rw [react_deliver hpending]
  -- neither of the two lists of services changes
  have hpublished : (react (.deliver x) s).published = s.published := by
    rw [react_deliver hpending]
  have halive : (react (.deliver x) s).alive = s.alive := by
    rw [react_deliver hpending]
  refine ⟨?_, ?_, ?_, h.rest_suffix, ?_, ?_, ?_, ?_, ?_⟩
  · rw [hdriver]
    exact notificationHandler_gated h.gated x notifier
  · rw [hdriver]
    exact (notificationHandler_frame (fun _ _ => rfl) (fun _ _ => rfl) x notifier s.driver).trans
      h.publishNotify
  · rw [hdriver]
    exact (notificationHandler_frame (fun _ _ => rfl) (fun _ _ => rfl) x notifier s.driver).trans
      h.terminateNotify
  · rw [halive, hpublished]
    exact h.alive_published
  · intro y
    rw [hdeliveries]
    exact h.order y
  · intro y hy
    rw [hpublished] at hy
    rw [hdeliveries]
    exact h.unpublished y hy
  · intro y hy
    rw [hdeliveries] at hy
    rw [halive]
    exact h.terminated y hy
  · intro y
    rw [hdriver, hheard, hheard]
    exact h.mem_consumers_deliver hpending y

end Deliver

theorem tracked_deliver (h : Tracked rest s) (x : Service) :
    Tracked rest (react (.deliver x) s) := by
  cases hpending : s.pending x with
  | nil =>
    rw [react, hpending]
    exact h
  | cons notifier queue => exact h.deliver hpending

end React

/-! ### Whole schedules -/

/-- The invariant holds in every schedule. -/
theorem tracked_run {d : Driver} (hd : Unregistered d) (es : List (Thread.Event ServiceEvent)) :
    Always step (fun c => Tracked c.rest c.state) ⟨registerNotifications, { driver := d }⟩ es := by
  have hinit : Tracked registerNotifications { driver := d } := by
    refine ⟨hd.gated, hd.publishNotify, hd.terminateNotify, List.suffix_rfl, ?_, ?_, ?_, ?_, ?_⟩
    · simp
    · exact fun x => List.nil_sublist _
    · exact fun x _ => rfl
    · intro x hx
      exact absurd hx List.not_mem_nil
    · intro x
      simp [hd.consumers, Heard]
  refine Thread.always_of_stages Tracked hinit ?_ ?_ es
  · intro k rest s h
    have htrue : (exec k s).1 = true := by cases k <;> rfl
    rw [htrue]
    exact tracked_exec k h
  · intro e rest s h
    cases e with
    | publish x => exact tracked_publish h x
    | terminate x => exact tracked_terminate h x
    | deliver x => exact tracked_deliver h x

/-- What the set holds, at any moment of any schedule. -/
theorem Tracked.exact_iff {rest : List RegisterStatement} {s : NotifyState} (h : Tracked rest s) :
    Exact s ↔ AllHeard s := by
  constructor
  · intro hexact
    refine ⟨fun x hx => ((h.consumers x).mp ((hexact.mem x).mpr hx)).1, ?_⟩
    intro x _ hgone hheard
    -- a service that is gone is not in the exact set, so its termination was heard
    by_contra hterminate
    exact hgone ((hexact.mem x).mp ((h.consumers x).mpr ⟨hheard, hterminate⟩))
  · intro hall
    refine ⟨fun x => ?_, ?_⟩
    · rw [h.consumers]
      constructor
      · -- heard of and not gone: a service nobody published has no deliveries
        rintro ⟨hheard, hterminate⟩
        by_contra hgone
        have hpublished : x ∈ s.published := by
          by_contra hx
          have hnil : (s.handled x).map Prod.fst = [] :=
            (List.append_eq_nil_iff.mp (h.unpublished x hx)).1
          rw [Heard, List.map_eq_nil_iff.mp hnil] at hheard
          exact absurd hheard List.not_mem_nil
        exact hterminate (hall.terminate x hpublished hgone hheard)
      · intro hx
        refine ⟨hall.publish x hx, ?_⟩
        intro hterminate
        have hmem : .terminate ∈ deliveries x s :=
          List.mem_append_left _ (List.mem_map.mpr ⟨_, hterminate, rfl⟩)
        exact h.terminated x hmem hx
    · rw [Driver.consumers]
      split
      · exact List.nodup_nil
      · next services _ => exact services.nodup

/-- **The set of consumers.** In every interleaving of `registerNotifications`
with publications, terminations and deliveries, the set is exact in all settled
states exactly if in all settled states no service was missed. -/
theorem consumers_exact_iff {d : Driver} (hd : Unregistered d)
    (es : List (Thread.Event ServiceEvent)) :
    Always step (fun c => Settled c → Exact c.state)
        ⟨registerNotifications, { driver := d }⟩ es ↔
      Always step (fun c => Settled c → AllHeard c.state)
        ⟨registerNotifications, { driver := d }⟩ es := by
  have htracked := tracked_run hd es
  constructor
  · intro h pre hpre hsettled
    exact (htracked pre hpre).exact_iff.mp (h pre hpre hsettled)
  · intro h pre hpre hsettled
    exact (htracked pre hpre).exact_iff.mpr (h pre hpre hsettled)

/-- A driver whose gate is open, before `registerNotifications`. -/
def gatedDriver : Driver := { commandGate := some 0, notificationServices := some .empty }

/-- A consumer is published after the registration, and delivered. -/
theorem consumers_exact_iff_published_last :
    let es := [.thread, .thread, .thread, .thread, .env (.publish 0), .env (.deliver 0)]
    Always step (fun c => Settled c → Exact c.state)
        ⟨registerNotifications, { driver := gatedDriver }⟩ es ↔
      Always step (fun c => Settled c → AllHeard c.state)
        ⟨registerNotifications, { driver := gatedDriver }⟩ es :=
  consumers_exact_iff ⟨⟨rfl, rfl⟩, rfl, rfl, rfl⟩ _

/-- A consumer published before the registration is never in the set. -/
theorem consumer_missed_of_published :
    ¬ Always step (fun c => Settled c → Exact c.state)
        ⟨registerNotifications, { driver := gatedDriver }⟩
        [.env (.publish 0), .thread, .thread, .thread, .thread] := by
  intro h
  have hexact : Exact _ := h.last ⟨rfl, fun _ => rfl⟩
  have hmem : 0 ∈ ([] : List Service) := (hexact.mem 0).mpr List.mem_cons_self
  exact absurd hmem List.not_mem_nil

end NotifyState

end AsusSMC
