import AsusSMC.Framework.Thread
import AsusSMC.Model.Driver

/-!
# Notification consumers

`registerNotifications` and the handler it registers twice, once for
publications and once for terminations. The handler tells the two apart by the
notifier it is called with, and compares that with the members the return value
of `addMatchingNotification` is assigned to.

A call of `addMatchingNotification` and the assignment of its result are two
statements (`RegisterStatement`): the first installs the notification, and for
publications calls the handler for every service that matches already.
-/

namespace AsusSMC

namespace Driver

/-- `_notificationServices->setObject(service)`. -/
def addConsumer (service : Service) (d : Driver) : Driver :=
  match d.notificationServices with
  | none => d.emit (.nullCall .notificationServices)
  | some services => d.setNotificationServices (some (services.setObject service))

/-- `_notificationServices->removeObject(service)`. -/
def removeConsumer (service : Service) (d : Driver) : Driver :=
  match d.notificationServices with
  | none => d.emit (.nullCall .notificationServices)
  | some services => d.setNotificationServices (some (services.removeObject service))

def notificationHandlerGated (newService : Service) (notifier : Notifier) (d : Driver) : Driver :=
  -- a notifier neither member holds is passed over in silence
  let d := if some notifier = d.publishNotify then d.addConsumer newService else d
  if some notifier = d.terminateNotify then d.removeConsumer newService else d

def notificationHandler (newService : Service) (notifier : Notifier) (d : Driver) :
    Bool × Driver :=
  match d.commandGate with
  | none => (true, d.emit (.nullCall .commandGate))
  | some _ => (true, d.notificationHandlerGated newService notifier)

/-- The registered consumers. -/
def consumers (d : Driver) : List Service :=
  match d.notificationServices with
  | none => []
  | some services => services.members

/-- The consumers are kept in a set, and the command gate is open: what `init`
and `start` have set up before notifications are registered. -/
structure Gated (d : Driver) : Prop where
  commandGate : d.commandGate.isSome
  notificationServices : d.notificationServices.isSome

section Spec

variable {d : Driver}

theorem Gated.congr {d' : Driver} (hd : Gated d) (hgate : d'.commandGate = d.commandGate)
    (hset : d'.notificationServices = d.notificationServices) : Gated d' :=
  ⟨hgate ▸ hd.commandGate, hset ▸ hd.notificationServices⟩

theorem addConsumer_of_gated (hd : Gated d) (service : Service) :
    ∃ services, d.addConsumer service = d.setNotificationServices (some services) ∧
      ∀ s, s ∈ services.members ↔ s = service ∨ s ∈ d.consumers := by
  obtain ⟨services, hs⟩ := Option.isSome_iff_exists.mp hd.notificationServices
  refine ⟨services.setObject service, by rw [addConsumer, hs], fun s => ?_⟩
  rw [OSSet.mem_setObject, consumers, hs]

theorem removeConsumer_of_gated (hd : Gated d) (service : Service) :
    ∃ services, d.removeConsumer service = d.setNotificationServices (some services) ∧
      ∀ s, s ∈ services.members ↔ s ≠ service ∧ s ∈ d.consumers := by
  obtain ⟨services, hs⟩ := Option.isSome_iff_exists.mp hd.notificationServices
  refine ⟨services.removeObject service, by rw [removeConsumer, hs], fun s => ?_⟩
  rw [OSSet.mem_removeObject, consumers, hs]

/-- The handler keeps the gate and the set. -/
theorem notificationHandler_gated (hd : Gated d) (service : Service) (notifier : Notifier) :
    Gated (d.notificationHandler service notifier).2 := by
  obtain ⟨gate, hgate⟩ := Option.isSome_iff_exists.mp hd.commandGate
  have hadd : ∀ d', Gated d' → Gated (d'.addConsumer service) := by
    intro d' hd'
    obtain ⟨services, hs, -⟩ := addConsumer_of_gated hd' service
    rw [hs]
    exact ⟨hd'.commandGate, rfl⟩
  have hremove : ∀ d', Gated d' → Gated (d'.removeConsumer service) := by
    intro d' hd'
    obtain ⟨services, hs, -⟩ := removeConsumer_of_gated hd' service
    rw [hs]
    exact ⟨hd'.commandGate, rfl⟩
  rw [notificationHandler, hgate]
  dsimp only [notificationHandlerGated]
  -- inserted or not, removed or not
  split <;> split
  · exact hremove _ (hadd _ hd)
  · exact hadd _ hd
  · exact hremove _ hd
  · exact hd

/-- The handler changes the set, and nothing else but the history. -/
theorem notificationHandler_frame {τ : Type*} {f : Driver → τ}
    (hemit : ∀ d e, f (d.emit e) = f d) (hset : ∀ d v, f (d.setNotificationServices v) = f d)
    (service : Service) (notifier : Notifier) (d : Driver) :
    f (d.notificationHandler service notifier).2 = f d := by
  simp only [notificationHandler, notificationHandlerGated, addConsumer, removeConsumer]
  repeat' split
  all_goals simp only [hemit, hset]

end Spec

end Driver

/-! ### Registration -/

/-- The statements of `registerNotifications`. -/
inductive RegisterStatement
  | addPublish
  | assignPublish
  | addTerminate
  | assignTerminate
  deriving DecidableEq, Repr

def registerNotifications : List RegisterStatement :=
  [.addPublish, .assignPublish, .addTerminate, .assignTerminate]

/-- What can happen around the driver. Notifications about one service are
delivered in order, those about different services in any order. -/
inductive ServiceEvent
  | publish (service : Service)
  | terminate (service : Service)
  /-- The handler is called with the oldest notification under way for the service. -/
  | deliver (service : Service)
  deriving DecidableEq, Repr

/-- The driver, the services that match, and the notifications under way. -/
structure NotifyState where
  driver : Driver
  /-- The services published so far. -/
  published : List Service := []
  /-- Those of them that have not been terminated. -/
  alive : List Service := []
  publishInstalled : Bool := false
  terminateInstalled : Bool := false
  /-- The notifications under way, oldest first. -/
  pending : Service → List Notifier := fun _ => []
  /-- The notifications delivered, and whether the handler knew the notifier then. -/
  handled : Service → List (Notifier × Bool) := fun _ => []

namespace NotifyState

/-- The member a notifier is compared with has been assigned. -/
def known (d : Driver) : Notifier → Bool
  | .publish => d.publishNotify == some .publish
  | .terminate => d.terminateNotify == some .terminate
  | .vsmc => false

/-- A notification for the service gets under way. -/
def send (service : Service) (notifier : Notifier) (s : NotifyState) : NotifyState :=
  { s with
    pending := Function.update s.pending service (s.pending service ++ [notifier]) }

/-- One statement. `addMatchingNotification` calls the handler for every service
that matches already before it returns. -/
def exec : RegisterStatement → NotifyState → Bool × NotifyState
  | .addPublish, s =>
    (true,
      { s with
        driver :=
          s.alive.foldl (fun d service => (d.notificationHandler service .publish).2) s.driver
        publishInstalled := true })
  | .assignPublish, s => (true, { s with driver := s.driver.setPublishNotify (some .publish) })
  | .addTerminate, s => (true, { s with terminateInstalled := true })
  | .assignTerminate, s =>
    (true, { s with driver := s.driver.setTerminateNotify (some .terminate) })

section Frames

variable {τ : Type*} {f : Driver → τ} (hemit : ∀ d e, f (d.emit e) = f d)
  (hset : ∀ d v, f (d.setNotificationServices v) = f d)
  (hpublish : ∀ d v, f (d.setPublishNotify v) = f d)
  (hterminate : ∀ d v, f (d.setTerminateNotify v) = f d)

include hemit hset hpublish hterminate

/-- `registerNotifications` changes its two members, and what the handler changes. -/
theorem exec_frame (k : RegisterStatement) (s : NotifyState) :
    f (exec k s).2.driver = f s.driver := by
  cases k with
  | addPublish =>
    -- the handler is called for every service that is there
    simp only [exec]
    generalize s.driver = d
    induction s.alive generalizing d with
    | nil => rfl
    | cons x services ih =>
      exact (ih _).trans (Driver.notificationHandler_frame hemit hset x _ d)
  | assignPublish => exact hpublish s.driver _
  | addTerminate => rfl
  | assignTerminate => exact hterminate s.driver _

theorem runAll_frame (s : NotifyState) :
    f (Thread.runAll exec registerNotifications s).2.driver = f s.driver :=
  Thread.runAll_frame (f := fun s : NotifyState => f s.driver)
    (exec_frame hemit hset hpublish hterminate) _ s

end Frames

/-- One event. A service is published once, and terminated only while it is
there. -/
def react : ServiceEvent → NotifyState → NotifyState
  | .publish service, s =>
    if service ∈ s.published then s
    else
      let s := { s with published := service :: s.published, alive := service :: s.alive }
      if s.publishInstalled then s.send service .publish else s
  | .terminate service, s =>
    if service ∈ s.alive then
      let s := { s with alive := s.alive.filter (· ≠ service) }
      -- before the notification is installed nobody hears of it
      if s.terminateInstalled then s.send service .terminate else s
    else s
  | .deliver service, s =>
    match s.pending service with
    | [] => s
    | notifier :: rest =>
      { s with
        driver := (s.driver.notificationHandler service notifier).2
        pending := Function.update s.pending service rest
        handled :=
          Function.update s.handled service
            (s.handled service ++ [(notifier, known s.driver notifier)]) }

/-- The driver hears of a service only when its notification is delivered. -/
theorem react_publish_driver (service : Service) (s : NotifyState) :
    (react (.publish service) s).driver = s.driver := by
  simp only [react]
  repeat' split
  all_goals rfl

theorem react_terminate_driver (service : Service) (s : NotifyState) :
    (react (.terminate service) s).driver = s.driver := by
  simp only [react]
  repeat' split
  all_goals rfl

end NotifyState

end AsusSMC
