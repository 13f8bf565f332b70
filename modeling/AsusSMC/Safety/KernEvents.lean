import AsusSMC.Framework.EventSystem
import AsusSMC.Model.Daemon
import AsusSMC.Model.Startup
import Mathlib.Data.List.Forall2

/-!
# From the driver to the daemon

Any party may post kernel events, and the socket delivers to the daemon those
that pass its filter. Around the daemon stands the list of the messages the
driver has sent (`SocketWorld`). The protocol is kept when the functions the
daemon has called answer the messages sent, one for one and in order
(`Faithful`).

The daemon's filter lets everything pass, since the vendor code it looks up is
not put into it (`passes_kevRequest`). What is left to tell the driver's events
from others is the event code, the length, and the type of the message. So the
protocol is kept exactly while every message sent is of a known type and nobody
else posts an event that looks like one (`kern_events_faithful_iff`).
-/

namespace AsusSMC

open EventSystem

/-- Who has posted an event: the driver, or anybody else. -/
inductive KernEventSource
  | sendMessage (type x y : Int32)
  | other (msg : KevMsg)

/-- An event on the system socket: the kernel's serial number, and what the
radios answer while the daemon handles it. -/
structure KernEvent where
  id : UInt32
  radios : Radios
  source : KernEventSource

namespace KernEvent

/-- The message posted. -/
def msg (kev : KernEventServer) (e : KernEvent) : KevMsg :=
  match e.source with
  | .sendMessage type x y => kev.sendMessage type x y
  | .other m => m

/-- The message the driver has sent, if it is the driver's. -/
def sent (e : KernEvent) : List AsusSMCMessage :=
  match e.source with
  | .sendMessage type x y => [⟨type, x, y⟩]
  | .other _ => []

/-- The types of messages the daemon knows. -/
def KnownType (type : Int32) : Prop :=
  type = Daemon.kDaemonKeyboardBacklight ∨ type = Daemon.kDaemonAirplaneMode ∨
    type = Daemon.kDaemonSleep

/-- A message of the driver is of a known type; another event does not look like
one, whatever its vendor code is. -/
def ToldApart (e : KernEvent) : Prop :=
  match e.source with
  | .sendMessage type _ _ => KnownType type
  | .other m => m.eventCode = AsusSMCEventCode → AsusSMCMessage.size ≤ m.payload.length →
      ¬ KnownType (LittleEndian.toInt m.payload)

end KernEvent

/-- The daemon, and the messages the driver has sent. -/
structure SocketWorld where
  daemon : Daemon
  sent : List AsusSMCMessage := []

namespace SocketWorld

/-- One event is posted, and delivered if it passes the filter. -/
def step (kev : KernEventServer) (req : KevRequest) (w : SocketWorld) (e : KernEvent) :
    SocketWorld where
  daemon :=
    if req.passes (e.msg kev) then
      w.daemon.receive e.radios (recv Daemon.bufferSize ((e.msg kev).wire e.id))
    else w.daemon
  sent := w.sent ++ e.sent

/-- The daemon has answered the messages sent, and nothing else. -/
def Faithful (w : SocketWorld) : Prop :=
  List.Forall₂ (fun m a => m.action = some a) w.sent w.daemon.performed

end SocketWorld

/-! ### The filter and the `switch` -/

/-- The filter the daemon installs lets every event pass. -/
theorem Daemon.passes_kevRequest (vendorCode : Option UInt32) (m : KevMsg) :
    (Daemon.kevRequest vendorCode).passes m = true := rfl

theorem AsusSMCMessage.action_eq_none (m : AsusSMCMessage) :
    m.action = none ↔ ¬ KernEvent.KnownType m.type := by
  rw [action]
  split
  · next h => exact iff_of_false (by simp) (not_not_intro (Or.inl h))
  · next h₁ =>
    split
    · next h => exact iff_of_false (by simp) (not_not_intro (Or.inr (Or.inl h)))
    · next h₂ =>
      split
      · next h => exact iff_of_false (by simp) (not_not_intro (Or.inr (Or.inr h)))
      · next h₃ => exact iff_of_true rfl fun h => h.elim h₁ fun h => h.elim h₂ h₃

theorem KevMsg.action_eq_none (m : KevMsg) :
    m.action = none ↔ (m.eventCode = AsusSMCEventCode → AsusSMCMessage.size ≤ m.payload.length →
      ¬ KernEvent.KnownType (LittleEndian.toInt m.payload)) := by
  rw [action]
  split
  · next h =>
    rw [AsusSMCMessage.action_eq_none]
    exact ⟨fun hunknown _ _ => hunknown, fun hunknown => hunknown h.1 h.2⟩
  · next h =>
    exact iff_of_true rfl fun hcode hlength => absurd ⟨hcode, hlength⟩ h

/-! ### One event -/

namespace SocketWorld

section Step

variable {kev : KernEventServer} {vendorCode : Option UInt32} {w : SocketWorld}

/-- The daemon calls the function an event stands for, if it stands for one. -/
theorem performed_step (e : KernEvent) :
    (step kev (Daemon.kevRequest vendorCode) w e).daemon.performed
      = w.daemon.performed ++ (e.msg kev).action.toList := by
  rw [step, if_pos (Daemon.passes_kevRequest vendorCode _), Daemon.receive_recv_wire]
  cases (e.msg kev).action with
  | none => exact (List.append_nil _).symm
  | some a => exact Daemon.perform_performed e.radios a w.daemon

/-- **Step lemma.** -/
theorem faithful_step_iff (hkev : kev.eventCode = AsusSMCEventCode) (hw : Faithful w)
    (e : KernEvent) :
    Faithful (step kev (Daemon.kevRequest vendorCode) w e) ↔ e.ToldApart := by
  have hcount := hw.length_eq
  rw [Faithful, performed_step]
  -- the two lists grow by what the event adds to each
  obtain ⟨id, radios, source⟩ := e
  cases source with
  | sendMessage type x y =>
    have haction : (KernEvent.msg kev ⟨id, radios, .sendMessage type x y⟩).action
        = AsusSMCMessage.action ⟨type, x, y⟩ := kev.action_sendMessage type x y hkev
    have hnone := AsusSMCMessage.action_eq_none ⟨type, x, y⟩
    change List.Forall₂ _ (w.sent ++ [⟨type, x, y⟩]) _ ↔ KernEvent.KnownType type
    rw [haction]
    cases hact : AsusSMCMessage.action ⟨type, x, y⟩ with
    | none =>
      -- a message without an action leaves one answer missing
      refine iff_of_false (fun h => ?_) (hnone.mp hact)
      have hlength := h.length_eq
      simp at hlength
      omega
    | some a =>
      -- the answer is appended as the message is
      refine iff_of_true (List.rel_append hw (.cons hact .nil)) ?_
      by_contra hunknown
      exact absurd ((hnone.mpr hunknown).symm.trans hact) (by simp)
  | other m =>
    have hother : KernEvent.ToldApart ⟨id, radios, .other m⟩ ↔ m.action = none :=
      m.action_eq_none.symm
    change List.Forall₂ _ (w.sent ++ []) (w.daemon.performed ++ m.action.toList) ↔ _
    rw [List.append_nil, hother]
    cases hact : m.action with
    | none =>
      rw [Option.toList_none, List.append_nil]
      exact iff_of_true hw rfl
    | some a =>
      -- an action nobody has sent a message for
      refine iff_of_false (fun h => ?_) (by simp)
      have hlength := h.length_eq
      simp at hlength
      omega

end Step

/-! ### Whole runs -/

/-- **From the driver to the daemon.** In every sequence of events posted by any
parties, the daemon answers the messages sent through the driver's
`KernEventServer`, one for one, in order and with the numbers that were sent, and
answers nothing else, exactly if every message sent is of a known type and no
other event carries the event code and a message of a known type. -/
theorem kern_events_faithful_iff (d : Driver) (vendor found : Option UInt32)
    (bezelServices : Bool) (es : List KernEvent) :
    (Always (step (d.init true vendor).2.kev (Daemon.kevRequest found)) Faithful
          { daemon := { bezelServices } } es ∧
        ∀ type x y, AsusSMCMessage.ofBytes
          ((d.init true vendor).2.kev.sendMessage type x y).payload = ⟨type, x, y⟩) ↔
      ∀ e ∈ es, e.ToldApart := by
  have hdecode : ∀ type x y, AsusSMCMessage.ofBytes
      ((d.init true vendor).2.kev.sendMessage type x y).payload = ⟨type, x, y⟩ :=
    KernEventServer.ofBytes_sendMessage _
  have hinit : Faithful { daemon := { bezelServices } } := .nil
  rw [and_iff_left hdecode, ← throughout_const_iff]
  exact always_iff_throughout (I := fun _ => True) trivial (fun _ _ h => h) hinit
    (fun w e _ hw => faithful_step_iff rfl hw e) es

/-- An event of another vendor, with the daemon's event code and a message that
says sleep. -/
def foreignSleep : KernEvent where
  id := 0
  radios := ⟨true, 1⟩
  source := .other
    { vendorCode := 2000
      kevClass := 1
      kevSubclass := 1
      eventCode := AsusSMCEventCode
      dv := [LittleEndian.ofInt Daemon.kDaemonSleep, LittleEndian.ofInt 0, LittleEndian.ofInt 0] }

/-- The daemon puts the machine to sleep for it. -/
theorem foreign_event_performed :
    ¬ (Always (step (({} : Driver).init true (some 1000)).2.kev (Daemon.kevRequest (some 1000)))
          Faithful { daemon := { bezelServices := true } } [foreignSleep] ∧
        ∀ type x y, AsusSMCMessage.ofBytes
          ((({} : Driver).init true (some 1000)).2.kev.sendMessage type x y).payload
            = ⟨type, x, y⟩) := by
  rintro ⟨h, -⟩
  exact absurd h.last.length_eq (by decide)

end SocketWorld

end AsusSMC
