import AsusSMC.Model.Plugin
import AsusSMC.Model.System

/-!
# The sensor poller

The poller is a one-shot timer, and the only call that arms it again is at the
end of `refreshALS`, behind the return for a machine without a light sensor. So
the poller of such a machine dies at its first tick, and with it the fan speed,
which the same tick refreshes. `poller_armed_iff` is the exact statement.
-/

namespace AsusSMC

open EventSystem

namespace Driver

variable {d : Driver}

/-- A handler that returns `true` leaves the poller armed. -/
theorem armed_of_vsmcNotificationHandler {venv : VSMCEnv}
    (h : (d.vsmcNotificationHandler venv).1 = true) :
    (d.vsmcNotificationHandler venv).2.armed = true := by
  revert h
  simp only [vsmcNotificationHandler]
  repeat' split
  all_goals simp [setTimeoutMS, armed]

theorem armed_setTimeoutMS {p : IOTimerEventSource} (hp : d.poller = some p)
    (hloop : p.onWorkLoop = true) : d.setTimeoutMS.armed = true := by
  simp [setTimeoutMS, armed, hp, hloop]

/-- Being armed is a matter of the poller alone. -/
theorem armed_congr {d' : Driver} (h : d'.poller = d.poller) : d'.armed = d.armed := by
  rw [armed, armed, h]

theorem aliEvaluated_poller (env : Env) : (d.aliEvaluated env).poller = d.poller := by
  rw [aliEvaluated]
  split <;> rfl

/-- The poller's lambda, on a timer that has just fired. -/
theorem pollerAction_armed (env : Env) {p : IOTimerEventSource} (hp : d.poller = some p)
    (hfired : p.armed = false) (hloop : p.onWorkLoop = true) :
    (d.pollerAction env).armed = true ↔ d.alsDevice ≠ none := by
  have hfan : (d.pollerAction env).armed = (d.refreshALS env true).2.armed :=
    armed_congr (refreshFan_frame (fun _ _ => rfl) (fun _ _ => rfl) env _)
  rw [hfan]
  cases hals : d.alsDevice with
  | none =>
    -- the early return: the timer stays as it fired
    rw [refreshALS_of_none env d true hals]
    simp [armed, hp, hfired]
  | some dev =>
    -- the refresh goes on to its end, where the timer is armed
    have hpoller : (((d.aliEvaluated env).setCurrentLux (d.luxReading env)).emit
        .postInterrupt).poller = some p := (aliEvaluated_poller env).trans hp
    rw [refreshALS_of_some env d true hals, if_pos rfl, armed_setTimeoutMS hpoller hloop]
    simp

/-- **One tick** of an armed poller arms it again exactly if there is a light
sensor. -/
theorem fire_armed (env : Env) (harmed : d.armed = true) :
    (d.fire env).armed = true ↔ d.alsDevice ≠ none := by
  cases hp : d.poller with
  | none => exact absurd harmed (by simp [armed, hp])
  | some p =>
    have hboth : (p.armed && p.onWorkLoop) = true := by simpa [armed, hp] using harmed
    have hloop : p.onWorkLoop = true := (Bool.and_eq_true_iff.mp hboth).2
    have hfire : d.fire env
        = (d.setPoller (some { p with armed := false })).pollerAction env := by
      rw [fire, hp]
      exact if_pos hboth
    rw [hfire]
    exact pollerAction_armed env rfl rfl hloop

end Driver

namespace System

/-- An operation keeps an armed poller armed exactly if it is no tick, or there is
a light sensor. -/
theorem step_armed {s : System} (harmed : s.driver.armed = true) (o : Op) :
    (s.step o).driver.armed = true ↔ s.driver.alsDevice ≠ none ∨ ¬ o.IsTick := by
  by_cases ho : o.IsTick
  · cases o with
    | tick env =>
      rw [or_iff_left (not_not_intro ho)]
      exact Driver.fire_armed env harmed
    | _ => exact ho.elim
  · have hpoller : (s.step o).driver.poller = s.driver.poller :=
      step_frame .poller (fun _ _ => rfl) (fun _ _ => rfl) s ho
    rw [Driver.armed_congr hpoller]
    exact iff_of_true harmed (Or.inr ho)

theorem step_alsDevice (s : System) (o : Op) :
    (s.step o).driver.alsDevice = s.driver.alsDevice := by
  by_cases ho : o.IsTick
  · cases o with
    | tick env =>
      exact Driver.fire_frame (fun _ _ => rfl) (fun _ _ => rfl) (fun _ _ => rfl) (fun _ _ => rfl)
        env s.driver
    | _ => exact ho.elim
  · exact step_frame .alsDevice (fun _ _ => rfl) (fun _ _ => rfl) s ho

/-- **The poller.** After a handler that returned `true`, and in every run of
ticks, messages, notifications and accesses to keys: the poller is armed between
any two operations exactly if the machine has a light sensor, or no tick
happens. -/
theorem poller_armed_iff {venv : VSMCEnv} {d : Driver}
    (h : (d.vsmcNotificationHandler venv).1 = true) {s : System}
    (hs : s.driver = (d.vsmcNotificationHandler venv).2) (ops : List Op) :
    Always step (fun s => s.driver.armed = true) s ops ↔
      d.alsDevice ≠ none ∨ ∀ o ∈ ops, ¬ o.IsTick := by
  have hals : s.driver.alsDevice = d.alsDevice := by
    rw [hs]
    exact Driver.vsmcNotificationHandler_frame venv d (fun _ _ => rfl) (fun _ _ => rfl)
      fun _ _ => rfl
  have harmed : s.driver.armed = true := by
    rw [hs]
    exact Driver.armed_of_vsmcNotificationHandler h
  have hiff := always_iff_throughout (I := fun t : System => t.driver.alsDevice = d.alsDevice)
    (P := fun t : System => t.driver.armed = true)
    (G := fun _ o => d.alsDevice ≠ none ∨ ¬ Op.IsTick o) hals
    (fun t o ht => (step_alsDevice t o).trans ht) harmed
    (fun t o ht ha => by
      rw [← ht]
      exact step_armed ha o) ops
  -- the device does not change, so the guard is a condition on the operations
  rw [hiff, throughout_const_iff]
  by_cases hdev : d.alsDevice = none
  · simp [hdev]
  · simp [hdev]

/-- With a light sensor, and a tick. -/
theorem poller_armed_iff_als :
    let d : Driver := { alsDevice := some 1 }
    Always step (fun s => s.driver.armed = true)
        { driver := (d.vsmcNotificationHandler .answering).2 } [.tick .unresponsive] ↔
      d.alsDevice ≠ none ∨ ∀ o ∈ [Op.tick .unresponsive], ¬ o.IsTick :=
  poller_armed_iff rfl rfl _

/-- Without one, the first tick is the last. -/
theorem poller_dies_without_als :
    (({} : Driver).vsmcNotificationHandler .answering).1 = true ∧
      ¬ Always step (fun s => s.driver.armed = true)
        { driver := (({} : Driver).vsmcNotificationHandler .answering).2 }
        [.tick .unresponsive] := by
  refine ⟨rfl, fun h => ?_⟩
  exact absurd h.last (by decide)

end System

end AsusSMC
