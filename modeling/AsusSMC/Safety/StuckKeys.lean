import AsusSMC.Framework.TraceRefinement
import AsusSMC.Safety.Reports

/-!
# No stuck keys

Whatever notifications arrive and whatever happens to the posts, the virtual
keyboard sees taps only: a key goes down and up again before the message that
pressed it is over (`no_stuck_keys`). Which taps these are, the codes say: a
notification leads to at most one dispatch (`notified`), and the reports posted
are the taps of these dispatches.

The invariant is `Idle`, which holds between two messages. Its bound on the
saved brightness level is what makes the count of the *panel on* dispatch
non-negative as an `int`: the level is a 32-bit value divided by 64, or the
initial 16.
-/

namespace AsusSMC

open EventSystem TraceRefinement

namespace Driver

/-- The reports and the level as the constructor leaves them, and no history. -/
structure Fresh (d : Driver) : Prop where
  csmr : d.csmrreport = consumerInput
  tc : d.tcreport = appleVendorTopCaseInput
  level : d.panelBrightnessLevel = 16
  log : d.log = []

/-- All 64 key slots are zero. -/
structure KeysUp (d : Driver) : Prop where
  csmr : d.csmrreport.keys.raw = List.replicate 32 0
  tc : d.tcreport.keys.raw = List.replicate 32 0

/-- The dispatch a notification leads to, if it leads to one. -/
def notified (d : Driver) (e : Env × UInt32) : Option Dispatch :=
  d.dispatchOf e.1 (d.eventCode e.1 e.2)

/-- The count of that dispatch. -/
def loopCount (env : Env) (event : UInt32) (d : Driver) : ℕ :=
  if IsPanelCode (d.eventCode env event) then
    if d.isPanelBackLightOn then 16 else d.panelBrightnessLevel.toNat
  else 1

/-- A dispatch with a nonzero key byte and the count `n`. -/
structure Counted (n : ℕ) (x : Dispatch) : Prop where
  keyByte_ne_zero : keyByte x.code ≠ 0
  loop : x.loop.toInt = n

/-- What one notification does to the virtual keyboard. -/
structure Tapped (d : Driver) (e : Env × UInt32) : Prop where
  dispatches : Dispatches (notified d e) d (notify d e)
  counted : ∀ x ∈ notified d e, Counted (loopCount e.1 e.2 d) x
  /-- A panel code always has its dispatch. -/
  panel : IsPanelCode (d.eventCode e.1 e.2) → notified d e = some d.panelDispatch

theorem Fresh.idle {d : Driver} (h : Fresh d) : Idle d where
  csmr := h.csmr
  tc := h.tc
  level := by
    rw [h.level]
    decide

theorem Idle.keysUp {d : Driver} (h : Idle d) : KeysUp d where
  csmr := by
    rw [h.csmr]
    rfl
  tc := by
    rw [h.tc]
    rfl

/-! ### One message -/

section Step

variable {d : Driver} (env : Env)

/-- The evaluation before a message does not touch what a dispatch depends on. -/
theorem dispatchOf_wedEvaluated (event : UInt32) (code : Int32) (d : Driver) :
    (d.wedEvaluated env event).dispatchOf env code = d.dispatchOf env code := by
  rw [wedEvaluated]
  split
  · rfl
  · rfl

theorem panelDispatch_counted (hidle : Idle d) :
    Counted (if d.isPanelBackLightOn then 16 else d.panelBrightnessLevel.toNat)
      d.panelDispatch := by
  have hdown : keyByte kHIDUsage_AV_TopCase_BrightnessDown ≠ 0 := by decide
  have hup : keyByte kHIDUsage_AV_TopCase_BrightnessUp ≠ 0 := by decide
  rw [panelDispatch]
  cases d.isPanelBackLightOn with
  | true => exact ⟨hdown, rfl⟩
  | false =>
    -- coming back: the saved level is small, so the conversion keeps it
    have hlevel := hidle.level
    exact ⟨hup, Countdown.toInt_toInt32_of_lt (by omega)⟩

theorem notified_counted (hidle : Idle d) (event : UInt32) {x : Dispatch}
    (hx : x ∈ notified d (env, event)) : Counted (loopCount env event d) x := by
  rw [notified] at hx
  rw [loopCount]
  -- the panel switch has a count of its own, every other key one tap
  by_cases hcode : IsPanelCode (d.eventCode env event)
  · rw [dispatchOf_of_panel env hcode, Option.mem_some_iff] at hx
    rw [if_pos hcode, ← hx]
    exact panelDispatch_counted hidle
  · have hkey := dispatchOf_of_not_panel env hcode hx
    rw [if_neg hcode]
    exact ⟨hkey.keyByte_ne_zero, congrArg Int32.toInt hkey.loop⟩

/-- **Step lemma.** A notification keeps the driver idle and posts the taps of its dispatch. -/
theorem notify_idle (hidle : Idle d) (e : Env × UInt32) :
    Idle (notify d e) ∧ Tapped d e := by
  obtain ⟨env, event⟩ := e
  obtain ⟨hidle₁, ⟨es, hes, hpost, hdisp⟩, -, -⟩ := wedEvaluated_quiet env hidle event
  obtain ⟨hidle', htaps⟩ := handleMessage_dispatches env hidle₁ (d.eventCode env event)
  rw [dispatchOf_wedEvaluated] at htaps
  have hnotify : notify d (env, event)
      = (d.wedEvaluated env event).handleMessage env (d.eventCode env event) :=
    message_deviceNotification env event d
  refine ⟨hnotify ▸ hidle', ?_, fun x hx => notified_counted env hidle event hx,
    fun hcode => dispatchOf_of_panel env hcode d⟩
  rw [hnotify]
  exact htaps.after_quiet hes hpost hdisp

end Step

/-! ### Whole runs -/

/-- **No stuck keys.** In every run of notifications from a fresh driver, under
any environment: all key slots are zero between two messages; the dispatches are
those the codes lead to, and the reports posted are their taps, in order; and
every dispatch has a nonzero key byte and a non-negative count, `1` for a hotkey,
`16` to switch the panel off, and the saved level to switch it on. -/
theorem no_stuck_keys {d : Driver} (hd : Fresh d) (es : List (Env × UInt32)) :
    Always notify KeysUp d es ∧
      dispatched (run notify d es).log = trace notify (fun d e => (notified d e).toList) d es ∧
      posted (run notify d es).log
        = (trace notify (fun d e => (notified d e).toList) d es).flatMap taps ∧
      Throughout notify Tapped d es := by
  have hstep : ∀ d e, Idle d → Idle (notify d e) := fun d e h => (notify_idle h e).1
  have hidle : Always notify Idle d es := .of_step hd.idle hstep es
  -- both histories grow by what each notification leads to
  have hdispatched : ∀ d e, Idle d →
      dispatched (notify d e).log = dispatched d.log ++ (notified d e).toList := by
    intro d e h
    obtain ⟨fs, hfs, hdisp, -⟩ := (notify_idle h e).2.dispatches
    rw [hfs, dispatched_append, hdisp]
  have hposted : ∀ d e, Idle d →
      posted (notify d e).log = posted d.log ++ (notified d e).toList.flatMap taps := by
    intro d e h
    obtain ⟨fs, hfs, -, hpost⟩ := (notify_idle h e).2.dispatches
    rw [hfs, posted_append, hpost]
  refine ⟨hidle.mono fun _ h => h.keysUp, ?_, ?_, ?_⟩
  · have hrun := run_accumulates (f := fun d => dispatched d.log) Idle hstep hdispatched hd.idle es
    rw [hd.log] at hrun
    exact hrun
  · have hrun := run_accumulates (f := fun d => posted d.log) Idle hstep hposted hd.idle es
    rw [hd.log, trace_flatMap] at hrun
    exact hrun
  · intro pre e post hsplit
    exact (notify_idle (hidle pre ⟨e :: post, hsplit.symm⟩) e).2

/-- The panel off and on again, from a brightness of `1000`: sixteen taps down and fifteen
up. There is no keyboard, so every post fails. -/
theorem no_stuck_keys_panel :
    let d : Driver := { directACPImessaging := true }
    let es := [(Env.brightness 1000, 0x33), (Env.brightness 1000, 0x33)]
    Always notify KeysUp d es ∧
      posted (run notify d es).log
        = taps ⟨3, kHIDUsage_AV_TopCase_BrightnessDown, 16⟩ ++
          taps ⟨3, kHIDUsage_AV_TopCase_BrightnessUp, 15⟩ ∧
      Throughout notify Tapped d es := by
  intro d es
  obtain ⟨hup, -, hposted, htapped⟩ := no_stuck_keys (d := d) ⟨rfl, rfl, rfl, rfl⟩ es
  have htrace : trace notify (fun d e => (notified d e).toList) d es
      = [⟨3, kHIDUsage_AV_TopCase_BrightnessDown, 16⟩,
        ⟨3, kHIDUsage_AV_TopCase_BrightnessUp, 15⟩] := by
    decide +kernel
  rw [htrace] at hposted
  exact ⟨hup, hposted, htapped⟩

end Driver

end AsusSMC
