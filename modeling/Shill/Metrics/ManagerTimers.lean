import Mathlib.Tactic.SplitIfs
import Shill.Metrics.Timer

/-!
# Time online, time to drop, termination actions

Model of the timers `Metrics` keeps for the manager (`metrics.cc`):

* `NotifyDefaultServiceChanged(service)`: `time_online_timer_` restarts whenever the technology
  of the default service changes (`kUnknown` when there is none), and on a change away from a
  known technology it first reports `TimeOnline` for that technology. `time_to_drop_timer_`
  starts when the host goes online (a default service after none) and is read, as `TimeToDrop`,
  when it goes offline. Both report whole seconds: `InSeconds()` of a time in milliseconds. The
  two readings go through one local `elapsed_seconds`, which a reading that fails leaves as it
  was; the model keeps that.
* `NotifyTerminationActionsStarted(reason)` starts `time_termination_actions_timer` unless it
  runs; `NotifyTerminationActionsCompleted(reason, success)`, when it runs, reports its time and
  the result to the histograms of `reason` and resets it.

A default service is given by its technology, `none` for no service. `Technology::kUnknown` is
a parameter `unknown` (`technology.h` is not in this snapshot), and the values of
`TerminationActionResult` (`metrics.h`) are taken to be the enumerators' positions.

## Results

* `notifyDefaultServiceChanged_samples`: after any sequence of default-service changes, the next
  one sends what the sequence says: `TimeOnline` of the outgoing technology, measured from the
  change that made it the default's technology, and `TimeToDrop`, measured from the change that
  brought the host online.
* `notifyTerminationActionsCompleted_samples`: a completion reports the time since the **first**
  start after the previous completion: a start while actions run does not restart the timer.
-/

namespace Shill.Metrics

/-- `Metrics::kMetricTimeOnlineSeconds`. -/
def kMetricTimeOnlineSeconds : String := "Network.Shill.%s.TimeOnline"
/-- `Metrics::kMetricTimeToDropSeconds`. -/
def kMetricTimeToDropSeconds : String := "Network.Shill.TimeToDrop"
/-- `Metrics::kMetricTerminationActionTimeOnTerminate`. -/
def kMetricTerminationActionTimeOnTerminate : String :=
  "Network.Shill.TerminationActionTime.OnTerminate"
/-- `Metrics::kMetricTerminationActionResultOnTerminate`. -/
def kMetricTerminationActionResultOnTerminate : String :=
  "Network.Shill.TerminationActionResult.OnTerminate"
/-- `Metrics::kMetricTerminationActionTimeOnSuspend`. -/
def kMetricTerminationActionTimeOnSuspend : String :=
  "Network.Shill.TerminationActionTime.OnSuspend"
/-- `Metrics::kMetricTerminationActionResultOnSuspend`. -/
def kMetricTerminationActionResultOnSuspend : String :=
  "Network.Shill.TerminationActionResult.OnSuspend"
/-- `Metrics::kTerminationActionResultSuccess`. -/
def kTerminationActionResultSuccess : Nat := 0
/-- `Metrics::kTerminationActionResultFailure`. -/
def kTerminationActionResultFailure : Nat := 1

/-- `TimeDelta::InSeconds()` of a time in milliseconds. -/
def inSeconds (milliseconds : Nat) : Nat := milliseconds / 1000

variable {τ : Type}

/-! ## The default service -/

/-- The fields of `Metrics` that `NotifyDefaultServiceChanged` uses, and the samples sent. -/
structure DefaultServiceMetrics (τ : Type) where
  lastDefaultTechnology : τ
  wasOnline : Bool
  timeOnlineTimer : Timer
  timeToDropTimer : Timer
  samples : List (Sample τ)

namespace DefaultServiceMetrics

variable [DecidableEq τ] (unknown : τ)

/-- As `Metrics::Metrics` leaves them. -/
def init : DefaultServiceMetrics τ := ⟨unknown, false, Timer.init, Timer.init, []⟩

/-- The first half of `NotifyDefaultServiceChanged`: on a change of the default technology,
report `TimeOnline` for a known outgoing one, and restart `time_online_timer_`. Also returns
`elapsed_seconds`. -/
def updateTimeOnline (m : DefaultServiceMetrics τ) (technology : τ) (now : Nat) :
    DefaultServiceMetrics τ × Nat :=
  if technology ≠ m.lastDefaultTechnology then
    let report :=
      if m.lastDefaultTechnology ≠ unknown then
        let elapsed := (m.timeOnlineTimer.getElapsedTime now).getD 0
        ([⟨.full kMetricTimeOnlineSeconds m.lastDefaultTechnology, inSeconds elapsed⟩], elapsed)
      else ([], 0)
    ({ m with
        samples := m.samples ++ report.1
        lastDefaultTechnology := technology
        timeOnlineTimer := m.timeOnlineTimer.start now }, report.2)
  else (m, 0)

/-- The second half of `NotifyDefaultServiceChanged`: nothing unless the host goes online or
offline; going online starts `time_to_drop_timer_`, going offline reports it as `TimeToDrop`. -/
def updateTimeToDrop (m : DefaultServiceMetrics τ) (service : Option τ) (now elapsed : Nat) :
    DefaultServiceMetrics τ :=
  if (service.isNone && !m.wasOnline) || (service.isSome && m.wasOnline) then m
  else
    let m :=
      if service.isNone then
        let elapsed := (m.timeToDropTimer.getElapsedTime now).getD elapsed
        { m with
          samples := m.samples ++ [⟨.fixed kMetricTimeToDropSeconds, inSeconds elapsed⟩] }
      else { m with timeToDropTimer := m.timeToDropTimer.start now }
    { m with wasOnline := service.isSome }

/-- `NotifyDefaultServiceChanged(service)` at `now`, `service` given by its technology. -/
def notifyDefaultServiceChanged (m : DefaultServiceMetrics τ) (service : Option τ) (now : Nat) :
    DefaultServiceMetrics τ :=
  let timeOnline := m.updateTimeOnline unknown (service.getD unknown) now
  timeOnline.1.updateTimeToDrop service now timeOnline.2

/-- A sequence of default-service changes, each with its time. -/
def run (m : DefaultServiceMetrics τ) (changes : List (Nat × Option τ)) :
    DefaultServiceMetrics τ :=
  changes.foldl (fun m c => m.notifyDefaultServiceChanged unknown c.2 c.1) m

end DefaultServiceMetrics

/-! ## What a sequence of changes says -/

section Changes

variable {α β : Type} (key : α → β)

/-- The key of the latest change of `changes`, `initial` before any. -/
def current (initial : β) : List (Nat × α) → β
  | [] => initial
  | (_, a) :: changes => current (key a) changes

/-- The time of the latest change of `changes` that changed the key, starting from `initial`. -/
def lastChange [DecidableEq β] (initial : β) : List (Nat × α) → Option Nat
  | [] => none
  | (t, a) :: changes =>
    (lastChange (key a) changes).or (if key a ≠ initial then some t else none)

theorem current_append_singleton (initial : β) (changes : List (Nat × α)) (t : Nat) (a : α) :
    current key initial (changes ++ [(t, a)]) = key a := by
  induction changes generalizing initial with
  | nil => rfl
  | cons c changes ih => exact ih _

variable [DecidableEq β]

/-- A change that changes the key is the latest change; any other leaves it. -/
theorem lastChange_append_singleton (initial : β) (changes : List (Nat × α)) (t : Nat) (a : α) :
    lastChange key initial (changes ++ [(t, a)]) =
      if key a ≠ current key initial changes then some t
      else lastChange key initial changes := by
  induction changes generalizing initial with
  | nil => simp [lastChange, current]
  | cons c changes ih =>
    rw [List.cons_append, lastChange, ih, lastChange, current]
    split_ifs <;> simp

/-- A key other than the initial one was set by some change. -/
theorem lastChange_isSome {initial : β} {changes : List (Nat × α)}
    (h : current key initial changes ≠ initial) : (lastChange key initial changes).isSome := by
  induction changes generalizing initial with
  | nil => exact absurd rfl h
  | cons c changes ih =>
    rw [lastChange, Option.isSome_or]
    by_cases hc : current key (key c.2) changes = key c.2
    · have : key c.2 ≠ initial := by rwa [current, hc] at h
      simp [this]
    · simp [ih hc]

end Changes

/-! ## What the changes say the timers send -/

section DefaultService

variable [DecidableEq τ] (unknown : τ)

/-- The `TimeOnline` a change of the default service to `service` at `now` should send after
the changes `changes`: on a change away from a known technology, the time since it became the
default's technology. -/
def expectedTimeOnline (changes : List (Nat × Option τ)) (service : Option τ) (now : Nat) :
    List (Sample τ) :=
  let technology := current (·.getD unknown) unknown changes
  if service.getD unknown ≠ technology ∧ technology ≠ unknown then
    (lastChange (·.getD unknown) unknown changes).toList.map fun start =>
      ⟨.full kMetricTimeOnlineSeconds technology, inSeconds (now - start)⟩
  else []

/-- The `TimeToDrop` a change of the default service to `service` at `now` should send after
the changes `changes`: when the host goes offline, the time since it went online. -/
def expectedTimeToDrop (changes : List (Nat × Option τ)) (service : Option τ) (now : Nat) :
    List (Sample τ) :=
  if service = none ∧ current Option.isSome false changes = true then
    (lastChange Option.isSome false changes).toList.map fun start =>
      ⟨.fixed kMetricTimeToDropSeconds, inSeconds (now - start)⟩
  else []

/-! ## The default-service timers refine the changes -/

namespace DefaultServiceMetrics

variable {unknown}

section Halves

variable (m : DefaultServiceMetrics τ) (technology : τ) (service : Option τ) (now elapsed : Nat)

@[simp] theorem updateTimeOnline_lastDefaultTechnology :
    (m.updateTimeOnline unknown technology now).1.lastDefaultTechnology = technology := by
  unfold updateTimeOnline
  split_ifs with h <;> first | rfl | exact (Decidable.of_not_not h).symm

@[simp] theorem updateTimeOnline_wasOnline :
    (m.updateTimeOnline unknown technology now).1.wasOnline = m.wasOnline := by
  unfold updateTimeOnline; split_ifs <;> rfl

@[simp] theorem updateTimeOnline_timeToDropTimer :
    (m.updateTimeOnline unknown technology now).1.timeToDropTimer = m.timeToDropTimer := by
  unfold updateTimeOnline; split_ifs <;> rfl

theorem updateTimeOnline_timeOnlineTimer :
    (m.updateTimeOnline unknown technology now).1.timeOnlineTimer =
      if technology ≠ m.lastDefaultTechnology then m.timeOnlineTimer.start now
      else m.timeOnlineTimer := by
  unfold updateTimeOnline; split_ifs <;> rfl

theorem updateTimeOnline_samples :
    (m.updateTimeOnline unknown technology now).1.samples =
      m.samples ++
        if technology ≠ m.lastDefaultTechnology ∧ m.lastDefaultTechnology ≠ unknown then
          [⟨.full kMetricTimeOnlineSeconds m.lastDefaultTechnology,
            inSeconds ((m.timeOnlineTimer.getElapsedTime now).getD 0)⟩]
        else [] := by
  unfold updateTimeOnline; split_ifs <;> simp_all

end Halves

section Halves

omit [DecidableEq τ]

variable (m : DefaultServiceMetrics τ) (service : Option τ) (now elapsed : Nat)

@[simp] theorem updateTimeToDrop_lastDefaultTechnology :
    (m.updateTimeToDrop service now elapsed).lastDefaultTechnology = m.lastDefaultTechnology := by
  unfold updateTimeToDrop; split_ifs <;> rfl

@[simp] theorem updateTimeToDrop_timeOnlineTimer :
    (m.updateTimeToDrop service now elapsed).timeOnlineTimer = m.timeOnlineTimer := by
  unfold updateTimeToDrop; split_ifs <;> rfl

@[simp] theorem updateTimeToDrop_wasOnline :
    (m.updateTimeToDrop service now elapsed).wasOnline = service.isSome := by
  unfold updateTimeToDrop
  cases service <;> cases h : m.wasOnline <;> simp [h]

theorem updateTimeToDrop_timeToDropTimer :
    (m.updateTimeToDrop service now elapsed).timeToDropTimer =
      if service.isSome ∧ m.wasOnline = false then m.timeToDropTimer.start now
      else m.timeToDropTimer := by
  unfold updateTimeToDrop
  cases service <;> cases h : m.wasOnline <;> simp [h]

theorem updateTimeToDrop_samples :
    (m.updateTimeToDrop service now elapsed).samples =
      m.samples ++
        if service.isNone ∧ m.wasOnline = true then
          [⟨.fixed kMetricTimeToDropSeconds,
            inSeconds ((m.timeToDropTimer.getElapsedTime now).getD elapsed)⟩]
        else [] := by
  unfold updateTimeToDrop
  cases service <;> cases h : m.wasOnline <;> simp [h]

end Halves

variable (unknown) in
/-- `m` holds what the changes `changes` say: the default's technology and whether the host is
online, `time_online_timer_` running since the technology last changed, and, while online,
`time_to_drop_timer_` running since the host went online. -/
structure Tracks (changes : List (Nat × Option τ)) (m : DefaultServiceMetrics τ) : Prop where
  technology : m.lastDefaultTechnology = current (·.getD unknown) unknown changes
  online : m.wasOnline = current Option.isSome false changes
  timeOnline : Timer.HoldsStart (lastChange (·.getD unknown) unknown changes) m.timeOnlineTimer
  timeToDrop : m.wasOnline = true →
    Timer.HoldsStart (lastChange Option.isSome false changes) m.timeToDropTimer

theorem tracks_init : Tracks unknown [] (init unknown) := ⟨rfl, rfl, rfl, fun h => nomatch h⟩

theorem timeOnline_samples {changes : List (Nat × Option τ)} {m : DefaultServiceMetrics τ}
    (h : Tracks unknown changes m) (service : Option τ) (now : Nat) :
    (if service.getD unknown ≠ m.lastDefaultTechnology ∧
        m.lastDefaultTechnology ≠ unknown then
      [⟨.full kMetricTimeOnlineSeconds m.lastDefaultTechnology,
        inSeconds ((m.timeOnlineTimer.getElapsedTime now).getD 0)⟩]
    else []) = expectedTimeOnline unknown changes service now := by
  simp only [expectedTimeOnline, ← h.technology]
  split_ifs with hc
  · obtain ⟨start, hs⟩ := Option.isSome_iff_exists.mp
      (lastChange_isSome _ (h.technology ▸ hc.2 : current _ unknown changes ≠ unknown))
    have hrun := h.timeOnline
    rw [hs] at hrun
    simp [hs, Timer.getElapsedTime_of_holdsStart hrun]
  · rfl

theorem timeToDrop_samples {changes : List (Nat × Option τ)} {m : DefaultServiceMetrics τ}
    (h : Tracks unknown changes m) (service : Option τ) (now elapsed : Nat) :
    (if service.isNone ∧ m.wasOnline = true then
      [⟨.fixed kMetricTimeToDropSeconds,
        inSeconds ((m.timeToDropTimer.getElapsedTime now).getD elapsed)⟩]
    else []) = expectedTimeToDrop changes service now := by
  simp only [expectedTimeToDrop, ← h.online]
  cases service with
  | some _ => simp
  | none =>
    by_cases hw : m.wasOnline = true
    · have hc : current Option.isSome false changes ≠ false := by rw [← h.online, hw]; decide
      obtain ⟨start, hs⟩ := Option.isSome_iff_exists.mp (lastChange_isSome _ hc)
      have hrun := h.timeToDrop hw
      rw [hs] at hrun
      simp [hw, hs, Timer.getElapsedTime_of_holdsStart hrun]
    · simp [hw]

/-- **One change keeps `Tracks`**, and sends what the changes before it say. -/
theorem Tracks.notify {changes : List (Nat × Option τ)} {m : DefaultServiceMetrics τ}
    (h : Tracks unknown changes m) (service : Option τ) (now : Nat) :
    Tracks unknown (changes ++ [(now, service)])
      (m.notifyDefaultServiceChanged unknown service now) ∧
    (m.notifyDefaultServiceChanged unknown service now).samples =
      m.samples ++ expectedTimeOnline unknown changes service now ++
        expectedTimeToDrop changes service now := by
  have hlast := lastChange_append_singleton (·.getD unknown) unknown changes now service
  have honline := lastChange_append_singleton Option.isSome false changes now service
  rw [← h.technology] at hlast
  rw [← h.online] at honline
  simp only [notifyDefaultServiceChanged]
  refine ⟨⟨?_, ?_, ?_, ?_⟩, ?_⟩
  · simp [current_append_singleton]
  · simp [current_append_singleton]
  · rw [updateTimeToDrop_timeOnlineTimer, updateTimeOnline_timeOnlineTimer, hlast]
    split_ifs
    · exact Timer.holdsStart_start _ _
    · exact h.timeOnline
  · intro hon
    simp only [updateTimeToDrop_wasOnline] at hon
    rw [updateTimeToDrop_timeToDropTimer, updateTimeOnline_wasOnline,
      updateTimeOnline_timeToDropTimer, honline]
    cases hw : m.wasOnline
    · simp [hon]
      exact Timer.holdsStart_start _ _
    · simpa [hon] using h.timeToDrop hw
  · rw [updateTimeToDrop_samples, updateTimeOnline_samples, timeOnline_samples h,
      updateTimeOnline_wasOnline, updateTimeOnline_timeToDropTimer, timeToDrop_samples h]

theorem tracks_run (changes : List (Nat × Option τ)) :
    ∀ {pre : List (Nat × Option τ)} {m : DefaultServiceMetrics τ}, Tracks unknown pre m →
      Tracks unknown (pre ++ changes) (m.run unknown changes) := by
  induction changes with
  | nil => intro pre m h; simpa [run] using h
  | cons c changes ih =>
    intro pre m h
    simpa [run] using ih (h.notify c.2 c.1).1

end DefaultServiceMetrics

/-- **The default-service timers refine the changes.** After any sequence of changes of the
default service, the next change sends `TimeOnline` for a known outgoing technology, in whole
seconds since that technology became the default's, and, when the host goes offline,
`TimeToDrop`, in whole seconds since it went online. -/
theorem notifyDefaultServiceChanged_samples (changes : List (Nat × Option τ))
    (service : Option τ) (now : Nat) :
    (((DefaultServiceMetrics.init unknown).run unknown changes).notifyDefaultServiceChanged
      unknown service now).samples =
      ((DefaultServiceMetrics.init unknown).run unknown changes).samples ++
        expectedTimeOnline unknown changes service now ++ expectedTimeToDrop changes service now :=
  (DefaultServiceMetrics.tracks_run changes DefaultServiceMetrics.tracks_init).notify service now
    |>.2

end DefaultService

/-! ## Termination actions -/

/-- `Metrics::TerminationActionReason`. -/
inductive TerminationActionReason
  | suspend
  | terminate
  deriving DecidableEq, Repr

/-- The histograms of the time and of the result of the termination actions for `reason`. -/
def terminationActionMetrics : TerminationActionReason → String × String
  | .suspend => (kMetricTerminationActionTimeOnSuspend, kMetricTerminationActionResultOnSuspend)
  | .terminate =>
    (kMetricTerminationActionTimeOnTerminate, kMetricTerminationActionResultOnTerminate)

/-- `time_termination_actions_timer`, and the samples sent. -/
structure TerminationActionsMetrics (τ : Type) where
  timeTerminationActionsTimer : Timer
  samples : List (Sample τ)

namespace TerminationActionsMetrics

/-- As `Metrics::Metrics` leaves them. -/
def init : TerminationActionsMetrics τ := ⟨Timer.init, []⟩

/-- `NotifyTerminationActionsStarted(reason)` at `now`. -/
def notifyTerminationActionsStarted (m : TerminationActionsMetrics τ) (now : Nat) :
    TerminationActionsMetrics τ :=
  if m.timeTerminationActionsTimer.running then m
  else { m with timeTerminationActionsTimer := m.timeTerminationActionsTimer.start now }

/-- `NotifyTerminationActionsCompleted(reason, success)` at `now`. -/
def notifyTerminationActionsCompleted (m : TerminationActionsMetrics τ)
    (reason : TerminationActionReason) (success : Bool) (now : Nat) :
    TerminationActionsMetrics τ :=
  if !m.timeTerminationActionsTimer.running then m
  else
    let result := if success then kTerminationActionResultSuccess
      else kTerminationActionResultFailure
    let elapsed := (m.timeTerminationActionsTimer.getElapsedTime now).getD 0
    { m with
      timeTerminationActionsTimer := m.timeTerminationActionsTimer.reset
      samples := m.samples ++ [⟨.fixed (terminationActionMetrics reason).1, elapsed⟩,
        ⟨.fixed (terminationActionMetrics reason).2, result⟩] }

end TerminationActionsMetrics

/-- A call about termination actions. -/
inductive TerminationCall
  | started (now : Nat)
  | completed (reason : TerminationActionReason) (success : Bool) (now : Nat)
  deriving DecidableEq, Repr

namespace TerminationActionsMetrics

/-- One call. -/
def step (m : TerminationActionsMetrics τ) : TerminationCall → TerminationActionsMetrics τ
  | .started now => m.notifyTerminationActionsStarted now
  | .completed reason success now => m.notifyTerminationActionsCompleted reason success now

/-- A sequence of calls. -/
def run (m : TerminationActionsMetrics τ) (cs : List TerminationCall) :
    TerminationActionsMetrics τ :=
  cs.foldl step m

end TerminationActionsMetrics

/-- The time of a start, `none` for a completion. -/
def TerminationCall.startTime : TerminationCall → Option Nat
  | .started now => some now
  | .completed .. => none

/-- The time of the earliest start since the last completion. -/
def pendingTermination (cs : List TerminationCall) : Option Nat :=
  ((cs.reverse.takeWhile fun c => c.startTime.isSome).filterMap TerminationCall.startTime).getLast?

/-! ## The termination-actions timer refines its calls -/

/-- A start is pending from the first start after the last completion. -/
theorem pendingTermination_started (cs : List TerminationCall) (now : Nat) :
    pendingTermination (cs ++ [.started now]) = some ((pendingTermination cs).getD now) := by
  simp [pendingTermination, TerminationCall.startTime, List.getLast?_cons]

theorem pendingTermination_completed (cs : List TerminationCall)
    (reason : TerminationActionReason) (success : Bool) (now : Nat) :
    pendingTermination (cs ++ [.completed reason success now]) = none := by
  simp [pendingTermination, TerminationCall.startTime]

namespace TerminationActionsMetrics

theorem holdsStart_step {cs : List TerminationCall} {m : TerminationActionsMetrics τ}
    (h : Timer.HoldsStart (pendingTermination cs) m.timeTerminationActionsTimer)
    (c : TerminationCall) :
    Timer.HoldsStart (pendingTermination (cs ++ [c])) (m.step c).timeTerminationActionsTimer := by
  cases c with
  | started now =>
    rw [pendingTermination_started]
    cases hp : pendingTermination cs with
    | none =>
      rw [hp] at h
      simpa [step, notifyTerminationActionsStarted, show m.timeTerminationActionsTimer.running =
        false from h] using Timer.holdsStart_start _ now
    | some start =>
      rw [hp] at h
      simpa [step, notifyTerminationActionsStarted, h.1] using h
  | completed reason success now =>
    rw [pendingTermination_completed]
    unfold step notifyTerminationActionsCompleted
    split_ifs with hr
    · simpa using hr
    · exact Timer.reset_running _

theorem holdsStart_run (cs : List TerminationCall) :
    ∀ {pre : List TerminationCall} {m : TerminationActionsMetrics τ},
      Timer.HoldsStart (pendingTermination pre) m.timeTerminationActionsTimer →
      Timer.HoldsStart (pendingTermination (pre ++ cs)) (m.run cs).timeTerminationActionsTimer := by
  induction cs with
  | nil => intro pre m h; simpa [run] using h
  | cons c cs ih =>
    intro pre m h
    simpa [run] using ih (holdsStart_step h c)

end TerminationActionsMetrics

/-- **A completion reports the time since the first pending start.** After any sequence of
starts and completions of the termination actions, a completion for `reason` sends, when a start
is pending, the time since the earliest start after the last completion and the result, to the
histograms of `reason`; otherwise it sends nothing. -/
theorem notifyTerminationActionsCompleted_samples (cs : List TerminationCall)
    (reason : TerminationActionReason) (success : Bool) (now : Nat) :
    (((TerminationActionsMetrics.init : TerminationActionsMetrics τ).run cs
      ).notifyTerminationActionsCompleted reason success now).samples =
      ((TerminationActionsMetrics.init : TerminationActionsMetrics τ).run cs).samples ++
        (pendingTermination cs).toList.flatMap fun start =>
          [⟨.fixed (terminationActionMetrics reason).1, now - start⟩,
            ⟨.fixed (terminationActionMetrics reason).2,
              if success then kTerminationActionResultSuccess
              else kTerminationActionResultFailure⟩] := by
  have h : Timer.HoldsStart (pendingTermination ([] ++ cs))
      ((TerminationActionsMetrics.init : TerminationActionsMetrics τ).run cs
        ).timeTerminationActionsTimer :=
    TerminationActionsMetrics.holdsStart_run cs rfl
  rw [List.nil_append] at h
  unfold TerminationActionsMetrics.notifyTerminationActionsCompleted
  cases hp : pendingTermination cs with
  | none =>
    rw [hp] at h
    simp [show ((TerminationActionsMetrics.init : TerminationActionsMetrics τ).run cs
      ).timeTerminationActionsTimer.running = false from h]
  | some start =>
    rw [hp] at h
    simp [h.1, Timer.getElapsedTime_of_holdsStart h]

/- A second start while the actions run does not restart the timer: the completion reports
the time since the first. -/
example :
    (((TerminationActionsMetrics.init : TerminationActionsMetrics Unit).run
      [.started 100, .started 400]).notifyTerminationActionsCompleted .suspend true 700).samples =
      [⟨.fixed kMetricTerminationActionTimeOnSuspend, 600⟩,
        ⟨.fixed kMetricTerminationActionResultOnSuspend, kTerminationActionResultSuccess⟩] := by
  decide

end Shill.Metrics
