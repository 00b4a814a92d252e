import Mathlib.Logic.Basic

/-!
# Timers and samples

`Metrics` measures durations with `chromeos_metrics::Timer` and `TimerReporter` (libmetrics),
which are not in this snapshot. They are modelled here by what `metrics.cc` relies on, against
a clock reading `now` in milliseconds that each call is given:

* `Start()` records `now` and makes the timer run; `HasStarted()` says whether it runs.
* `Stop()` returns `false` on a timer that does not run; otherwise it keeps the time since the
  start and stops the timer.
* `Reset()` stops the timer.
* `GetElapsedTime(&t)` returns `false` on a timer never started, leaving `t` as it was; otherwise
  it gives the time since the start while the timer runs, and the kept time once it stopped.
* `TimerReporter::ReportMilliseconds()` sends the elapsed time to the timer's histogram, when
  there is one.

A histogram is named either by `GetFullMetricName(metric, technology)`, whose text depends on
`Technology::NameFromIdentifier` (not in this snapshot), or by a fixed name.
-/

namespace Shill.Metrics

/-- `chromeos_metrics::Timer`. -/
structure Timer where
  running : Bool
  startTime : Option Nat
  elapsedTime : Nat
  deriving DecidableEq, Repr

namespace Timer

/-- A timer as constructed: never started. -/
def init : Timer := ⟨false, none, 0⟩

/-- `Start()`. -/
def start (t : Timer) (now : Nat) : Timer := { t with running := true, startTime := some now }

/-- `Stop()`: the timer after the call and what the call returns. -/
def stop (t : Timer) (now : Nat) : Timer × Bool :=
  if t.running then
    ({ t with running := false, elapsedTime := now - t.startTime.getD now }, true)
  else (t, false)

/-- `Reset()`. -/
def reset (t : Timer) : Timer := { t with running := false }

/-- `GetElapsedTime(&elapsed)`: `none` where the call returns `false`. -/
def getElapsedTime (t : Timer) (now : Nat) : Option Nat :=
  t.startTime.map fun s => if t.running then now - s else t.elapsedTime

@[simp] theorem start_running (t : Timer) (now : Nat) : (t.start now).running = true := rfl

@[simp] theorem start_startTime (t : Timer) (now : Nat) : (t.start now).startTime = some now :=
  rfl

@[simp] theorem reset_running (t : Timer) : t.reset.running = false := rfl

@[simp] theorem stop_running (t : Timer) (now : Nat) : (t.stop now).1.running = false := by
  unfold stop; split <;> simp_all

@[simp] theorem stop_eq_false (t : Timer) (now : Nat) :
    (t.stop now).2 = false ↔ t.running = false := by
  unfold stop; split <;> simp_all

/-- `Stop()` on a timer that does not run changes nothing. -/
theorem stop_of_not_running {t : Timer} (h : t.running = false) (now : Nat) :
    t.stop now = (t, false) := by
  simp [stop, h]

/-- The timer holds the pending start `p`: it runs since `p` when there is one, and is stopped
otherwise. -/
def HoldsStart : Option Nat → Timer → Prop
  | none, t => t.running = false
  | some start, t => t.running = true ∧ t.startTime = some start

theorem holdsStart_start (t : Timer) (now : Nat) : HoldsStart (some now) (t.start now) :=
  ⟨rfl, rfl⟩

/-- A timer running since `start` reads the time since then. -/
theorem getElapsedTime_of_holdsStart {t : Timer} {start : Nat} (h : HoldsStart (some start) t)
    (now : Nat) : t.getElapsedTime now = some (now - start) := by
  simp [getElapsedTime, h.1, h.2]

end Timer

/-- The name of a histogram. -/
inductive Histogram (τ : Type)
  /-- `GetFullMetricName(metric, technology)`. -/
  | full (metric : String) (technology : τ)
  /-- A name that holds no technology. -/
  | fixed (metric : String)
  deriving DecidableEq, Repr

/-- A sample sent to UMA with `SendToUMA(name, sample, ...)`. -/
structure Sample (τ : Type) where
  histogram : Histogram τ
  sample : Nat
  deriving DecidableEq, Repr

/-- `chromeos_metrics::TimerReporter`: a timer and the histogram it reports to. -/
structure TimerReporter (τ : Type) where
  histogram : Histogram τ
  timer : Timer
  deriving DecidableEq, Repr

namespace TimerReporter

variable {τ : Type}

/-- `ReportMilliseconds()`: the samples it sends. -/
def reportMilliseconds (r : TimerReporter τ) (now : Nat) : List (Sample τ) :=
  (r.timer.getElapsedTime now).toList.map fun elapsed => ⟨r.histogram, elapsed⟩

/-- `if (Stop()) ReportMilliseconds();`: the reporter after the calls and the samples sent. -/
def stopAndReport (r : TimerReporter τ) (now : Nat) : TimerReporter τ × List (Sample τ) :=
  let stop := r.timer.stop now
  let r := { r with timer := stop.1 }
  (r, if stop.2 then r.reportMilliseconds now else [])

@[simp] theorem stopAndReport_histogram (r : TimerReporter τ) (now : Nat) :
    (r.stopAndReport now).1.histogram = r.histogram := rfl

@[simp] theorem stopAndReport_running (r : TimerReporter τ) (now : Nat) :
    (r.stopAndReport now).1.timer.running = false := Timer.stop_running r.timer now

/-- A running timer reports the time since its start; a stopped one reports nothing. -/
theorem stopAndReport_samples (r : TimerReporter τ) (now : Nat) :
    (r.stopAndReport now).2 =
      if r.timer.running then
        r.timer.startTime.toList.map fun start => ⟨r.histogram, now - start⟩
      else [] := by
  cases hr : r.timer.running
  · simp [stopAndReport, Timer.stop_of_not_running hr]
  · cases hs : r.timer.startTime <;>
      simp [stopAndReport, Timer.stop, reportMilliseconds, Timer.getElapsedTime, hr, hs]

theorem histogram_of_mem_reportMilliseconds {r : TimerReporter τ} {now : Nat} {s : Sample τ}
    (h : s ∈ r.reportMilliseconds now) : s.histogram = r.histogram := by
  simp only [reportMilliseconds, List.mem_map] at h
  obtain ⟨_, _, rfl⟩ := h
  rfl

end TimerReporter

end Shill.Metrics
