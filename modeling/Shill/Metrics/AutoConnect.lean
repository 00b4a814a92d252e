import Shill.Metrics.Device

/-!
# The auto-connect accounting of a device

What the per-device timers of `metrics.cc` make of automatic connections, said without timers.
`NotifyDeviceConnectStarted(index, true)` counts an attempt in `auto_connect_tries`, and the
first one starts `auto_connect_timer`; a manual `NotifyDeviceConnectStarted` resets both
(`AutoConnectMetricsReset`). `NotifyDeviceConnectFinished`, for a connection whose
`connect_timer` ran, reports the count and the time since the first attempt, and resets them,
when that time is at most `kMetricCellularAutoConnectTotalTimeMax`; otherwise it returns with
the count kept and the timer stopped, and from there no later attempt restarts the timer.

`AutoConnectAccount` is that behaviour as a machine over the notifications alone: whether a
connection is being timed, and a phase that is idle, counting attempts since a first one, or
stuck with a count.

## Results

* `Accounts.step`: each notification moves the device's timers as the machine's step moves the
  account, and the `AutoConnectTries` and `AutoConnectTotalTime` samples it sends are the
  machine's.
* `autoConnect_samples`: for every device registered by `RegisterDevice` and then notified in any
  order, the `AutoConnectTries` and `AutoConnectTotalTime` samples sent are exactly those of the
  machine run on the same notifications.
-/

namespace Shill.Metrics

/-- Where the auto-connect count of a device stands. -/
inductive AutoConnectPhase
  /-- Nothing counted. -/
  | idle
  /-- `tries` automatic attempts counted, timed from the first, at `first`. -/
  | counting (first tries : Nat)
  /-- `tries` automatic attempts counted, and no timer running. -/
  | stuck (tries : Nat)
  deriving DecidableEq, Repr

namespace AutoConnectPhase

/-- An automatic attempt at `now`. -/
def attempt (now : Nat) : AutoConnectPhase → AutoConnectPhase
  | .idle => .counting now 1
  | .counting first tries => .counting first (tries + 1)
  | .stuck tries => .stuck (tries + 1)

/-- A timed connection finishing at `now`: the count and the time since the first attempt are
reported, and the count reset, when that time is at most
`kMetricCellularAutoConnectTotalTimeMax`; otherwise the count is stuck. -/
def finish {τ : Type} (now : Nat) : AutoConnectPhase → AutoConnectPhase × List (Sample τ)
  | .idle => (.idle, [])
  | .counting first tries =>
    if now - first ≤ kMetricCellularAutoConnectTotalTimeMax then
      (.idle, [⟨.fixed kMetricCellularAutoConnectTotalTime, now - first⟩,
        ⟨.fixed kMetricCellularAutoConnectTries, tries⟩])
    else (.stuck tries, [])
  | .stuck tries => (.stuck tries, [])

end AutoConnectPhase

/-- The auto-connect accounting of a device, read off its notifications: whether a connection
is being timed, and the phase of the count. -/
structure AutoConnectAccount where
  connecting : Bool
  phase : AutoConnectPhase
  deriving DecidableEq, Repr

namespace AutoConnectAccount

variable {τ : Type}

/-- A device as `RegisterDevice` leaves it. -/
def init : AutoConnectAccount := ⟨false, .idle⟩

/-- One notification at `now`, and the auto-connect samples it sends. -/
def step (a : AutoConnectAccount) (now : Nat) : DeviceEvent → AutoConnectAccount × List (Sample τ)
  | .connectStarted true => (⟨true, a.phase.attempt now⟩, [])
  | .connectStarted false => (⟨true, .idle⟩, [])
  | .connectFinished =>
    let r := a.phase.finish (τ := τ) now
    if a.connecting then (⟨false, r.1⟩, r.2) else (a, [])
  | .resetConnectTimer => (⟨false, a.phase⟩, [])
  | _ => (a, [])

/-- A sequence of notifications, each with its time, and the samples sent. -/
def run (a : AutoConnectAccount) : List (Nat × DeviceEvent) → AutoConnectAccount × List (Sample τ)
  | [] => (a, [])
  | (now, e) :: es =>
    let r := a.step (τ := τ) now e
    ((r.1.run es).1, r.2 ++ (r.1.run es).2)

end AutoConnectAccount

variable {τ : Type}

/-- `AutoConnectTries` or `AutoConnectTotalTime`. -/
def isAutoConnectHistogram : Histogram τ → Bool
  | .fixed name => name = kMetricCellularAutoConnectTries ∨
      name = kMetricCellularAutoConnectTotalTime
  | .full _ _ => false

/-- The samples of `out` sent to `AutoConnectTries` or `AutoConnectTotalTime`. -/
def autoConnectSamples (out : List (Sample τ)) : List (Sample τ) :=
  out.filter fun s => isAutoConnectHistogram s.histogram

/-- The device's count and auto-connect timer are in phase `p`. -/
def PhaseOf (dm : DeviceMetrics τ) : AutoConnectPhase → Prop
  | .idle => dm.autoConnectTries = 0 ∧ (dm.timer .autoConnect).timer.running = false
  | .counting first tries => dm.autoConnectTries = tries ∧ 0 < tries ∧
      Timer.HoldsStart (some first) (dm.timer .autoConnect).timer
  | .stuck tries => dm.autoConnectTries = tries ∧ 0 < tries ∧
      (dm.timer .autoConnect).timer.running = false

/-- The device's metrics are accounted by `a`: its timers report where `RegisterDevice` named
them, its connect timer runs exactly while `a` times a connection, and its count is in `a`'s
phase. -/
structure Accounts (a : AutoConnectAccount) (dm : DeviceMetrics τ) : Prop where
  wellNamed : WellNamed dm
  connecting : (dm.timer .connect).timer.running = a.connecting
  phase : PhaseOf dm a.phase

/-! ## Samples to the auto-connect histograms -/

@[simp] theorem autoConnectSamples_nil : autoConnectSamples ([] : List (Sample τ)) = [] := rfl

@[simp] theorem autoConnectSamples_append (out out' : List (Sample τ)) :
    autoConnectSamples (out ++ out') = autoConnectSamples out ++ autoConnectSamples out' :=
  List.filter_append out out'

@[simp] theorem isAutoConnectHistogram_tries :
    isAutoConnectHistogram (.fixed kMetricCellularAutoConnectTries : Histogram τ) = true := by
  simp [isAutoConnectHistogram]

@[simp] theorem isAutoConnectHistogram_totalTime :
    isAutoConnectHistogram (.fixed kMetricCellularAutoConnectTotalTime : Histogram τ) = true := by
  simp [isAutoConnectHistogram]

theorem autoConnectSamples_reportMilliseconds {r : TimerReporter τ}
    (h : isAutoConnectHistogram r.histogram = false) (now : Nat) :
    autoConnectSamples (r.reportMilliseconds now) = [] := by
  simp [autoConnectSamples, TimerReporter.reportMilliseconds, List.filter_map, Function.comp_def, h]

/-- Under the names `RegisterDevice` gives, only the auto-connect timer reports to an auto-connect
histogram. -/
theorem isAutoConnectHistogram_timer {dm : DeviceMetrics τ} (hw : WellNamed dm) {k : DeviceTimer}
    (hk : k ≠ .autoConnect) : isAutoConnectHistogram (dm.timer k).histogram = false := by
  rw [hw k]; cases k <;> first | rfl | exact absurd rfl hk

theorem autoConnectSamples_stopAndReport {dm : DeviceMetrics τ} (hw : WellNamed dm)
    {k : DeviceTimer} (hk : k ≠ .autoConnect) (now : Nat) :
    autoConnectSamples (stopAndReport k now dm).2 = [] := by
  simp only [stopAndReport]
  split
  · exact autoConnectSamples_reportMilliseconds
      (by simpa using isAutoConnectHistogram_timer hw hk) now
  · rfl

theorem autoConnectSamples_scanFinished {dm : DeviceMetrics τ} (hw : WellNamed dm) (now : Nat) :
    autoConnectSamples (scanFinished now dm).2 = [] := by
  simp only [scanFinished]
  split_ifs
  · refine autoConnectSamples_reportMilliseconds ?_ now
    exact isAutoConnectHistogram_timer hw (k := .scan) (by decide)
  all_goals rfl

theorem autoConnectSamples_scanConnectFinished {dm : DeviceMetrics τ} (hw : WellNamed dm)
    (now : Nat) (out : List (Sample τ)) :
    autoConnectSamples (scanConnectFinished now dm out).2 = autoConnectSamples out := by
  simp only [scanConnectFinished]
  split_ifs
  · rw [autoConnectSamples_append, autoConnectSamples_reportMilliseconds ?_ now, List.append_nil]
    exact isAutoConnectHistogram_timer hw (k := .scanConnect) (by decide)
  · rfl

/-! ## Connections -/

/-- An automatic attempt after others counts, and leaves the auto-connect timer. -/
theorem connectStarted_of_pos (now : Nat) {dm : DeviceMetrics τ} (hpos : 0 < dm.autoConnectTries) :
    connectStarted true now dm =
      ((startTimer .connect now dm).1.withAutoConnectTries (dm.autoConnectTries + 1), []) := by
  have h : dm.autoConnectTries + 1 ≠ 1 := by omega
  simp [connectStarted, startTimer, h]

/-- The first automatic attempt counts one and starts the auto-connect timer. -/
theorem connectStarted_of_zero (now : Nat) {dm : DeviceMetrics τ}
    (h0 : dm.autoConnectTries = 0) :
    connectStarted true now dm =
      (((startTimer .connect now dm).1.withAutoConnectTries 1).setTimer .autoConnect
        ((dm.timer .autoConnect).timer.start now), []) := by
  simp [connectStarted, startTimer, h0]

theorem connectStarted_connect (isAutoConnecting : Bool) (now : Nat) (dm : DeviceMetrics τ) :
    ((connectStarted isAutoConnecting now dm).1.timer .connect).timer.running = true := by
  simp only [connectStarted, startTimer, autoConnectMetricsReset, resetTimer]
  split_ifs <;> simp

theorem connectStarted_snd (isAutoConnecting : Bool) (now : Nat) (dm : DeviceMetrics τ) :
    (connectStarted isAutoConnecting now dm).2 = [] := by
  simp only [connectStarted, startTimer]
  split_ifs <;> rfl

/-- `NotifyDeviceConnectFinished` without a running connect timer changes nothing. -/
theorem connectFinished_of_not_running (now : Nat) {dm : DeviceMetrics τ}
    (h : (dm.timer .connect).timer.running = false) : connectFinished now dm = (dm, []) := by
  have hstop : dm.connectTimer.timer.stop now = (dm.connectTimer.timer, false) :=
    Timer.stop_of_not_running h now
  simp [connectFinished, hstop, DeviceMetrics.setTimer]

/-- After no automatic attempt, a timed connection's end reports the connect and the
scan-and-connect timers. -/
theorem connectFinished_of_zero (now : Nat) {dm : DeviceMetrics τ}
    (h0 : dm.autoConnectTries = 0) (h : (dm.timer .connect).timer.running = true) :
    connectFinished now dm =
      scanConnectFinished now (stopAndReport .connect now dm).1
        (stopAndReport .connect now dm).2 := by
  have hc : dm.connectTimer.timer.running = true := h
  simp [connectFinished, stopAndReport, Timer.stop, hc, h0, DeviceMetrics.timer,
    DeviceMetrics.setTimer]

theorem connectFinished_connect (now : Nat) (dm : DeviceMetrics τ) :
    ((connectFinished now dm).1.timer .connect).timer.running = false := by
  simp only [connectFinished, autoConnectMetricsReset, resetTimer]
  split_ifs <;> simp [scanConnectFinished_fst]

/-- After automatic attempts timed since `first`, a timed connection's end stops the auto-connect
timer; it returns there when the attempts took longer than
`kMetricCellularAutoConnectTotalTimeMax`, and otherwise reports the time and the count, resets
them, and reports the scan-and-connect timer. -/
theorem connectFinished_of_counting (now : Nat) {dm : DeviceMetrics τ} {first : Nat}
    (hpos : 0 < dm.autoConnectTries)
    (hs : Timer.HoldsStart (some first) (dm.timer .autoConnect).timer)
    (h : (dm.timer .connect).timer.running = true) :
    connectFinished now dm =
      let dm' := (stopAndReport .autoConnect now (stopAndReport .connect now dm).1).1
      let out := (stopAndReport .connect now dm).2
      if kMetricCellularAutoConnectTotalTimeMax < now - first then (dm', out)
      else scanConnectFinished now (autoConnectMetricsReset dm')
        (out ++ [⟨(dm.timer .autoConnect).histogram, now - first⟩,
          ⟨.fixed kMetricCellularAutoConnectTries, dm.autoConnectTries⟩]) := by
  obtain ⟨hrun, hstart⟩ := hs
  have hc : dm.connectTimer.timer.running = true := h
  have ha : dm.autoConnectTimer.timer.running = true := hrun
  have hst : dm.autoConnectTimer.timer.startTime = some first := hstart
  simp [connectFinished, stopAndReport, Timer.stop, Timer.getElapsedTime,
    TimerReporter.reportMilliseconds, hc, ha, hst, hpos, DeviceMetrics.timer,
    DeviceMetrics.setTimer]

/-! ## The accounting -/

theorem phaseOf_congr {dm dm' : DeviceMetrics τ}
    (ha : dm'.timer .autoConnect = dm.timer .autoConnect)
    (ht : dm'.autoConnectTries = dm.autoConnectTries) (p : AutoConnectPhase) :
    PhaseOf dm' p ↔ PhaseOf dm p := by
  cases p <;> simp only [PhaseOf, ha, ht]

/-- An automatic attempt moves the count as `AutoConnectPhase.attempt` does. -/
theorem phaseOf_connectStarted (now : Nat) {dm : DeviceMetrics τ} {p : AutoConnectPhase}
    (hp : PhaseOf dm p) : PhaseOf (connectStarted true now dm).1 (p.attempt now) := by
  cases p with
  | idle =>
    rw [connectStarted_of_zero now hp.1]
    simp [PhaseOf, AutoConnectPhase.attempt, Timer.HoldsStart]
  | counting first tries =>
    obtain ⟨rfl, hpos, hs⟩ := hp
    rw [connectStarted_of_pos now hpos]
    simpa [PhaseOf, AutoConnectPhase.attempt, startTimer] using hs
  | stuck tries =>
    obtain ⟨rfl, hpos, hs⟩ := hp
    rw [connectStarted_of_pos now hpos]
    simpa [PhaseOf, AutoConnectPhase.attempt, startTimer] using hs

/-- A timed connection's end moves the count as `AutoConnectPhase.finish` does, and sends its
auto-connect samples. -/
theorem phaseOf_connectFinished (now : Nat) {dm : DeviceMetrics τ} (hw : WellNamed dm)
    (h : (dm.timer .connect).timer.running = true) {p : AutoConnectPhase} (hp : PhaseOf dm p) :
    PhaseOf (connectFinished now dm).1 (p.finish (τ := τ) now).1 ∧
      autoConnectSamples (connectFinished now dm).2 = (p.finish now).2 := by
  have hw₁ : WellNamed (stopAndReport .connect now dm).1 :=
    hw.of_names_eq (by simp [stopAndReport_fst])
  have hout : autoConnectSamples (stopAndReport .connect now dm).2 = [] :=
    autoConnectSamples_stopAndReport hw (by decide) now
  cases p with
  | idle =>
    rw [connectFinished_of_zero now hp.1 h, autoConnectSamples_scanConnectFinished hw₁, hout]
    simp [PhaseOf, AutoConnectPhase.finish, scanConnectFinished_fst, stopAndReport_fst, hp.1, hp.2]
  | counting first tries =>
    obtain ⟨rfl, hpos, hs⟩ := hp
    simp only [connectFinished_of_counting now hpos hs h, AutoConnectPhase.finish]
    by_cases hle : now - first ≤ kMetricCellularAutoConnectTotalTimeMax
    · rw [if_neg (Nat.not_lt.mpr hle), if_pos hle]
      have hw₂ : WellNamed (autoConnectMetricsReset
          (stopAndReport .autoConnect now (stopAndReport .connect now dm).1).1) :=
        hw.of_names_eq (by simp [autoConnectMetricsReset, resetTimer, stopAndReport_fst])
      rw [autoConnectSamples_scanConnectFinished hw₂, autoConnectSamples_append, hout,
        hw .autoConnect]
      simp [PhaseOf, autoConnectSamples, scanConnectFinished_fst, autoConnectMetricsReset,
        resetTimer, registeredHistogram]
    · rw [if_pos (Nat.lt_of_not_le hle), if_neg hle]
      simp [PhaseOf, stopAndReport_fst, hpos, hout]
  | stuck tries =>
    obtain ⟨rfl, hpos, hrun⟩ := hp
    rw [connectFinished_of_stuck now ⟨hpos, hrun⟩]
    exact ⟨by simpa [PhaseOf, AutoConnectPhase.finish, stopAndReport_fst] using ⟨hpos, hrun⟩, hout⟩

/-- **One notification refines one step of the machine**: it keeps the device accounted by the
machine's next account, and sends the machine's auto-connect samples. -/
theorem Accounts.step {a : AutoConnectAccount} {dm : DeviceMetrics τ} (h : Accounts a dm)
    (now : Nat) (e : DeviceEvent) :
    Accounts (a.step (τ := τ) now e).1 (e.body now dm).1 ∧
      autoConnectSamples (e.body now dm).2 = (a.step now e).2 := by
  have hw : WellNamed (e.body now dm).1 := h.wellNamed.of_names_eq (body_names e now dm)
  cases e with
  | connectStarted isAutoConnecting =>
    have hs : autoConnectSamples (connectStarted isAutoConnecting now dm).2 = [] := by
      rw [connectStarted_snd]; rfl
    cases isAutoConnecting
    · refine ⟨⟨hw, connectStarted_connect _ now dm, ?_⟩, hs⟩
      simp [AutoConnectAccount.step, DeviceEvent.body, connectStarted, startTimer,
        autoConnectMetricsReset, resetTimer, PhaseOf]
    · exact ⟨⟨hw, connectStarted_connect _ now dm, phaseOf_connectStarted now h.phase⟩, hs⟩
  | connectFinished =>
    show Accounts _ (connectFinished now dm).1 ∧ autoConnectSamples (connectFinished now dm).2 = _
    cases hc : a.connecting
    · have hrun : (dm.timer .connect).timer.running = false := h.connecting.trans hc
      simpa [AutoConnectAccount.step, hc, DeviceEvent.body, connectFinished_of_not_running now hrun,
        autoConnectSamples] using h
    · obtain ⟨hp, hs⟩ := phaseOf_connectFinished now h.wellNamed (h.connecting.trans hc) h.phase
      simpa [AutoConnectAccount.step, hc, hs] using
        (⟨hw, connectFinished_connect now dm, hp⟩ : Accounts ⟨false, _⟩ _)
  | resetConnectTimer =>
    refine ⟨⟨hw, by simp [DeviceEvent.body, resetTimer, AutoConnectAccount.step], ?_⟩, rfl⟩
    exact (phaseOf_congr (by simp [DeviceEvent.body, resetTimer]) rfl _).mpr h.phase
  | _ =>
    refine ⟨⟨hw, ?_, (phaseOf_congr ?_ ?_ _).mpr h.phase⟩, ?_⟩ <;>
      simp [AutoConnectAccount.step, DeviceEvent.body, startTimer, stopAndReport_fst, resetTimer,
        Metrics.scanStarted, scanFinished_fst, autoConnectSamples_stopAndReport h.wellNamed,
        autoConnectSamples_scanFinished h.wellNamed, h.connecting]

/-- Every run of notifications of a device accounted by `a` keeps it accounted by the machine's
run from `a`, and sends the machine's auto-connect samples. -/
theorem Accounts.runDevice {a : AutoConnectAccount} {m : Metrics τ} {i : Int}
    {dm : DeviceMetrics τ} (hdm : m.devicesMetrics i = some dm) (h : Accounts a dm)
    (es : List (Nat × DeviceEvent)) :
    ∃ dm', (m.runDevice i es).devicesMetrics i = some dm' ∧ Accounts (a.run (τ := τ) es).1 dm' ∧
      autoConnectSamples (m.runDevice i es).samples =
        autoConnectSamples m.samples ++ (a.run es).2 := by
  induction es generalizing a m dm with
  | nil => exact ⟨dm, hdm, h, by simp [Metrics.runDevice, AutoConnectAccount.run]⟩
  | cons p es ih =>
    obtain ⟨now, e⟩ := p
    obtain ⟨h₁, hs₁⟩ := h.step now e
    have hm : m.notify i now e =
        ⟨Function.update m.devicesMetrics i (some (e.body now dm).1),
          m.samples ++ (e.body now dm).2⟩ := by
      simp [notify_eq_onDevice, onDevice, hdm]
    obtain ⟨dm', hdm', h', hs'⟩ := ih (m := m.notify i now e) (by simp [hm]) h₁
    refine ⟨dm', hdm', h', ?_⟩
    rw [Metrics.runDevice, List.foldl_cons, ← Metrics.runDevice, hs', hm]
    simp [AutoConnectAccount.run, hs₁]

/-- **The auto-connect metrics are the machine's.** For every device that `RegisterDevice`
registers and that is then notified in any order, the samples sent to `AutoConnectTries` and
`AutoConnectTotalTime` are those of `AutoConnectAccount` run on the same notifications: after
automatic attempts, a timed connection that ends within
`kMetricCellularAutoConnectTotalTimeMax` of the first attempt reports the time and the count,
one that ends later reports nothing, and then only a manual attempt lets a count be reported
again. -/
theorem autoConnect_samples (m : Metrics τ) (i : Int) (technology : τ) (now : Nat)
    (es : List (Nat × DeviceEvent)) :
    autoConnectSamples ((m.registerDevice i technology now).runDevice i es).samples =
      autoConnectSamples m.samples ++ (AutoConnectAccount.init.run es).2 := by
  obtain ⟨_, _, _, hs⟩ := Accounts.runDevice (a := .init) (m := m.registerDevice i technology now)
    (Function.update_same _ _ _) ⟨fun k => by cases k <;> rfl, rfl, ⟨rfl, rfl⟩⟩ es
  exact hs

example :
    autoConnectSamples (((⟨fun _ => none, []⟩ : Metrics String).registerDevice 1 "Cellular" 0
      ).runDevice 1 [(0, .connectStarted true), (20000, .connectFinished),
        (30000, .connectStarted true), (40000, .connectStarted true), (50000, .connectFinished)]
      ).samples =
      [⟨.fixed kMetricCellularAutoConnectTotalTime, 20000⟩,
       ⟨.fixed kMetricCellularAutoConnectTries, 1⟩,
       ⟨.fixed kMetricCellularAutoConnectTotalTime, 20000⟩,
       ⟨.fixed kMetricCellularAutoConnectTries, 2⟩] := by
  decide

end Shill.Metrics
