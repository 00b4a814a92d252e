import Shill.Metrics.AutoConnect

/-!
# The scan-and-connect time of a device

`NotifyDeviceScanStarted` starts `scan_connect_timer` with the scan timer, and
`ResetConnectTimer` resets it with the connect timer. `NotifyDeviceConnectFinished` stops it and
reports `TimeToScanAndConnect` only at its end: a connection whose connect timer did not run, and
the two early returns of the auto-connect accounting (the auto-connect timer stopped already, or
the attempts took longer than `kMetricCellularAutoConnectTotalTimeMax`), leave the timer
running. The next connection that gets through then reports the time since the scan that
started it, across every connection in between.

`ScanConnectAccount` is that behaviour as a machine over the notifications: the auto-connect
account of `AutoConnect`, and the start of the scan being timed, if any.

## Results

* `ScanAccounts.step`: each notification moves the scan-and-connect timer as the machine's step
  moves the pending scan, and the `TimeToScanAndConnect` samples it sends are the machine's.
* `scanConnect_samples`: for every device registered by `RegisterDevice` and then notified in any
  order, the `TimeToScanAndConnect` samples sent are exactly those of the machine run on the same
  notifications.
-/

namespace Shill.Metrics

/-- Whether a timed connection's end at `now` gets past the auto-connect accounting to the
scan-and-connect timer. -/
def AutoConnectPhase.completes (now : Nat) : AutoConnectPhase → Bool
  | .idle => true
  | .counting first _ => now - first ≤ kMetricCellularAutoConnectTotalTimeMax
  | .stuck _ => false

/-- The scan-and-connect accounting of a device, read off its notifications: its auto-connect
account, and the start of the scan being timed to a connection, if any. -/
structure ScanConnectAccount where
  auto : AutoConnectAccount
  scanStart : Option Nat
  deriving DecidableEq, Repr

namespace ScanConnectAccount

variable {τ : Type} (technology : τ)

/-- A device as `RegisterDevice` leaves it. -/
def init : ScanConnectAccount := ⟨AutoConnectAccount.init, none⟩

/-- One notification at `now`, and the `TimeToScanAndConnect` samples it sends. -/
def step (a : ScanConnectAccount) (now : Nat) (e : DeviceEvent) :
    ScanConnectAccount × List (Sample τ) :=
  let auto := (a.auto.step (τ := τ) now e).1
  match e with
  | .scanStarted => (⟨auto, some now⟩, [])
  | .resetConnectTimer => (⟨auto, none⟩, [])
  | .connectFinished =>
    if a.auto.connecting ∧ a.auto.phase.completes now then
      (⟨auto, none⟩, a.scanStart.toList.map fun start =>
        ⟨.full kMetricTimeToScanAndConnectMilliseconds technology, now - start⟩)
    else (⟨auto, a.scanStart⟩, [])
  | _ => (⟨auto, a.scanStart⟩, [])

/-- A sequence of notifications, each with its time, and the samples sent. -/
def run (a : ScanConnectAccount) : List (Nat × DeviceEvent) → ScanConnectAccount × List (Sample τ)
  | [] => (a, [])
  | (now, e) :: es =>
    let r := a.step technology now e
    ((r.1.run es).1, r.2 ++ (r.1.run es).2)

/-- The machine's auto-connect part runs as `AutoConnectAccount` alone. -/
@[simp] theorem step_auto (a : ScanConnectAccount) (now : Nat) (e : DeviceEvent) :
    (a.step technology now e).1.auto = (a.auto.step (τ := τ) now e).1 := by
  cases e <;> simp only [step]
  split <;> rfl

end ScanConnectAccount

variable {τ : Type}

/-- `TimeToScanAndConnect`, of any technology. -/
def isScanConnectHistogram : Histogram τ → Bool
  | .full metric _ => metric = kMetricTimeToScanAndConnectMilliseconds
  | .fixed _ => false

/-- The samples of `out` sent to `TimeToScanAndConnect`. -/
def scanConnectSamples (out : List (Sample τ)) : List (Sample τ) :=
  out.filter fun s => isScanConnectHistogram s.histogram

/-- The device's metrics are accounted by `a`: its auto-connect accounting by `a.auto`, and its
scan-and-connect timer runs since `a.scanStart` exactly when that is a time. -/
structure ScanAccounts (a : ScanConnectAccount) (dm : DeviceMetrics τ) : Prop where
  accounts : Accounts a.auto dm
  scanConnect : Timer.HoldsStart a.scanStart (dm.timer .scanConnect).timer

/-! ## Samples to the scan-and-connect histogram -/

@[simp] theorem scanConnectSamples_nil : scanConnectSamples ([] : List (Sample τ)) = [] := rfl

@[simp] theorem scanConnectSamples_append (out out' : List (Sample τ)) :
    scanConnectSamples (out ++ out') = scanConnectSamples out ++ scanConnectSamples out' :=
  List.filter_append out out'

theorem scanConnectSamples_reportMilliseconds {r : TimerReporter τ}
    (h : isScanConnectHistogram r.histogram = false) (now : Nat) :
    scanConnectSamples (r.reportMilliseconds now) = [] := by
  simp [scanConnectSamples, TimerReporter.reportMilliseconds, List.filter_map, Function.comp_def, h]

/-- Under the names `RegisterDevice` gives, only the scan-and-connect timer reports to
`TimeToScanAndConnect`. -/
theorem isScanConnectHistogram_timer {dm : DeviceMetrics τ} (hw : WellNamed dm) {k : DeviceTimer}
    (hk : k ≠ .scanConnect) : isScanConnectHistogram (dm.timer k).histogram = false := by
  rw [hw k]; cases k <;> first | rfl | exact absurd rfl hk

theorem scanConnectSamples_stopAndReport {dm : DeviceMetrics τ} (hw : WellNamed dm)
    {k : DeviceTimer} (hk : k ≠ .scanConnect) (now : Nat) :
    scanConnectSamples (stopAndReport k now dm).2 = [] := by
  simp only [stopAndReport]
  split
  · exact scanConnectSamples_reportMilliseconds
      (by simpa using isScanConnectHistogram_timer hw hk) now
  · rfl

theorem scanConnectSamples_scanFinished {dm : DeviceMetrics τ} (hw : WellNamed dm) (now : Nat) :
    scanConnectSamples (scanFinished now dm).2 = [] := by
  simp only [scanFinished]
  split_ifs
  · refine scanConnectSamples_reportMilliseconds ?_ now
    exact isScanConnectHistogram_timer hw (k := .scan) (by decide)
  all_goals rfl

/-- The end of `NotifyDeviceConnectFinished` reports the time since the pending scan, if any. -/
theorem scanConnectFinished_snd {dm : DeviceMetrics τ} {s : Option Nat}
    (hs : Timer.HoldsStart s (dm.timer .scanConnect).timer) (now : Nat) (out : List (Sample τ)) :
    (scanConnectFinished now dm out).2 =
      out ++ s.toList.map fun start => ⟨(dm.timer .scanConnect).histogram, now - start⟩ := by
  cases s with
  | none =>
    have hr : dm.scanConnectTimer.timer.running = false := hs
    simp [scanConnectFinished, Timer.stop_of_not_running hr]
  | some start =>
    have hr : dm.scanConnectTimer.timer.running = true := hs.1
    have hst : dm.scanConnectTimer.timer.startTime = some start := hs.2
    simp [scanConnectFinished, Timer.stop, TimerReporter.reportMilliseconds, Timer.getElapsedTime,
      hr, hst, DeviceMetrics.setTimer, DeviceMetrics.timer]

theorem scanConnectFinished_scanConnect (now : Nat) (dm : DeviceMetrics τ)
    (out : List (Sample τ)) :
    Timer.HoldsStart none ((scanConnectFinished now dm out).1.timer .scanConnect).timer := by
  simp [Timer.HoldsStart, scanConnectFinished_fst]

/-! ## The accounting -/

/-- A timed connection's end stops the scan-and-connect timer and reports the time since the
pending scan exactly when it gets past the auto-connect accounting; otherwise it leaves the
timer running as it was. -/
theorem scanConnect_connectFinished (now : Nat) {dm : DeviceMetrics τ} (hw : WellNamed dm)
    (h : (dm.timer .connect).timer.running = true) {p : AutoConnectPhase} (hp : PhaseOf dm p)
    {s : Option Nat} (hs : Timer.HoldsStart s (dm.timer .scanConnect).timer) :
    Timer.HoldsStart (if p.completes now then none else s)
        ((connectFinished now dm).1.timer .scanConnect).timer ∧
      scanConnectSamples (connectFinished now dm).2 =
        if p.completes now then
          s.toList.map fun start =>
            ⟨.full kMetricTimeToScanAndConnectMilliseconds dm.technology, now - start⟩
        else [] := by
  have hout : scanConnectSamples (stopAndReport .connect now dm).2 = [] :=
    scanConnectSamples_stopAndReport hw (by decide) now
  have hreport : scanConnectSamples (s.toList.map fun start =>
      (⟨(dm.timer .scanConnect).histogram, now - start⟩ : Sample τ)) =
      s.toList.map fun start =>
        ⟨.full kMetricTimeToScanAndConnectMilliseconds dm.technology, now - start⟩ := by
    rw [hw .scanConnect]; cases s <;> simp [scanConnectSamples, isScanConnectHistogram,
      registeredHistogram]
  cases p with
  | idle =>
    rw [connectFinished_of_zero now hp.1 h]
    refine ⟨scanConnectFinished_scanConnect _ _ _, ?_⟩
    rw [scanConnectFinished_snd (s := s) (by simpa [stopAndReport_fst] using hs),
      scanConnectSamples_append, hout]
    simpa [AutoConnectPhase.completes, stopAndReport_fst] using hreport
  | counting first tries =>
    obtain ⟨rfl, hpos, hsa⟩ := hp
    simp only [connectFinished_of_counting now hpos hsa h, AutoConnectPhase.completes]
    by_cases hle : now - first ≤ kMetricCellularAutoConnectTotalTimeMax
    · rw [if_neg (Nat.not_lt.mpr hle)]
      simp only [hle, decide_True, if_true]
      refine ⟨scanConnectFinished_scanConnect _ _ _, ?_⟩
      have hauto : scanConnectSamples [⟨(dm.timer .autoConnect).histogram, now - first⟩,
          ⟨.fixed kMetricCellularAutoConnectTries, dm.autoConnectTries⟩] = [] := by
        rw [hw .autoConnect]; rfl
      rw [scanConnectFinished_snd (s := s) (by simpa [autoConnectMetricsReset, resetTimer,
        stopAndReport_fst] using hs)]
      simp only [autoConnectMetricsReset, resetTimer, stopAndReport_fst,
        DeviceMetrics.histogram_timer_setTimer, DeviceMetrics.timer_withAutoConnectTries,
        scanConnectSamples_append, hout, hauto, hreport, List.nil_append]
    · rw [if_pos (Nat.lt_of_not_le hle)]
      simp only [hle, decide_False, Bool.false_eq_true, if_false]
      exact ⟨by simpa [stopAndReport_fst] using hs, hout⟩
  | stuck tries =>
    obtain ⟨rfl, hpos, hrun⟩ := hp
    rw [connectFinished_of_stuck now ⟨hpos, hrun⟩]
    exact ⟨by simpa [AutoConnectPhase.completes, stopAndReport_fst] using hs,
      by simpa [AutoConnectPhase.completes] using hout⟩

theorem connectStarted_scanConnect (isAutoConnecting : Bool) (now : Nat) (dm : DeviceMetrics τ) :
    (connectStarted isAutoConnecting now dm).1.timer .scanConnect = dm.timer .scanConnect := by
  simp only [connectStarted, startTimer, autoConnectMetricsReset, resetTimer]
  split_ifs <;> simp

/-- **One notification refines one step of the machine**: it keeps the device accounted by the
machine's next account, and sends the machine's `TimeToScanAndConnect` samples. -/
theorem ScanAccounts.step {a : ScanConnectAccount} {dm : DeviceMetrics τ} (h : ScanAccounts a dm)
    (now : Nat) (e : DeviceEvent) :
    ScanAccounts (a.step dm.technology now e).1 (e.body now dm).1 ∧
      scanConnectSamples (e.body now dm).2 = (a.step dm.technology now e).2 := by
  have hauto : Accounts (a.step dm.technology now e).1.auto (e.body now dm).1 := by
    rw [ScanConnectAccount.step_auto]; exact (h.accounts.step now e).1
  have hw := h.accounts.wellNamed
  cases e with
  | scanStarted =>
    exact ⟨⟨hauto, by simp [ScanConnectAccount.step, DeviceEvent.body, Metrics.scanStarted,
      startTimer, Timer.HoldsStart]⟩, rfl⟩
  | resetConnectTimer =>
    exact ⟨⟨hauto, by simp [ScanConnectAccount.step, DeviceEvent.body, resetTimer,
      Timer.HoldsStart]⟩, rfl⟩
  | connectFinished =>
    show ScanAccounts _ (connectFinished now dm).1 ∧
      scanConnectSamples (connectFinished now dm).2 = _
    cases hc : a.auto.connecting
    · have hrun : (dm.timer .connect).timer.running = false := h.accounts.connecting.trans hc
      refine ⟨⟨hauto, ?_⟩, ?_⟩ <;>
        simp [ScanConnectAccount.step, hc, connectFinished_of_not_running now hrun, h.scanConnect]
    · obtain ⟨hs, hout⟩ := scanConnect_connectFinished now hw (h.accounts.connecting.trans hc)
        h.accounts.phase h.scanConnect
      refine ⟨⟨hauto, ?_⟩, ?_⟩ <;> cases hp : a.auto.phase.completes now <;>
        simp_all [ScanConnectAccount.step]
  | connectStarted isAutoConnecting =>
    refine ⟨⟨hauto, ?_⟩, ?_⟩
    · simpa [DeviceEvent.body, connectStarted_scanConnect] using h.scanConnect
    · simp [DeviceEvent.body, connectStarted_snd, ScanConnectAccount.step]
  | _ =>
    refine ⟨⟨hauto, ?_⟩, ?_⟩ <;>
      simp [ScanConnectAccount.step, DeviceEvent.body, startTimer, stopAndReport_fst, resetTimer,
        scanFinished_fst, scanConnectSamples_stopAndReport hw, scanConnectSamples_scanFinished hw,
        h.scanConnect]

/-- Every run of notifications of a device accounted by `a` keeps it accounted by the machine's
run from `a`, and sends the machine's `TimeToScanAndConnect` samples. -/
theorem ScanAccounts.runDevice {a : ScanConnectAccount} {m : Metrics τ} {i : Int}
    {dm : DeviceMetrics τ} (hdm : m.devicesMetrics i = some dm) (h : ScanAccounts a dm)
    (es : List (Nat × DeviceEvent)) :
    ∃ dm', (m.runDevice i es).devicesMetrics i = some dm' ∧
      ScanAccounts (a.run dm.technology es).1 dm' ∧
      scanConnectSamples (m.runDevice i es).samples =
        scanConnectSamples m.samples ++ (a.run dm.technology es).2 := by
  induction es generalizing a m dm with
  | nil => exact ⟨dm, hdm, h, by simp [Metrics.runDevice, ScanConnectAccount.run]⟩
  | cons p es ih =>
    obtain ⟨now, e⟩ := p
    obtain ⟨h₁, hs₁⟩ := h.step now e
    have hm : m.notify i now e =
        ⟨Function.update m.devicesMetrics i (some (e.body now dm).1),
          m.samples ++ (e.body now dm).2⟩ := by
      simp [notify_eq_onDevice, onDevice, hdm]
    have htech : (e.body now dm).1.technology = dm.technology :=
      congrArg Prod.fst (body_names e now dm)
    obtain ⟨dm', hdm', h', hs'⟩ := ih (m := m.notify i now e) (by simp [hm]) h₁
    rw [htech] at h' hs'
    refine ⟨dm', hdm', h', ?_⟩
    rw [Metrics.runDevice, List.foldl_cons, ← Metrics.runDevice, hs', hm]
    simp [ScanConnectAccount.run, hs₁]

/-- **The scan-and-connect metrics are the machine's.** For every device that `RegisterDevice`
registers with `technology` and that is then notified in any order, the samples sent to
`TimeToScanAndConnect` are those of `ScanConnectAccount` run on the same notifications: a timed
connection reports the time since the pending scan only when it gets past the auto-connect
accounting, and a connection that does not leaves that scan pending for the next one. -/
theorem scanConnect_samples (m : Metrics τ) (i : Int) (technology : τ) (now : Nat)
    (es : List (Nat × DeviceEvent)) :
    scanConnectSamples ((m.registerDevice i technology now).runDevice i es).samples =
      scanConnectSamples m.samples ++ (ScanConnectAccount.init.run technology es).2 := by
  obtain ⟨_, _, _, hs⟩ := ScanAccounts.runDevice (a := .init)
    (m := m.registerDevice i technology now) (Function.update_same _ _ _)
    ⟨⟨fun k => by cases k <;> rfl, rfl, ⟨rfl, rfl⟩⟩, rfl⟩ es
  exact hs

example :
    scanConnectSamples (((⟨fun _ => none, []⟩ : Metrics String).registerDevice 1 "Cellular" 0
      ).runDevice 1 [(0, .scanStarted), (1000, .connectStarted true), (70000, .connectFinished),
        (80000, .connectStarted false), (81000, .connectFinished)]).samples =
      [⟨.full kMetricTimeToScanAndConnectMilliseconds "Cellular", 81000⟩] := by
  decide

end Shill.Metrics
