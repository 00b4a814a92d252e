import Mathlib.Data.List.Basic
import Mathlib.Logic.Function.Basic
import Shill.Metrics.Timer

/-!
# Device timers and the cellular auto-connect count

Model of the per-device part of `Metrics` (`metrics.cc`): `RegisterDevice`, `DeregisterDevice`,
`IsDeviceRegistered`, and the notifications a device sends as it initializes, enables,
disables, scans and connects. `devices_metrics_` maps an interface index to its `DeviceMetrics`:
the device's technology, seven `TimerReporter`s and `auto_connect_tries`. Every notification
starts with `GetDeviceMetrics(interface_index)` and returns at once for an index that is not
registered (`onDevice`); what it does to a registered device is its body (`startTimer`,
`stopAndReport`, `scanFinished`, `connectStarted`, `connectFinished`, ...).

`DeviceMetrics` is declared in `metrics.h`, not in this snapshot; `auto_connect_tries` is taken
to start at `0`. The histograms' bounds are left out: nothing modelled reads them.

## Results

* `devicesMetrics_runAll`: after any interleaving of notifications for several interfaces, each
  device's metrics are what its own notifications alone make of them (`runDevice`), so what is
  proved below of one device's notifications holds inside any interleaving.
* `autoConnect_stuck`: `NotifyDeviceConnectFinished` returns before it reports when an automatic
  connection took longer than `kMetricCellularAutoConnectTotalTimeMax`, leaving
  `auto_connect_tries` positive with the auto-connect timer stopped (`Stuck`). From there no
  notification of the device other than a manual `NotifyDeviceConnectStarted` ever sends
  `AutoConnectTries`, `AutoConnectTotalTime` or `TimeToScanAndConnect` again: the timer is
  restarted only by the first automatic attempt, so each later one only adds to the count.
* `autoConnect_stuck_after_slow_connect`: one automatic connection of 61 s gets a fresh device
  there, and a second one of 1 s then reports its `TimeToConnect` only.
-/

namespace Shill.Metrics

/-- `Metrics::kMetricTimeToInitializeMilliseconds`. -/
def kMetricTimeToInitializeMilliseconds : String := "Network.Shill.%s.TimeToInitialize"
/-- `Metrics::kMetricTimeToEnableMilliseconds`. -/
def kMetricTimeToEnableMilliseconds : String := "Network.Shill.%s.TimeToEnable"
/-- `Metrics::kMetricTimeToDisableMilliseconds`. -/
def kMetricTimeToDisableMilliseconds : String := "Network.Shill.%s.TimeToDisable"
/-- `Metrics::kMetricTimeToScanMilliseconds`. -/
def kMetricTimeToScanMilliseconds : String := "Network.Shill.%s.TimeToScan"
/-- `Metrics::kMetricTimeToConnectMilliseconds`. -/
def kMetricTimeToConnectMilliseconds : String := "Network.Shill.%s.TimeToConnect"
/-- `Metrics::kMetricTimeToScanAndConnectMilliseconds`. -/
def kMetricTimeToScanAndConnectMilliseconds : String := "Network.Shill.%s.TimeToScanAndConnect"
/-- `Metrics::kMetricCellularAutoConnectTries`. -/
def kMetricCellularAutoConnectTries : String := "Network.Shill.Cellular.AutoConnectTries"
/-- `Metrics::kMetricCellularAutoConnectTotalTime`. -/
def kMetricCellularAutoConnectTotalTime : String := "Network.Shill.Cellular.AutoConnectTotalTime"
/-- `Metrics::kMetricTimeToScanMillisecondsMax`: 3 minutes. -/
def kMetricTimeToScanMillisecondsMax : Nat := 180 * 1000
/-- `Metrics::kMetricCellularAutoConnectTotalTimeMax`: 60 seconds. -/
def kMetricCellularAutoConnectTotalTimeMax : Nat := 60 * 1000

/-- `Metrics::DeviceMetrics`. -/
structure DeviceMetrics (τ : Type) where
  technology : τ
  initializationTimer : TimerReporter τ
  enableTimer : TimerReporter τ
  disableTimer : TimerReporter τ
  scanTimer : TimerReporter τ
  connectTimer : TimerReporter τ
  scanConnectTimer : TimerReporter τ
  autoConnectTimer : TimerReporter τ
  autoConnectTries : Nat
  deriving DecidableEq, Repr

end Shill.Metrics

namespace Shill

open Metrics

/-- The device part of `Metrics`, and the samples it has sent, oldest first. -/
structure Metrics (τ : Type) where
  devicesMetrics : Int → Option (DeviceMetrics τ)
  samples : List (Sample τ)

namespace Metrics

variable {τ : Type}

/-- The timers of a `DeviceMetrics`. -/
inductive DeviceTimer
  | initialization
  | enable
  | disable
  | scan
  | connect
  | scanConnect
  | autoConnect
  deriving DecidableEq, Repr

namespace DeviceMetrics

/-- The timer reporter `device_metrics->..._timer`. -/
def timer (dm : DeviceMetrics τ) : DeviceTimer → TimerReporter τ
  | .initialization => dm.initializationTimer
  | .enable => dm.enableTimer
  | .disable => dm.disableTimer
  | .scan => dm.scanTimer
  | .connect => dm.connectTimer
  | .scanConnect => dm.scanConnectTimer
  | .autoConnect => dm.autoConnectTimer

/-- `dm` with timer `k` running as `t`. -/
def setTimer (dm : DeviceMetrics τ) : DeviceTimer → Timer → DeviceMetrics τ
  | .initialization, t =>
    { dm with initializationTimer := { dm.initializationTimer with timer := t } }
  | .enable, t => { dm with enableTimer := { dm.enableTimer with timer := t } }
  | .disable, t => { dm with disableTimer := { dm.disableTimer with timer := t } }
  | .scan, t => { dm with scanTimer := { dm.scanTimer with timer := t } }
  | .connect, t => { dm with connectTimer := { dm.connectTimer with timer := t } }
  | .scanConnect, t => { dm with scanConnectTimer := { dm.scanConnectTimer with timer := t } }
  | .autoConnect, t => { dm with autoConnectTimer := { dm.autoConnectTimer with timer := t } }

@[simp] theorem timer_setTimer_self (dm : DeviceMetrics τ) (k : DeviceTimer) (t : Timer) :
    (dm.setTimer k t).timer k = { dm.timer k with timer := t } := by
  cases k <;> rfl

@[simp] theorem timer_setTimer_ne (dm : DeviceMetrics τ) {k k' : DeviceTimer} (t : Timer)
    (h : k' ≠ k) : (dm.setTimer k t).timer k' = dm.timer k' := by
  cases k <;> cases k' <;> first | rfl | exact absurd rfl h

/-- `device_metrics->auto_connect_tries = n`. -/
def withAutoConnectTries (dm : DeviceMetrics τ) (n : Nat) : DeviceMetrics τ :=
  { dm with autoConnectTries := n }

@[simp] theorem timer_withAutoConnectTries (dm : DeviceMetrics τ) (n : Nat) (k : DeviceTimer) :
    (dm.withAutoConnectTries n).timer k = dm.timer k := by
  cases k <;> rfl

@[simp] theorem technology_withAutoConnectTries (dm : DeviceMetrics τ) (n : Nat) :
    (dm.withAutoConnectTries n).technology = dm.technology := rfl

@[simp] theorem autoConnectTries_withAutoConnectTries (dm : DeviceMetrics τ) (n : Nat) :
    (dm.withAutoConnectTries n).autoConnectTries = n := rfl

@[simp] theorem autoConnectTries_setTimer (dm : DeviceMetrics τ) (k : DeviceTimer) (t : Timer) :
    (dm.setTimer k t).autoConnectTries = dm.autoConnectTries := by
  cases k <;> rfl

@[simp] theorem technology_setTimer (dm : DeviceMetrics τ) (k : DeviceTimer) (t : Timer) :
    (dm.setTimer k t).technology = dm.technology := by
  cases k <;> rfl

end DeviceMetrics

/-! ## The notifications -/

/-- `GetDeviceMetrics(interface_index)`, then `body` on the device's metrics; nothing for an
index that is not registered. `body` gives the device's metrics after the call and the samples
it sends. -/
def onDevice (m : Metrics τ) (interfaceIndex : Int)
    (body : DeviceMetrics τ → DeviceMetrics τ × List (Sample τ)) : Metrics τ :=
  match m.devicesMetrics interfaceIndex with
  | none => m
  | some dm =>
    ⟨Function.update m.devicesMetrics interfaceIndex (some (body dm).1),
      m.samples ++ (body dm).2⟩

/-- `device_metrics->..._timer->Start()`. -/
def startTimer (k : DeviceTimer) (now : Nat) (dm : DeviceMetrics τ) :
    DeviceMetrics τ × List (Sample τ) :=
  (dm.setTimer k ((dm.timer k).timer.start now), [])

/-- `if (!timer->Stop()) return; timer->ReportMilliseconds();` -/
def stopAndReport (k : DeviceTimer) (now : Nat) (dm : DeviceMetrics τ) :
    DeviceMetrics τ × List (Sample τ) :=
  let stop := (dm.timer k).timer.stop now
  let dm := dm.setTimer k stop.1
  (dm, if stop.2 then (dm.timer k).reportMilliseconds now else [])

/-- `device_metrics->..._timer->Reset()`. -/
def resetTimer (k : DeviceTimer) (dm : DeviceMetrics τ) : DeviceMetrics τ :=
  dm.setTimer k (dm.timer k).timer.reset

/-- `RegisterDevice(interface_index, technology)`: fresh metrics, the initialization timer
started. -/
def registerDevice (m : Metrics τ) (interfaceIndex : Int) (technology : τ) (now : Nat) :
    Metrics τ :=
  let reporter (metric : String) : TimerReporter τ := ⟨.full metric technology, Timer.init⟩
  let deviceMetrics : DeviceMetrics τ :=
    { technology
      initializationTimer :=
        ⟨.full kMetricTimeToInitializeMilliseconds technology, Timer.init.start now⟩
      enableTimer := reporter kMetricTimeToEnableMilliseconds
      disableTimer := reporter kMetricTimeToDisableMilliseconds
      scanTimer := reporter kMetricTimeToScanMilliseconds
      connectTimer := reporter kMetricTimeToConnectMilliseconds
      scanConnectTimer := reporter kMetricTimeToScanAndConnectMilliseconds
      autoConnectTimer := ⟨.fixed kMetricCellularAutoConnectTotalTime, Timer.init⟩
      autoConnectTries := 0 }
  { m with devicesMetrics := Function.update m.devicesMetrics interfaceIndex (some deviceMetrics) }

/-- `IsDeviceRegistered(interface_index, technology)`. -/
def isDeviceRegistered [DecidableEq τ] (m : Metrics τ) (interfaceIndex : Int) (technology : τ) :
    Bool :=
  match m.devicesMetrics interfaceIndex with
  | none => false
  | some dm => technology = dm.technology

/-- `DeregisterDevice(interface_index)`. -/
def deregisterDevice (m : Metrics τ) (interfaceIndex : Int) : Metrics τ :=
  { m with devicesMetrics := Function.update m.devicesMetrics interfaceIndex none }

/-- `NotifyDeviceInitialized(interface_index)`. -/
def notifyDeviceInitialized (m : Metrics τ) (interfaceIndex : Int) (now : Nat) : Metrics τ :=
  m.onDevice interfaceIndex (stopAndReport .initialization now)

/-- `NotifyDeviceEnableStarted(interface_index)`. -/
def notifyDeviceEnableStarted (m : Metrics τ) (interfaceIndex : Int) (now : Nat) : Metrics τ :=
  m.onDevice interfaceIndex (startTimer .enable now)

/-- `NotifyDeviceEnableFinished(interface_index)`. -/
def notifyDeviceEnableFinished (m : Metrics τ) (interfaceIndex : Int) (now : Nat) : Metrics τ :=
  m.onDevice interfaceIndex (stopAndReport .enable now)

/-- `NotifyDeviceDisableStarted(interface_index)`. -/
def notifyDeviceDisableStarted (m : Metrics τ) (interfaceIndex : Int) (now : Nat) : Metrics τ :=
  m.onDevice interfaceIndex (startTimer .disable now)

/-- `NotifyDeviceDisableFinished(interface_index)`. -/
def notifyDeviceDisableFinished (m : Metrics τ) (interfaceIndex : Int) (now : Nat) : Metrics τ :=
  m.onDevice interfaceIndex (stopAndReport .disable now)

/-- `NotifyDeviceScanStarted`: starts the scan and the scan-and-connect timers. -/
def scanStarted (now : Nat) (dm : DeviceMetrics τ) : DeviceMetrics τ × List (Sample τ) :=
  startTimer .scanConnect now (startTimer .scan now dm).1

/-- `NotifyDeviceScanStarted(interface_index)`. -/
def notifyDeviceScanStarted (m : Metrics τ) (interfaceIndex : Int) (now : Nat) : Metrics τ :=
  m.onDevice interfaceIndex (scanStarted now)

/-- `NotifyDeviceScanFinished`: stops the scan timer and reports it unless the scan took more
than `kMetricTimeToScanMillisecondsMax`. -/
def scanFinished (now : Nat) (dm : DeviceMetrics τ) : DeviceMetrics τ × List (Sample τ) :=
  let stop := dm.scanTimer.timer.stop now
  let dm := dm.setTimer .scan stop.1
  if stop.2 then
    if (stop.1.getElapsedTime now).getD 0 ≤ kMetricTimeToScanMillisecondsMax then
      (dm, dm.scanTimer.reportMilliseconds now)
    else (dm, [])
  else (dm, [])

/-- `NotifyDeviceScanFinished(interface_index)`. -/
def notifyDeviceScanFinished (m : Metrics τ) (interfaceIndex : Int) (now : Nat) : Metrics τ :=
  m.onDevice interfaceIndex (scanFinished now)

/-- `ResetScanTimer(interface_index)`. -/
def resetScanTimer (m : Metrics τ) (interfaceIndex : Int) : Metrics τ :=
  m.onDevice interfaceIndex fun dm => (resetTimer .scan dm, [])

/-- `AutoConnectMetricsReset(device_metrics)`. -/
def autoConnectMetricsReset (dm : DeviceMetrics τ) : DeviceMetrics τ :=
  (resetTimer .autoConnect dm).withAutoConnectTries 0

/-- `NotifyDeviceConnectStarted`: an automatic attempt counts, and the first one starts the
auto-connect timer; a manual one resets the count. -/
def connectStarted (isAutoConnecting : Bool) (now : Nat) (dm : DeviceMetrics τ) :
    DeviceMetrics τ × List (Sample τ) :=
  let dm := (startTimer .connect now dm).1
  if isAutoConnecting then
    let dm := dm.withAutoConnectTries (dm.autoConnectTries + 1)
    if dm.autoConnectTries = 1 then startTimer .autoConnect now dm else (dm, [])
  else (autoConnectMetricsReset dm, [])

/-- `NotifyDeviceConnectStarted(interface_index, is_auto_connecting)`. -/
def notifyDeviceConnectStarted (m : Metrics τ) (interfaceIndex : Int) (isAutoConnecting : Bool)
    (now : Nat) : Metrics τ :=
  m.onDevice interfaceIndex (connectStarted isAutoConnecting now)

/-- The end of `NotifyDeviceConnectFinished`: stop the scan-and-connect timer and report it. -/
def scanConnectFinished (now : Nat) (dm : DeviceMetrics τ) (out : List (Sample τ)) :
    DeviceMetrics τ × List (Sample τ) :=
  let stop := dm.scanConnectTimer.timer.stop now
  let dm := dm.setTimer .scanConnect stop.1
  if stop.2 then (dm, out ++ dm.scanConnectTimer.reportMilliseconds now) else (dm, out)

/-- `NotifyDeviceConnectFinished`, after its lookup: the connect timer's report, then, after
automatic attempts, the auto-connect time and count, then the scan-and-connect report. Each
step returns early when its timer does not run, and the auto-connect step also when the
attempts took longer than `kMetricCellularAutoConnectTotalTimeMax`. -/
def connectFinished (now : Nat) (dm : DeviceMetrics τ) : DeviceMetrics τ × List (Sample τ) :=
  let stop := dm.connectTimer.timer.stop now
  let dm := dm.setTimer .connect stop.1
  if stop.2 then
    let out := dm.connectTimer.reportMilliseconds now
    if 0 < dm.autoConnectTries then
      let autoStop := dm.autoConnectTimer.timer.stop now
      let dm := dm.setTimer .autoConnect autoStop.1
      if autoStop.2 then
        if kMetricCellularAutoConnectTotalTimeMax < (autoStop.1.getElapsedTime now).getD 0 then
          (dm, out)
        else
          scanConnectFinished now (autoConnectMetricsReset dm)
            (out ++ dm.autoConnectTimer.reportMilliseconds now ++
              [⟨.fixed kMetricCellularAutoConnectTries, dm.autoConnectTries⟩])
      else (dm, out)
    else scanConnectFinished now dm out
  else (dm, [])

/-- `NotifyDeviceConnectFinished(interface_index)`. -/
def notifyDeviceConnectFinished (m : Metrics τ) (interfaceIndex : Int) (now : Nat) : Metrics τ :=
  m.onDevice interfaceIndex (connectFinished now)

/-- `ResetConnectTimer(interface_index)`. -/
def resetConnectTimer (m : Metrics τ) (interfaceIndex : Int) : Metrics τ :=
  m.onDevice interfaceIndex fun dm => (resetTimer .scanConnect (resetTimer .connect dm), [])

end Metrics

end Shill

namespace Shill.Metrics

variable {τ : Type}

/-! ## Notifications about one device -/

/-- A notification about one device. -/
inductive DeviceEvent
  | initialized
  | enableStarted
  | enableFinished
  | disableStarted
  | disableFinished
  | scanStarted
  | scanFinished
  | resetScanTimer
  | connectStarted (isAutoConnecting : Bool)
  | connectFinished
  | resetConnectTimer
  deriving DecidableEq, Repr

/-- What notification `e` at time `now` does to a registered device. -/
def DeviceEvent.body (now : Nat) :
    DeviceEvent → DeviceMetrics τ → DeviceMetrics τ × List (Sample τ)
  | .initialized => stopAndReport .initialization now
  | .enableStarted => startTimer .enable now
  | .enableFinished => stopAndReport .enable now
  | .disableStarted => startTimer .disable now
  | .disableFinished => stopAndReport .disable now
  | .scanStarted => Metrics.scanStarted now
  | .scanFinished => Metrics.scanFinished now
  | .resetScanTimer => fun dm => (resetTimer .scan dm, [])
  | .connectStarted isAutoConnecting => Metrics.connectStarted isAutoConnecting now
  | .connectFinished => Metrics.connectFinished now
  | .resetConnectTimer => fun dm => (resetTimer .scanConnect (resetTimer .connect dm), [])

/-- The `Metrics` call of notification `e` for `interfaceIndex` at time `now`. -/
def notify (m : Metrics τ) (interfaceIndex : Int) (now : Nat) : DeviceEvent → Metrics τ
  | .initialized => m.notifyDeviceInitialized interfaceIndex now
  | .enableStarted => m.notifyDeviceEnableStarted interfaceIndex now
  | .enableFinished => m.notifyDeviceEnableFinished interfaceIndex now
  | .disableStarted => m.notifyDeviceDisableStarted interfaceIndex now
  | .disableFinished => m.notifyDeviceDisableFinished interfaceIndex now
  | .scanStarted => m.notifyDeviceScanStarted interfaceIndex now
  | .scanFinished => m.notifyDeviceScanFinished interfaceIndex now
  | .resetScanTimer => m.resetScanTimer interfaceIndex
  | .connectStarted isAutoConnecting =>
    m.notifyDeviceConnectStarted interfaceIndex isAutoConnecting now
  | .connectFinished => m.notifyDeviceConnectFinished interfaceIndex now
  | .resetConnectTimer => m.resetConnectTimer interfaceIndex

theorem notify_eq_onDevice (m : Metrics τ) (interfaceIndex : Int) (now : Nat) (e : DeviceEvent) :
    m.notify interfaceIndex now e = m.onDevice interfaceIndex (e.body now) := by
  cases e <;> rfl

/-- The notifications `es`, each with its time, for device `interfaceIndex`. -/
def runDevice (m : Metrics τ) (interfaceIndex : Int) (es : List (Nat × DeviceEvent)) :
    Metrics τ :=
  es.foldl (fun m e => m.notify interfaceIndex e.1 e.2) m

/-- The histogram `RegisterDevice` gives timer `k` of a device of `technology`. -/
def registeredHistogram (technology : τ) : DeviceTimer → Histogram τ
  | .initialization => .full kMetricTimeToInitializeMilliseconds technology
  | .enable => .full kMetricTimeToEnableMilliseconds technology
  | .disable => .full kMetricTimeToDisableMilliseconds technology
  | .scan => .full kMetricTimeToScanMilliseconds technology
  | .connect => .full kMetricTimeToConnectMilliseconds technology
  | .scanConnect => .full kMetricTimeToScanAndConnectMilliseconds technology
  | .autoConnect => .fixed kMetricCellularAutoConnectTotalTime

/-- The device's timers report to the histograms `RegisterDevice` gave them. -/
def WellNamed (dm : DeviceMetrics τ) : Prop :=
  ∀ k, (dm.timer k).histogram = registeredHistogram dm.technology k

/-- The histograms of the automatic connections of a device of `technology`. -/
def autoConnectHistograms (technology : τ) : List (Histogram τ) :=
  [.fixed kMetricCellularAutoConnectTries, .fixed kMetricCellularAutoConnectTotalTime,
   .full kMetricTimeToScanAndConnectMilliseconds technology]

/-- `auto_connect_tries` is positive while the auto-connect timer is stopped. -/
def Stuck (dm : DeviceMetrics τ) : Prop :=
  0 < dm.autoConnectTries ∧ (dm.timer .autoConnect).timer.running = false

/-- Device `interfaceIndex` is registered with `technology`, well named, and stuck. -/
def StuckAt (m : Metrics τ) (interfaceIndex : Int) (technology : τ) : Prop :=
  ∃ dm, m.devicesMetrics interfaceIndex = some dm ∧ dm.technology = technology ∧ WellNamed dm ∧
    Stuck dm

/-- `auto_connect_tries` of device `interfaceIndex`, `0` if it is not registered. -/
def autoConnectTriesAt (m : Metrics τ) (interfaceIndex : Int) : Nat :=
  (m.devicesMetrics interfaceIndex).elim 0 DeviceMetrics.autoConnectTries

theorem registeredHistogram_not_mem (technology : τ) {k : DeviceTimer}
    (h₁ : k ≠ .scanConnect) (h₂ : k ≠ .autoConnect) :
    registeredHistogram technology k ∉ autoConnectHistograms technology := by
  cases k <;> simp_all [registeredHistogram, autoConnectHistograms] <;> decide

namespace DeviceMetrics

/-- What `RegisterDevice` fixed of a device: its technology and its timers' histograms. -/
def names (dm : DeviceMetrics τ) : τ × (DeviceTimer → Histogram τ) :=
  (dm.technology, fun k => (dm.timer k).histogram)

@[simp] theorem histogram_timer_setTimer (dm : DeviceMetrics τ) (k k' : DeviceTimer)
    (t : Timer) : ((dm.setTimer k t).timer k').histogram = (dm.timer k').histogram := by
  cases k <;> cases k' <;> rfl

@[simp] theorem names_setTimer (dm : DeviceMetrics τ) (k : DeviceTimer) (t : Timer) :
    (dm.setTimer k t).names = dm.names := by
  simp only [names, technology_setTimer, histogram_timer_setTimer]

@[simp] theorem names_withAutoConnectTries (dm : DeviceMetrics τ) (n : Nat) :
    (dm.withAutoConnectTries n).names = dm.names := by
  simp only [names, technology_withAutoConnectTries, timer_withAutoConnectTries]

/-- Setting a timer to what it holds changes nothing. -/
@[simp] theorem setTimer_timer (dm : DeviceMetrics τ) (k : DeviceTimer) :
    dm.setTimer k (dm.timer k).timer = dm := by
  cases k <;> rfl

end DeviceMetrics

theorem WellNamed.of_names_eq {dm dm' : DeviceMetrics τ} (hw : WellNamed dm)
    (h : dm'.names = dm.names) : WellNamed dm' := by
  intro k
  have h₁ : dm'.technology = dm.technology := congrArg Prod.fst h
  have h₂ : (dm'.timer k).histogram = (dm.timer k).histogram := congr_fun (congrArg Prod.snd h) k
  rw [h₁, h₂, hw k]

theorem stopAndReport_fst (k : DeviceTimer) (now : Nat) (dm : DeviceMetrics τ) :
    (stopAndReport k now dm).1 = dm.setTimer k ((dm.timer k).timer.stop now).1 := rfl

theorem histogram_of_mem_stopAndReport {k : DeviceTimer} {now : Nat} {dm : DeviceMetrics τ}
    {s : Sample τ} (h : s ∈ (stopAndReport k now dm).2) :
    s.histogram = (dm.timer k).histogram := by
  simp only [stopAndReport] at h
  split_ifs at h
  · simpa using TimerReporter.histogram_of_mem_reportMilliseconds h
  · cases h

theorem scanFinished_fst (now : Nat) (dm : DeviceMetrics τ) :
    (scanFinished now dm).1 = dm.setTimer .scan (dm.scanTimer.timer.stop now).1 := by
  simp only [scanFinished]; split_ifs <;> rfl

theorem histogram_of_mem_scanFinished {now : Nat} {dm : DeviceMetrics τ} {s : Sample τ}
    (h : s ∈ (scanFinished now dm).2) : s.histogram = dm.scanTimer.histogram := by
  simp only [scanFinished] at h
  split_ifs at h
  · exact (TimerReporter.histogram_of_mem_reportMilliseconds h).trans
      (dm.histogram_timer_setTimer .scan .scan _)
  all_goals cases h

theorem names_connectStarted (isAutoConnecting : Bool) (now : Nat) (dm : DeviceMetrics τ) :
    (connectStarted isAutoConnecting now dm).1.names = dm.names := by
  simp only [connectStarted, startTimer, autoConnectMetricsReset, resetTimer]
  split_ifs <;> simp only [DeviceMetrics.names_setTimer, DeviceMetrics.names_withAutoConnectTries]

theorem scanConnectFinished_fst (now : Nat) (dm : DeviceMetrics τ) (out : List (Sample τ)) :
    (scanConnectFinished now dm out).1 =
      dm.setTimer .scanConnect (dm.scanConnectTimer.timer.stop now).1 := by
  simp only [scanConnectFinished]; split_ifs <;> rfl

theorem names_connectFinished (now : Nat) (dm : DeviceMetrics τ) :
    (connectFinished now dm).1.names = dm.names := by
  simp only [connectFinished, autoConnectMetricsReset, resetTimer]
  split_ifs <;> simp only [scanConnectFinished_fst, DeviceMetrics.names_setTimer,
    DeviceMetrics.names_withAutoConnectTries]

/-- **No notification renames a device**: its technology and its histograms stay as
`RegisterDevice` set them. -/
theorem body_names (e : DeviceEvent) (now : Nat) (dm : DeviceMetrics τ) :
    (e.body now dm).1.names = dm.names := by
  cases e <;> simp only [DeviceEvent.body, startTimer, stopAndReport_fst, resetTimer,
    Metrics.scanStarted, scanFinished_fst, names_connectStarted, names_connectFinished,
    DeviceMetrics.names_setTimer]

/-- On a stuck device an automatic `NotifyDeviceConnectStarted` starts the connect timer and
counts the attempt; it is not the first, so the auto-connect timer stays stopped. -/
theorem connectStarted_of_stuck (now : Nat) {dm : DeviceMetrics τ} (hs : Stuck dm) :
    connectStarted true now dm =
      ((startTimer .connect now dm).1.withAutoConnectTries (dm.autoConnectTries + 1), []) := by
  have h : dm.autoConnectTries + 1 ≠ 1 := by have := hs.1; omega
  simp [connectStarted, startTimer, h]

/-- On a stuck device `NotifyDeviceConnectFinished` returns at the stopped auto-connect timer:
it only stops and reports the connect timer. -/
theorem connectFinished_of_stuck (now : Nat) {dm : DeviceMetrics τ} (hs : Stuck dm) :
    connectFinished now dm = stopAndReport .connect now dm := by
  obtain ⟨hpos, hrun⟩ := hs
  have hstop (t : Timer) : (dm.setTimer .connect t).autoConnectTimer.timer.stop now =
      ((dm.setTimer .connect t).autoConnectTimer.timer, false) :=
    Timer.stop_of_not_running hrun now
  have hset (d : DeviceMetrics τ) : d.setTimer .autoConnect d.autoConnectTimer.timer = d :=
    d.setTimer_timer .autoConnect
  simp only [connectFinished, stopAndReport, hstop, hset, DeviceMetrics.autoConnectTries_setTimer,
    hpos, if_true, Bool.false_eq_true, if_false, DeviceMetrics.timer]
  split_ifs <;> rfl

/-- On a stuck device every notification but a manual connect leaves the auto-connect timer as
it is, and only an automatic connect changes the count. -/
theorem body_of_stuck (e : DeviceEvent) (now : Nat) {dm : DeviceMetrics τ} (hs : Stuck dm)
    (he : e ≠ .connectStarted false) :
    (e.body now dm).1.timer .autoConnect = dm.timer .autoConnect ∧
    (e.body now dm).1.autoConnectTries =
      dm.autoConnectTries + if e = .connectStarted true then 1 else 0 := by
  cases e with
  | connectStarted isAutoConnecting =>
    cases isAutoConnecting
    · exact absurd rfl he
    · simp [DeviceEvent.body, connectStarted_of_stuck now hs, startTimer]
  | connectFinished => simp [DeviceEvent.body, connectFinished_of_stuck now hs, stopAndReport_fst]
  | _ => simp [DeviceEvent.body, startTimer, stopAndReport_fst, resetTimer, Metrics.scanStarted,
      scanFinished_fst]

theorem body_stuck (e : DeviceEvent) (now : Nat) {dm : DeviceMetrics τ} (hs : Stuck dm)
    (he : e ≠ .connectStarted false) : Stuck (e.body now dm).1 := by
  obtain ⟨htimer, htries⟩ := body_of_stuck e now hs he
  exact ⟨by rw [htries]; exact Nat.lt_add_right _ hs.1, by rw [htimer]; exact hs.2⟩

/-- On a stuck device every sample a notification sends comes from the initialization, enable,
disable, scan or connect timer. -/
theorem body_samples_of_stuck (e : DeviceEvent) (now : Nat) {dm : DeviceMetrics τ}
    (hs : Stuck dm) {s : Sample τ} (h : s ∈ (e.body now dm).2) :
    ∃ k, k ≠ .scanConnect ∧ k ≠ .autoConnect ∧ s.histogram = (dm.timer k).histogram := by
  cases e with
  | initialized => exact ⟨_, by decide, by decide, histogram_of_mem_stopAndReport h⟩
  | enableFinished => exact ⟨_, by decide, by decide, histogram_of_mem_stopAndReport h⟩
  | disableFinished => exact ⟨_, by decide, by decide, histogram_of_mem_stopAndReport h⟩
  | scanFinished => exact ⟨.scan, by decide, by decide, histogram_of_mem_scanFinished h⟩
  | connectFinished =>
    rw [DeviceEvent.body, connectFinished_of_stuck now hs] at h
    exact ⟨_, by decide, by decide, histogram_of_mem_stopAndReport h⟩
  | connectStarted isAutoConnecting =>
    cases isAutoConnecting
    · simp [DeviceEvent.body, connectStarted] at h
    · simp [DeviceEvent.body, connectStarted_of_stuck now hs] at h
  | _ => simp [DeviceEvent.body, startTimer, Metrics.scanStarted] at h

theorem notify_stuck {m : Metrics τ} {i : Int} {technology : τ} (h : m.StuckAt i technology)
    (now : Nat) {e : DeviceEvent} (he : e ≠ .connectStarted false) :
    (m.notify i now e).StuckAt i technology ∧
    (m.notify i now e).autoConnectTriesAt i =
      m.autoConnectTriesAt i + (if e = .connectStarted true then 1 else 0) ∧
    ∃ out, (m.notify i now e).samples = m.samples ++ out ∧
      ∀ s ∈ out, s.histogram ∉ autoConnectHistograms technology := by
  obtain ⟨dm, hdm, rfl, hw, hs⟩ := h
  have hnames := body_names e now dm
  simp only [notify_eq_onDevice, onDevice, hdm]
  refine ⟨⟨_, by simp, congrArg Prod.fst hnames, hw.of_names_eq hnames,
      body_stuck e now hs he⟩,
    by simp [autoConnectTriesAt, hdm, (body_of_stuck e now hs he).2], _, rfl, fun s h => ?_⟩
  obtain ⟨k, h₁, h₂, hk⟩ := body_samples_of_stuck e now hs h
  exact hk ▸ hw k ▸ registeredHistogram_not_mem _ h₁ h₂

/-- **A stuck auto-connect count stays stuck.** From a registered device whose
`auto_connect_tries` is positive while its auto-connect timer is stopped, any notifications of
that device other than a manual `NotifyDeviceConnectStarted` leave it so, add one to the count
for each automatic attempt, and send no `AutoConnectTries`, `AutoConnectTotalTime` or
`TimeToScanAndConnect` sample. -/
theorem autoConnect_stuck {m : Metrics τ} {i : Int} {technology : τ}
    (h : m.StuckAt i technology) (es : List (Nat × DeviceEvent))
    (hes : ∀ p ∈ es, p.2 ≠ .connectStarted false) :
    (m.runDevice i es).StuckAt i technology ∧
    (m.runDevice i es).autoConnectTriesAt i =
      m.autoConnectTriesAt i + (es.filter fun p => p.2 = .connectStarted true).length ∧
    ∃ out, (m.runDevice i es).samples = m.samples ++ out ∧
      ∀ s ∈ out, s.histogram ∉ autoConnectHistograms technology := by
  induction es generalizing m with
  | nil => exact ⟨h, rfl, [], by simp [runDevice], by simp⟩
  | cons p es ih =>
    obtain ⟨h₁, htries₁, out₁, hout₁, hs₁⟩ := notify_stuck h p.1 (hes p (.head _))
    obtain ⟨h₂, htries₂, out₂, hout₂, hs₂⟩ := ih h₁ fun q hq => hes q (.tail _ hq)
    refine ⟨h₂, ?_, out₁ ++ out₂, ?_, fun s hs => ?_⟩
    · rw [runDevice, List.foldl_cons, ← runDevice, htries₂, htries₁, List.filter_cons]
      by_cases hp : p.2 = .connectStarted true <;>
        simp only [hp, if_true, if_false, decide_True, decide_False, eq_self_iff_true,
          Bool.false_eq_true, List.length_cons] <;> omega
    · rw [runDevice, List.foldl_cons, ← runDevice, hout₂, hout₁, List.append_assoc]
    · rcases List.mem_append.mp hs with hs | hs
      exacts [hs₁ s hs, hs₂ s hs]

/-- One automatic connection of 61 s gets a freshly registered device stuck: the second
automatic attempt, of 1 s, then reports its `TimeToConnect` only. -/
theorem autoConnect_stuck_after_slow_connect :
    let m := (((⟨fun _ => none, []⟩ : Metrics String).registerDevice 1 "Cellular" 0
      ).notifyDeviceConnectStarted 1 true 0).notifyDeviceConnectFinished 1 61000
    let es : List (Nat × DeviceEvent) := [(70000, .connectStarted true), (71000, .connectFinished)]
    m.StuckAt 1 "Cellular" ∧ (∀ p ∈ es, p.2 ≠ .connectStarted false) ∧
    ((m.runDevice 1 es).StuckAt 1 "Cellular" ∧
      (m.runDevice 1 es).autoConnectTriesAt 1 =
        m.autoConnectTriesAt 1 + (es.filter fun p => p.2 = .connectStarted true).length ∧
      ∃ out, (m.runDevice 1 es).samples = m.samples ++ out ∧
        ∀ s ∈ out, s.histogram ∉ autoConnectHistograms "Cellular") := by
  intro m es
  have h : m.StuckAt 1 "Cellular" :=
    ⟨_, rfl, rfl, fun k => by cases k <;> rfl, by decide, rfl⟩
  have hes : ∀ p ∈ es, p.2 ≠ .connectStarted false := by decide
  exact ⟨h, hes, autoConnect_stuck h es hes⟩

example :
    (((((⟨fun _ => none, []⟩ : Metrics String).registerDevice 1 "Cellular" 0
      ).notifyDeviceConnectStarted 1 true 0).notifyDeviceConnectFinished 1 61000).runDevice 1
        [(70000, .connectStarted true), (71000, .connectFinished)]).samples =
      [⟨.full kMetricTimeToConnectMilliseconds "Cellular", 61000⟩,
       ⟨.full kMetricTimeToConnectMilliseconds "Cellular", 1000⟩] := by
  decide

end Shill.Metrics
