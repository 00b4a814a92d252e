import Mathlib.Logic.Function.Basic
import Shill.Metrics.Timer

/-!
# Service state-transition timers

Model of the service part of `Metrics` (`metrics.cc`): `RegisterService`, `DeregisterService`,
`AddServiceStateTransitionTimer`, `InitializeCommonServiceMetrics`, `NotifyServiceStateChanged`
with `UpdateServiceStateTransitionMetrics` and `SendServiceFailure`, and `NotifySuspendDone`.

`services_metrics_` maps a service to its `ServiceMetrics`: a list of timers, each started when
the service enters one state and stopped, and reported, when it enters another.
`start_on_state` and `stop_on_state` hold, for each state, the timers that start or stop there
in the order they were added; a timer is modelled with its two states, and those lists are the
timers whose state matches, in list order. `RegisterService` gives a service three timers:
`TimeToConfig` (Configuring to Connected), `TimeToPortal` (Connected to Portal) and
`TimeToOnline` (Connected to Online).

A `Service` is a key `σ`, with the technology it registers with and the failure it reports
when it fails. `Service::ConnectState` is declared in `service.h`, not in this snapshot, and is
modelled with the states `metrics.cc` and its callers name. `bootstat_log` and the `SLOG` lines
are left out; `SendPostReadyStateMetrics` is a method of `Service`, so the model keeps the calls
made to it, not what they send.

## Results

* `pendingStart`: what a timer should hold, read off the service's history alone: the time the
  service last entered the start state, provided it has not entered the stop state since.
* `notifyServiceStateChanged_samples`: after any run of registrations, deregistrations, state
  changes and suspends, for any services in any order, a state change of a registered service
  sends exactly `expectedSamples` of its history since it was last registered (then, on a
  failure, `ServiceErrors`), and a state change of any other service sends nothing. The timers
  are not reset when a service fails or goes idle: a `TimeToConfig` reported at Connected
  measures from the last Configuring, however long ago.
-/

namespace Shill.Metrics

/-- `Service::ConnectState`. -/
inductive ConnectState
  | unknown
  | idle
  | associating
  | configuring
  | connected
  | portal
  | failure
  | online
  deriving DecidableEq, Repr

/-- `Metrics::kMetricTimeToConfigMilliseconds`. -/
def kMetricTimeToConfigMilliseconds : String := "Network.Shill.%s.TimeToConfig"
/-- `Metrics::kMetricTimeToPortalMilliseconds`. -/
def kMetricTimeToPortalMilliseconds : String := "Network.Shill.%s.TimeToPortal"
/-- `Metrics::kMetricTimeToOnlineMilliseconds`. -/
def kMetricTimeToOnlineMilliseconds : String := "Network.Shill.%s.TimeToOnline"
/-- `Metrics::kMetricNetworkServiceErrors`. -/
def kMetricNetworkServiceErrors : String := "Network.Shill.ServiceErrors"

variable {σ τ : Type}

/-- A timer of `ServiceMetrics::timers`, with the state that starts it and the one that stops
it. -/
structure TransitionTimer (τ : Type) where
  reporter : TimerReporter τ
  startState : ConnectState
  stopState : ConnectState
  /-- `CHECK(start_state < stop_state)`: the two states differ. -/
  start_ne_stop : startState ≠ stopState

/-- `Metrics::ServiceMetrics`. -/
structure ServiceMetrics (τ : Type) where
  timers : List (TransitionTimer τ)

namespace TransitionTimer

/-- `timer->Start()`. -/
def start (t : TransitionTimer τ) (now : Nat) : TransitionTimer τ :=
  { t with reporter := { t.reporter with timer := t.reporter.timer.start now } }

/-- `if (timer->Stop()) timer->ReportMilliseconds();` -/
def stopAndReport (t : TransitionTimer τ) (now : Nat) : TransitionTimer τ × List (Sample τ) :=
  ({ t with reporter := (t.reporter.stopAndReport now).1 }, (t.reporter.stopAndReport now).2)

/-- The histogram a timer reports to and its two states. -/
def transition (t : TransitionTimer τ) : Histogram τ × ConnectState × ConnectState :=
  (t.reporter.histogram, t.startState, t.stopState)

end TransitionTimer

/-- `UpdateServiceStateTransitionMetrics(service_metrics, new_state)`: start every timer that
starts on `new_state`, then stop every timer that stops on it, reporting each that ran. -/
def updateServiceStateTransitionMetrics (sm : ServiceMetrics τ) (newState : ConnectState)
    (now : Nat) : ServiceMetrics τ × List (Sample τ) :=
  let started := sm.timers.map fun t => if t.startState = newState then t.start now else t
  let stopped := started.map fun t =>
    if t.stopState = newState then t.stopAndReport now else (t, [])
  (⟨stopped.map Prod.fst⟩, (stopped.map Prod.snd).flatten)

/-- The fields of `Metrics` the service notifications use, and what they have sent: the samples,
and the `SendPostReadyStateMetrics` calls made on services. -/
structure Services (σ τ : Type) where
  servicesMetrics : σ → Option (ServiceMetrics τ)
  timeResumeToReadyTimer : Timer
  samples : List (Sample τ)
  postReadyStateMetrics : List (σ × Nat)

namespace Services

variable [DecidableEq σ]

/-- As `Metrics::Metrics` leaves them: no service, the resume timer never started. -/
def init : Services σ τ := ⟨fun _ => none, Timer.init, [], []⟩

/-- `AddServiceStateTransitionTimer(service, histogram_name, start_state, stop_state)`. -/
def addServiceStateTransitionTimer (m : Services σ τ) (service : σ)
    (histogramName : Histogram τ) (startState stopState : ConnectState)
    (h : startState ≠ stopState) : Services σ τ :=
  match m.servicesMetrics service with
  | none => m
  | some sm =>
    { m with
      servicesMetrics := Function.update m.servicesMetrics service
        (some ⟨sm.timers ++
          [⟨⟨histogramName, Timer.init⟩, startState, stopState, h⟩]⟩) }

/-- `InitializeCommonServiceMetrics(service)`. -/
def initializeCommonServiceMetrics (m : Services σ τ) (service : σ) (technology : τ) :
    Services σ τ :=
  let m := m.addServiceStateTransitionTimer service
    (.full kMetricTimeToConfigMilliseconds technology) .configuring .connected (by decide)
  let m := m.addServiceStateTransitionTimer service
    (.full kMetricTimeToPortalMilliseconds technology) .connected .portal (by decide)
  m.addServiceStateTransitionTimer service
    (.full kMetricTimeToOnlineMilliseconds technology) .connected .online (by decide)

/-- `RegisterService(service)`: fresh metrics, replacing any the service had. -/
def registerService (m : Services σ τ) (service : σ) (technology : τ) : Services σ τ :=
  initializeCommonServiceMetrics
    { m with servicesMetrics := Function.update m.servicesMetrics service (some ⟨[]⟩) }
    service technology

/-- `DeregisterService(service)`. -/
def deregisterService (m : Services σ τ) (service : σ) : Services σ τ :=
  { m with servicesMetrics := Function.update m.servicesMetrics service none }

/-- `SendServiceFailure(service)`, the service reporting `failure`. -/
def sendServiceFailure (m : Services σ τ) (failure : Nat) : Services σ τ :=
  { m with samples := m.samples ++ [⟨.fixed kMetricNetworkServiceErrors, failure⟩] }

/-- `NotifyServiceStateChanged(service, new_state)` at `now`, the service reporting `failure`. -/
def notifyServiceStateChanged (m : Services σ τ) (service : σ) (newState : ConnectState)
    (failure now : Nat) : Services σ τ :=
  match m.servicesMetrics service with
  | none => m
  | some sm =>
    let update := updateServiceStateTransitionMetrics sm newState now
    let m := { m with
      servicesMetrics := Function.update m.servicesMetrics service (some update.1)
      samples := m.samples ++ update.2 }
    let m := if newState = .failure then m.sendServiceFailure failure else m
    if newState ≠ .connected then m
    else
      let timeResumeToReady := (m.timeResumeToReadyTimer.getElapsedTime now).getD 0
      { m with
        timeResumeToReadyTimer := m.timeResumeToReadyTimer.reset
        postReadyStateMetrics := m.postReadyStateMetrics ++ [(service, timeResumeToReady)] }

/-- `NotifySuspendDone()`. -/
def notifySuspendDone (m : Services σ τ) (now : Nat) : Services σ τ :=
  { m with timeResumeToReadyTimer := m.timeResumeToReadyTimer.start now }

end Services

/-! ## Runs -/

/-- A call into the service part of `Metrics`. -/
inductive ServiceCall (σ τ : Type)
  | registerService (service : σ) (technology : τ)
  | deregisterService (service : σ)
  | stateChanged (service : σ) (newState : ConnectState) (failure now : Nat)
  | suspendDone (now : Nat)

namespace Services

variable [DecidableEq σ]

/-- One call. -/
def step (m : Services σ τ) : ServiceCall σ τ → Services σ τ
  | .registerService service technology => m.registerService service technology
  | .deregisterService service => m.deregisterService service
  | .stateChanged service newState failure now =>
    m.notifyServiceStateChanged service newState failure now
  | .suspendDone now => m.notifySuspendDone now

/-- A sequence of calls. -/
def run (m : Services σ τ) (cs : List (ServiceCall σ τ)) : Services σ τ :=
  cs.foldl step m

end Services

/-! ## What the timers should report -/

/-- The time `hist` last entered `startState`, provided it has not entered `stopState` since:
the most recent entry into either state was into `startState`. -/
def pendingStart (startState stopState : ConnectState) (hist : List (Nat × ConnectState)) :
    Option Nat :=
  (hist.reverse.find? fun e => e.2 = startState ∨ e.2 = stopState).bind fun e =>
    if e.2 = startState then some e.1 else none

/-- What a timer from `startState` to `stopState`, reporting to `histogram`, should send when a
service with history `hist` enters `newState` at `now`: on `stopState`, the time since the
pending start. -/
def transitionSamples (histogram : Histogram τ) (startState stopState : ConnectState)
    (hist : List (Nat × ConnectState)) (newState : ConnectState) (now : Nat) : List (Sample τ) :=
  if newState = stopState then
    (pendingStart startState stopState hist).toList.map fun start => ⟨histogram, now - start⟩
  else []

/-- The transitions `InitializeCommonServiceMetrics` times for a service of `technology`. -/
def commonTransitions (technology : τ) : List (Histogram τ × ConnectState × ConnectState) :=
  [(.full kMetricTimeToConfigMilliseconds technology, .configuring, .connected),
   (.full kMetricTimeToPortalMilliseconds technology, .connected, .portal),
   (.full kMetricTimeToOnlineMilliseconds technology, .connected, .online)]

/-- The samples a service of `technology` with history `hist` should send on entering
`newState` at `now`. -/
def expectedSamples (technology : τ) (hist : List (Nat × ConnectState))
    (newState : ConnectState) (now : Nat) : List (Sample τ) :=
  (commonTransitions technology).flatMap fun tr =>
    transitionSamples tr.1 tr.2.1 tr.2.2 hist newState now

variable [DecidableEq σ]

/-- How `c` changes what is known of `service`: the technology it was last registered with and
its state changes since, `none` while it is not registered. -/
def registrationStep (service : σ) (r : Option (τ × List (Nat × ConnectState))) :
    ServiceCall σ τ → Option (τ × List (Nat × ConnectState))
  | .registerService s technology => if s = service then some (technology, []) else r
  | .deregisterService s => if s = service then none else r
  | .stateChanged s newState _ now =>
    if s = service then r.map fun p => (p.1, p.2 ++ [(now, newState)]) else r
  | .suspendDone _ => r

/-- The registration of `service` after the calls `cs`. -/
def registration (service : σ) (cs : List (ServiceCall σ τ)) :
    Option (τ × List (Nat × ConnectState)) :=
  cs.foldl (registrationStep service) none

/-! ## One timer -/

/-- A state change moves the pending start: entering the start state restarts it, entering the
stop state clears it, and any other state leaves it. -/
theorem pendingStart_append_singleton (startState stopState : ConnectState)
    (hist : List (Nat × ConnectState)) (now : Nat) (newState : ConnectState) :
    pendingStart startState stopState (hist ++ [(now, newState)]) =
      if newState = startState then some now
      else if newState = stopState then none
      else pendingStart startState stopState hist := by
  simp only [pendingStart, List.reverse_append, List.reverse_cons, List.reverse_nil,
    List.nil_append, List.singleton_append, List.find?_cons]
  by_cases ha : newState = startState <;> by_cases hb : newState = stopState <;> simp [ha, hb]

namespace TransitionTimer

/-- What `UpdateServiceStateTransitionMetrics` does to one timer. -/
def update (t : TransitionTimer τ) (newState : ConnectState) (now : Nat) :
    TransitionTimer τ × List (Sample τ) :=
  let t := if t.startState = newState then t.start now else t
  if t.stopState = newState then t.stopAndReport now else (t, [])

@[simp] theorem start_startState (t : TransitionTimer τ) (now : Nat) :
    (t.start now).startState = t.startState := rfl

@[simp] theorem start_stopState (t : TransitionTimer τ) (now : Nat) :
    (t.start now).stopState = t.stopState := rfl

theorem update_transition (t : TransitionTimer τ) (newState : ConnectState) (now : Nat) :
    (t.update newState now).1.transition = t.transition := by
  simp only [update]; split_ifs <;> rfl

theorem update_startState (t : TransitionTimer τ) (newState : ConnectState) (now : Nat) :
    (t.update newState now).1.startState = t.startState :=
  congrArg (·.2.1) (t.update_transition newState now)

theorem update_stopState (t : TransitionTimer τ) (newState : ConnectState) (now : Nat) :
    (t.update newState now).1.stopState = t.stopState :=
  congrArg (·.2.2) (t.update_transition newState now)

/-- **One timer refines its pending start**: a timer that holds the pending start of `hist` holds
that of `hist` extended by the state change, and sends what `transitionSamples` says. -/
theorem update_tracks (t : TransitionTimer τ) {hist : List (Nat × ConnectState)}
    (ht : Timer.HoldsStart (pendingStart t.startState t.stopState hist) t.reporter.timer)
    (newState : ConnectState) (now : Nat) :
    Timer.HoldsStart (pendingStart t.startState t.stopState (hist ++ [(now, newState)]))
      (t.update newState now).1.reporter.timer ∧
    (t.update newState now).2 =
      transitionSamples t.reporter.histogram t.startState t.stopState hist newState now := by
  rw [pendingStart_append_singleton]
  by_cases ha : newState = t.startState
  · subst ha
    have hb : t.stopState ≠ t.startState := t.start_ne_stop.symm
    simp [update, start, transitionSamples, Timer.HoldsStart, hb, Ne.symm hb]
  by_cases hb : newState = t.stopState
  · subst hb
    simp only [update, Ne.symm ha, if_false, if_true, ha, transitionSamples, stopAndReport,
      TimerReporter.stopAndReport_samples, TimerReporter.stopAndReport_running]
    cases hp : pendingStart t.startState t.stopState hist with
    | none => simp_all [Timer.HoldsStart]
    | some start => simp_all [Timer.HoldsStart]
  · simp [update, Ne.symm ha, Ne.symm hb, ha, hb, transitionSamples, ht]

end TransitionTimer

/-! ## One service -/

theorem updateServiceStateTransitionMetrics_eq (sm : ServiceMetrics τ) (newState : ConnectState)
    (now : Nat) :
    updateServiceStateTransitionMetrics sm newState now =
      (⟨sm.timers.map fun t => (t.update newState now).1⟩,
        (sm.timers.map fun t => (t.update newState now).2).flatten) := by
  simp [updateServiceStateTransitionMetrics, TransitionTimer.update, Function.comp_def,
    apply_ite TransitionTimer.stopState]

/-- `sm` holds the timers `InitializeCommonServiceMetrics` adds for `technology`, each holding
the pending start of `hist`. -/
structure Tracks (technology : τ) (hist : List (Nat × ConnectState)) (sm : ServiceMetrics τ) :
    Prop where
  transitions : sm.timers.map TransitionTimer.transition = commonTransitions technology
  timers : ∀ t ∈ sm.timers, Timer.HoldsStart (pendingStart t.startState t.stopState hist)
    t.reporter.timer

/-- **A service's timers refine its history**: a state change keeps them tracking the history
extended by it, and sends `expectedSamples`. -/
theorem Tracks.update {technology : τ} {hist : List (Nat × ConnectState)} {sm : ServiceMetrics τ}
    (h : Tracks technology hist sm) (newState : ConnectState) (now : Nat) :
    Tracks technology (hist ++ [(now, newState)])
      (updateServiceStateTransitionMetrics sm newState now).1 ∧
    (updateServiceStateTransitionMetrics sm newState now).2 =
      expectedSamples technology hist newState now := by
  rw [updateServiceStateTransitionMetrics_eq]
  have hstep (t) (ht : t ∈ sm.timers) := (t.update_tracks (h.timers t ht) newState now)
  refine ⟨⟨?_, ?_⟩, ?_⟩
  · simp only [List.map_map, Function.comp_def, TransitionTimer.update_transition]
    exact h.transitions
  · simp only [List.mem_map]
    rintro _ ⟨t, ht, rfl⟩
    rw [t.update_startState, t.update_stopState]
    exact (hstep t ht).1
  · rw [expectedSamples, ← h.transitions, List.flatMap, List.map_map]
    exact congrArg List.flatten (List.map_congr_left fun t ht => (hstep t ht).2)

/-- A freshly registered service tracks the empty history. -/
theorem tracks_register (technology : τ) :
    Tracks technology []
      ⟨[⟨⟨.full kMetricTimeToConfigMilliseconds technology, Timer.init⟩, .configuring,
          .connected, by decide⟩,
        ⟨⟨.full kMetricTimeToPortalMilliseconds technology, Timer.init⟩, .connected, .portal,
          by decide⟩,
        ⟨⟨.full kMetricTimeToOnlineMilliseconds technology, Timer.init⟩, .connected, .online,
          by decide⟩]⟩ :=
  ⟨rfl, by simp [Timer.HoldsStart, pendingStart, Timer.init]⟩

/-! ## The map of services -/

namespace Services

section Frame

variable (m : Services σ τ) {service j : σ} (hj : j ≠ service)
include hj

theorem addServiceStateTransitionTimer_other (histogramName : Histogram τ)
    (startState stopState : ConnectState) (h : startState ≠ stopState) :
    (m.addServiceStateTransitionTimer service histogramName startState stopState h).servicesMetrics
      j = m.servicesMetrics j := by
  unfold addServiceStateTransitionTimer
  split <;> simp [Function.update_noteq hj]

theorem registerService_other (technology : τ) :
    (m.registerService service technology).servicesMetrics j = m.servicesMetrics j := by
  simp only [registerService, initializeCommonServiceMetrics,
    addServiceStateTransitionTimer_other _ hj, Function.update_noteq hj]

theorem notifyServiceStateChanged_other (newState : ConnectState) (failure now : Nat) :
    (m.notifyServiceStateChanged service newState failure now).servicesMetrics j =
      m.servicesMetrics j := by
  unfold notifyServiceStateChanged
  split
  · rfl
  · split_ifs <;> simp [sendServiceFailure, Function.update_noteq hj]

end Frame

/-- `RegisterService` gives the service the three common timers, none of them running. -/
theorem registerService_self (m : Services σ τ) (service : σ) (technology : τ) :
    (m.registerService service technology).servicesMetrics service =
      some ⟨[⟨⟨.full kMetricTimeToConfigMilliseconds technology, Timer.init⟩, .configuring,
          .connected, by decide⟩,
        ⟨⟨.full kMetricTimeToPortalMilliseconds technology, Timer.init⟩, .connected, .portal,
          by decide⟩,
        ⟨⟨.full kMetricTimeToOnlineMilliseconds technology, Timer.init⟩, .connected, .online,
          by decide⟩]⟩ := by
  simp [registerService, initializeCommonServiceMetrics, addServiceStateTransitionTimer]

theorem notifyServiceStateChanged_none (m : Services σ τ) {service : σ}
    (h : m.servicesMetrics service = none) (newState : ConnectState) (failure now : Nat) :
    m.notifyServiceStateChanged service newState failure now = m := by
  simp [notifyServiceStateChanged, h]

/-- A state change of a registered service: the timers' update, their samples, then
`ServiceErrors` on a failure. -/
theorem notifyServiceStateChanged_some (m : Services σ τ) {service : σ} {sm : ServiceMetrics τ}
    (h : m.servicesMetrics service = some sm) (newState : ConnectState) (failure now : Nat) :
    (m.notifyServiceStateChanged service newState failure now).servicesMetrics service =
      some (updateServiceStateTransitionMetrics sm newState now).1 ∧
    (m.notifyServiceStateChanged service newState failure now).samples =
      m.samples ++ (updateServiceStateTransitionMetrics sm newState now).2 ++
        if newState = .failure then [⟨.fixed kMetricNetworkServiceErrors, failure⟩]
        else [] := by
  simp only [notifyServiceStateChanged, h]
  split_ifs <;> simp_all [sendServiceFailure]

end Services

/-- What is known of a service and its entry in `services_metrics_` agree: both absent, or its
timers track its history since it was registered. -/
inductive Agrees : Option (τ × List (Nat × ConnectState)) → Option (ServiceMetrics τ) → Prop
  | unregistered : Agrees none none
  | registered {technology : τ} {hist : List (Nat × ConnectState)} {sm : ServiceMetrics τ} :
      Tracks technology hist sm → Agrees (some (technology, hist)) (some sm)

theorem agrees_step {m : Services σ τ} {service : σ}
    {r : Option (τ × List (Nat × ConnectState))}
    (h : Agrees r (m.servicesMetrics service)) (c : ServiceCall σ τ) :
    Agrees (registrationStep service r c) ((m.step c).servicesMetrics service) := by
  cases c with
  | registerService s technology =>
    by_cases hs : s = service
    · subst hs
      simp only [registrationStep, if_true, Services.step, Services.registerService_self]
      exact .registered (tracks_register technology)
    · simpa [registrationStep, hs, Services.step, Services.registerService_other _ (Ne.symm hs)]
  | deregisterService s =>
    by_cases hs : s = service
    · subst hs
      simpa [registrationStep, Services.step, Services.deregisterService] using .unregistered
    · simpa [registrationStep, hs, Services.step, Services.deregisterService,
        Function.update_noteq (Ne.symm hs)]
  | stateChanged s newState failure now =>
    by_cases hs : s = service
    · subst hs
      simp only [registrationStep, if_true, Services.step]
      generalize hsm : m.servicesMetrics s = o at h
      cases h with
      | unregistered =>
        rw [Services.notifyServiceStateChanged_none _ hsm, hsm]
        exact .unregistered
      | registered ht =>
        rw [(Services.notifyServiceStateChanged_some _ hsm newState failure now).1]
        exact .registered (ht.update newState now).1
    · simpa [registrationStep, hs, Services.step,
        Services.notifyServiceStateChanged_other _ (Ne.symm hs)]
  | suspendDone now => exact h

theorem agrees_run (cs : List (ServiceCall σ τ)) (service : σ) :
    ∀ {m : Services σ τ} {r : Option (τ × List (Nat × ConnectState))},
      Agrees r (m.servicesMetrics service) →
      Agrees (cs.foldl (registrationStep service) r) ((m.run cs).servicesMetrics service) := by
  induction cs with
  | nil => exact id
  | cons c cs ih => exact fun h => ih (agrees_step h c)

/-- **The service timers refine the service histories.** After any run of registrations,
deregistrations, state changes and suspends, for any services in any order, a state change of a
service sends what its history since its last registration says: for each of its timers, the
time since the service last entered the timer's start state, when the change enters the stop
state and the start is pending; then `ServiceErrors` on a failure. A service that is not
registered sends nothing. -/
theorem notifyServiceStateChanged_samples (cs : List (ServiceCall σ τ)) (service : σ)
    (newState : ConnectState) (failure now : Nat) :
    (((Services.init : Services σ τ).run cs).notifyServiceStateChanged service newState failure
      now).samples =
      ((Services.init : Services σ τ).run cs).samples ++
        match registration service cs with
        | none => []
        | some (technology, hist) =>
          expectedSamples technology hist newState now ++
            if newState = .failure then [⟨.fixed kMetricNetworkServiceErrors, failure⟩] else [] := by
  have h : Agrees (registration service cs)
      (((Services.init : Services σ τ).run cs).servicesMetrics service) :=
    agrees_run cs service .unregistered
  generalize registration service cs = r at h ⊢
  generalize hsm : ((Services.init : Services σ τ).run cs).servicesMetrics service = o at h
  cases h with
  | unregistered => simp [Services.notifyServiceStateChanged_none _ hsm]
  | registered ht =>
    rw [(Services.notifyServiceStateChanged_some _ hsm newState failure now).2,
      (ht.update newState now).2, List.append_assoc]

/- A failure does not reset the timers: reaching Connected an hour after a Configuring that
failed reports a `TimeToConfig` of an hour. -/
example :
    (((Services.init : Services Nat String).run
      [.registerService 1 "wifi", .stateChanged 1 .configuring 0 0, .stateChanged 1 .failure 7 5000,
        .stateChanged 1 .idle 0 6000]).notifyServiceStateChanged 1 .connected 0 3600000).samples =
      [⟨.fixed kMetricNetworkServiceErrors, 7⟩,
        ⟨.full kMetricTimeToConfigMilliseconds "wifi", 3600000⟩] := by
  decide

end Shill.Metrics
