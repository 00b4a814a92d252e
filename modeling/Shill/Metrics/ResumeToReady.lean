import Shill.Metrics.Service

/-!
# The resume-to-ready time

`NotifySuspendDone` starts `time_resume_to_ready_timer_`. A `NotifyServiceStateChanged` of a
registered service to `kStateConnected` reads the timer into `time_resume_to_ready`, which
stays zero when `GetElapsedTime` fails on a timer never started, resets the timer, and passes
the value to `Service::SendPostReadyStateMetrics`. Nothing stops this timer, so once reset it
reads the elapsed time it was built with, zero: only the first connection after a resume gets
the time since it, and every other connection passes zero.

`ResumeAccount` is that behaviour as a machine over the service calls: the services
registered, the resume no connection has followed yet, and the values passed.

## Results

* `Resumes.step`: each service call moves the timer as the machine's step moves the pending
  resume, and passes the machine's value to `SendPostReadyStateMetrics`.
* `postReadyStateMetrics_run`: after any sequence of registrations, deregistrations, state
  changes and suspends from construction, the `SendPostReadyStateMetrics` calls made are those
  of `ResumeAccount` run on the same calls.
-/

namespace Shill.Metrics

/-- The resume-to-ready accounting, read off the service calls: the services registered, the
resume not yet followed by a connection, and the `SendPostReadyStateMetrics` calls. -/
structure ResumeAccount (σ : Type) where
  registered : σ → Bool
  resumedAt : Option Nat
  postReady : List (σ × Nat)

namespace ResumeAccount

variable {σ τ : Type} [DecidableEq σ]

/-- As `Metrics::Metrics` leaves it. -/
def init : ResumeAccount σ := ⟨fun _ => false, none, []⟩

/-- One service call. -/
def step (a : ResumeAccount σ) : ServiceCall σ τ → ResumeAccount σ
  | .registerService service _ =>
    { a with registered := Function.update a.registered service true }
  | .deregisterService service =>
    { a with registered := Function.update a.registered service false }
  | .stateChanged service newState _ now =>
    if a.registered service ∧ newState = .connected then
      { a with
        resumedAt := none
        postReady := a.postReady ++ [(service, match a.resumedAt with
          | some resumed => now - resumed
          | none => 0)] }
    else a
  | .suspendDone now => { a with resumedAt := some now }

/-- A sequence of service calls. -/
def run (a : ResumeAccount σ) (cs : List (ServiceCall σ τ)) : ResumeAccount σ :=
  cs.foldl step a

end ResumeAccount

variable {σ τ : Type} [DecidableEq σ]

/-- The service part of `Metrics` is accounted by `a`: the same services are registered, the
resume timer runs since `a`'s pending resume exactly when there is one and holds no elapsed
time, and the same `SendPostReadyStateMetrics` calls were made. -/
structure Resumes (a : ResumeAccount σ) (m : Services σ τ) : Prop where
  registered : ∀ s, (m.servicesMetrics s).isSome = a.registered s
  timer : Timer.HoldsStart a.resumedAt m.timeResumeToReadyTimer
  elapsed : m.timeResumeToReadyTimer.elapsedTime = 0
  postReady : m.postReadyStateMetrics = a.postReady

namespace Services

@[simp] theorem addServiceStateTransitionTimer_timeResumeToReadyTimer (m : Services σ τ)
    (service : σ) (histogramName : Histogram τ) (startState stopState : ConnectState)
    (h : startState ≠ stopState) :
    (m.addServiceStateTransitionTimer service histogramName startState stopState h
      ).timeResumeToReadyTimer = m.timeResumeToReadyTimer := by
  unfold addServiceStateTransitionTimer; split <;> rfl

@[simp] theorem addServiceStateTransitionTimer_postReadyStateMetrics (m : Services σ τ)
    (service : σ) (histogramName : Histogram τ) (startState stopState : ConnectState)
    (h : startState ≠ stopState) :
    (m.addServiceStateTransitionTimer service histogramName startState stopState h
      ).postReadyStateMetrics = m.postReadyStateMetrics := by
  unfold addServiceStateTransitionTimer; split <;> rfl

/-- A state change of a registered service to Connected reads and resets the resume timer and
passes what it read; any other state change leaves both alone. -/
theorem notifyServiceStateChanged_resume (m : Services σ τ) {service : σ}
    {sm : ServiceMetrics τ} (h : m.servicesMetrics service = some sm) (newState : ConnectState)
    (failure now : Nat) :
    (m.notifyServiceStateChanged service newState failure now).timeResumeToReadyTimer =
        (if newState = .connected then m.timeResumeToReadyTimer.reset
          else m.timeResumeToReadyTimer) ∧
      (m.notifyServiceStateChanged service newState failure now).postReadyStateMetrics =
        m.postReadyStateMetrics ++ if newState = .connected then
          [(service, (m.timeResumeToReadyTimer.getElapsedTime now).getD 0)] else [] := by
  simp only [notifyServiceStateChanged, h]
  by_cases hc : newState = .connected <;> by_cases hf : newState = .failure <;>
    simp_all [sendServiceFailure]

end Services

theorem Resumes.registered_step {a : ResumeAccount σ} {m : Services σ τ} (h : Resumes a m)
    (c : ServiceCall σ τ) (s : σ) :
    ((m.step c).servicesMetrics s).isSome = (a.step c).registered s := by
  cases c with
  | registerService service technology =>
    by_cases hs : s = service
    · subst hs; simp [Services.step, ResumeAccount.step, Services.registerService_self]
    · simp [Services.step, ResumeAccount.step, Services.registerService_other _ hs,
        Function.update_noteq hs, h.registered s]
  | deregisterService service =>
    by_cases hs : s = service
    · subst hs; simp [Services.step, ResumeAccount.step, Services.deregisterService]
    · simp [Services.step, ResumeAccount.step, Services.deregisterService,
        Function.update_noteq hs, h.registered s]
  | stateChanged service newState failure now =>
    have ha : (a.step (.stateChanged service newState failure now : ServiceCall σ τ)).registered =
        a.registered := by
      simp only [ResumeAccount.step]; split <;> rfl
    rw [ha, ← h.registered s]
    by_cases hs : s = service
    · subst hs
      cases hsm : m.servicesMetrics s with
      | none => simp [Services.step, Services.notifyServiceStateChanged_none _ hsm, hsm]
      | some sm =>
        simp [Services.step, (Services.notifyServiceStateChanged_some m hsm newState failure now).1]
    · simp [Services.step, Services.notifyServiceStateChanged_other _ hs]
  | suspendDone now => exact h.registered s

/-- A resume timer that holds no elapsed time reads the time since its pending resume, and zero
when there is none. -/
theorem getElapsedTime_getD {p : Option Nat} {t : Timer} (hh : Timer.HoldsStart p t)
    (he : t.elapsedTime = 0) (now : Nat) :
    (t.getElapsedTime now).getD 0 = (p.map fun resumed => now - resumed).getD 0 := by
  cases p with
  | some resumed => simp [Timer.getElapsedTime_of_holdsStart hh]
  | none =>
    have hr : t.running = false := hh
    cases hs : t.startTime <;> simp [Timer.getElapsedTime, hs, hr, he]

/-- **One service call refines one step of the machine.** -/
theorem Resumes.step {a : ResumeAccount σ} {m : Services σ τ} (h : Resumes a m)
    (c : ServiceCall σ τ) : Resumes (a.step c) (m.step c) := by
  suffices hrest : Timer.HoldsStart (a.step c).resumedAt (m.step c).timeResumeToReadyTimer ∧
      (m.step c).timeResumeToReadyTimer.elapsedTime = 0 ∧
      (m.step c).postReadyStateMetrics = (a.step c).postReady from
    ⟨h.registered_step c, hrest.1, hrest.2.1, hrest.2.2⟩
  cases c with
  | registerService service technology =>
    simpa [Services.step, ResumeAccount.step, Services.registerService,
      Services.initializeCommonServiceMetrics] using ⟨h.timer, h.elapsed, h.postReady⟩
  | deregisterService service =>
    exact ⟨h.timer, h.elapsed, h.postReady⟩
  | stateChanged service newState failure now =>
    cases hsm : m.servicesMetrics service with
    | none =>
      have hreg : a.registered service = false := by rw [← h.registered, hsm]; rfl
      simpa [Services.step, ResumeAccount.step, Services.notifyServiceStateChanged_none _ hsm,
        hreg] using ⟨h.timer, h.elapsed, h.postReady⟩
    | some sm =>
      have hreg : a.registered service = true := by rw [← h.registered, hsm]; rfl
      obtain ⟨htimer, hpost⟩ := Services.notifyServiceStateChanged_resume m hsm newState failure now
      by_cases hc : newState = .connected
      · subst hc
        simp only [eq_self_iff_true, if_true] at htimer hpost
        simp only [Services.step, ResumeAccount.step, hreg, and_self, if_true, htimer, hpost]
        exact ⟨Timer.reset_running _, h.elapsed, by
          rw [h.postReady, getElapsedTime_getD h.timer h.elapsed]; cases a.resumedAt <;> rfl⟩
      · simpa [Services.step, ResumeAccount.step, hc, htimer, hpost] using
          ⟨h.timer, h.elapsed, h.postReady⟩
  | suspendDone now =>
    exact ⟨Timer.holdsStart_start _ now, h.elapsed, h.postReady⟩

theorem Resumes.run {a : ResumeAccount σ} {m : Services σ τ} (h : Resumes a m)
    (cs : List (ServiceCall σ τ)) : Resumes (a.run cs) (m.run cs) := by
  induction cs generalizing a m with
  | nil => exact h
  | cons c cs ih => exact ih (h.step c)

/-- **The resume-to-ready values are the machine's.** After any sequence of registrations,
deregistrations, state changes and suspends from construction, for any services in any order,
the calls to `SendPostReadyStateMetrics` are those of `ResumeAccount`: one per state change of
a registered service to Connected, with the time since the last `NotifySuspendDone` for the
first such change after it, and zero for every other. -/
theorem postReadyStateMetrics_run (cs : List (ServiceCall σ τ)) :
    ((Services.init : Services σ τ).run cs).postReadyStateMetrics =
      ((ResumeAccount.init : ResumeAccount σ).run cs).postReady :=
  (Resumes.run (a := .init) (m := .init) ⟨fun _ => rfl, rfl, rfl, rfl⟩ cs).postReady

example :
    ((Services.init : Services Nat String).run
      [.suspendDone 1000, .registerService 1 "wifi", .registerService 2 "cellular",
       .stateChanged 1 .connected 0 5000, .stateChanged 2 .connected 0 6000]
      ).postReadyStateMetrics = [(1, 4000), (2, 0)] := by
  decide

end Shill.Metrics
