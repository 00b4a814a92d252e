import Shill.Cellular.Ledger

/-!
# Activation requests: answers, lost callbacks, and `activation_starting_`

Over the runs of the capability (`World.Reach`, `World.runEvents`), with the Cellular state,
the proxy and the disconnect outcomes and the order of replies chosen by the environment at
each step. Every result is proved of the ledger steps (`Ledger.step`) and carried to the
capability by `World.step_ledger`.

## Results

* `Ledger.step_counts`: what one step can do to a request. Only the request the step issues
  gains a held callback, a run of its callback or a filled `error`; for every other request the
  held callbacks and runs together, and the filled errors, do not grow.
* `callback_runs_at_most_once`: in every run, each request's callback runs at most once and its
  `error` is filled at most once.
* `unanswered_stays_unanswered`: a request whose callback is neither held nor run, and whose
  `error` was left empty, is never answered by any continuation.
* `activate_failing_run`: five events in which the first request is answered twice (its
  `Disconnect` fails into `error` while its callback stays parked, and `DisconnectCleanup` runs
  it) and two requests that returned without a failure are never answered (one overwritten in
  `pending_activation_callback_`, one whose re-issued proxy call fails into `ignored_error`).
* `activate_flag_stuck`: an `Activate` whose proxy call fails at once leaves `IsActivating()`
  true with nothing outstanding, and only a later `Activate` can change that (`FlagStuck`).
* `activationStarting_of_outstanding`: when `Activate` is called only with nothing outstanding,
  at most one request is outstanding and the flag is set while one is, whatever the proxy does
  (`Ledger.FlagCovers`).
* `activationStarting_iff_outstanding`: if the proxy also accepts every call, the flag is set
  exactly when a request is outstanding (`Ledger.FlagHeld` adds the converse); with two
  overlapping requests, the reply to the first clears the flag while the second is in flight.
-/

namespace Shill.Cellular

/-- Whether an event is a call of `Activate`. -/
def Event.isActivate : Event → Bool
  | .activate .. => true
  | _ => false

namespace Ledger

/-- A fresh capability's ledger. -/
def init : Ledger := ⟨none, [], [], [], 0, false⟩

/-- The ledger after a sequence of events, `none` once an event is not enabled. -/
def run (l : Ledger) (es : List Event) : Option Ledger := es.foldlM step l

/-- **What a step can do to the requests**: only the request a step issues gains a held
callback, a run of its callback, or a filled `error`. -/
theorem step_counts {l l' : Ledger} {e : Event} (h : l.step e = some l') (r : Nat) :
    l.nextRequest ≤ l'.nextRequest ∧
    (l'.held ++ l'.called).count r ≤ (l.held ++ l.called).count r +
      (if l.nextRequest ≤ r ∧ r < l'.nextRequest then 1 else 0) ∧
    l'.refused.count r ≤ l.refused.count r +
      (if l.nextRequest ≤ r ∧ r < l'.nextRequest then 1 else 0) := by
  cases e with
  | activate carrier state proxy disconnect =>
    simp only [step, Option.some.injEq] at h
    split_ifs at h <;> (try cases proxy) <;> (try cases disconnect) <;> subst h <;>
      simp [held, List.count_singleton, List.count_cons] <;> split_ifs <;> omega
  | disconnectCleanup state proxy =>
    rcases hp : l.pending with _ | p <;> simp only [step, hp, Option.some.injEq] at h
    · subst h; simp
    · split_ifs at h <;> (try cases proxy) <;> subst h <;>
        simp [held, hp, List.count_singleton, List.count_cons] <;> split_ifs <;> omega
  | activateReply callback status error =>
    simp only [step] at h
    split_ifs at h with hc
    cases h
    have := List.count_pos_iff.mpr hc
    simp [held, List.count_erase, List.count_singleton]
    split_ifs <;> subst_vars <;> omega
  | activationStateChanged s =>
    cases h
    simp

/-! ## Runs of the ledger -/

/-- Ledgers reachable by steps each `allowed` where it is taken. -/
inductive Reach (allowed : Ledger → Event → Prop) : Ledger → Prop
  | init : Reach allowed init
  | step {l l' : Ledger} {e : Event} :
      Reach allowed l → allowed l e → l.step e = some l' → Reach allowed l'

/-- No callback held or run twice, no `error` filled twice, nothing known of a request not yet
issued. -/
structure Sound (l : Ledger) : Prop where
  runs_le_one : ∀ r, (l.held ++ l.called).count r ≤ 1
  errors_le_one : ∀ r, l.refused.count r ≤ 1
  fresh : ∀ r, l.nextRequest ≤ r → (l.held ++ l.called).count r = 0 ∧ l.refused.count r = 0

theorem sound_init : Sound init :=
  ⟨fun _ => by simp [init, held], fun _ => by simp [init], fun _ _ => by simp [init, held]⟩

theorem Sound.step {l l' : Ledger} {e : Event} (hs : Sound l) (h : l.step e = some l') :
    Sound l' := by
  refine ⟨fun r => ?_, fun r => ?_, fun r hr => ?_⟩ <;>
  · obtain ⟨hn, hc, hf⟩ := step_counts h r
    have h₁ := hs.runs_le_one r
    have h₂ := hs.errors_le_one r
    rcases Nat.lt_or_ge r l.nextRequest with hlt | hge
    · rw [if_neg (by omega)] at hc hf
      omega
    · obtain ⟨h₃, h₄⟩ := hs.fresh r hge
      split_ifs at hc hf <;> omega

theorem Reach.sound {allowed : Ledger → Event → Prop} {l : Ledger} (h : Reach allowed l) :
    Sound l := by
  induction h with
  | init => exact sound_init
  | step _ _ hs ih => exact ih.step hs

@[simp] theorem held_eq_nil {l : Ledger} :
    l.held = [] ↔ l.pending = none ∧ l.inFlight = [] := by
  rcases hp : l.pending <;> simp [held, hp]

@[simp] theorem mem_held {l : Ledger} {r : Nat} :
    r ∈ l.held ↔ l.pending = some r ∨ r ∈ l.inFlight := by
  simp [held, Option.mem_toList, Option.mem_def]

/-- Request `r` was issued, and holds no callback, has none run and no `error` filled. -/
def Unanswered (l : Ledger) (r : Nat) : Prop :=
  r < l.nextRequest ∧ r ∉ l.held ++ l.called ∧ r ∉ l.refused

theorem Unanswered.step {l l' : Ledger} {e : Event} {r : Nat} (hu : l.Unanswered r)
    (h : l.step e = some l') : l'.Unanswered r := by
  obtain ⟨hr, hc, hf⟩ := hu
  obtain ⟨hn, hc', hf'⟩ := step_counts h r
  rw [if_neg (by omega)] at hc' hf'
  rw [← List.count_eq_zero] at hc hf
  exact ⟨by omega, List.count_eq_zero.mp (by omega), List.count_eq_zero.mp (by omega)⟩

theorem Unanswered.run {r : Nat} :
    ∀ {l l' : Ledger} {es : List Event}, l.Unanswered r → l.run es = some l' → l'.Unanswered r
  | _, _, [], hu, h => by cases h; exact hu
  | _, _, _ :: _, hu, h => by
    obtain ⟨_, h₁, h⟩ := Option.bind_eq_some.mp h
    exact (hu.step h₁).run h

/-! ## `activation_starting_` under serial activations -/

/-- The caller starts an activation only once every earlier one is answered; the proxy may
accept or fail. -/
def Serial (l : Ledger) : Event → Prop
  | .activate .. => l.held = []
  | _ => True

/-- At most one request is outstanding, and `activation_starting_` is set while one is. -/
structure FlagCovers (l : Ledger) : Prop where
  flag_of_held : l.held ≠ [] → l.activationStarting = true
  held_le_one : l.held.length ≤ 1

theorem FlagCovers.step {l l' : Ledger} {e : Event} (hf : FlagCovers l) (ha : Serial l e)
    (h : l.step e = some l') : FlagCovers l' := by
  obtain ⟨hflag, hone⟩ := hf
  cases e with
  | activate carrier state proxy disconnect =>
    rw [Serial, held_eq_nil] at ha
    simp only [Ledger.step, Option.some.injEq] at h
    split_ifs at h <;> (try cases proxy) <;> subst h <;>
      exact ⟨by simp [held, ha], by simp [held, ha]⟩
  | disconnectCleanup state proxy =>
    rcases hp : l.pending with _ | p <;> simp only [Ledger.step, hp, Option.some.injEq] at h
    · exact h ▸ ⟨hflag, hone⟩
    · have hi : l.inFlight = [] := by simpa [held, hp] using hone
      split_ifs at h <;> (try cases proxy) <;> subst h <;>
        exact ⟨by simp [held, hi], by simp [held, hi]⟩
  | activateReply callback status error =>
    simp only [Ledger.step] at h
    split_ifs at h with hc
    cases h
    -- the reply answers the one outstanding request, so nothing is left
    have hnil : (l.pending.toList ++ l.inFlight.erase callback).length = 0 := by
      simp only [held, List.length_append] at hone
      have := List.length_pos_of_mem hc
      rw [List.length_append, List.length_erase_of_mem hc]
      omega
    exact ⟨fun hne => (hne (List.length_eq_zero.mp hnil)).elim, by simp only [held]; omega⟩
  | activationStateChanged s => exact Option.some.inj h ▸ ⟨hflag, hone⟩

theorem Reach.flagCovers {allowed : Ledger → Event → Prop}
    (hal : ∀ l e, allowed l e → Serial l e) {l : Ledger} (h : Reach allowed l) : FlagCovers l := by
  induction h with
  | init => exact ⟨fun h => (h rfl).elim, Nat.zero_le _⟩
  | step _ ha hs ih => exact ih.step (hal _ _ ha) hs

/-- The caller starts an activation only once every earlier one is answered, and the modem
proxy accepts every call. -/
def SerialAccepted (l : Ledger) : Event → Prop
  | .activate _ _ proxy _ => l.held = [] ∧ proxy = none
  | .disconnectCleanup _ proxy => proxy = none
  | .activateReply _ _ _ | .activationStateChanged _ => True

/-- `activation_starting_` is set only while a request is outstanding. -/
def FlagHeld (l : Ledger) : Prop := l.activationStarting = true → l.held ≠ []

/-- With every proxy call accepted, an event that sets the flag leaves a callback held. -/
theorem FlagHeld.step {l l' : Ledger} {e : Event} (hf : FlagHeld l) (ha : SerialAccepted l e)
    (h : l.step e = some l') : FlagHeld l' := by
  cases e with
  | activate carrier state proxy disconnect =>
    obtain ⟨-, rfl⟩ := ha
    simp only [Ledger.step, Option.some.injEq] at h
    split_ifs at h <;> subst h <;> simp [FlagHeld, held]
  | disconnectCleanup state proxy =>
    cases ha
    rcases hp : l.pending with _ | p <;> simp only [Ledger.step, hp, Option.some.injEq] at h
    · exact h ▸ hf
    · split_ifs at h <;> subst h <;> simp [FlagHeld, held]
  | activateReply callback status error =>
    simp only [Ledger.step] at h
    split_ifs at h
    cases h
    simp [FlagHeld]
  | activationStateChanged s => exact Option.some.inj h ▸ hf

/-- `activation_starting_` says exactly whether a request is outstanding, and at most one is. -/
structure FlagExact (l : Ledger) : Prop where
  flag_iff : l.activationStarting = true ↔ l.held ≠ []
  held_le_one : l.held.length ≤ 1

theorem Reach.flagExact {l : Ledger} (h : Reach SerialAccepted l) : FlagExact l := by
  have hh : FlagHeld l := by
    induction h with
    | init => exact fun h => Bool.false_ne_true h |>.elim
    | step _ ha hs ih => exact ih.step ha hs
  have hc := h.flagCovers fun l e ha => by cases e <;> simp_all [Serial, SerialAccepted]
  exact ⟨⟨hh, hc.flag_of_held⟩, hc.held_le_one⟩

/-! ## `activation_starting_` left set -/

/-- `activation_starting_` is set while no callback is held. -/
def FlagStuck (l : Ledger) : Prop := l.activationStarting = true ∧ l.held = []

/-- Only `Activate` clears a stuck flag: with nothing parked, `DisconnectCleanup` does nothing,
with nothing in flight no reply is delivered, and the activation-state signal does not touch
the flag. -/
theorem FlagStuck.step {l l' : Ledger} (hs : l.FlagStuck) {e : Event}
    (he : e.isActivate = false) (h : l.step e = some l') : l'.FlagStuck := by
  obtain ⟨hflag, hheld⟩ := hs
  rw [held_eq_nil] at hheld
  cases e with
  | activate => cases he
  | disconnectCleanup state proxy =>
    simp only [Ledger.step, hheld.1, Option.some.injEq] at h
    exact h ▸ ⟨hflag, held_eq_nil.mpr hheld⟩
  | activateReply callback status error => simp [Ledger.step, hheld.2] at h
  | activationStateChanged s =>
    cases h
    exact ⟨hflag, held_eq_nil.mpr hheld⟩

theorem FlagStuck.run :
    ∀ {l l' : Ledger} {es : List Event}, l.FlagStuck → (∀ e ∈ es, e.isActivate = false) →
      l.run es = some l' → l'.FlagStuck
  | _, _, [], hs, _, h => by cases h; exact hs
  | _, _, e :: _, hs, he, h => by
    obtain ⟨_, h₁, h⟩ := Option.bind_eq_some.mp h
    exact (hs.step (he e (List.mem_cons_self _ _)) h₁).run
      (fun e' he' => he e' (List.mem_cons_of_mem _ he')) h

end Ledger

/-! ## The capability's runs -/

namespace World

variable (x : Externals)

@[simp] theorem ledger_init : (init x).ledger = Ledger.init := rfl

/-- Every run of the capability is a run of the ledger. -/
theorem reach_ledger {allowed : World → Event → Prop} {allowed' : Ledger → Event → Prop}
    (hal : ∀ w e, allowed w e → allowed' w.ledger e) {w : World} (h : Reach x allowed w) :
    Ledger.Reach allowed' w.ledger := by
  induction h with
  | init => simpa using Ledger.Reach.init
  | step _ ha hs ih =>
    have := step_ledger x _ _ ▸ congrArg (Option.map ledger) hs
    exact .step ih (hal _ _ ha) this

theorem runEvents_ledger :
    ∀ {w w' : World} {es : List Event},
      w.runEvents x es = some w' → w.ledger.run es = some w'.ledger
  | _, _, [], h => by cases h; rfl
  | w, w', e :: es, h => by
    obtain ⟨w₁, h₁, h⟩ := Option.bind_eq_some.mp h
    have hstep := step_ledger x w e ▸ congrArg (Option.map ledger) h₁
    exact Option.bind_eq_some.mpr ⟨w₁.ledger, hstep, runEvents_ledger h⟩

/-- One assignment of the externals, for the witnesses below: the runs there read none of it. -/
def sampleExternals : Externals := ⟨0, 1, 0, fun _ => ""⟩

/-! ## Answers to the requests -/

/-- **No callback runs twice and no `error` is filled twice**, in any run. -/
theorem callback_runs_at_most_once {allowed : World → Event → Prop} {w : World}
    (h : Reach x allowed w) (r : Nat) :
    (calledOf w.responses).count r ≤ 1 ∧ (refusedOf w.responses).count r ≤ 1 := by
  have hl : Ledger.Reach (fun _ _ => True) w.ledger := reach_ledger x (fun _ _ _ => trivial) h
  have hs := hl.sound
  have h₁ := hs.runs_le_one r
  simp only [List.count_append, ledger_called] at h₁
  exact ⟨by omega, hs.errors_le_one r⟩

/-- Request 0 answered both ways: its `Disconnect` fails into `error`, then `DisconnectCleanup`
runs its callback; still each way at most once. -/
theorem callback_runs_at_most_once_after_failed_disconnect :
    let e : Error := ⟨.operationFailed, ""⟩
    let w := (((init sampleExternals).step sampleExternals
      (.activate "" .connected none (some e))).bind
        (step sampleExternals · (.disconnectCleanup .disabled none))).getD (init sampleExternals)
    Reach sampleExternals (fun _ _ => True) w ∧
      (calledOf w.responses).count 0 ≤ 1 ∧ (refusedOf w.responses).count 0 ≤ 1 := by
  intro e w
  have h : Reach sampleExternals (fun _ _ => True) w :=
    .step (e := .disconnectCleanup .disabled none)
      (.step (e := .activate "" .connected none (some e)) .init trivial rfl) trivial rfl
  exact ⟨h, callback_runs_at_most_once _ h 0⟩

/-- **An unanswered request is never answered**: once a request issued earlier holds no
callback, has none run and no `error` filled, no continuation holds or runs its callback or
fills its `error`. -/
theorem unanswered_stays_unanswered {w w' : World} {es : List Event} {r : Nat}
    (h : w.runEvents x es = some w') (hr : r < w.nextRequest)
    (hp : w.capability.pendingActivationCallback ≠ some r) (hi : r ∉ w.inFlight)
    (hc : r ∉ calledOf w.responses) (hf : r ∉ refusedOf w.responses) :
    w'.capability.pendingActivationCallback ≠ some r ∧ r ∉ w'.inFlight ∧
      r ∉ calledOf w'.responses ∧ r ∉ refusedOf w'.responses := by
  have hu : w.ledger.Unanswered r := ⟨hr, by simp [hp, hi, hc], hf⟩
  obtain ⟨-, hc', hf'⟩ := hu.run (runEvents_ledger x h)
  simp only [List.mem_append, Ledger.mem_held, not_or] at hc'
  exact ⟨hc'.1.1, hc'.1.2, hc'.2, hf'⟩

/-- Request 0, overwritten in `pending_activation_callback_` by request 1, stays unanswered when
`DisconnectCleanup` fails request 1. -/
theorem overwritten_request_stays_unanswered :
    let w := ((init sampleExternals).runEvents sampleExternals
      [.activate "" .connected none none, .activate "" .connected none none]).getD
        (init sampleExternals)
    let w' := (w.runEvents sampleExternals [.disconnectCleanup .disabled none]).getD w
    (w.runEvents sampleExternals [.disconnectCleanup .disabled none] = some w' ∧
      0 < w.nextRequest ∧ w.capability.pendingActivationCallback ≠ some 0 ∧ 0 ∉ w.inFlight ∧
      0 ∉ calledOf w.responses ∧ 0 ∉ refusedOf w.responses) ∧
    (w'.capability.pendingActivationCallback ≠ some 0 ∧ 0 ∉ w'.inFlight ∧
      0 ∉ calledOf w'.responses ∧ 0 ∉ refusedOf w'.responses) := by
  intro w w'
  have h : w.runEvents sampleExternals [.disconnectCleanup .disabled none] = some w' := rfl
  have hyps : 0 < w.nextRequest ∧ w.capability.pendingActivationCallback ≠ some 0 ∧
      0 ∉ w.inFlight ∧ 0 ∉ calledOf w.responses ∧ 0 ∉ refusedOf w.responses := by decide
  exact ⟨⟨h, hyps⟩, unanswered_stays_unanswered _ h hyps.1 hyps.2.1 hyps.2.2.1 hyps.2.2.2.1
    hyps.2.2.2.2⟩

/-- **Five events break the contract of `Activate`**, whatever the externals and the errors.
Request 0 is parked and its `Disconnect` fails into `error`; `DisconnectCleanup` in a Disabled
state then runs its callback too. Requests 1 and 2 return without a failure and are parked in
turn, 2 overwriting 1; `DisconnectCleanup` in an Enabled state re-issues 2 to a proxy that fails
into `ignored_error`. After the run neither callback is held or run, and none ever will be. -/
theorem activate_failing_run (x : Externals) (e : Error) :
    ∃ w, (init x).runEvents x
        [.activate "" .connected none (some e), .disconnectCleanup .disabled none,
         .activate "" .connected none none, .activate "" .connected none none,
         .disconnectCleanup .enabled (some e)] = some w ∧
      refusedOf w.responses = [0] ∧ calledOf w.responses = [0] ∧ w.nextRequest = 3 ∧
      w.capability.pendingActivationCallback = none ∧ w.inFlight = [] ∧
      ∀ es w', w.runEvents x es = some w' → ∀ r, r = 1 ∨ r = 2 →
        r ∉ calledOf w'.responses ∧ r ∉ refusedOf w'.responses := by
  refine ⟨_, rfl, rfl, rfl, rfl, rfl, rfl, fun es w' h r hr => ?_⟩
  have hu : Ledger.Unanswered ⟨none, [], [0], [0], 3, true⟩ r := by
    rcases hr with rfl | rfl <;> simp [Ledger.Unanswered, Ledger.held]
  obtain ⟨-, hc, hf⟩ := hu.run (runEvents_ledger x h)
  exact ⟨fun hm => hc (List.mem_append_right _ hm), hf⟩

/-! ## `activation_starting_` -/

/-- **An `Activate` whose proxy call fails leaves `IsActivating()` true with nothing
outstanding**, whatever the externals and the error. `Activate` sets `activation_starting_`
before calling `proxy_->Activate` and never looks at `error` afterwards, where its other failure
and `DisconnectCleanup`'s reset the flag: the request is refused and its callback dropped, yet
the flag stays set through every later `DisconnectCleanup`, reply and activation-state signal,
until the next `Activate`. -/
theorem activate_flag_stuck (x : Externals) (e : Error) :
    ∃ w, (init x).runEvents x [.activate "" .enabled (some e) none] = some w ∧
      refusedOf w.responses = [0] ∧ w.isActivating x = true ∧
      w.capability.pendingActivationCallback = none ∧ w.inFlight = [] ∧
      ∀ es w', (∀ ev ∈ es, ev.isActivate = false) → w.runEvents x es = some w' →
        w'.isActivating x = true ∧ w'.capability.pendingActivationCallback = none ∧
          w'.inFlight = [] := by
  refine ⟨_, rfl, rfl, rfl, rfl, rfl, fun es w' hes h => ?_⟩
  have hs : Ledger.FlagStuck ⟨none, [], [], [0], 1, true⟩ := ⟨rfl, rfl⟩
  obtain ⟨hflag, hheld⟩ := hs.run hes (runEvents_ledger x h)
  rw [Ledger.held_eq_nil] at hheld
  exact ⟨by simp [isActivating, ← ledger_activationStarting, hflag], hheld⟩

/-- **Serial, accepted activations keep `activation_starting_` exact**: when `Activate` is called
only with no request outstanding and the modem proxy accepts every call, `activation_starting_`
is true exactly when a callback is parked or a proxy call is in flight. -/
theorem activationStarting_iff_outstanding {w : World}
    (h : Reach x (fun w e => Ledger.SerialAccepted w.ledger e) w) :
    w.capability.activationStarting = true ↔
      w.capability.pendingActivationCallback.isSome ∨ w.inFlight ≠ [] := by
  refine (reach_ledger x (fun _ _ ha => ha) h).flagExact.flag_iff.trans ?_
  cases hp : w.capability.pendingActivationCallback <;> simp [Ledger.held, hp]

/-- One accepted `Activate` in an Enabled state: the flag is set and the request in flight. -/
theorem activationStarting_iff_outstanding_after_activate :
    let w := ((init sampleExternals).step sampleExternals (.activate "" .enabled none none)).getD
      (init sampleExternals)
    Reach sampleExternals (fun w e => Ledger.SerialAccepted w.ledger e) w ∧
      (w.capability.activationStarting = true ↔
        w.capability.pendingActivationCallback.isSome ∨ w.inFlight ≠ []) := by
  intro w
  have h : Reach sampleExternals (fun w e => Ledger.SerialAccepted w.ledger e) w :=
    .step (e := .activate "" .enabled none none) .init ⟨rfl, rfl⟩ rfl
  exact ⟨h, activationStarting_iff_outstanding _ h⟩

/-- **Serial activations keep at most one request outstanding, with the flag set**, even when the
proxy fails: when `Activate` is called only with no request outstanding, at most one callback is
parked or in flight, and while one is, `activation_starting_` is set. (The converse needs the
proxy to accept every call: see `activate_flag_stuck`.) -/
theorem activationStarting_of_outstanding {w : World}
    (h : Reach x (fun w e => Ledger.Serial w.ledger e) w) :
    (w.capability.pendingActivationCallback.toList ++ w.inFlight).length ≤ 1 ∧
      (w.capability.pendingActivationCallback.isSome ∨ w.inFlight ≠ [] →
        w.capability.activationStarting = true) := by
  have hc := (reach_ledger x (fun _ _ ha => ha) h).flagCovers fun _ _ ha => ha
  refine ⟨hc.held_le_one, fun ho => hc.flag_of_held ?_⟩
  cases hp : w.capability.pendingActivationCallback <;> simp_all [Ledger.held]

/-- An `Activate` whose proxy call fails, then one that is accepted: one request in flight. -/
theorem activationStarting_of_outstanding_after_retry :
    let w := ((init sampleExternals).runEvents sampleExternals
      [.activate "" .enabled (some ⟨.operationFailed, ""⟩) none,
       .activate "" .enabled none none]).getD (init sampleExternals)
    Reach sampleExternals (fun w e => Ledger.Serial w.ledger e) w ∧
      (w.capability.pendingActivationCallback.toList ++ w.inFlight).length ≤ 1 ∧
      (w.capability.pendingActivationCallback.isSome ∨ w.inFlight ≠ [] →
        w.capability.activationStarting = true) := by
  intro w
  have h : Reach sampleExternals (fun w e => Ledger.Serial w.ledger e) w :=
    .step (e := .activate "" .enabled none none)
      (.step (e := .activate "" .enabled (some ⟨.operationFailed, ""⟩) none) .init rfl rfl)
      rfl rfl
  exact ⟨h, activationStarting_of_outstanding _ h⟩

/- The serial hypothesis is needed: the reply to the first of two overlapping accepted requests
clears the flag while the second is in flight. -/
example :
    ∃ w, (init sampleExternals).runEvents sampleExternals
        [.activate "" .enabled none none, .activate "" .enabled none none,
         .activateReply 0 sampleExternals.activationErrorNoError .success] = some w ∧
      w.capability.activationStarting = false ∧ w.inFlight = [1] :=
  ⟨_, rfl, rfl, rfl⟩

end World

end Shill.Cellular
