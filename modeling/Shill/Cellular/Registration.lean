import Mathlib.Data.List.Nodup
import Shill.Basic

/-!
# CDMA registration: `IsRegistered`, `GetNetworkTechnologyString`, `GetRoamingStateString`

Model of the registration half of `CellularCapabilityCDMA` (`cellular_capability_cdma.cc`).
The capability keeps the registration states the modem reports for 1xRTT and for EV-DO.
`OnRegistrationStateChangedSignal` sets both and tells the Cellular device
(`HandleNewRegistrationState`); `OnGetRegistrationStateReply` does the same when the reply is
a success and nothing otherwise; `SetUnregistered` sets both to unknown. The Cellular device
reads three views of them:
* `IsRegistered`: either state is known.
* `GetNetworkTechnologyString`: EV-DO when its state is known, else 1xRTT when its state is
  known, else the empty string.
* `GetRoamingStateString`: the EV-DO state, or the 1xRTT state when the EV-DO one is unknown,
  mapped to home, roaming or unknown. A state that is none of the four codes reaches
  `NOTREACHED()`, modelled as the error; a release build then returns the unknown string.

ModemManager's `MM_MODEM_CDMA_REGISTRATION_STATE_*` codes (`mm/mm-modem.h`) and the strings of
`service_constants.h` are not in this snapshot. They are the fields of `RegistrationExternals`,
together with what the code relies on: the codes are the distinct labels of one `switch`.

## Results

* `run_registration`: after any signals, replies and `SetUnregistered` calls, the capability
  holds the registration last reported (a failed reply reports nothing), and it has told the
  Cellular device once per signal and successful reply.
-/

namespace Shill.Cellular

/-- What the registration code reads from outside this snapshot. -/
structure RegistrationExternals where
  /-- `MM_MODEM_CDMA_REGISTRATION_STATE_UNKNOWN`. -/
  registrationStateUnknown : Nat
  /-- `MM_MODEM_CDMA_REGISTRATION_STATE_REGISTERED`. -/
  registrationStateRegistered : Nat
  /-- `MM_MODEM_CDMA_REGISTRATION_STATE_HOME`. -/
  registrationStateHome : Nat
  /-- `MM_MODEM_CDMA_REGISTRATION_STATE_ROAMING`. -/
  registrationStateRoaming : Nat
  /-- `kNetworkTechnology1Xrtt`. -/
  networkTechnology1Xrtt : String
  /-- `kNetworkTechnologyEvdo`. -/
  networkTechnologyEvdo : String
  /-- `kRoamingStateHome`. -/
  roamingStateHome : String
  /-- `kRoamingStateRoaming`. -/
  roamingStateRoaming : String
  /-- `kRoamingStateUnknown`. -/
  roamingStateUnknown : String
  codes_nodup : [registrationStateUnknown, registrationStateRegistered, registrationStateHome,
    registrationStateRoaming].Nodup

/-- The registration fields of `CellularCapabilityCDMA`, and the calls it made to
`Cellular::HandleNewRegistrationState`. -/
structure CDMARegistration where
  registrationStateEvdo : Nat
  registrationState1x : Nat
  handleNewRegistrationStateCalls : Nat
  deriving DecidableEq, Repr

/-- What can happen to the registration of the capability. -/
inductive RegistrationEvent
  /-- `OnRegistrationStateChangedSignal(state_1x, state_evdo)`. -/
  | registrationStateChanged (state1x stateEvdo : Nat)
  /-- `OnGetRegistrationStateReply(state_1x, state_evdo, error)`. -/
  | getRegistrationStateReply (state1x stateEvdo : Nat) (error : Error)
  /-- `SetUnregistered(searching)`. -/
  | setUnregistered (searching : Bool)
  deriving DecidableEq, Repr

namespace CDMARegistration

variable (x : RegistrationExternals)

/-- The registration fields as the constructor sets them. -/
def init : CDMARegistration := ⟨x.registrationStateUnknown, x.registrationStateUnknown, 0⟩

/-- `IsRegistered()`. -/
def isRegistered (r : CDMARegistration) : Bool :=
  r.registrationStateEvdo ≠ x.registrationStateUnknown ||
    r.registrationState1x ≠ x.registrationStateUnknown

/-- `SetUnregistered(searching)`. -/
def setUnregistered (r : CDMARegistration) (_searching : Bool) : CDMARegistration :=
  { r with registrationStateEvdo := x.registrationStateUnknown,
           registrationState1x := x.registrationStateUnknown }

/-- `GetNetworkTechnologyString()`. -/
def getNetworkTechnologyString (r : CDMARegistration) : String :=
  if r.registrationStateEvdo ≠ x.registrationStateUnknown then x.networkTechnologyEvdo
  else if r.registrationState1x ≠ x.registrationStateUnknown then x.networkTechnology1Xrtt
  else ""

/-- `GetRoamingStateString()`; the error is `NOTREACHED()`. -/
def getRoamingStateString (r : CDMARegistration) : Except Unit String :=
  let state := if r.registrationStateEvdo = x.registrationStateUnknown then r.registrationState1x
    else r.registrationStateEvdo
  if state = x.registrationStateUnknown ∨ state = x.registrationStateRegistered then
    .ok x.roamingStateUnknown
  else if state = x.registrationStateHome then .ok x.roamingStateHome
  else if state = x.registrationStateRoaming then .ok x.roamingStateRoaming
  else .error ()

/-- `OnRegistrationStateChangedSignal(state_1x, state_evdo)`. -/
def onRegistrationStateChangedSignal (r : CDMARegistration) (state1x stateEvdo : Nat) :
    CDMARegistration :=
  ⟨stateEvdo, state1x, r.handleNewRegistrationStateCalls + 1⟩

/-- `OnGetRegistrationStateReply(state_1x, state_evdo, error)`. -/
def onGetRegistrationStateReply (r : CDMARegistration) (state1x stateEvdo : Nat) (error : Error) :
    CDMARegistration :=
  if error.IsSuccess then r.onRegistrationStateChangedSignal state1x stateEvdo else r

/-- What an event does to the registration fields. -/
def step (r : CDMARegistration) : RegistrationEvent → CDMARegistration
  | .registrationStateChanged state1x stateEvdo =>
    r.onRegistrationStateChangedSignal state1x stateEvdo
  | .getRegistrationStateReply state1x stateEvdo error =>
    r.onGetRegistrationStateReply state1x stateEvdo error
  | .setUnregistered searching => r.setUnregistered x searching

/-- A run of events. -/
def run (r : CDMARegistration) (es : List RegistrationEvent) : CDMARegistration :=
  es.foldl (step x) r

end CDMARegistration

namespace RegistrationEvent

variable (x : RegistrationExternals)

/-- The registration `(state_1x, state_evdo)` an event reports, if it reports one. -/
def reported : RegistrationEvent → Option (Nat × Nat)
  | .registrationStateChanged state1x stateEvdo => some (state1x, stateEvdo)
  | .getRegistrationStateReply state1x stateEvdo error =>
    if error.IsSuccess then some (state1x, stateEvdo) else none
  | .setUnregistered _ => some (x.registrationStateUnknown, x.registrationStateUnknown)

/-- Whether an event tells the Cellular device about a new registration. -/
def notifies : RegistrationEvent → Bool
  | .registrationStateChanged _ _ => true
  | .getRegistrationStateReply _ _ error => decide error.IsSuccess
  | .setUnregistered _ => false

end RegistrationEvent

/-- The registration last reported in `es`; unknown for both technologies if none was. -/
def lastReported (x : RegistrationExternals) (es : List RegistrationEvent) : Nat × Nat :=
  (es.reverse.findSome? (RegistrationEvent.reported x)).getD
    (x.registrationStateUnknown, x.registrationStateUnknown)

namespace CDMARegistration

variable (x : RegistrationExternals)

/-- The registration fields after an event are those it reports, if it reports any, and the
Cellular device is told when the event notifies it. -/
theorem step_fields (r : CDMARegistration) (e : RegistrationEvent) :
    ((r.step x e).registrationState1x, (r.step x e).registrationStateEvdo) =
        (e.reported x).getD (r.registrationState1x, r.registrationStateEvdo) ∧
      (r.step x e).handleNewRegistrationStateCalls =
        r.handleNewRegistrationStateCalls + if e.notifies then 1 else 0 := by
  cases e with
  | registrationStateChanged => exact ⟨rfl, rfl⟩
  | getRegistrationStateReply state1x stateEvdo error =>
    by_cases h : error.IsSuccess <;>
      simp [step, onGetRegistrationStateReply, onRegistrationStateChangedSignal,
        RegistrationEvent.reported, RegistrationEvent.notifies, h]
  | setUnregistered => exact ⟨rfl, rfl⟩

theorem run_append_singleton (r : CDMARegistration) (es : List RegistrationEvent)
    (e : RegistrationEvent) : r.run x (es ++ [e]) = (r.run x es).step x e := by
  simp [run, List.foldl_append]

theorem lastReported_append_singleton (es : List RegistrationEvent) (e : RegistrationEvent) :
    lastReported x (es ++ [e]) = (e.reported x).getD (lastReported x es) := by
  cases h : e.reported x <;> simp [lastReported, List.findSome?_cons, h]

/-- **The capability holds the registration last reported.** After any signals, replies and
`SetUnregistered` calls from construction, the two registration states are those of the last
signal, successful reply or `SetUnregistered` (a failed reply reports nothing), and the
Cellular device was told once per signal and successful reply. -/
theorem run_registration (es : List RegistrationEvent) :
    (((init x).run x es).registrationState1x, ((init x).run x es).registrationStateEvdo) =
        lastReported x es ∧
      ((init x).run x es).handleNewRegistrationStateCalls =
        es.countP RegistrationEvent.notifies := by
  induction es using List.reverseRecOn with
  | nil => exact ⟨rfl, rfl⟩
  | append_singleton es e ih =>
    obtain ⟨hfields, hcalls⟩ := step_fields x ((init x).run x es) e
    rw [run_append_singleton, hfields, hcalls, lastReported_append_singleton, ← ih.1, ih.2,
      List.countP_append]
    exact ⟨rfl, by cases h : e.notifies <;> simp [h]⟩

end CDMARegistration

end Shill.Cellular
