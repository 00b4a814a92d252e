import Shill.Basic

/-!
# CDMA activation: `Activate`, `DisconnectCleanup`, `OnActivateReply`

Model of the activation path of `CellularCapabilityCDMA` (`cellular_capability_cdma.cc`).
`Activate(carrier, error, callback)` either hands the request to the modem proxy (Cellular
state Enabled or Registered), or parks the callback in `pending_activation_callback_` and asks
the Cellular device to disconnect first (Connected or Linked); `DisconnectCleanup` then
re-issues the parked request, or fails it. The proxy answers an accepted call later, through
`OnActivateReply`.

The capability runs among parties outside it, modelled by what they decide:

* The Cellular device: its state at each step, and whether its `Disconnect(error)` is accepted
  (`disconnect = none`) or fails at once, filling `error` (`some e`).
* The modem proxy: whether `proxy_->Activate(...)` is accepted (`proxy = none`) or throws at
  once, filling `error` and destroying the callback unrun (`some e`), the pattern
  `ModemModem3gppProxy::Register` shows (`mm1_modem_modem3gpp_proxy.cc`). An accepted call stays
  `inFlight` until its reply is delivered.
* The caller: a `ResultCallback` is modelled by the request it answers, a number given out in
  order; running it, or filling the `error` of the `Activate` call that made the request,
  appends to `responses`.

`Externals` holds what the code reads from files not in this snapshot: the ModemManager codes
of `mm/mm-modem.h` and `Cellular::GetStateString`. `HandleNewActivationState`, which only pushes
strings to the Cellular service (it is modelled with the status fields, in `Cellular.Status`),
and `CellularCapabilityClassic::DisconnectCleanup` are out of scope here: neither reads or
writes the fields modelled here.
-/

namespace Shill.Cellular

/-- `Cellular::State`. -/
inductive CellularState
  | disabled
  | enabled
  | registered
  | connected
  | linked
  deriving DecidableEq, Repr

/-- What the capability reads from outside this snapshot. -/
structure Externals where
  /-- `MM_MODEM_CDMA_ACTIVATION_STATE_NOT_ACTIVATED`. -/
  activationStateNotActivated : Nat
  /-- `MM_MODEM_CDMA_ACTIVATION_STATE_ACTIVATING`. -/
  activationStateActivating : Nat
  /-- `MM_MODEM_CDMA_ACTIVATION_ERROR_NO_ERROR`. -/
  activationErrorNoError : Nat
  /-- `Cellular::GetStateString`. -/
  getStateString : CellularState → String

/-- A `ResultCallback`, by the request it answers. -/
abbrev ResultCallback := Nat

/-- How a request was answered. -/
inductive Response
  /-- The `error` out-parameter of the `Activate` call was filled. -/
  | error (e : Error)
  /-- The callback was run. -/
  | callback (e : Error)
  deriving DecidableEq, Repr

/-- The activation fields of `CellularCapabilityCDMA`. -/
structure CellularCapabilityCDMA where
  activationStarting : Bool
  pendingActivationCallback : Option ResultCallback
  pendingActivationCarrier : String
  activationState : Nat
  deriving DecidableEq, Repr

/-- The capability with the proxy calls in flight and the answers given so far. -/
structure World where
  capability : CellularCapabilityCDMA
  inFlight : List ResultCallback
  responses : List (ResultCallback × Response)
  nextRequest : Nat
  deriving DecidableEq, Repr

/-- The `activation_state_` that `OnActivateReply(callback, status, error)` leaves: a successful
reply with status `NO_ERROR` makes the modem activating, any other reply leaves the state. -/
def activationStateAfterReply (x : Externals) (activationState status : Nat) (error : Error) :
    Nat :=
  if error.IsSuccess then
    if status = x.activationErrorNoError then x.activationStateActivating else activationState
  else activationState

namespace World

variable (x : Externals)

/-- A freshly constructed capability: nothing pending, nothing in flight. -/
def init : World :=
  ⟨⟨false, none, "", x.activationStateNotActivated⟩, [], [], 0⟩

/-- `activation_starting_ = b`. -/
def setActivationStarting (w : World) (b : Bool) : World :=
  { w with capability := { w.capability with activationStarting := b } }

/-- `callback.Run(error)`. -/
def run (w : World) (callback : ResultCallback) (error : Error) : World :=
  { w with responses := w.responses ++ [(callback, .callback error)] }

/-- `proxy_->Activate(carrier, error, activation_callback, kTimeoutActivate)`: accepted, the
call is in flight until its reply; rejected, `error` is filled and the callback dropped. -/
def proxyActivate (w : World) (callback : ResultCallback) (proxy : Option Error) :
    World × Option Error :=
  match proxy with
  | none => ({ w with inFlight := w.inFlight ++ [callback] }, none)
  | some e => (w, some e)

/-- `Activate(carrier, error, callback)` in Cellular state `state`: the world after it and what
it leaves in `error`. -/
def activate (w : World) (carrier : String) (callback : ResultCallback) (state : CellularState)
    (proxy disconnect : Option Error) : World × Option Error :=
  let w := w.setActivationStarting true
  if state = .enabled ∨ state = .registered then
    w.proxyActivate callback proxy
  else if state = .connected ∨ state = .linked then
    ({ w with capability := { w.capability with pendingActivationCallback := some callback,
                                                pendingActivationCarrier := carrier } },
     disconnect)
  else
    (w.setActivationStarting false,
     some ⟨.invalidArguments, "Unable to activate in " ++ x.getStateString state⟩)

/-- `DisconnectCleanup()` in Cellular state `state`: with a parked request, re-issue it (its
error goes to `ignored_error`) or fail it, then clear the parking slot. -/
def disconnectCleanup (w : World) (state : CellularState) (proxy : Option Error) : World :=
  match w.capability.pendingActivationCallback with
  | none => w
  | some callback =>
    let w :=
      if state = .enabled ∨ state = .registered then
        (w.activate x w.capability.pendingActivationCarrier callback state proxy none).1
      else
        (w.setActivationStarting false).run callback
          ⟨.operationFailed, "Tried to disconnect before activating cellular service and failed"⟩
    { w with capability := { w.capability with pendingActivationCallback := none,
                                                pendingActivationCarrier := "" } }

/-- `OnActivateReply(callback, status, error)`. -/
def onActivateReply (w : World) (callback : ResultCallback) (status : Nat) (error : Error) :
    World :=
  let w := w.setActivationStarting false
  let w := { w with capability := { w.capability with
    activationState := activationStateAfterReply x w.capability.activationState status error } }
  w.run callback error

section OnActivateReply

variable {x} (w : World) (callback : ResultCallback) (status : Nat) (error : Error)

@[simp] theorem onActivateReply_activationStarting :
    (w.onActivateReply x callback status error).capability.activationStarting = false :=
  rfl

@[simp] theorem onActivateReply_pendingActivationCallback :
    (w.onActivateReply x callback status error).capability.pendingActivationCallback =
      w.capability.pendingActivationCallback :=
  rfl

@[simp] theorem onActivateReply_inFlight :
    (w.onActivateReply x callback status error).inFlight = w.inFlight :=
  rfl

@[simp] theorem onActivateReply_responses :
    (w.onActivateReply x callback status error).responses =
      w.responses ++ [(callback, .callback error)] :=
  rfl

@[simp] theorem onActivateReply_nextRequest :
    (w.onActivateReply x callback status error).nextRequest = w.nextRequest :=
  rfl

end OnActivateReply

/-- `IsActivating()`. -/
def isActivating (w : World) : Bool :=
  w.capability.activationStarting || w.capability.activationState == x.activationStateActivating

end World

/-! ## Runs -/

/-- What the environment can do next. -/
inductive Event
  /-- The caller's `Activate(carrier, &error, callback)`, with a new request. -/
  | activate (carrier : String) (state : CellularState) (proxy disconnect : Option Error)
  /-- The Cellular device's `DisconnectCleanup()`. -/
  | disconnectCleanup (state : CellularState) (proxy : Option Error)
  /-- The reply to the in-flight proxy call of `callback`. -/
  | activateReply (callback : ResultCallback) (status : Nat) (error : Error)
  /-- `OnActivationStateChangedSignal`: the modem reports its activation state. -/
  | activationStateChanged (activationState : Nat)
  deriving DecidableEq, Repr

namespace World

variable (x : Externals)

/-- One event; `none` for the reply of a call that is not in flight. -/
def step (w : World) : Event → Option World
  | .activate carrier state proxy disconnect =>
    let r := w.nextRequest
    let (w', error) :=
      activate x { w with nextRequest := r + 1 } carrier r state proxy disconnect
    some { w' with responses := w'.responses ++ error.toList.map fun e => (r, .error e) }
  | .disconnectCleanup state proxy => some (w.disconnectCleanup x state proxy)
  | .activateReply callback status error =>
    if callback ∈ w.inFlight then
      some ({ w with inFlight := w.inFlight.erase callback }.onActivateReply x callback status error)
    else none
  | .activationStateChanged s =>
    some { w with capability := { w.capability with activationState := s } }

/-- The world after a sequence of events, `none` once an event is not enabled. -/
def runEvents (w : World) (es : List Event) : Option World :=
  es.foldlM (step x) w

/-- The worlds reachable by events each `allowed` in the world it happens in. -/
inductive Reach (allowed : World → Event → Prop) : World → Prop
  | init : Reach allowed (init x)
  | step {w w' : World} {e : Event} :
      Reach allowed w → allowed w e → w.step x e = some w' → Reach allowed w'

end World

end Shill.Cellular
