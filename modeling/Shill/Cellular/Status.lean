import Shill.Cellular.CapabilityCDMA

/-!
# CDMA status: `UpdateStatus`, `OnActivationStateChangedSignal` and the Cellular service

Model of the part of `CellularCapabilityCDMA` (`cellular_capability_cdma.cc`) that keeps the
modem's status and shows it on the Cellular service: `UpdateStatus`,
`OnActivationStateChangedSignal`, `UpdateOnlinePortal`, `OnServiceCreated`,
`HandleNewActivationState` with `GetActivationStateString` and `GetActivationErrorString`,
`UpdateServingOperator`, `GetMEID`, and the part of `OnActivateReply` that sets
`activation_state_` and tells the service. The new `activation_state_` is
`activationStateAfterReply`, the function the activation model (`World.onActivateReply`) uses.

Two copies of the online payment portal are kept. The capability's `olp_` takes `payment_url`,
`payment_url_method` and `payment_url_postdata` each on its own, from every status map that
has it. `UpdateOnlinePortal` hands the serving operator's `MobileOperatorInfo` a portal only
from a map that has all three ("Treat the three updates atomically"). The service gets `olp_`,
`usage_url_`, the home provider and the activation state when it is created, and the portal
and activation state again on each activation signal; `UpdateStatus` changes all four on the
capability without telling the service.

Outside this snapshot: `DBusProperties::GetString`, `GetUint32` and `GetUint16` (`dbus_properties.cc`)
read the value at a key when it has their D-Bus type and leave their out-parameter alone
otherwise; the setters of `CellularService` and `Cellular` store what they are given;
`MobileOperatorInfo::UpdateOnlinePortal` keeps the last portal it gets. The ModemManager codes
and the service strings are parameters (`StatusExternals`). Each `switch` over codes is an
`if` chain in the order of its cases; the codes differ, or the `switch` would not compile.

## Results

* `run_servingOperatorPortal`: after any run, the serving operator's portal is the one of the
  last status map that had all three strings, or what it was before: never a mix of two maps.
* `run_olp`: after any run, each field of `olp_` is the last string given for its key.
* `shows_run`: from `OnServiceCreated` on, as long as `UpdateStatus` does not run, the service
  shows the capability's portal, usage URL, home provider and activation state.
-/

namespace Shill.Cellular

/-- A value of a `DBusPropertiesMap`, by the D-Bus type `DBusProperties` reads it as: `s`, `u`
or `q`; any other type is `other`. -/
inductive PropertyValue
  | string (s : String)
  | uint32 (n : Nat)
  | uint16 (n : Nat)
  | other
  deriving DecidableEq, Repr

/-- A `DBusPropertiesMap`: `std::map` holds one entry a key, which `List.lookup` finds. -/
abbrev DBusPropertiesMap := List (String × PropertyValue)

namespace DBusProperties

/-- `DBusProperties::GetString(properties, key, &value)`: the string at `key`, if any. -/
def getString (properties : DBusPropertiesMap) (key : String) : Option String :=
  match properties.lookup key with
  | some (.string s) => some s
  | _ => none

/-- `DBusProperties::GetUint32(properties, key, &value)`. -/
def getUint32 (properties : DBusPropertiesMap) (key : String) : Option Nat :=
  match properties.lookup key with
  | some (.uint32 n) => some n
  | _ => none

/-- `DBusProperties::GetUint16(properties, key, &value)`. -/
def getUint16 (properties : DBusPropertiesMap) (key : String) : Option Nat :=
  match properties.lookup key with
  | some (.uint16 n) => some n
  | _ => none

end DBusProperties

open DBusProperties

/-- `CellularService::OLP`: the online payment portal. -/
structure OLP where
  url : String
  method : String
  postData : String
  deriving DecidableEq, Repr

/-- `Cellular::Operator`, by the fields `UpdateStatus` sets. -/
structure Operator where
  name : String
  country : String
  deriving DecidableEq, Repr

/-- The fields of the Cellular service that the capability sets. -/
structure CellularServiceView where
  olp : OLP
  usageUrl : String
  servingOperator : Operator
  activationState : String
  error : String
  deriving DecidableEq, Repr

/-- A `CellularService` as `Cellular::CreateService` builds it, before `OnServiceCreated`. -/
def CellularServiceView.fresh : CellularServiceView := ⟨⟨"", "", ""⟩, "", ⟨"", ""⟩, "", ""⟩

/-- The status fields of the capability and of the Cellular device it writes to. -/
structure CDMAStatus where
  /-- `activation_state_`. -/
  activationState : Nat
  /-- `olp_`. -/
  olp : OLP
  /-- `usage_url_`. -/
  usageUrl : String
  /-- `cellular()->home_provider()`. -/
  homeProvider : Operator
  /-- `cellular()->prl_version()`. -/
  prlVersion : Nat
  /-- `cellular()->mdn()`. -/
  mdn : String
  /-- `cellular()->min()`. -/
  min : String
  /-- `cellular()->meid()`. -/
  meid : String
  /-- The last portal given to `cellular()->serving_operator_info()->UpdateOnlinePortal`. -/
  servingOperatorPortal : Option OLP
  /-- `cellular()->service()`, by the fields the capability sets. -/
  service : Option CellularServiceView
  deriving DecidableEq, Repr

/-- What the status path reads from outside this snapshot, beyond `Externals`. -/
structure StatusExternals extends Externals where
  /-- `MM_MODEM_CDMA_ACTIVATION_STATE_ACTIVATED`. -/
  activationStateActivated : Nat
  /-- `MM_MODEM_CDMA_ACTIVATION_STATE_PARTIALLY_ACTIVATED`. -/
  activationStatePartiallyActivated : Nat
  /-- `MM_MODEM_CDMA_ACTIVATION_ERROR_WRONG_RADIO_INTERFACE`. -/
  activationErrorWrongRadioInterface : Nat
  /-- `MM_MODEM_CDMA_ACTIVATION_ERROR_ROAMING`. -/
  activationErrorRoaming : Nat
  /-- `MM_MODEM_CDMA_ACTIVATION_ERROR_COULD_NOT_CONNECT`. -/
  activationErrorCouldNotConnect : Nat
  /-- `MM_MODEM_CDMA_ACTIVATION_ERROR_SECURITY_AUTHENTICATION_FAILED`. -/
  activationErrorSecurityAuthenticationFailed : Nat
  /-- `MM_MODEM_CDMA_ACTIVATION_ERROR_PROVISIONING_FAILED`. -/
  activationErrorProvisioningFailed : Nat
  kActivationStateActivated : String
  kActivationStateActivating : String
  kActivationStateNotActivated : String
  kActivationStatePartiallyActivated : String
  kActivationStateUnknown : String
  kErrorNeedEvdo : String
  kErrorNeedHomeNetwork : String
  kErrorOtaspFailed : String
  kErrorActivationFailed : String

variable (x : StatusExternals)

/-- `GetActivationStateString(state)`. -/
def getActivationStateString (state : Nat) : String :=
  if state = x.activationStateActivated then x.kActivationStateActivated
  else if state = x.activationStateActivating then x.kActivationStateActivating
  else if state = x.activationStateNotActivated then x.kActivationStateNotActivated
  else if state = x.activationStatePartiallyActivated then x.kActivationStatePartiallyActivated
  else x.kActivationStateUnknown

/-- `GetActivationErrorString(error)`; `NO_SIGNAL` falls to the default. -/
def getActivationErrorString (error : Nat) : String :=
  if error = x.activationErrorWrongRadioInterface then x.kErrorNeedEvdo
  else if error = x.activationErrorRoaming then x.kErrorNeedHomeNetwork
  else if error = x.activationErrorCouldNotConnect ∨
      error = x.activationErrorSecurityAuthenticationFailed ∨
      error = x.activationErrorProvisioningFailed then x.kErrorOtaspFailed
  else if error = x.activationErrorNoError then ""
  else x.kErrorActivationFailed

/-- ModemManager's codes and the service strings, for the examples. -/
def sampleStatusExternals : StatusExternals :=
  { activationStateNotActivated := 0, activationStateActivating := 1,
    activationStatePartiallyActivated := 2, activationStateActivated := 3,
    activationErrorNoError := 0, activationErrorRoaming := 1,
    activationErrorWrongRadioInterface := 2, activationErrorCouldNotConnect := 3,
    activationErrorSecurityAuthenticationFailed := 4, activationErrorProvisioningFailed := 5,
    getStateString := fun _ => "",
    kActivationStateActivated := "activated", kActivationStateActivating := "activating",
    kActivationStateNotActivated := "not-activated",
    kActivationStatePartiallyActivated := "partially-activated",
    kActivationStateUnknown := "unknown", kErrorNeedEvdo := "need-evdo",
    kErrorNeedHomeNetwork := "need-home-network", kErrorOtaspFailed := "otasp-failed",
    kErrorActivationFailed := "activation-failed" }

/-- The portal `UpdateOnlinePortal` reads from a map: all three strings, or nothing. -/
def portalOf (properties : DBusPropertiesMap) : Option OLP :=
  match getString properties "payment_url", getString properties "payment_url_method",
      getString properties "payment_url_postdata" with
  | some url, some method, some postData => some ⟨url, method, postData⟩
  | _, _, _ => none

/-- The `olp_.SetURL`, `SetMethod` and `SetPostData` of `UpdateStatus` and
`OnActivationStateChangedSignal`: each field from its key, when the key holds a string. -/
def updateOLP (olp : OLP) (properties : DBusPropertiesMap) : OLP :=
  ⟨(getString properties "payment_url").getD olp.url,
    (getString properties "payment_url_method").getD olp.method,
    (getString properties "payment_url_postdata").getD olp.postData⟩

namespace CDMAStatus

/-- A fresh capability on a Cellular device with no service. -/
def init : CDMAStatus :=
  ⟨x.activationStateNotActivated, ⟨"", "", ""⟩, "", ⟨"", ""⟩, 0, "", "", "", none, none⟩

/-- `UpdateOnlinePortal(properties)`: the serving operator gets the portal only when the map
has all three strings. -/
def updateOnlinePortal (s : CDMAStatus) (properties : DBusPropertiesMap) : CDMAStatus :=
  match portalOf properties with
  | some olp => { s with servingOperatorPortal := some olp }
  | none => s

/-- `HandleNewActivationState(error)`: with a service, show the activation state and the
error's string; without one, nothing. -/
def handleNewActivationState (s : CDMAStatus) (error : Nat) : CDMAStatus :=
  { s with service := s.service.map fun svc =>
      { svc with activationState := getActivationStateString x s.activationState,
                 error := getActivationErrorString x error } }

/-- `UpdateServingOperator()`: the service's serving operator is the home provider. -/
def updateServingOperator (s : CDMAStatus) : CDMAStatus :=
  { s with service := s.service.map fun svc => { svc with servingOperator := s.homeProvider } }

/-- `UpdateStatus(properties)`, the status ModemManager reports when the modem starts. -/
def updateStatus (s : CDMAStatus) (properties : DBusPropertiesMap) : CDMAStatus :=
  let s := match getString properties "carrier" with
    | some carrier => { s with homeProvider := ⟨carrier, "us"⟩ }
    | none => s
  let s := { s with
    activationState := (getUint32 properties "activation_state").getD s.activationState }
  let s := s.updateOnlinePortal properties
  let s := match getUint16 properties "prl_version" with
    | some prlVersion => { s with prlVersion := prlVersion }
    | none => s
  { s with olp := updateOLP s.olp properties,
           usageUrl := (getString properties "usage_url").getD s.usageUrl }

/-- `OnActivationStateChangedSignal(activation_state, activation_error, status_changes)`. -/
def onActivationStateChangedSignal (s : CDMAStatus) (activationState activationError : Nat)
    (statusChanges : DBusPropertiesMap) : CDMAStatus :=
  let s := { s with mdn := (getString statusChanges "mdn").getD s.mdn,
                    min := (getString statusChanges "min").getD s.min,
                    olp := updateOLP s.olp statusChanges }
  let s := { s with service := s.service.map fun (svc : CellularServiceView) =>
    { svc with olp := s.olp } }
  let s := s.updateOnlinePortal statusChanges
  handleNewActivationState x { s with activationState := activationState } activationError

/-- The status part of `OnActivateReply(callback, status, error)`: `activation_state_` as the
activation model sets it, and on success the service is told. -/
def onActivateReply (s : CDMAStatus) (status : Nat) (error : Error) : CDMAStatus :=
  let s := { s with
    activationState := activationStateAfterReply x.toExternals s.activationState status error }
  if error.IsSuccess then s.handleNewActivationState x status else s

/-- `OnServiceCreated()`. -/
def onServiceCreated (s : CDMAStatus) : CDMAStatus :=
  let s := { s with service := s.service.map fun (svc : CellularServiceView) =>
    { svc with olp := s.olp, usageUrl := s.usageUrl } }
  s.updateServingOperator.handleNewActivationState x x.activationErrorNoError

/-- `GetMEID(callback)`: ask the proxy only while the MEID is unknown. -/
def getMEID (s : CDMAStatus) (proxyMEID : String) : CDMAStatus :=
  if s.meid.isEmpty then { s with meid := proxyMEID } else s

end CDMAStatus

/-! ## Runs -/

/-- What the modem, the proxy and the Cellular device can do next. -/
inductive StatusEvent
  /-- `UpdateStatus(properties)`. -/
  | updateStatus (properties : DBusPropertiesMap)
  /-- The activation-state signal. -/
  | activationStateChanged (activationState activationError : Nat)
      (statusChanges : DBusPropertiesMap)
  /-- The reply to an activation request. -/
  | activateReply (status : Nat) (error : Error)
  /-- `Cellular::CreateService`: a fresh service, then `OnServiceCreated()`. -/
  | serviceCreated
  /-- `Cellular::DestroyService`. -/
  | serviceDestroyed
  /-- `GetMEID`, with what `proxy_->MEID()` returns. -/
  | getMEID (proxyMEID : String)

namespace StatusEvent

/-- The status map an event reads, if any. -/
def properties : StatusEvent → Option DBusPropertiesMap
  | .updateStatus properties => some properties
  | .activationStateChanged _ _ statusChanges => some statusChanges
  | _ => none

/-- Whether an event is `UpdateStatus`. -/
def isUpdateStatus : StatusEvent → Bool
  | .updateStatus _ => true
  | _ => false

end StatusEvent

namespace CDMAStatus

/-- One event. -/
def step (s : CDMAStatus) : StatusEvent → CDMAStatus
  | .updateStatus properties => s.updateStatus properties
  | .activationStateChanged state error statusChanges =>
    s.onActivationStateChangedSignal x state error statusChanges
  | .activateReply status error => s.onActivateReply x status error
  | .serviceCreated => onServiceCreated x { s with service := some .fresh }
  | .serviceDestroyed => { s with service := none }
  | .getMEID proxyMEID => s.getMEID proxyMEID

/-- A sequence of events. -/
def run (s : CDMAStatus) (es : List StatusEvent) : CDMAStatus := es.foldl (step x) s

theorem run_append_singleton (s : CDMAStatus) (es : List StatusEvent) (e : StatusEvent) :
    s.run x (es ++ [e]) = (s.run x es).step x e := List.foldl_append _ _ _ _

/-! ## What each call writes -/

theorem updateOnlinePortal_eq (s : CDMAStatus) (properties : DBusPropertiesMap) :
    s.updateOnlinePortal properties =
      { s with servingOperatorPortal := (portalOf properties).or s.servingOperatorPortal } := by
  unfold updateOnlinePortal
  cases portalOf properties <;> rfl

/-- What an event writes to the two portals: only a status map writes `olp_`, each field from
its own key, and the serving operator's portal, only from a complete map. -/
theorem step_fields (s : CDMAStatus) (e : StatusEvent) :
    (s.step x e).olp = (e.properties.map (updateOLP s.olp)).getD s.olp ∧
      (s.step x e).servingOperatorPortal =
        (e.properties.bind portalOf).or s.servingOperatorPortal := by
  cases e with
  | updateStatus properties =>
    simp only [step, updateStatus, updateOnlinePortal_eq]
    split <;> split <;> exact ⟨rfl, rfl⟩
  | activationStateChanged state error statusChanges =>
    simp only [step, onActivationStateChangedSignal, updateOnlinePortal_eq]
    exact ⟨rfl, rfl⟩
  | activateReply status error =>
    simp only [step, onActivateReply]
    split <;> exact ⟨rfl, rfl⟩
  | serviceCreated => exact ⟨rfl, rfl⟩
  | serviceDestroyed => exact ⟨rfl, rfl⟩
  | getMEID proxyMEID =>
    simp only [step, getMEID]
    split <;> exact ⟨rfl, rfl⟩

/-! ## Last writes over a run -/

/-- A field that each event overwrites with `G e`, when there is one, holds after a run the
last value given, or the one it started with. -/
theorem run_lastWrite {α : Type} (F : CDMAStatus → Option α) (G : StatusEvent → Option α)
    (hF : ∀ s e, F (s.step x e) = (G e).or (F s)) (s : CDMAStatus) (es : List StatusEvent) :
    F (s.run x es) = ((es.filterMap G).getLast?).or (F s) := by
  induction es using List.reverseRecOn with
  | nil => rfl
  | append_singleton es e ih =>
    rw [run_append_singleton, hF, ih, List.filterMap_append, List.getLast?_append]
    cases h : G e <;> simp only [List.filterMap_cons, List.filterMap_nil, h,
      List.getLast?_singleton, List.getLast?_nil, Option.none_or, Option.or_some]

/-- **The serving operator's portal is atomic.** After any run, it is the portal of the last
status map (of `UpdateStatus` or of the activation signal) that had all three strings, or what
it was before the run when none had: never fields of two maps. -/
theorem run_servingOperatorPortal (s : CDMAStatus) (es : List StatusEvent) :
    (s.run x es).servingOperatorPortal =
      ((es.filterMap fun e => e.properties.bind portalOf).getLast?).or s.servingOperatorPortal :=
  run_lastWrite x _ _ (fun s e => (step_fields x s e).2) s es

/-- The last string the status maps of a run give at `key`, or `d` when none gives one. -/
def lastString (es : List StatusEvent) (key d : String) : String :=
  ((es.filterMap fun e => e.properties.bind fun properties => getString properties key
    ).getLast?).getD d

theorem run_olp_field (field : OLP → String) (key : String)
    (hfield : ∀ olp properties,
      field (updateOLP olp properties) = (getString properties key).getD (field olp))
    (s : CDMAStatus) (es : List StatusEvent) :
    field (s.run x es).olp = lastString es key (field s.olp) := by
  have hF : ∀ (s : CDMAStatus) (e : StatusEvent), some (field (s.step x e).olp) =
      (e.properties.bind fun properties => getString properties key).or (some (field s.olp)) := by
    intro s e
    rw [(step_fields x s e).1]
    cases e.properties with
    | none => rfl
    | some properties =>
      show some (field (updateOLP s.olp properties)) = (getString properties key).or _
      rw [hfield]; cases getString properties key <;> rfl
  refine Option.some_injective _ ((run_lastWrite x (fun s => some (field s.olp)) _ hF s es).trans ?_)
  unfold lastString
  cases (es.filterMap fun e => e.properties.bind fun properties =>
    getString properties key).getLast? <;> rfl

/-- **`olp_` takes each field on its own.** After any run, each field of the capability's
portal is the last string a status map gave for its key, or what it was before the run. -/
theorem run_olp (s : CDMAStatus) (es : List StatusEvent) :
    (s.run x es).olp = ⟨lastString es "payment_url" s.olp.url,
      lastString es "payment_url_method" s.olp.method,
      lastString es "payment_url_postdata" s.olp.postData⟩ := by
  rw [← run_olp_field x OLP.url _ (fun _ _ => rfl), ← run_olp_field x OLP.method _
    (fun _ _ => rfl), ← run_olp_field x OLP.postData _ (fun _ _ => rfl)]

/- A status map with the whole portal, then one with a new URL only: `olp_` mixes the two, the
serving operator keeps the first. -/
example :
    let s := (init sampleStatusExternals).run sampleStatusExternals
      [.updateStatus [("payment_url", .string "a"), ("payment_url_method", .string "POST"),
        ("payment_url_postdata", .string "p")],
       .activationStateChanged 1 0 [("payment_url", .string "b")]]
    s.olp = ⟨"b", "POST", "p"⟩ ∧ s.servingOperatorPortal = some ⟨"a", "POST", "p"⟩ := by
  decide

/-! ## What the service shows -/

/-- The service shows what the capability holds: its online portal, usage URL, home provider
and activation state. -/
def Shows (s : CDMAStatus) : Prop :=
  match s.service with
  | none => True
  | some svc => svc.olp = s.olp ∧ svc.usageUrl = s.usageUrl ∧
      svc.servingOperator = s.homeProvider ∧
      svc.activationState = getActivationStateString x s.activationState

instance (s : CDMAStatus) : Decidable (s.Shows x) := by
  unfold Shows; split <;> infer_instance

/-- The service shows the capability's portal, usage URL and home provider. -/
def ShowsProvider (s : CDMAStatus) : Prop :=
  ∀ svc, s.service = some svc →
    svc.olp = s.olp ∧ svc.usageUrl = s.usageUrl ∧ svc.servingOperator = s.homeProvider

theorem Shows.showsProvider {s : CDMAStatus} (h : s.Shows x) : s.ShowsProvider := by
  intro svc hs
  simp only [Shows, hs] at h
  exact ⟨h.1, h.2.1, h.2.2.1⟩

/-- `HandleNewActivationState` completes what the service shows. -/
theorem shows_handleNewActivationState {s : CDMAStatus} (h : s.ShowsProvider) (error : Nat) :
    (s.handleNewActivationState x error).Shows x := by
  unfold handleNewActivationState Shows
  cases hs : s.service with
  | none => trivial
  | some svc => exact ⟨(h svc hs).1, (h svc hs).2.1, (h svc hs).2.2, rfl⟩

/-- `OnServiceCreated` makes the new service show the capability's status, from any state. -/
theorem shows_serviceCreated (s : CDMAStatus) : (s.step x .serviceCreated).Shows x :=
  shows_handleNewActivationState x (fun _ hs => by cases hs; exact ⟨rfl, rfl, rfl⟩) _

/-- Every event but `UpdateStatus` keeps the service showing the capability's status. -/
theorem Shows.step {s : CDMAStatus} (h : s.Shows x) {e : StatusEvent}
    (he : e.isUpdateStatus = false) : (s.step x e).Shows x := by
  have hp := h.showsProvider
  cases e with
  | updateStatus properties => cases he
  | activationStateChanged state error statusChanges =>
    refine shows_handleNewActivationState x (fun svc hs => ?_) error
    simp only [updateOnlinePortal_eq, Option.map_eq_some'] at hs ⊢
    obtain ⟨svc₀, hs₀, rfl⟩ := hs
    exact ⟨rfl, (hp svc₀ hs₀).2.1, (hp svc₀ hs₀).2.2⟩
  | activateReply status error =>
    simp only [CDMAStatus.step, onActivateReply]
    split
    · exact shows_handleNewActivationState x
        (s := { s with activationState := activationStateAfterReply _ _ _ _ }) hp status
    · rw [activationStateAfterReply, if_neg ‹_›]
      exact h
  | serviceCreated => exact shows_serviceCreated x s
  | serviceDestroyed => trivial
  | getMEID proxyMEID =>
    simp only [CDMAStatus.step, getMEID]
    split
    · exact h
    · exact h

theorem Shows.run {s : CDMAStatus} (h : s.Shows x) {es : List StatusEvent}
    (hes : ∀ e ∈ es, e.isUpdateStatus = false) : (s.run x es).Shows x := by
  induction es generalizing s with
  | nil => exact h
  | cons e es ih =>
    exact ih (h.step x (hes e (List.mem_cons_self e es)))
      fun e' he' => hes e' (List.mem_cons_of_mem e he')

/-- **The service shows the capability's status.** From `OnServiceCreated` on, as long as
`UpdateStatus` does not run, the service shows the capability's online portal, usage URL, home
provider and activation state, whatever ran before it. -/
theorem shows_run (s : CDMAStatus) (es₁ es₂ : List StatusEvent)
    (hes : ∀ e ∈ es₂, e.isUpdateStatus = false) :
    (s.run x (es₁ ++ .serviceCreated :: es₂)).Shows x := by
  rw [run, List.foldl_append, List.foldl_cons]
  exact (shows_serviceCreated x _).run x hes

theorem shows_after_activation :
    (∀ e ∈ [StatusEvent.activationStateChanged 1 0 [], .activateReply 0 Error.success],
      e.isUpdateStatus = false) ∧
    ((init sampleStatusExternals).run sampleStatusExternals
      ([.updateStatus [("carrier", .string "carrier")]] ++
        .serviceCreated :: [.activationStateChanged 1 0 [], .activateReply 0 Error.success])
      ).Shows sampleStatusExternals :=
  ⟨by decide, shows_run sampleStatusExternals _ _ _ (by decide)⟩

/- `UpdateStatus` after the service is created leaves it showing the old activation state. -/
example : ¬ ((init sampleStatusExternals).run sampleStatusExternals
    [.serviceCreated, .updateStatus [("activation_state", .uint32 3)]]).Shows
      sampleStatusExternals := by
  decide

end CDMAStatus

end Shill.Cellular
