import Shill.DBus.Variant

/-!
# `WiFiEndpoint`: a BSS property bag, parsed

Model of `wifi_endpoint.cc`: the constructor `WiFiEndpoint(properties)`, `ParseMode`,
`ParseSecurity` and `ParseKeyManagementMethods`. The constructor reads the bag of a `BSSAdded`
signal without checks (`// XXX will segfault on missing properties`,
`// TODO(quiche): check type before casting`); it is modelled as `make`, which returns the
endpoint or the first `Fault` the C++ would hit, in the order the statements run.

* The property and mode names are `wpa_supplicant.cc` constants, which are not part of this
  snapshot; they are modelled from the spec's wire contract (§6). The two key-management
  suffixes (`kKeyManagementMethodSuffixEAP`, `kKeyManagementMethodSuffixPSK`) are parameters,
  `eap` and `psk`: the spec writes them only as "...EAP" and "...PSK".
* The `flimflam::` strings the parser returns are constructors (`SecurityMode`, `NetworkMode`):
  the code only returns them, never inspects them. `ParseMode` returns `NULL` for an
  access-point mode as for an unknown one (`none`).
* A `std::set<KeyManagement>` is a `List` built with `List.insert`; `ContainsKey` is membership.
* `ssid_string_` (the SSID's bytes as a `std::string`) is not modelled: no modelled function
  reads it, and building it cannot fault.
-/

namespace Shill

/-! ## The wire names -/

/-- Modelled from the spec: `wpa_supplicant::kBSSPropertySSID`, the key `SSID` (§6). -/
def kBSSPropertySSID : String := "SSID"

/-- Modelled from the spec: `wpa_supplicant::kBSSPropertyBSSID`, the key `BSSID` (§6). -/
def kBSSPropertyBSSID : String := "BSSID"

/-- Modelled from the spec: `wpa_supplicant::kBSSPropertySignal`, the key `Signal` (§6). -/
def kBSSPropertySignal : String := "Signal"

/-- Modelled from the spec: `wpa_supplicant::kBSSPropertyMode`, the key `Mode` (§6). -/
def kBSSPropertyMode : String := "Mode"

/-- Modelled from the spec: `wpa_supplicant::kPropertyRSN`, the key `RSN` (§6). -/
def kPropertyRSN : String := "RSN"

/-- Modelled from the spec: `wpa_supplicant::kPropertyWPA`, the key `WPA` (§6). -/
def kPropertyWPA : String := "WPA"

/-- Modelled from the spec: `wpa_supplicant::kPropertyPrivacy`, the key `Privacy` (§6). -/
def kPropertyPrivacy : String := "Privacy"

/-- Modelled from the spec: `wpa_supplicant::kSecurityMethodPropertyKeyManagement`, the key
`KeyMgmt` of an `RSN` or `WPA` dictionary (§6). -/
def kSecurityMethodPropertyKeyManagement : String := "KeyMgmt"

/-- Modelled from the spec: `wpa_supplicant::kNetworkModeInfrastructure`, the mode
`infrastructure` (§6). -/
def kNetworkModeInfrastructure : String := "infrastructure"

/-- Modelled from the spec: `wpa_supplicant::kNetworkModeAdHoc`, the mode `ad-hoc` (§6). -/
def kNetworkModeAdHoc : String := "ad-hoc"

/-! ## The parsed values -/

/-- The `flimflam::kMode*` string an endpoint's mode is parsed to. -/
inductive NetworkMode
  /-- `flimflam::kModeManaged`. -/
  | modeManaged
  /-- `flimflam::kModeAdhoc`. -/
  | modeAdhoc
  deriving DecidableEq, Repr

/-- The `flimflam::kSecurity*` string an endpoint's security is parsed to. -/
inductive SecurityMode
  /-- `flimflam::kSecurity8021x`. -/
  | security8021x
  /-- `flimflam::kSecurityRsn`. -/
  | securityRsn
  /-- `flimflam::kSecurityWpa`. -/
  | securityWpa
  /-- `flimflam::kSecurityWep`. -/
  | securityWep
  /-- `flimflam::kSecurityNone`. -/
  | securityNone
  deriving DecidableEq, Repr

/-- `WiFiEndpoint::KeyManagement`. -/
inductive KeyManagement
  /-- `kKeyManagement802_1x`. -/
  | keyManagement8021x
  /-- `kKeyManagementPSK`. -/
  | keyManagementPSK
  deriving DecidableEq, Repr

/-- A `WiFiEndpoint` as its constructor leaves it. -/
structure WiFiEndpoint where
  ssid : List UInt8
  bssid : List UInt8
  signalStrength : BitVec 16
  networkMode : NetworkMode
  securityMode : SecurityMode
  ssidHex : String
  bssidString : String
  bssidHex : String
  deriving DecidableEq, Repr

namespace WiFiEndpoint

/-! ## The parsers -/

/-- `ParseMode(mode_string)`; `none` is the `NULL` it returns for an access-point or unknown
mode. -/
def parseMode (modeString : String) : Option NetworkMode :=
  if modeString = kNetworkModeInfrastructure then some .modeManaged
  else if modeString = kNetworkModeAdHoc then some .modeAdhoc
  else none

/-- `EndsWith(str, search, true)`: `search` is a suffix of `str`, compared case-sensitively. -/
def endsWith (str search : String) : Bool := search.data.isSuffixOf str.data

section Suffixes

variable (eap psk : String)

/-- One round of the loop of `ParseKeyManagementMethods`: an `EAP` suffix adds 802.1x, else a
`PSK` suffix adds PSK (`EndsWith(..., true)`: case-sensitive). -/
def addKeyManagementMethod (methods : List KeyManagement) (keyManagement : String) :
    List KeyManagement :=
  if endsWith keyManagement eap then methods.insert .keyManagement8021x
  else if endsWith keyManagement psk then methods.insert .keyManagementPSK
  else methods

/-- `ParseKeyManagementMethods(security_method_properties, key_management_methods)`. -/
def parseKeyManagementMethods (securityMethodProperties : PropertyMap)
    (keyManagementMethods : List KeyManagement) : Except Fault (List KeyManagement) :=
  if !securityMethodProperties.containsKey kSecurityMethodPropertyKeyManagement then
    pure keyManagementMethods
  else do
    let keyManagementVec ← (← securityMethodProperties.deref
      kSecurityMethodPropertyKeyManagement).toStrings kSecurityMethodPropertyKeyManagement
    pure (keyManagementVec.foldl (addKeyManagementMethod eap psk) keyManagementMethods)

/-- The block of `ParseSecurity` that reads the `RSN` (or `WPA`) dictionary: its key-management
methods, none when the key is absent. -/
def keyManagementMethodsAt (properties : PropertyMap) (key : String) :
    Except Fault (List KeyManagement) :=
  if properties.containsKey key then do
    let securityProperties ← (← properties.deref key).toDict key
    parseKeyManagementMethods eap psk securityProperties []
  else pure []

/-- The block of `ParseSecurity` that reads `Privacy`: `false` when the key is absent. -/
def readWepPrivacy (properties : PropertyMap) : Except Fault Bool :=
  if properties.containsKey kPropertyPrivacy then do
    (← properties.deref kPropertyPrivacy).toBool kPropertyPrivacy
  else pure false

/-- `ParseSecurity(properties)`. -/
def parseSecurity (properties : PropertyMap) : Except Fault SecurityMode := do
  let rsnKeyManagementMethods ← keyManagementMethodsAt eap psk properties kPropertyRSN
  let wpaKeyManagementMethods ← keyManagementMethodsAt eap psk properties kPropertyWPA
  let wepPrivacy ← readWepPrivacy properties
  pure <|
    if rsnKeyManagementMethods.contains .keyManagement8021x ||
        wpaKeyManagementMethods.contains .keyManagement8021x then .security8021x
    else if rsnKeyManagementMethods.contains .keyManagementPSK then .securityRsn
    else if wpaKeyManagementMethods.contains .keyManagementPSK then .securityWpa
    else if wepPrivacy then .securityWep
    else .securityNone

/-! ## The constructor -/

/-- A hex digit of `n < 16`: upper case for `base::HexEncode`, lower case for `%02x`. -/
def hexDigit (upper : Bool) (n : Nat) : Char :=
  if n < 10 then Char.ofNat (48 + n) else Char.ofNat ((if upper then 55 else 87) + n)

/-- Two hex digits of a byte. -/
def hexByte (upper : Bool) (b : UInt8) : List Char :=
  [hexDigit upper (b.toNat / 16), hexDigit upper (b.toNat % 16)]

/-- `base::HexEncode(&(*v.begin()), v.size())`: two upper-case hex digits a byte. -/
def hexEncode (v : List UInt8) : String := ⟨v.flatMap (hexByte true)⟩

/-- `StringPrintf("%02x:%02x:%02x:%02x:%02x:%02x", bssid_[0], ..., bssid_[5])`: `none` where
`bssid_` has fewer than six bytes, so that `bssid_[i]` reads past its end. -/
def formatBssid : List UInt8 → Option String
  | b0 :: b1 :: b2 :: b3 :: b4 :: b5 :: _ =>
    some (":".intercalate ([b0, b1, b2, b3, b4, b5].map fun b => ⟨hexByte false b⟩))
  | _ => none

/-- `WiFiEndpoint(properties)`: the endpoint, or the first fault, in statement order. -/
def make (properties : PropertyMap) : Except Fault WiFiEndpoint := do
  let ssid ← (← properties.deref kBSSPropertySSID).toBytes kBSSPropertySSID
  let bssid ← (← properties.deref kBSSPropertyBSSID).toBytes kBSSPropertyBSSID
  let signalStrength ← (← properties.deref kBSSPropertySignal).toInt16 kBSSPropertySignal
  let modeString ← (← properties.deref kBSSPropertyMode).toString kBSSPropertyMode
  let some networkMode := parseMode modeString | throw .nullMode
  let securityMode ← parseSecurity eap psk properties
  if ssid.isEmpty then throw (.outOfRange "ssid_")
  let some bssidString := formatBssid bssid | throw (.outOfRange "bssid_")
  pure { ssid, bssid, signalStrength, networkMode, securityMode, ssidHex := hexEncode ssid,
         bssidString, bssidHex := hexEncode bssid }

end Suffixes

end WiFiEndpoint

end Shill
