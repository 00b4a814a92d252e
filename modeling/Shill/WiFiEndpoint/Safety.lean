import Shill.WiFiEndpoint.Security

/-!
# Which bags the constructor survives

`WiFiEndpoint(properties)` has no way to report a malformed bag: it reads each key it needs
with `find(key)->second`, converts without a type check, indexes `bssid_[0..5]` and
dereferences `ssid_.begin()`, and stores whatever `ParseMode` returns. `make` returns the first
`Fault` those statements hit.

## Results

* `WellFormed`: the four required keys present with the types the constructor converts them to,
  a non-empty SSID, a BSSID of at least six bytes, an infrastructure or ad-hoc mode, and the
  `RSN`, `WPA` and `Privacy` values typed as `ParseSecurity` reads them (`SecurityTyped`).
* `make_ok_iff`: the constructor runs through **exactly** on the well-formed bags; on every other
  bag it faults (an `end()` dereference, a wrong-type conversion, a read past a vector's end, or
  `network_mode_ = NULL`).
* `make_empty_faults`: the empty bag is such a bag: the first read dereferences `find("SSID")`.
-/

namespace Shill.WiFiEndpoint

/-- What the constructor needs of a bag to run through. -/
structure WellFormed (properties : PropertyMap) : Prop where
  ssid : ∃ v, properties.lookup kBSSPropertySSID = some (.bytes v) ∧ v ≠ []
  bssid : ∃ v, properties.lookup kBSSPropertyBSSID = some (.bytes v) ∧ 6 ≤ v.length
  signal : ∃ n, properties.lookup kBSSPropertySignal = some (.int16 n)
  mode : ∃ m, properties.lookup kBSSPropertyMode = some (.string m) ∧ (parseMode m).isSome
  security : SecurityTyped properties

theorem formatBssid_isSome {v : List UInt8} : (formatBssid v).isSome ↔ 6 ≤ v.length := by
  match v with
  | _ :: _ :: _ :: _ :: _ :: _ :: _ => simp [formatBssid]
  | [] | [_] | [_, _] | [_, _, _] | [_, _, _, _] | [_, _, _, _, _] => simp [formatBssid]

section Suffixes

variable {eap psk : String}

theorem keyMgmtTyped_of_ok {properties : PropertyMap} {key : String} {methods : List KeyManagement}
    (h : keyManagementMethodsAt eap psk properties key = .ok methods) :
    KeyMgmtTyped properties key := by
  intro v hv
  simp only [keyManagementMethodsAt, PropertyMap.containsKey, hv, Option.isSome_some, if_true,
    PropertyMap.deref_of_lookup hv, except_ok_bind, except_bind_eq_ok, Variant.toDict_eq_ok] at h
  obtain ⟨d, rfl, h⟩ := h
  refine ⟨d, rfl, fun w hw => ?_⟩
  simp only [parseKeyManagementMethods, PropertyMap.containsKey, hw, Option.isSome_some,
    Bool.not_true, Bool.false_eq_true, ite_false, PropertyMap.deref_of_lookup hw, except_ok_bind,
    except_bind_eq_ok,
    Variant.toStrings_eq_ok] at h
  obtain ⟨l, rfl, -⟩ := h
  exact ⟨l, rfl⟩

theorem privacyTyped_of_ok {properties : PropertyMap} {b : Bool}
    (h : readWepPrivacy properties = .ok b) : PrivacyTyped properties := by
  intro v hv
  simp only [readWepPrivacy, PropertyMap.containsKey, hv, Option.isSome_some, if_true,
    PropertyMap.deref_of_lookup hv, except_ok_bind, Variant.toBool_eq_ok] at h
  exact ⟨b, h⟩

/-- `ParseSecurity` returns only on bags typed as it reads them. -/
theorem securityTyped_of_ok {properties : PropertyMap} {sec : SecurityMode}
    (h : parseSecurity eap psk properties = .ok sec) : SecurityTyped properties := by
  simp only [parseSecurity, except_bind_eq_ok] at h
  obtain ⟨R, hR, W, hW, b, hb, -⟩ := h
  exact ⟨keyMgmtTyped_of_ok hR, keyMgmtTyped_of_ok hW, privacyTyped_of_ok hb⟩

/-- A bag the constructor runs through is well-formed. -/
theorem wellFormed_of_make_ok {properties : PropertyMap} {e : WiFiEndpoint}
    (h : make eap psk properties = .ok e) : WellFormed properties := by
  simp only [make, except_bind_eq_ok, PropertyMap.deref_eq_ok, Variant.toBytes_eq_ok,
    Variant.toInt16_eq_ok, Variant.toString_eq_ok] at h
  obtain ⟨_, h₁, ssid, rfl, _, h₂, bssid, rfl, _, h₃, n, rfl, _, h₄, m, rfl, h⟩ := h
  split at h
  case h_2 => simp at h
  case h_1 nm hnm =>
    obtain ⟨sec, hsec, h⟩ := except_bind_eq_ok.mp h
    split at h
    case isTrue => simp at h
    case isFalse hempty =>
      split at h
      case h_2 => simp at h
      case h_1 s hs =>
        exact ⟨⟨ssid, h₁, by simpa using hempty⟩,
          ⟨bssid, h₂, formatBssid_isSome.mp (by simp [hs])⟩, ⟨n, h₃⟩, ⟨m, h₄, by simp [hnm]⟩,
          securityTyped_of_ok hsec⟩

/-- A well-formed bag is parsed to an endpoint. -/
theorem make_ok_of_wellFormed {properties : PropertyMap} (hw : WellFormed properties) :
    ∃ e, make eap psk properties = .ok e := by
  obtain ⟨⟨ssid, h₁, hssid⟩, ⟨bssid, h₂, hbssid⟩, ⟨n, h₃⟩, ⟨m, h₄, hm⟩, hsec⟩ := hw
  obtain ⟨nm, hnm⟩ := Option.isSome_iff_exists.mp hm
  obtain ⟨s, hs⟩ := Option.isSome_iff_exists.mp (formatBssid_isSome.mpr hbssid)
  simp [make, PropertyMap.deref_of_lookup h₁, PropertyMap.deref_of_lookup h₂,
    PropertyMap.deref_of_lookup h₃, PropertyMap.deref_of_lookup h₄, Variant.toBytes,
    Variant.toInt16, Variant.toString, hnm, parseSecurity_eq_classify eap psk hsec, hssid, hs]

/-- **The constructor survives exactly the well-formed bags**: on every other bag it faults. -/
theorem make_ok_iff (properties : PropertyMap) :
    (∃ e, make eap psk properties = .ok e) ↔ WellFormed properties :=
  ⟨fun ⟨_, h⟩ => wellFormed_of_make_ok h, make_ok_of_wellFormed⟩

/-- The empty bag: the constructor's first statement dereferences `find("SSID")`, `end()`. -/
theorem make_empty_faults : make eap psk [] = .error (.missingKey kBSSPropertySSID) := rfl

end Suffixes

end Shill.WiFiEndpoint
