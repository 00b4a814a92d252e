import Shill.WiFiEndpoint.Parse

/-!
# How `ParseSecurity` classifies an endpoint

`ParseSecurity` reads the `KeyMgmt` string lists of the `RSN` and `WPA` dictionaries and the
`Privacy` flag of a BSS property bag. Each `KeyMgmt` string adds at most one method
(`keyManagementOf`: an `EAP` suffix gives 802.1x, else a `PSK` suffix gives PSK), and the
methods found pick the security in a fixed order.

## Results

* `mem_foldl_addKeyManagementMethod`: the loop of `ParseKeyManagementMethods` collects exactly
  the methods of the strings it reads.
* `parseSecurity_eq_classify`: on a bag whose `RSN` and `WPA` values are dictionaries with a
  string-list `KeyMgmt` (each when present) and whose `Privacy` is a boolean (when present),
  `ParseSecurity` returns 802.1x iff some `RSN` or `WPA` string ends with the EAP suffix, else
  RSN iff some `RSN` string ends with the PSK suffix, else WPA iff some `WPA` string does, else
  WEP iff `Privacy` is true, else none (`classify`).
* `parseSecurity_keyMgmt_precedence`: that classification, and so a result that depends only on
  which recognised strings each list holds and on `Privacy`: not on order, repetition,
  unrecognised strings or other keys of such a bag.
* `parseSecurity_privacy_string_throws`: a `Privacy` of another type makes `ParseSecurity`
  throw, even when an `RSN` string ends with the EAP suffix.
-/

namespace Shill.WiFiEndpoint

section Suffixes

variable (eap psk : String)

/-- The method one `KeyMgmt` string adds, if any. -/
def keyManagementOf (s : String) : Option KeyManagement :=
  if endsWith s eap then some .keyManagement8021x
  else if endsWith s psk then some .keyManagementPSK
  else none

/-- The `KeyMgmt` strings of the dictionary at `key`, empty where either is absent. -/
def keyMgmtStrings (properties : PropertyMap) (key : String) : List String :=
  match properties.lookup key with
  | some (.dict d) =>
    match d.lookup kSecurityMethodPropertyKeyManagement with
    | some (.strings l) => l
    | _ => []
  | _ => []

/-- The `Privacy` flag, `false` where it is absent. -/
def privacyOf (properties : PropertyMap) : Bool :=
  match properties.lookup kPropertyPrivacy with
  | some (.bool b) => b
  | _ => false

/-- The value at `key`, when present, is a dictionary whose `KeyMgmt` entry, when present, is a
string list. -/
def KeyMgmtTyped (properties : PropertyMap) (key : String) : Prop :=
  ∀ v, properties.lookup key = some v →
    ∃ d, v = .dict d ∧ ∀ w, d.lookup kSecurityMethodPropertyKeyManagement = some w →
      ∃ l, w = .strings l

/-- `Privacy`, when present, is a boolean. -/
def PrivacyTyped (properties : PropertyMap) : Prop :=
  ∀ v, properties.lookup kPropertyPrivacy = some v → ∃ b, v = .bool b

/-- The `RSN`, `WPA` and `Privacy` values have the types `ParseSecurity` converts them to. -/
structure SecurityTyped (properties : PropertyMap) : Prop where
  rsn : KeyMgmtTyped properties kPropertyRSN
  wpa : KeyMgmtTyped properties kPropertyWPA
  privacy : PrivacyTyped properties

/-- The classification the spec states (§6), on the two `KeyMgmt` lists and the `Privacy`
flag. -/
def classify (rsn wpa : List String) (privacy : Bool) : SecurityMode :=
  if ∃ s ∈ rsn ++ wpa, endsWith s eap then .security8021x
  else if ∃ s ∈ rsn, endsWith s psk then .securityRsn
  else if ∃ s ∈ wpa, endsWith s psk then .securityWpa
  else if privacy then .securityWep
  else .securityNone

/-! ## The loop of `ParseKeyManagementMethods` -/

theorem keyManagementOf_eq_8021x {s : String} :
    keyManagementOf eap psk s = some .keyManagement8021x ↔ endsWith s eap = true := by
  unfold keyManagementOf
  split <;> simp_all

theorem keyManagementOf_eq_psk {s : String} :
    keyManagementOf eap psk s = some .keyManagementPSK ↔
      endsWith s eap = false ∧ endsWith s psk = true := by
  unfold keyManagementOf
  split <;> simp_all

theorem mem_addKeyManagementMethod {k : KeyManagement} {methods : List KeyManagement}
    {s : String} :
    k ∈ addKeyManagementMethod eap psk methods s ↔
      k ∈ methods ∨ keyManagementOf eap psk s = some k := by
  unfold addKeyManagementMethod keyManagementOf
  split
  · simp [List.mem_insert_iff, or_comm, eq_comm]
  · split <;> simp [List.mem_insert_iff, or_comm, eq_comm]

/-- The loop collects exactly the methods of the strings it reads. -/
theorem mem_foldl_addKeyManagementMethod {k : KeyManagement} (l : List String)
    (methods : List KeyManagement) :
    k ∈ l.foldl (addKeyManagementMethod eap psk) methods ↔
      k ∈ methods ∨ ∃ s ∈ l, keyManagementOf eap psk s = some k := by
  induction l generalizing methods with
  | nil => simp
  | cons s l ih =>
    rw [List.foldl_cons, ih, mem_addKeyManagementMethod]
    simp only [List.mem_cons, exists_eq_or_imp]
    tauto

/-- On a well-typed dictionary, the block reading `key` returns the methods of its strings. -/
theorem keyManagementMethodsAt_spec {properties : PropertyMap} {key : String}
    (h : KeyMgmtTyped properties key) :
    ∃ methods, keyManagementMethodsAt eap psk properties key = .ok methods ∧
      ∀ k, k ∈ methods ↔
        ∃ s ∈ keyMgmtStrings properties key, keyManagementOf eap psk s = some k := by
  unfold keyManagementMethodsAt keyMgmtStrings
  cases hv : properties.lookup key with
  | none => exact ⟨[], by simp [PropertyMap.containsKey, hv], by simp⟩
  | some v =>
    obtain ⟨d, rfl, hd⟩ := h v hv
    simp only [PropertyMap.containsKey, hv, PropertyMap.deref_of_lookup hv, Option.isSome_some,
      if_true, except_ok_bind, Variant.toDict, parseKeyManagementMethods]
    rcases (d.lookup kSecurityMethodPropertyKeyManagement).eq_none_or_eq_some with hw | ⟨w, hw⟩
    · exact ⟨[], by simp [hw], by simp [hw]⟩
    · obtain ⟨l, rfl⟩ := hd w hw
      exact ⟨l.foldl (addKeyManagementMethod eap psk) [],
        by simp [hw, PropertyMap.deref_of_lookup hw, Variant.toStrings],
        fun k => by simp [hw, mem_foldl_addKeyManagementMethod]⟩

/-- On a well-typed bag, the `Privacy` block returns `privacyOf`. -/
theorem readWepPrivacy_spec {properties : PropertyMap} (h : PrivacyTyped properties) :
    readWepPrivacy properties = .ok (privacyOf properties) := by
  unfold readWepPrivacy privacyOf
  cases hv : properties.lookup kPropertyPrivacy with
  | none => simp [PropertyMap.containsKey, hv]
  | some v =>
    obtain ⟨b, rfl⟩ := h v hv
    simp [PropertyMap.containsKey, hv, PropertyMap.deref_of_lookup hv, Variant.toBool]

/-! ## The classification -/

theorem contains_iff_mem {k : KeyManagement} {methods : List KeyManagement} :
    methods.contains k = true ↔ k ∈ methods := by
  simp

/-- **`ParseSecurity` classifies as the spec says**, on a bag whose `RSN` and `WPA` values are
dictionaries with a string-list `KeyMgmt` and whose `Privacy` is a boolean (each when present). -/
theorem parseSecurity_eq_classify {properties : PropertyMap} (h : SecurityTyped properties) :
    parseSecurity eap psk properties =
      .ok (classify eap psk (keyMgmtStrings properties kPropertyRSN)
        (keyMgmtStrings properties kPropertyWPA) (privacyOf properties)) := by
  obtain ⟨R, hR, hRmem⟩ := keyManagementMethodsAt_spec eap psk h.rsn
  obtain ⟨W, hW, hWmem⟩ := keyManagementMethodsAt_spec eap psk h.wpa
  unfold parseSecurity
  simp only [hR, hW, except_ok_bind, readWepPrivacy_spec h.privacy, except_pure]
  congr 1
  have h8021x : ∀ l : List String,
      (∃ s ∈ l, keyManagementOf eap psk s = some .keyManagement8021x) ↔
      ∃ s ∈ l, endsWith s eap = true := fun l => by simp only [keyManagementOf_eq_8021x]
  have hpsk : ∀ l : List String, ¬ (∃ s ∈ l, endsWith s eap = true) →
      ((∃ s ∈ l, keyManagementOf eap psk s = some .keyManagementPSK) ↔
        ∃ s ∈ l, endsWith s psk = true) := fun l hl => by
    simp only [keyManagementOf_eq_psk]
    exact ⟨fun ⟨s, hs, _, h⟩ => ⟨s, hs, h⟩,
      fun ⟨s, hs, h⟩ => ⟨s, hs, by simpa using fun he => hl ⟨s, hs, he⟩, h⟩⟩
  have h1 : (R.contains .keyManagement8021x || W.contains .keyManagement8021x) = true ↔
      ∃ s ∈ keyMgmtStrings properties kPropertyRSN ++ keyMgmtStrings properties kPropertyWPA,
        endsWith s eap = true := by
    rw [Bool.or_eq_true, contains_iff_mem, contains_iff_mem, hRmem, hWmem, h8021x, h8021x]
    simp only [List.mem_append, or_and_right, exists_or]
  unfold classify
  by_cases heap : ∃ s ∈ keyMgmtStrings properties kPropertyRSN ++
      keyMgmtStrings properties kPropertyWPA, endsWith s eap = true
  · rw [if_pos (h1.mpr heap), if_pos heap]
  · have hr : ¬ ∃ s ∈ keyMgmtStrings properties kPropertyRSN, endsWith s eap = true :=
      fun ⟨s, hs, he⟩ => heap ⟨s, List.mem_append_left _ hs, he⟩
    have hw : ¬ ∃ s ∈ keyMgmtStrings properties kPropertyWPA, endsWith s eap = true :=
      fun ⟨s, hs, he⟩ => heap ⟨s, List.mem_append_right _ hs, he⟩
    simp only [if_neg (mt h1.mp heap), if_neg heap, contains_iff_mem, hRmem, hWmem, hpsk _ hr,
      hpsk _ hw]

/-- The recognised strings (those with either suffix) of two lists are the same. -/
def SameRecognised (l l' : List String) : Prop :=
  ∀ s, endsWith s eap = true ∨ endsWith s psk = true → (s ∈ l ↔ s ∈ l')

theorem exists_mem_iff_of_sameRecognised {l l' : List String} (h : SameRecognised eap psk l l')
    {suffix : String} (hs : suffix = eap ∨ suffix = psk) :
    (∃ s ∈ l, endsWith s suffix = true) ↔ ∃ s ∈ l', endsWith s suffix = true := by
  have key : ∀ s, endsWith s suffix = true → (s ∈ l ↔ s ∈ l') := fun s he =>
    h s (by rcases hs with rfl | rfl <;> simp [he])
  exact ⟨fun ⟨s, hs, he⟩ => ⟨s, (key s he).mp hs, he⟩,
    fun ⟨s, hs, he⟩ => ⟨s, (key s he).mpr hs, he⟩⟩

/-- `classify` reads only which recognised strings each list holds. -/
theorem classify_congr {rsn wpa rsn' wpa' : List String} (privacy : Bool)
    (hrsn : SameRecognised eap psk rsn rsn') (hwpa : SameRecognised eap psk wpa wpa') :
    classify eap psk rsn wpa privacy = classify eap psk rsn' wpa' privacy := by
  have happ : SameRecognised eap psk (rsn ++ wpa) (rsn' ++ wpa') := fun s hs => by
    simp only [List.mem_append, hrsn s hs, hwpa s hs]
  unfold classify
  simp only [exists_mem_iff_of_sameRecognised eap psk happ (.inl rfl),
    exists_mem_iff_of_sameRecognised eap psk hrsn (.inr rfl),
    exists_mem_iff_of_sameRecognised eap psk hwpa (.inr rfl)]

/-- **The key-management precedence of `ParseSecurity`.** On a bag whose `RSN` and `WPA` values
are dictionaries with a string-list `KeyMgmt` and whose `Privacy` is a boolean (each when
present), `ParseSecurity` returns the spec's classification; hence any other such bag whose
lists hold the same recognised strings and whose `Privacy` agrees gets the same result. -/
theorem parseSecurity_keyMgmt_precedence {properties : PropertyMap}
    (h : SecurityTyped properties) :
    parseSecurity eap psk properties =
      .ok (classify eap psk (keyMgmtStrings properties kPropertyRSN)
        (keyMgmtStrings properties kPropertyWPA) (privacyOf properties)) ∧
    ∀ properties', SecurityTyped properties' →
      SameRecognised eap psk (keyMgmtStrings properties kPropertyRSN)
        (keyMgmtStrings properties' kPropertyRSN) →
      SameRecognised eap psk (keyMgmtStrings properties kPropertyWPA)
        (keyMgmtStrings properties' kPropertyWPA) →
      privacyOf properties' = privacyOf properties →
      parseSecurity eap psk properties' = parseSecurity eap psk properties := by
  refine ⟨parseSecurity_eq_classify eap psk h, fun properties' h' hrsn hwpa hprivacy => ?_⟩
  rw [parseSecurity_eq_classify eap psk h, parseSecurity_eq_classify eap psk h', hprivacy,
    classify_congr eap psk _ hrsn hwpa]

end Suffixes

/-- An `RSN` PSK method, a `WPA` EAP method and `Privacy` set. -/
def rsnPskWpaEap : PropertyMap :=
  [(kPropertyRSN, .dict [(kSecurityMethodPropertyKeyManagement, .strings ["wpa-psk"])]),
   (kPropertyWPA, .dict [(kSecurityMethodPropertyKeyManagement, .strings ["x", "wpa-eap"])]),
   (kPropertyPrivacy, .bool true)]

/-- The `WPA` EAP string wins over the `RSN` PSK string and `Privacy`. -/
theorem parseSecurity_rsnPskWpaEap :
    SecurityTyped rsnPskWpaEap ∧ parseSecurity "-eap" "-psk" rsnPskWpaEap = .ok .security8021x :=
  have h : SecurityTyped rsnPskWpaEap :=
    ⟨fun v hv => by cases hv; exact ⟨_, rfl, fun w hw => by cases hw; exact ⟨_, rfl⟩⟩,
     fun v hv => by cases hv; exact ⟨_, rfl, fun w hw => by cases hw; exact ⟨_, rfl⟩⟩,
     fun v hv => by cases hv; exact ⟨_, rfl⟩⟩
  ⟨h, (parseSecurity_keyMgmt_precedence "-eap" "-psk" h).1.trans rfl⟩

/-- An `RSN` dictionary with one `KeyMgmt` string, and a `Privacy` that is a string. -/
def rsnEapWithStringPrivacy : PropertyMap :=
  [(kPropertyRSN, .dict [(kSecurityMethodPropertyKeyManagement, .strings ["wpa-eap"])]),
   (kPropertyPrivacy, .string "on")]

/-- The `RSN` and `WPA` values of `rsnEapWithStringPrivacy` are typed as `ParseSecurity` reads
them and its `RSN` string ends with the EAP suffix, yet `ParseSecurity` does not return 802.1x:
it throws on the `Privacy` string. -/
theorem parseSecurity_privacy_string_throws :
    KeyMgmtTyped rsnEapWithStringPrivacy kPropertyRSN ∧
    KeyMgmtTyped rsnEapWithStringPrivacy kPropertyWPA ∧
    (∃ s ∈ keyMgmtStrings rsnEapWithStringPrivacy kPropertyRSN, endsWith s "-eap" = true) ∧
    parseSecurity "-eap" "-psk" rsnEapWithStringPrivacy = .error (.wrongType kPropertyPrivacy) := by
  refine ⟨fun v hv => ?_, fun v hv => ?_, ⟨"wpa-eap", by decide, rfl⟩, rfl⟩
  · cases hv
    exact ⟨_, rfl, fun w hw => by cases hw; exact ⟨_, rfl⟩⟩
  · cases hv

end Shill.WiFiEndpoint
