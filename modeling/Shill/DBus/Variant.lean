import Mathlib.Data.List.Basic

/-!
# D-Bus property bags, read without checks

A signal from the supplicant carries its properties as a `std::map<std::string, DBus::Variant>`.
`WiFiEndpoint` reads such a bag the unchecked way: `properties.find(key)->second` followed by a
conversion operator of `DBus::Variant` (`operator std::vector<uint8_t>()`,
`reader().get_int16()`, ...). Both steps can go wrong, and this module says how:

* `find` of an absent key returns `end()`, and `->second` dereferences it (`Fault.missingKey`);
* a conversion of a value of another D-Bus type throws a type-mismatch error out of the
  constructor (`Fault.wrongType`).

A `Variant` is modelled by the value it holds, for the D-Bus types the modelled code converts
to (`b`, `n`, `s`, `ay`, `as`, `a{sv}`); every other type is `other`, named by its signature.
A bag is the list of its entries; `std::map` holds one entry a key, which `List.lookup` finds.

dbus-c++ is not in this snapshot. The model takes each conversion to check the value's whole
signature: `operator std::vector<std::string>()` converts an `as` and nothing else, and
`operator std::map<std::string, DBus::Variant>()` an `a{sv}` and nothing else, empty ones
included. If the library's container extraction checks only that the value is an array or a
dictionary, an empty array or dictionary of another element type converts without error where
the model reports `Fault.wrongType`; every other result of the model is unchanged.
-/

namespace Shill

/-- A `DBus::Variant`, by the D-Bus type of the value it holds. -/
inductive Variant
  /-- `b`. -/
  | bool (b : Bool)
  /-- `n`, a signed 16-bit integer. -/
  | int16 (n : BitVec 16)
  /-- `s`. -/
  | string (s : String)
  /-- `ay`. -/
  | bytes (v : List UInt8)
  /-- `as`. -/
  | strings (v : List String)
  /-- `a{sv}`: a nested property bag. -/
  | dict (d : List (String × Variant))
  /-- A value of any other D-Bus type. -/
  | other (signature : String)
  deriving Repr

/-- A `std::map<std::string, DBus::Variant>`. -/
abbrev PropertyMap := List (String × Variant)

/-- What goes wrong when a bag is read without checks. -/
inductive Fault
  /-- `properties.find(key)->second` on an absent key dereferences `end()`. -/
  | missingKey (key : String)
  /-- A `DBus::Variant` conversion of the value at `key`, which has another D-Bus type. -/
  | wrongType (key : String)
  /-- A read past the end of the byte vector named (`bssid_[i]`, `*ssid_.begin()`). -/
  | outOfRange (field : String)
  /-- `network_mode_` assigned the `NULL` that `ParseMode` returns. -/
  | nullMode
  deriving DecidableEq, Repr

/-! ## Reading a bag in `Except` -/

section Except

variable {ε α β : Type}

@[simp] theorem except_pure (a : α) : (pure a : Except ε α) = .ok a := rfl

@[simp] theorem except_throw (e : ε) : (throw e : Except ε α) = .error e := rfl

@[simp] theorem except_ok_bind (a : α) (f : α → Except ε β) : (Except.ok a >>= f) = f a := rfl

@[simp] theorem except_error_bind (e : ε) (f : α → Except ε β) :
    (Except.error e >>= f) = .error e := rfl

/-- A bind succeeds exactly when both steps do. -/
theorem except_bind_eq_ok {x : Except ε α} {f : α → Except ε β} {b : β} :
    x >>= f = .ok b ↔ ∃ a, x = .ok a ∧ f a = .ok b := by
  cases x <;> simp

end Except

namespace PropertyMap

/-- `properties.find(key)->second`. -/
def deref (props : PropertyMap) (key : String) : Except Fault Variant :=
  match props.lookup key with
  | some v => .ok v
  | none => .error (.missingKey key)

/-- `ContainsKey(properties, key)`. -/
def containsKey (props : PropertyMap) (key : String) : Bool := (props.lookup key).isSome

@[simp] theorem deref_eq_ok {props : PropertyMap} {key : String} {v : Variant} :
    props.deref key = .ok v ↔ props.lookup key = some v := by
  unfold deref
  cases props.lookup key <;> simp

theorem deref_of_lookup {props : PropertyMap} {key : String} {v : Variant}
    (h : props.lookup key = some v) : props.deref key = .ok v :=
  deref_eq_ok.mpr h

end PropertyMap

namespace Variant

/-- `operator std::vector<uint8_t>()` of the value at `key`. -/
def toBytes (key : String) : Variant → Except Fault (List UInt8)
  | .bytes v => .ok v
  | _ => .error (.wrongType key)

/-- `reader().get_int16()`. -/
def toInt16 (key : String) : Variant → Except Fault (BitVec 16)
  | .int16 n => .ok n
  | _ => .error (.wrongType key)

/-- `operator std::string()`. -/
def toString (key : String) : Variant → Except Fault String
  | .string s => .ok s
  | _ => .error (.wrongType key)

/-- `operator std::vector<std::string>()`. -/
def toStrings (key : String) : Variant → Except Fault (List String)
  | .strings v => .ok v
  | _ => .error (.wrongType key)

/-- `operator std::map<std::string, DBus::Variant>()`. -/
def toDict (key : String) : Variant → Except Fault PropertyMap
  | .dict d => .ok d
  | _ => .error (.wrongType key)

/-- `reader().get_bool()`. -/
def toBool (key : String) : Variant → Except Fault Bool
  | .bool b => .ok b
  | _ => .error (.wrongType key)

/-! A conversion succeeds exactly on a value of its type. -/

@[simp] theorem toBytes_eq_ok {key : String} {v : Variant} {l : List UInt8} :
    v.toBytes key = .ok l ↔ v = .bytes l := by
  cases v <;> simp [toBytes]

@[simp] theorem toInt16_eq_ok {key : String} {v : Variant} {n : BitVec 16} :
    v.toInt16 key = .ok n ↔ v = .int16 n := by
  cases v <;> simp [toInt16]

@[simp] theorem toString_eq_ok {key : String} {v : Variant} {s : String} :
    v.toString key = .ok s ↔ v = .string s := by
  cases v <;> simp [toString]

@[simp] theorem toStrings_eq_ok {key : String} {v : Variant} {l : List String} :
    v.toStrings key = .ok l ↔ v = .strings l := by
  cases v <;> simp [toStrings]

@[simp] theorem toDict_eq_ok {key : String} {v : Variant} {d : PropertyMap} :
    v.toDict key = .ok d ↔ v = .dict d := by
  cases v <;> simp [toDict]

@[simp] theorem toBool_eq_ok {key : String} {v : Variant} {b : Bool} :
    v.toBool key = .ok b ↔ v = .bool b := by
  cases v <;> simp [toBool]

end Variant

end Shill
