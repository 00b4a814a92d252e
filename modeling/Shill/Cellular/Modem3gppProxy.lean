import Mathlib.Data.List.Nodup
import Shill.Basic

/-!
# The 3GPP modem proxy: `Register`, `Scan` and their replies

Model of `mm1::ModemModem3gppProxy` (`mm1_modem_modem3gpp_proxy.cc`). `Register(operator_id,
error, callback, timeout)` and `Scan(error, callback, timeout)` copy their callback to the heap
(`scoped_ptr<...> cb(new ...(callback))`) and call the D-Bus proxy with it as the call's data:

* The proxy call returns: `cb.release()` hands the callback over to the D-Bus library, which
  later delivers the reply to `Proxy::RegisterCallback` or `Proxy::ScanCallback`. Those take the
  callback back in a `scoped_ptr`, run it with `CellularError::FromMM1DBusError(dberror)`, and
  free it.
* The proxy call throws a `DBus::Error`: the `scoped_ptr` frees the callback unrun, and `error`
  is filled with `FromMM1DBusError` of it when the caller gave one.

`CellularError::FromMM1DBusError` is not in this snapshot and is a parameter. A callback is
modelled by the call that allocated it, a number given out in order. The D-Bus library is the
environment: it delivers a reply only for a callback handed over to it, to the handler of that
callback's method; `step` refuses any other reply, which would run freed or mistyped memory.
The operator id and the timeouts go to the D-Bus proxy only and are left out.

## Results

* `callbacks_answered_at_most_once`: in every run, no callback awaits two replies, no caller is
  told twice, and no callback awaiting its reply has been answered.
* `reply_answers_once`: the reply to a callback that awaits it tells the caller exactly once.
* `throwing_call_without_error_never_answered`: a call whose proxy call throws while its `error`
  is null is never answered: its callback is freed unrun, and no later event answers it.
-/

namespace Shill.Mm1

/-- The two methods of `org.freedesktop.ModemManager1.Modem.Modem3gpp` the proxy calls. -/
inductive Method
  | register
  | scan
  deriving DecidableEq, Repr

/-- A callback copied to the heap, by the call that allocated it: a number given out in order. -/
abbrev Callback := Nat

/-- What a caller of the proxy was told. -/
inductive Response (σ : Type)
  /-- The `error` out-parameter of the call was filled. -/
  | error (e : Error)
  /-- The `ResultCallback` of `Register` was run. -/
  | registered (e : Error)
  /-- The `DBusPropertyMapsCallback` of `Scan` was run with the scan results. -/
  | scanned (results : List σ) (e : Error)
  deriving DecidableEq, Repr

/-- A `ModemModem3gppProxy`, with the callbacks handed over to the D-Bus library, each with the
method whose reply it awaits, and the answers given so far. -/
structure ModemModem3gppProxy (σ : Type) where
  handedOver : List (Callback × Method)
  responses : List (Callback × Response σ)
  nextCallback : Callback
  deriving DecidableEq, Repr

/-- What can happen to the proxy: a caller's call, or the D-Bus library delivering a reply. -/
inductive Event (ε σ : Type)
  /-- `Register`; `sent` is `none` when the proxy call returns and `some e` when it throws `e`,
  and `hasError` says whether `error` is not null. -/
  | register (sent : Option ε) (hasError : Bool)
  /-- `Scan`, as `register`. -/
  | scan (sent : Option ε) (hasError : Bool)
  /-- The reply to the `Register` call of callback `data`. -/
  | registerReply (dberror : ε) (data : Callback)
  /-- The reply to the `Scan` call of callback `data`, with its results. -/
  | scanReply (results : List σ) (dberror : ε) (data : Callback)
  deriving DecidableEq, Repr

namespace ModemModem3gppProxy

variable {ε σ : Type} (fromMM1DBusError : ε → Error)

/-- A freshly constructed proxy. -/
def init : ModemModem3gppProxy σ := ⟨[], [], 0⟩

/-- The body `Register` and `Scan` share: copy the callback to the heap, call the D-Bus proxy,
and hand the callback over if the call returns; otherwise free it and fill `error`, if any. -/
def call (p : ModemModem3gppProxy σ) (method : Method) (sent : Option ε) (hasError : Bool) :
    ModemModem3gppProxy σ :=
  let cb := p.nextCallback
  let p := { p with nextCallback := cb + 1 }
  match sent with
  | none => { p with handedOver := p.handedOver ++ [(cb, method)] }
  | some e =>
    if hasError then { p with responses := p.responses ++ [(cb, .error (fromMM1DBusError e))] }
    else p

/-- `ModemModem3gppProxy::Register(operator_id, error, callback, timeout)`. -/
def register (p : ModemModem3gppProxy σ) (sent : Option ε) (hasError : Bool) :
    ModemModem3gppProxy σ :=
  p.call fromMM1DBusError .register sent hasError

/-- `ModemModem3gppProxy::Scan(error, callback, timeout)`. -/
def scan (p : ModemModem3gppProxy σ) (sent : Option ε) (hasError : Bool) :
    ModemModem3gppProxy σ :=
  p.call fromMM1DBusError .scan sent hasError

/-- The body the reply handlers share: take callback `data` of `method` back, run it with
`response`, and free it. -/
def reply (p : ModemModem3gppProxy σ) (method : Method) (data : Callback) (response : Response σ) :
    ModemModem3gppProxy σ :=
  { p with handedOver := p.handedOver.erase (data, method),
           responses := p.responses ++ [(data, response)] }

/-- `Proxy::RegisterCallback(dberror, data)`. -/
def registerCallback (p : ModemModem3gppProxy σ) (dberror : ε) (data : Callback) :
    ModemModem3gppProxy σ :=
  p.reply .register data (.registered (fromMM1DBusError dberror))

/-- `Proxy::ScanCallback(results, dberror, data)`. -/
def scanCallback (p : ModemModem3gppProxy σ) (results : List σ) (dberror : ε) (data : Callback) :
    ModemModem3gppProxy σ :=
  p.reply .scan data (.scanned results (fromMM1DBusError dberror))

/-- What event `e` does to the proxy; `none` for a reply the D-Bus library cannot deliver. -/
def step (p : ModemModem3gppProxy σ) : Event ε σ → Option (ModemModem3gppProxy σ)
  | .register sent hasError => some (p.register fromMM1DBusError sent hasError)
  | .scan sent hasError => some (p.scan fromMM1DBusError sent hasError)
  | .registerReply dberror data =>
    if (data, .register) ∈ p.handedOver then some (p.registerCallback fromMM1DBusError dberror data)
    else none
  | .scanReply results dberror data =>
    if (data, .scan) ∈ p.handedOver then
      some (p.scanCallback fromMM1DBusError results dberror data)
    else none

/-- A run of events. -/
def run (p : ModemModem3gppProxy σ) (es : List (Event ε σ)) : Option (ModemModem3gppProxy σ) :=
  es.foldlM (step fromMM1DBusError) p

/-- The callbacks awaiting their reply. -/
def awaiting (p : ModemModem3gppProxy σ) : List Callback := p.handedOver.map Prod.fst

/-- The callbacks whose caller was told something. -/
def answered (p : ModemModem3gppProxy σ) : List Callback := p.responses.map Prod.fst

/-! ## What each step does to the callbacks -/

@[simp] theorem nextCallback_call (p : ModemModem3gppProxy σ) (method : Method) (sent : Option ε)
    (hasError : Bool) :
    (p.call fromMM1DBusError method sent hasError).nextCallback = p.nextCallback + 1 := by
  cases sent <;> [rfl; (simp only [call]; split <;> rfl)]

@[simp] theorem awaiting_call (p : ModemModem3gppProxy σ) (method : Method) (sent : Option ε)
    (hasError : Bool) :
    (p.call fromMM1DBusError method sent hasError).awaiting =
      p.awaiting ++ if sent.isNone then [p.nextCallback] else [] := by
  cases sent <;> [simp [call, awaiting]; (simp only [call]; split <;> simp [awaiting])]

@[simp] theorem answered_call (p : ModemModem3gppProxy σ) (method : Method) (sent : Option ε)
    (hasError : Bool) :
    (p.call fromMM1DBusError method sent hasError).answered =
      p.answered ++ if sent.isSome ∧ hasError then [p.nextCallback] else [] := by
  cases sent <;> [simp [call, answered]; (simp only [call]; split <;> simp_all [answered])]

@[simp] theorem nextCallback_reply (p : ModemModem3gppProxy σ) (method : Method) (data : Callback)
    (response : Response σ) : (p.reply method data response).nextCallback = p.nextCallback := rfl

@[simp] theorem answered_reply (p : ModemModem3gppProxy σ) (method : Method) (data : Callback)
    (response : Response σ) :
    (p.reply method data response).answered = p.answered ++ [data] := by
  simp [reply, answered]

theorem awaiting_reply_sublist (p : ModemModem3gppProxy σ) (method : Method) (data : Callback)
    (response : Response σ) : List.Sublist (p.reply method data response).awaiting p.awaiting :=
  (p.handedOver.erase_sublist _).map _

/-- A callback that awaits its reply awaits it no more once the reply is taken. -/
theorem not_mem_awaiting_reply {p : ModemModem3gppProxy σ} (hp : p.awaiting.Nodup) {method : Method}
    {data : Callback} (hm : (data, method) ∈ p.handedOver) (response : Response σ) :
    data ∉ (p.reply method data response).awaiting := by
  intro hd
  obtain ⟨x, hx, hxd⟩ := List.mem_map.mp hd
  have hx' : x = (data, method) :=
    List.inj_on_of_nodup_map hp (List.mem_of_mem_erase hx) hm hxd
  exact (hp.of_map Prod.fst).not_mem_erase (hx' ▸ hx)

theorem mem_awaiting_of_mem {p : ModemModem3gppProxy σ} {data : Callback} {method : Method}
    (hm : (data, method) ∈ p.handedOver) : data ∈ p.awaiting :=
  List.mem_map_of_mem Prod.fst hm

/-- A step that succeeds is a call or the reply to a callback handed over for its method. -/
theorem step_eq_some {p p' : ModemModem3gppProxy σ} {e : Event ε σ}
    (h : p.step fromMM1DBusError e = some p') :
    (∃ method sent hasError, p' = p.call fromMM1DBusError method sent hasError) ∨
    ∃ method data response, (data, method) ∈ p.handedOver ∧ p' = p.reply method data response := by
  cases e with
  | register sent hasError => exact .inl ⟨_, _, _, (Option.some.inj h).symm⟩
  | scan sent hasError => exact .inl ⟨_, _, _, (Option.some.inj h).symm⟩
  | registerReply dberror data =>
    simp only [step] at h
    split at h
    · exact .inr ⟨_, _, _, by assumption, (Option.some.inj h).symm⟩
    · cases h
  | scanReply results dberror data =>
    simp only [step] at h
    split at h
    · exact .inr ⟨_, _, _, by assumption, (Option.some.inj h).symm⟩
    · cases h

theorem run_cons (p : ModemModem3gppProxy σ) (e : Event ε σ) (es : List (Event ε σ)) :
    p.run fromMM1DBusError (e :: es) =
      (p.step fromMM1DBusError e).bind fun p' => p'.run fromMM1DBusError es := rfl

/-- An invariant of single steps holds after every run. -/
theorem run_induction (P : ModemModem3gppProxy σ → Prop)
    (hstep : ∀ p p' e, P p → p.step fromMM1DBusError e = some p' → P p')
    {p p' : ModemModem3gppProxy σ} {es : List (Event ε σ)} (hp : P p)
    (h : p.run fromMM1DBusError es = some p') : P p' := by
  induction es generalizing p with
  | nil => exact Option.some.inj h ▸ hp
  | cons e es ih =>
    rw [run_cons] at h
    cases hs : p.step fromMM1DBusError e with
    | none => simp [hs] at h
    | some q => exact ih (hstep p q e hp hs) (by simpa [hs] using h)

/-! ## Each callback is answered at most once -/

/-- What holds of the callbacks in every run: none awaits two replies, no caller is told twice,
none awaiting its reply has been answered, and all were allocated. -/
structure WellFormed (p : ModemModem3gppProxy σ) : Prop where
  awaiting_nodup : p.awaiting.Nodup
  answered_nodup : p.answered.Nodup
  disjoint : ∀ c ∈ p.awaiting, c ∉ p.answered
  lt_of_awaiting : ∀ c ∈ p.awaiting, c < p.nextCallback
  lt_of_answered : ∀ c ∈ p.answered, c < p.nextCallback

theorem wellFormed_init : WellFormed (init : ModemModem3gppProxy σ) :=
  ⟨List.nodup_nil, List.nodup_nil, by simp [awaiting, init], by simp [awaiting, init],
    by simp [answered, init]⟩

/-- Appending the next callback, when `b`, to distinct allocated callbacks keeps them distinct. -/
theorem nodup_append_next {l : List Callback} {n : Nat} (hl : l.Nodup) (hlt : ∀ c ∈ l, c < n)
    (b : Prop) [Decidable b] : (l ++ if b then [n] else []).Nodup := by
  split
  · exact hl.append (List.nodup_singleton n) fun c hc hc' =>
      (Nat.lt_irrefl n) (List.eq_of_mem_singleton hc' ▸ hlt c hc)
  · simpa using hl

theorem mem_append_next {l : List Callback} {n c : Nat} {b : Prop} [Decidable b]
    (hc : c ∈ l ++ if b then [n] else []) : c ∈ l ∨ (b ∧ c = n) := by
  rcases List.mem_append.mp hc with hc | hc
  · exact .inl hc
  · split at hc <;> simp_all

theorem lt_of_mem_append_next {l : List Callback} {n c : Nat} (hlt : ∀ c ∈ l, c < n) {b : Prop}
    [Decidable b] (hc : c ∈ l ++ if b then [n] else []) : c < n + 1 :=
  (mem_append_next hc).elim (fun hc => Nat.lt_succ_of_lt (hlt c hc)) fun ⟨_, hcn⟩ =>
    hcn ▸ Nat.lt_succ_self n

theorem WellFormed.call {p : ModemModem3gppProxy σ} (h : WellFormed p) (method : Method)
    (sent : Option ε) (hasError : Bool) :
    WellFormed (p.call fromMM1DBusError method sent hasError) := by
  refine ⟨?_, ?_, fun c hc hc' => ?_, fun c hc => ?_, fun c hc => ?_⟩ <;>
    simp only [awaiting_call, answered_call, nextCallback_call] at *
  · exact nodup_append_next h.awaiting_nodup h.lt_of_awaiting _
  · exact nodup_append_next h.answered_nodup h.lt_of_answered _
  · rcases mem_append_next hc with hc | ⟨hb, rfl⟩ <;>
      rcases mem_append_next hc' with hc' | ⟨hb', hc'⟩
    · exact h.disjoint c hc hc'
    · exact Nat.lt_irrefl _ (hc' ▸ h.lt_of_awaiting c hc)
    · exact Nat.lt_irrefl _ (h.lt_of_answered _ hc')
    · cases sent <;> simp_all
  · exact lt_of_mem_append_next h.lt_of_awaiting hc
  · exact lt_of_mem_append_next h.lt_of_answered hc

theorem WellFormed.reply {p : ModemModem3gppProxy σ} (h : WellFormed p) {method : Method}
    {data : Callback} (hm : (data, method) ∈ p.handedOver) (response : Response σ) :
    WellFormed (p.reply method data response) := by
  have hsub := (awaiting_reply_sublist p method data response).subset
  have hdata := mem_awaiting_of_mem hm
  refine ⟨(awaiting_reply_sublist p method data response).nodup h.awaiting_nodup, ?_, ?_, ?_, ?_⟩
  · rw [answered_reply]
    exact h.answered_nodup.append (List.nodup_singleton _) fun c hc hc' =>
      h.disjoint data hdata (List.eq_of_mem_singleton hc' ▸ hc)
  · intro c hc hc'
    rw [answered_reply] at hc'
    rcases List.mem_append.mp hc' with hc' | hc'
    · exact h.disjoint c (hsub hc) hc'
    · exact not_mem_awaiting_reply h.awaiting_nodup hm response (List.eq_of_mem_singleton hc' ▸ hc)
  · exact fun c hc => h.lt_of_awaiting c (hsub hc)
  · intro c hc
    rw [answered_reply] at hc
    rcases List.mem_append.mp hc with hc | hc
    · exact h.lt_of_answered c hc
    · exact List.eq_of_mem_singleton hc ▸ h.lt_of_awaiting data hdata

theorem WellFormed.step {p p' : ModemModem3gppProxy σ} (h : WellFormed p) {e : Event ε σ}
    (hs : p.step fromMM1DBusError e = some p') : WellFormed p' := by
  rcases step_eq_some fromMM1DBusError hs with ⟨method, sent, hasError, rfl⟩ | ⟨_, _, _, hm, rfl⟩
  · exact h.call fromMM1DBusError method sent hasError
  · exact h.reply hm _

theorem wellFormed_run {es : List (Event ε σ)} {p : ModemModem3gppProxy σ}
    (h : (init : ModemModem3gppProxy σ).run fromMM1DBusError es = some p) : WellFormed p :=
  run_induction fromMM1DBusError WellFormed (fun _ _ _ hp hs => hp.step fromMM1DBusError hs)
    wellFormed_init h

/-- **Each callback is answered at most once.** In every run of the proxy, no callback awaits
two replies, no caller is told twice, and no callback awaiting its reply has been answered. -/
theorem callbacks_answered_at_most_once {es : List (Event ε σ)} {p : ModemModem3gppProxy σ}
    (h : (init : ModemModem3gppProxy σ).run fromMM1DBusError es = some p) :
    p.awaiting.Nodup ∧ p.answered.Nodup ∧ ∀ c ∈ p.awaiting, c ∉ p.answered :=
  let hw := wellFormed_run fromMM1DBusError h
  ⟨hw.awaiting_nodup, hw.answered_nodup, hw.disjoint⟩

/-- A `Register` sent and answered, and a `Scan` whose proxy call throws, with an `error` to
fill. -/
theorem register_answered_scan_refused :
    let es : List (Event String Nat) :=
      [.register none true, .scan (some "busy") true, .registerReply "" 0]
    let p : ModemModem3gppProxy Nat :=
      ⟨[], [(1, .error Error.success), (0, .registered Error.success)], 2⟩
    (init : ModemModem3gppProxy Nat).run (fun _ => Error.success) es = some p ∧
      (p.awaiting.Nodup ∧ p.answered.Nodup ∧ ∀ c ∈ p.awaiting, c ∉ p.answered) := by
  intro es p
  have h : (init : ModemModem3gppProxy Nat).run (fun _ => Error.success) es = some p := by decide
  exact ⟨h, callbacks_answered_at_most_once _ h⟩

/-- Callback `c` was allocated and freed with nobody told. -/
def Dropped (p : ModemModem3gppProxy σ) (c : Callback) : Prop :=
  c < p.nextCallback ∧ c ∉ p.awaiting ∧ c ∉ p.answered

theorem Dropped.step {p p' : ModemModem3gppProxy σ} {c : Callback} (h : Dropped p c)
    {e : Event ε σ} (hs : p.step fromMM1DBusError e = some p') : Dropped p' c := by
  obtain ⟨hlt, hc, hc'⟩ := h
  have hne : c ≠ p.nextCallback := Nat.ne_of_lt hlt
  rcases step_eq_some fromMM1DBusError hs with ⟨method, sent, hasError, rfl⟩ | ⟨_, data, _, hm, rfl⟩
  · refine ⟨by simp only [nextCallback_call]; exact Nat.lt_succ_of_lt hlt, ?_, ?_⟩ <;>
      simp only [awaiting_call, answered_call, List.mem_append, not_or] <;>
      exact ⟨by assumption, by split <;> simp [hne]⟩
  · have hne' : c ≠ data := fun hcd => hc (hcd ▸ mem_awaiting_of_mem hm)
    exact ⟨hlt, fun h => hc ((awaiting_reply_sublist p _ _ _).subset h), by simp [hc', hne']⟩

/-- **A call that throws while its `error` is null is never answered.** After any run, a
`Register` or `Scan` whose D-Bus proxy call throws, made with a null `error`, frees its callback
unrun and tells its caller nothing, and no later event hands that callback over or answers it. -/
theorem throwing_call_without_error_never_answered {es₀ es : List (Event ε σ)}
    {p₀ p : ModemModem3gppProxy σ}
    (h₀ : (init : ModemModem3gppProxy σ).run fromMM1DBusError es₀ = some p₀) (method : Method)
    (e : ε)
    (h : (p₀.call fromMM1DBusError method (some e) false).run fromMM1DBusError es = some p) :
    p₀.nextCallback ∉ p.awaiting ∧ p₀.nextCallback ∉ p.answered := by
  have hw := wellFormed_run fromMM1DBusError h₀
  have hd : Dropped (p₀.call fromMM1DBusError method (some e) false) p₀.nextCallback := by
    refine ⟨by simp, ?_, ?_⟩ <;> simp only [awaiting_call, answered_call, Option.isNone_some,
      Option.isSome_some, true_and, Bool.false_eq_true, if_false, List.append_nil]
    · exact fun hc => Nat.lt_irrefl _ (hw.lt_of_awaiting _ hc)
    · exact fun hc => Nat.lt_irrefl _ (hw.lt_of_answered _ hc)
  exact (run_induction fromMM1DBusError (Dropped · p₀.nextCallback)
    (fun _ _ _ hp hs => hp.step fromMM1DBusError hs) hd h).2

/-- A `Register` sent, then a `Scan` whose proxy call throws with a null `error`: the scan's
callback, the second, is never answered, even after the register's reply. -/
theorem scan_without_error_dropped :
    let p₀ : ModemModem3gppProxy Nat := ⟨[(0, .register)], [], 1⟩
    let p : ModemModem3gppProxy Nat := ⟨[], [(0, .registered Error.success)], 2⟩
    (init : ModemModem3gppProxy Nat).run (fun _ => Error.success)
        [(.register none true : Event String Nat)] = some p₀ ∧
      (p₀.call (fun _ => Error.success) .scan (some "busy") false).run (fun _ => Error.success)
        [(.registerReply "" 0 : Event String Nat)] = some p ∧
      (p₀.nextCallback ∉ p.awaiting ∧ p₀.nextCallback ∉ p.answered) := by
  intro p₀ p
  have h₀ : (init : ModemModem3gppProxy Nat).run (fun _ => Error.success)
      [(.register none true : Event String Nat)] = some p₀ := rfl
  have h : (p₀.call (fun _ => Error.success) .scan (some "busy") false).run (fun _ => Error.success)
      [(.registerReply "" 0 : Event String Nat)] = some p := by decide
  exact ⟨h₀, h, throwing_call_without_error_never_answered _ h₀ .scan "busy" h⟩

end ModemModem3gppProxy

end Shill.Mm1
