import Mathlib.Data.List.Infix

/-!
# The in-memory log: a byte-bounded deque of messages

Model of `MemoryLog` (`memory_log.cc`): `Append`, `Clear`, `SetMaximumSize` and the loop they
share, `ShrinkToTargetSize`. The log keeps the messages in a deque, `log_`, and their total size
in a counter, `current_size_bytes_`; the shrink loop pops the front while the counter is above
the target. `MemoryLogMessage`'s destructor reaches the log only through `Append`, and
`FlushToDisk` only reads it, so these three calls are every way the log changes.

* A message's size is `std::string::size()`, its byte count (`size`). Sizes are unbounded
  naturals, and so are both counters: the `size_t` arithmetic is exact as long as the counter
  is at least the front's size, which the invariant below keeps.
* `shrinkToTargetSize` recurses on the deque, one pop a round, so it terminates by structure. It
  returns `none` where the loop would read `front()` of an empty deque, and where
  `current_size_bytes_ -= front.size()` would go below zero; both only happen when the counter
  disagrees with the deque.
* `kDefaultMaximumMemoryLogSizeInBytes` (`memory_log.h`) is not part of this snapshot: the
  fresh log takes it as the parameter `defaultMax`.

## Results

* `shrinkToTargetSize_spec`: from a counter equal to the deque's size, the loop returns the
  **longest suffix** of the deque within the target (`IsLongestSuffixWithin`), with its size.
* `Inv`: the counter equals the size of `log_`, which is at most `maximum_size_bytes_`. Each call
  keeps it (`call_spec`), so every call of every run succeeds (`run_inv`).
* `memoryLog_calls_bounded`: after any sequence of calls from a fresh log, the next call
  succeeds and leaves the invariant; an `Append` leaves the longest suffix of the old deque and
  the message within the bound, a `SetMaximumSize(k)` the longest suffix of the old deque
  within `k`.
-/

namespace Shill

/-- `std::string::size()`: the byte count of a message. -/
def size (msg : String) : Nat := msg.utf8ByteSize

/-- The total size of the messages of a deque. -/
def totalSize : List String → Nat
  | [] => 0
  | x :: xs => size x + totalSize xs

@[simp] theorem totalSize_nil : totalSize [] = 0 := rfl

@[simp] theorem totalSize_cons (x : String) (xs : List String) :
    totalSize (x :: xs) = size x + totalSize xs := rfl

@[simp] theorem totalSize_append (xs ys : List String) :
    totalSize (xs ++ ys) = totalSize xs + totalSize ys := by
  induction xs with
  | nil => simp
  | cons x xs ih => simp [ih, Nat.add_assoc]

/-- `MemoryLog`: the bound, the counter, and the deque `log_`. -/
structure MemoryLog where
  maximumSizeBytes : Nat
  currentSizeBytes : Nat
  log : List String
  deriving DecidableEq, Repr

namespace MemoryLog

/-- `MemoryLog::MemoryLog()`: the default bound and an empty deque. -/
def new (defaultMax : Nat) : MemoryLog := ⟨defaultMax, 0, []⟩

/-- `ShrinkToTargetSize(number_bytes)` on the counter and the deque: while the counter is above
the target, subtract the front's size and pop it. `none` where the loop would read `front()` of
an empty deque, or subtract more than the counter holds. -/
def shrinkToTargetSize (numberBytes : Nat) : Nat → List String → Option (Nat × List String)
  | current, [] => if current > numberBytes then none else some (current, [])
  | current, front :: rest =>
    if current > numberBytes then
      if size front ≤ current then shrinkToTargetSize numberBytes (current - size front) rest
      else none
    else some (current, front :: rest)

/-- `Append(msg)`: count it, push it at the back, shrink to the bound. -/
def append (m : MemoryLog) (msg : String) : Option MemoryLog := do
  let (current, log) ←
    shrinkToTargetSize m.maximumSizeBytes (m.currentSizeBytes + size msg) (m.log ++ [msg])
  pure { m with currentSizeBytes := current, log := log }

/-- `Clear()`. -/
def clear (m : MemoryLog) : MemoryLog := { m with currentSizeBytes := 0, log := [] }

/-- `SetMaximumSize(size_in_bytes)`: shrink to the new bound first, then store it. -/
def setMaximumSize (m : MemoryLog) (sizeInBytes : Nat) : Option MemoryLog := do
  let (current, log) ← shrinkToTargetSize sizeInBytes m.currentSizeBytes m.log
  pure { maximumSizeBytes := sizeInBytes, currentSizeBytes := current, log := log }

/-- The calls that change the log. -/
inductive Call
  | append (msg : String)
  | clear
  | setMaximumSize (sizeInBytes : Nat)
  deriving DecidableEq, Repr

/-- One call; `none` where it would fault. -/
def call (m : MemoryLog) : Call → Option MemoryLog
  | .append msg => m.append msg
  | .clear => some m.clear
  | .setMaximumSize k => m.setMaximumSize k

/-- The log after a sequence of calls on a fresh `MemoryLog`; `none` once a call faults. -/
def run (defaultMax : Nat) (cs : List Call) : Option MemoryLog :=
  cs.foldlM call (new defaultMax)

/-! ## The shrink loop -/

/-- `r` is the longest suffix of `l` whose total size is at most `bound`. -/
def IsLongestSuffixWithin (bound : Nat) (l r : List String) : Prop :=
  r <:+ l ∧ totalSize r ≤ bound ∧ ∀ s, s <:+ l → totalSize s ≤ bound → s.length ≤ r.length

theorem isLongestSuffixWithin_self {bound : Nat} {l : List String} (h : totalSize l ≤ bound) :
    IsLongestSuffixWithin bound l l :=
  ⟨List.suffix_refl l, h, fun _ hs _ => hs.length_le⟩

/-- Past a front that alone puts the deque over the bound, the longest suffix within it is the
one of the rest. -/
theorem isLongestSuffixWithin_cons {bound : Nat} {x : String} {xs r : List String}
    (hx : bound < totalSize (x :: xs)) (h : IsLongestSuffixWithin bound xs r) :
    IsLongestSuffixWithin bound (x :: xs) r := by
  obtain ⟨hsuf, hle, hmax⟩ := h
  refine ⟨hsuf.trans (List.suffix_cons x xs), hle, fun s hs hs' => ?_⟩
  rcases List.suffix_cons_iff.mp hs with rfl | hs
  · omega
  · exact hmax s hs hs'

/-- **The shrink loop**, from a counter equal to the deque's size: it returns the longest suffix
within the target, and that suffix's size. -/
theorem shrinkToTargetSize_spec (n : Nat) (l : List String) :
    ∃ r, shrinkToTargetSize n (totalSize l) l = some (totalSize r, r) ∧
      IsLongestSuffixWithin n l r := by
  induction l with
  | nil => exact ⟨[], by simp [shrinkToTargetSize], isLongestSuffixWithin_self (by simp)⟩
  | cons x xs ih =>
    by_cases hn : totalSize (x :: xs) > n
    · obtain ⟨r, hr, hlong⟩ := ih
      refine ⟨r, ?_, isLongestSuffixWithin_cons hn hlong⟩
      have hsub : totalSize (x :: xs) - size x = totalSize xs := by simp
      rw [shrinkToTargetSize, if_pos hn, if_pos (by simp), hsub, hr]
    · exact ⟨x :: xs, by rw [shrinkToTargetSize, if_neg hn],
        isLongestSuffixWithin_self (Nat.le_of_not_gt hn)⟩

/-! ## The invariant -/

/-- The counter equals the size of the deque, and the deque is within the bound. -/
structure Inv (m : MemoryLog) : Prop where
  current_eq : m.currentSizeBytes = totalSize m.log
  within : totalSize m.log ≤ m.maximumSizeBytes

theorem inv_new (defaultMax : Nat) : (new defaultMax).Inv := ⟨rfl, Nat.zero_le _⟩

/-- What a call leaves of the deque it starts from. -/
def Post (m : MemoryLog) : Call → MemoryLog → Prop
  | .append msg, m' => IsLongestSuffixWithin m.maximumSizeBytes (m.log ++ [msg]) m'.log
  | .clear, m' => m'.log = []
  | .setMaximumSize k, m' => IsLongestSuffixWithin k m.log m'.log

/-- **One call** from a state of the invariant succeeds, keeps the invariant, and leaves the
deque its postcondition says. -/
theorem call_spec {m : MemoryLog} (hi : m.Inv) (c : Call) :
    ∃ m', m.call c = some m' ∧ m'.Inv ∧ m.Post c m' := by
  cases c with
  | append msg =>
    obtain ⟨r, hr, hlong⟩ := shrinkToTargetSize_spec m.maximumSizeBytes (m.log ++ [msg])
    have hcur : m.currentSizeBytes + size msg = totalSize (m.log ++ [msg]) := by
      simp [hi.current_eq]
    refine ⟨{ m with currentSizeBytes := totalSize r, log := r }, ?_, ⟨rfl, hlong.2.1⟩,
      hlong⟩
    simp only [call, append, hcur, hr]
    rfl
  | clear => exact ⟨m.clear, rfl, ⟨rfl, Nat.zero_le _⟩, rfl⟩
  | setMaximumSize k =>
    obtain ⟨r, hr, hlong⟩ := shrinkToTargetSize_spec k m.log
    refine ⟨⟨k, totalSize r, r⟩, ?_, ⟨rfl, hlong.2.1⟩, hlong⟩
    simp only [call, setMaximumSize, hi.current_eq, hr]
    rfl

theorem foldlM_call_inv {m : MemoryLog} (hi : m.Inv) (cs : List Call) :
    ∃ m', cs.foldlM call m = some m' ∧ m'.Inv := by
  induction cs generalizing m with
  | nil => exact ⟨m, rfl, hi⟩
  | cons c cs ih =>
    obtain ⟨m₁, h₁, hi₁, -⟩ := call_spec hi c
    obtain ⟨m', h', hi'⟩ := ih hi₁
    exact ⟨m', by simp [List.foldlM, h₁, h'], hi'⟩

/-- Every run from a fresh log succeeds and ends in the invariant. -/
theorem run_inv (defaultMax : Nat) (cs : List Call) :
    ∃ m, run defaultMax cs = some m ∧ m.Inv :=
  foldlM_call_inv (inv_new defaultMax) cs

/-- **The log stays within its bound.** After any sequence of calls on a fresh `MemoryLog`, the
next call succeeds (the shrink loop never reads the front of an empty deque); afterwards the
counter equals the size of the deque, which is within the bound, and an `Append` or a
`SetMaximumSize` leaves the longest suffix within the bound of the deque it started from. -/
theorem memoryLog_calls_bounded (defaultMax : Nat) (cs : List Call) (c : Call) :
    ∃ m m', run defaultMax cs = some m ∧ m.call c = some m' ∧
      m'.currentSizeBytes = totalSize m'.log ∧ totalSize m'.log ≤ m'.maximumSizeBytes ∧
      (∀ msg, c = .append msg →
        IsLongestSuffixWithin m.maximumSizeBytes (m.log ++ [msg]) m'.log) ∧
      (∀ k, c = .setMaximumSize k → IsLongestSuffixWithin k m.log m'.log) := by
  obtain ⟨m, hrun, hi⟩ := run_inv defaultMax cs
  obtain ⟨m', hcall, hi', hpost⟩ := call_spec hi c
  refine ⟨m, m', hrun, hcall, hi'.current_eq, hi'.within, ?_, ?_⟩
  · rintro msg rfl; exact hpost
  · rintro k rfl; exact hpost

end MemoryLog

end Shill
