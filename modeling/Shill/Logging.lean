import Shill.MemoryLog

/-!
# Into the memory log: `LogMessageInterceptor` and `MemoryLogMessage`

Model of the rest of `memory_log.cc`: how a logged message reaches the `MemoryLog` of
`Shill.MemoryLog`, and how `FlushToDisk` writes it out. There are two ways in.

* `MLOG(severity) << text` builds a `MemoryLogMessage` that propagates down. `Init` writes a
  header (time, severity, file, line), notes where it ends (`message_start_`) and writes
  `kMemoryLogPrefix`; the destructor hands what follows the header, prefix included, to a
  `logging::LogMessage`, then appends the whole line to the memory log.
* `LOG(severity) << text` is base logging's. `InstallLogInterceptor` makes
  `LogMessageInterceptor` the handler base logging offers each line to, and keeps the handler it
  replaces in `nested_message_handler`. The interceptor copies a line into a `MemoryLogMessage`
  that does not propagate, unless its message starts with `kMemoryLogPrefix`: that is how it
  recognises the lines of an `MLOG`, which are in the memory log already. Then the nested
  handler, if any, decides whether base logging goes on with the line.

Base logging is not part of this snapshot. The model takes from it what this code relies on: a
`logging::LogMessage` line is a header, the message and a newline, and `message_start` is the
header's length; the destructor offers the line to the installed handler, writes it out unless
the handler returns true, and then ends the process (`none`) if the message is FATAL. `MLOG`
(`memory_log.h`) is `MemoryLogMessage(__FILE__, __LINE__, LOG_severity, true).stream()`.
Handlers of other code are opaque: `Externals.otherHandler` says whether one takes a line, and
the model takes such a handler to do nothing else. No handler in this snapshot does more, but
one that logs, or calls the handler it was installed over, is outside the model: chained to
the interceptor, with `InstallLogInterceptor` called again over it, it would recurse without
end like the interceptor installed twice (`installLogInterceptor_twice`). One statement reads
the clock once (`LocalTime`). A handler that calls its nested handler makes a
call one level deeper: `fuel` bounds the depth, and running out of it (`none`) is a stack that
overflows.

## Results

* `logMessageInterceptor_nested_self`: while the interceptor is its own nested handler, it never
  returns.
* `statement_appends_at_most_once`: whatever handlers are installed, a `LOG` or `MLOG` statement
  that returns has appended at most one line to the memory log.
* `run_statements`: from a state of the invariant (the interceptor is not its own nested handler
  and the memory log keeps its counter), a run of `LOG` and `MLOG` statements below FATAL returns
  with any fuel. It appends, in order, one line per `MLOG`, and one per `LOG` when the
  interceptor is installed and the text does not start with `kMemoryLogPrefix`; base logging
  writes out each line the handlers do not take.
* `installLogInterceptor_twice`: a second `InstallLogInterceptor` makes the interceptor its own
  nested handler, and from then on no `LOG` or `MLOG` statement returns.
* `Reach.step_returns`: from startup, as long as `InstallLogInterceptor` is not called while the
  interceptor is installed, every call below FATAL returns with any fuel.
* `flushToDisk_eq_neg_one_iff`, `flushToDisk_run`: `FlushToDisk` returns `-1` exactly when the
  file does not open or a write reports an error; when every write completes, it returns
  `current_size_bytes_`.
* `Reach.flushToDisk_within_maximum`: the same holds, within `maximum_size_bytes_`, after any
  allowed run of the whole process, handlers and interceptor included.
-/

namespace Shill

namespace MemoryLog

/-- `Append` of each message in turn. -/
def appendAll (m : MemoryLog) (msgs : List String) : Option MemoryLog := msgs.foldlM append m

@[simp] theorem appendAll_nil (m : MemoryLog) : m.appendAll [] = some m := rfl

@[simp] theorem appendAll_singleton (m : MemoryLog) (msg : String) :
    m.appendAll [msg] = m.append msg := by
  simp [appendAll]

theorem appendAll_append (m : MemoryLog) (a b : List String) :
    m.appendAll (a ++ b) = (m.appendAll a).bind fun m' => m'.appendAll b :=
  List.foldlM_append _ _ _ _

/-- Appending to a log of the invariant succeeds, and keeps it. -/
theorem Inv.appendAll {m : MemoryLog} (hi : m.Inv) (msgs : List String) :
    ∃ m', m.appendAll msgs = some m' ∧ m'.Inv := by
  induction msgs generalizing m with
  | nil => exact ⟨m, rfl, hi⟩
  | cons msg msgs ih =>
    obtain ⟨m₁, h₁, hi₁, -⟩ := call_spec hi (.append msg)
    obtain ⟨m', h', hi'⟩ := ih hi₁
    refine ⟨m', ?_, hi'⟩
    rw [MemoryLog.appendAll, List.foldlM_cons, show m.append msg = some m₁ from h₁]
    exact h'

theorem Inv.of_appendAll {m m' : MemoryLog} {msgs : List String} (hi : m.Inv)
    (h : m.appendAll msgs = some m') : m'.Inv := by
  obtain ⟨m'', h', hi'⟩ := hi.appendAll msgs
  rw [h] at h'
  exact Option.some_injective _ h' ▸ hi'

/-! ## `FlushToDisk` -/

/-- The file `FlushToDisk` writes, as the C library answers: whether `OpenFile` gives a `FILE`,
and for the `i`-th `fwrite`, of a message, the bytes it writes and whether `ferror` then reports
an error. -/
structure DiskFile where
  opens : Bool
  fwrite : Nat → String → Nat × Bool

/-- The loop of `FlushToDisk` from the `i`-th message on, with `bytes_written` so far. -/
def flushFrom (file : DiskFile) (i : Nat) (bytesWritten : Int) : List String → Int
  | [] => bytesWritten
  | msg :: rest =>
    let (n, error) := file.fwrite i msg
    if error then -1 else flushFrom file (i + 1) (bytesWritten + n) rest

/-- `FlushToDisk(file_path)`: `-1` if the file does not open; otherwise each message of the deque
in turn, adding the bytes written, and `-1` as soon as a write reports an error. -/
def flushToDisk (m : MemoryLog) (file : DiskFile) : Int :=
  if file.opens then flushFrom file 0 0 m.log else -1

/-- With every write complete, the loop adds up the sizes of the messages. -/
theorem flushFrom_complete {file : DiskFile} (hw : ∀ i msg, file.fwrite i msg = (size msg, false))
    (i : Nat) (bytesWritten : Int) (l : List String) :
    flushFrom file i bytesWritten l = bytesWritten + totalSize l := by
  induction l generalizing i bytesWritten with
  | nil => simp [flushFrom]
  | cons msg rest ih =>
    simp [flushFrom, hw, ih]
    omega

/-- The loop returns `-1` exactly when one of its writes reports an error. -/
theorem flushFrom_eq_neg_one_iff (file : DiskFile) (i : Nat) {bytesWritten : Int}
    (hb : 0 ≤ bytesWritten) (l : List String) :
    flushFrom file i bytesWritten l = -1 ↔
      ∃ j msg, l[j]? = some msg ∧ (file.fwrite (i + j) msg).2 = true := by
  induction l generalizing i bytesWritten with
  | nil => simp [flushFrom]; omega
  | cons msg rest ih =>
    rcases hfw : file.fwrite i msg with ⟨n, error⟩
    cases error with
    | true => simpa [flushFrom, hfw] using ⟨0, msg, List.getElem?_cons_zero, by simp [hfw]⟩
    | false =>
      simp only [flushFrom, hfw, Bool.false_eq_true, if_false]
      rw [ih (i + 1) (by omega)]
      constructor
      · rintro ⟨j, msg', hj, he⟩
        exact ⟨j + 1, msg', by rwa [List.getElem?_cons_succ],
          by rwa [Nat.add_right_comm, Nat.add_assoc] at he⟩
      · rintro ⟨j, msg', hj, he⟩
        cases j with
        | zero =>
          rw [List.getElem?_cons_zero, Option.some_inj] at hj
          subst hj
          simp [hfw] at he
        | succ j =>
          exact ⟨j, msg', by rwa [List.getElem?_cons_succ] at hj,
            by rwa [Nat.add_right_comm, Nat.add_assoc]⟩

/-- **`FlushToDisk` fails exactly on a failed open or write**: it returns `-1` when the file does
not open or a write of a message of the deque reports an error, and never otherwise. -/
theorem flushToDisk_eq_neg_one_iff (m : MemoryLog) (file : DiskFile) :
    m.flushToDisk file = -1 ↔
      file.opens = false ∨ ∃ j msg, m.log[j]? = some msg ∧ (file.fwrite j msg).2 = true := by
  unfold flushToDisk
  cases file.opens with
  | false => simp
  | true => simpa using flushFrom_eq_neg_one_iff file 0 (Int.le_refl 0) m.log

/-- On a log of the invariant, a complete flush returns the counter, which is within the
maximum. -/
theorem Inv.flushToDisk_eq_currentSizeBytes {m : MemoryLog} (hi : m.Inv) {file : DiskFile}
    (hopen : file.opens = true) (hw : ∀ i msg, file.fwrite i msg = (size msg, false)) :
    m.flushToDisk file = m.currentSizeBytes ∧ m.currentSizeBytes ≤ m.maximumSizeBytes := by
  refine ⟨?_, hi.current_eq ▸ hi.within⟩
  rw [flushToDisk, if_pos hopen, flushFrom_complete hw, hi.current_eq]
  simp

/-- **A complete flush writes the counter's worth.** After any sequence of calls on a fresh log,
a `FlushToDisk` whose file opens and whose writes all complete returns `current_size_bytes_`,
which is within `maximum_size_bytes_`. -/
theorem flushToDisk_run {defaultMax : Nat} {cs : List Call} {m : MemoryLog}
    (h : run defaultMax cs = some m) {file : DiskFile} (hopen : file.opens = true)
    (hw : ∀ i msg, file.fwrite i msg = (size msg, false)) :
    m.flushToDisk file = m.currentSizeBytes ∧ m.currentSizeBytes ≤ m.maximumSizeBytes := by
  obtain ⟨m', hrun, hi⟩ := run_inv defaultMax cs
  obtain rfl : m' = m := Option.some_injective _ (hrun.symm.trans h)
  exact hi.flushToDisk_eq_currentSizeBytes hopen hw

/-- A file that opens and takes every message whole. -/
def completeFile : DiskFile := ⟨true, fun _ msg => (size msg, false)⟩

theorem flushToDisk_after_appends :
    let m : MemoryLog := ⟨16, 10, ["hello", "world"]⟩
    run 16 [.append "hello", .append "world"] = some m ∧ completeFile.opens = true ∧
      (∀ i msg, completeFile.fwrite i msg = (size msg, false)) ∧
      (m.flushToDisk completeFile = m.currentSizeBytes ∧ m.currentSizeBytes ≤ m.maximumSizeBytes) :=
  have h : run 16 [.append "hello", .append "world"] = some ⟨16, 10, ["hello", "world"]⟩ := rfl
  ⟨h, rfl, fun _ _ => rfl, flushToDisk_run h rfl fun _ _ => rfl⟩

end MemoryLog

namespace Logging

/-! ## Messages -/

/-- `kLogSeverityNames`: what `Init` prints for the severities from `LOG_INFO` to `LOG_FATAL`. -/
def kLogSeverityNames : List String := ["INFO", "WARNING", "ERROR", "ERROR_REPORT", "FATAL"]

/-- `logging::LOG_FATAL`. -/
def logFatal : Int := 4

/-- A `logging::LogSeverity`: below zero a verbose level, otherwise one that `kLogSeverityNames`
names. -/
structure LogSeverity where
  val : Int
  lt_numSeverities : val < kLogSeverityNames.length
  deriving DecidableEq

/-- The severity as `Init` prints it. -/
def severityName (s : LogSeverity) : String :=
  if h : 0 ≤ s.val then
    kLogSeverityNames.get ⟨s.val.toNat, by have := s.lt_numSeverities; omega⟩
  else "VERBOSE" ++ toString (-s.val)

/-- The clock as `Init` reads it: the fields of the `struct tm` that `localtime_r` fills, and
`tv_usec`. -/
structure LocalTime where
  tmYear : Nat
  tmMon : Nat
  tmMday : Nat
  tmHour : Nat
  tmMin : Nat
  tmSec : Nat
  tvUsec : Nat
  deriving DecidableEq, Repr

/-- A field under `std::setw(2)` and `std::setfill('0')`: at least two digits. -/
def setw2 (n : Nat) : String := if n < 10 then "0" ++ toString n else toString n

/-- The time stamp `Init` writes: date and time to the second, two digits a field, then the
microseconds, which nothing pads. -/
def timestamp (t : LocalTime) : String :=
  toString (t.tmYear + 1900) ++ "-" ++ setw2 (t.tmMon + 1) ++ "-" ++ setw2 t.tmMday ++ "T" ++
    setw2 t.tmHour ++ ":" ++ setw2 t.tmMin ++ ":" ++ setw2 t.tmSec ++ "." ++
    toString t.tvUsec ++ " "

/-- `strrchr(file_, '/')`, or `file_` where it has no slash: the file name from its last slash
on, the slash included. -/
def strrchrSlash (file : String) : String :=
  if '/' ∈ file.data then String.mk ('/' :: (file.data.reverse.takeWhile (· != '/')).reverse)
  else file

/-- Where and when a message is logged: what a `logging::LogMessage` and a `MemoryLogMessage`
are built from. -/
structure Origin where
  severity : LogSeverity
  file : String
  line : Int
  time : LocalTime
  deriving DecidableEq

/-- What `Init` writes before `message_start_`. -/
def memoryLogHeader (o : Origin) : String :=
  timestamp o.time ++ severityName o.severity ++ ":" ++ strrchrSlash o.file ++ "(" ++
    toString o.line ++ ") "

/-- `kMemoryLogPrefix`. -/
def kMemoryLogPrefix : String := "memlog: "

/-- `kMemoryLogPrefixLength`: `arraysize(kMemoryLogPrefix) - 1`, the prefix without its NUL. -/
def kMemoryLogPrefixLength : Nat := 8

/-- The C string at `s.c_str() + i`: the characters from `i` on, up to the first NUL. -/
def cStrAt (s : String) (i : Nat) : String :=
  String.mk ((s.data.drop i).takeWhile (· != Char.ofNat 0))

/-- `strncmp(s.c_str() + i, kMemoryLogPrefix, kMemoryLogPrefixLength) == 0`: the characters from
`i` on begin with the prefix. The prefix has no NUL, so where the C string ends early the
characters differ. -/
def startsWithMemoryLogPrefix (s : String) (i : Nat) : Bool :=
  (s.data.drop i).take kMemoryLogPrefixLength == kMemoryLogPrefix.data

/-! ## Handlers and the state of the process -/

/-- A `logging::LogMessageHandlerFunction` that can be installed. -/
inductive LogMessageHandler
  /-- `LogMessageInterceptor`. -/
  | logMessageInterceptor
  /-- A handler of other code. -/
  | other (id : Nat)
  deriving DecidableEq, Repr

/-- What the memory log's code reads from outside this snapshot. -/
structure Externals where
  /-- The header a `logging::LogMessage` writes before the message. -/
  logMessageHeader : Origin → String
  /-- Whether a handler of other code takes the line `(severity, file, line, message_start,
  str)`. -/
  otherHandler : Nat → LogSeverity → String → Int → Nat → String → Bool
  /-- `__FILE__` in `memory_log.cc`. -/
  memoryLogFile : String

/-- The logging of the process: the handler base logging calls (`logging::GetLogMessageHandler`),
`nested_message_handler`, the `MemoryLog` instance, and the lines base logging wrote out. -/
structure State where
  logMessageHandler : Option LogMessageHandler
  nestedMessageHandler : Option LogMessageHandler
  memoryLog : MemoryLog
  output : List String

/-- At startup: no handler, and a fresh memory log. -/
def State.init (defaultMax : Nat) : State := ⟨none, none, MemoryLog.new defaultMax, []⟩

/-- `MemoryLog::GetInstance()->Append(msg)`. -/
def State.append (L : State) (msg : String) : Option State :=
  (L.memoryLog.append msg).map fun m => { L with memoryLog := m }

variable (x : Externals)

/-- Whether a handler other than the interceptor takes a line; with none, base logging goes on. -/
def Externals.takes (h : Option LogMessageHandler) (o : Origin) (messageStart : Nat)
    (str : String) : Bool :=
  match h with
  | some (.other id) => x.otherHandler id o.severity o.file o.line messageStart str
  | _ => false

/-- The call `h(severity, file, line, message_start, str)` of a handler, or of none: the state
after it, and whether it took the line. `interceptor` is `LogMessageInterceptor` one call
deeper. -/
def callHandler (interceptor : State → Origin → Nat → String → Option (State × Bool))
    (L : State) (h : Option LogMessageHandler) (o : Origin) (messageStart : Nat) (str : String) :
    Option (State × Bool) :=
  if h = some .logMessageInterceptor then interceptor L o messageStart str
  else some (L, x.takes h o messageStart str)

/-- `logging::LogMessage(file, line, severity) << text`, destroyed: the installed handler gets
the line first; unless it takes it, the line is written out, and a FATAL one ends the process. -/
def logMessageWith (interceptor : State → Origin → Nat → String → Option (State × Bool))
    (L : State) (o : Origin) (text : String) : Option State := do
  let header := x.logMessageHeader o
  let str := header ++ text ++ "\n"
  let (L, taken) ← callHandler x interceptor L L.logMessageHandler o header.length str
  if taken then pure L
  else if o.severity.val = logFatal then none
  else pure { L with output := L.output ++ [str] }

/-- A `MemoryLogMessage` being written: its origin, `propagate_down_`, `stream_` and
`message_start_`. -/
structure MemoryLogMessage where
  origin : Origin
  propagateDown : Bool
  stream : String
  messageStart : Nat

namespace MemoryLogMessage

/-- `MemoryLogMessage(file, line, severity, propagate_down)`, with its `Init`. -/
def new (o : Origin) (propagateDown : Bool) : MemoryLogMessage :=
  ⟨o, propagateDown, memoryLogHeader o ++ kMemoryLogPrefix, (memoryLogHeader o).length⟩

/-- `stream() << text`. -/
def streamIn (m : MemoryLogMessage) (text : String) : MemoryLogMessage :=
  { m with stream := m.stream ++ text }

/-- `~MemoryLogMessage()`: if it propagates down, the C string after the header goes to a
`logging::LogMessage`; then the line, ended, is appended to the memory log. -/
def destroyWith (interceptor : State → Origin → Nat → String → Option (State × Bool))
    (L : State) (m : MemoryLogMessage) : Option State := do
  let L ← if m.propagateDown then
      logMessageWith x interceptor L m.origin (cStrAt m.stream m.messageStart)
    else pure L
  L.append (m.stream ++ "\n")

end MemoryLogMessage

/-- `LogMessageInterceptor(severity, file, line, message_start, str)`, with `fuel` calls left on
the stack. -/
def logMessageInterceptor : Nat → State → Origin → Nat → String → Option (State × Bool)
  | 0, _, _, _, _ => none
  | fuel + 1, L, o, messageStart, str => do
    let L ← if messageStart < str.length ∧ startsWithMemoryLogPrefix str messageStart = false then
        ((MemoryLogMessage.new o false).streamIn (cStrAt str messageStart)).destroyWith x
          (logMessageInterceptor fuel) L
      else pure L
    callHandler x (logMessageInterceptor fuel) L L.nestedMessageHandler o messageStart str

/-- `logging::LogMessage`, with `fuel` calls left on the stack. -/
def logMessage (fuel : Nat) : State → Origin → String → Option State :=
  logMessageWith x (logMessageInterceptor x fuel)

/-- `~MemoryLogMessage()`, with `fuel` calls left on the stack. -/
def MemoryLogMessage.destroy (fuel : Nat) : State → MemoryLogMessage → Option State :=
  MemoryLogMessage.destroyWith x (logMessageInterceptor x fuel)

/-! ## Calls -/

/-- A logging statement. -/
inductive Statement
  /-- `LOG(severity) << text`. -/
  | log (o : Origin) (text : String)
  /-- `MLOG(severity) << text`. -/
  | mlog (o : Origin) (text : String)

/-- Where and when a statement logs. -/
def Statement.origin : Statement → Origin
  | .log o _ => o
  | .mlog o _ => o

/-- What the process can do next. -/
inductive Event
  /-- A logging statement runs. -/
  | statement (s : Statement)
  /-- `MemoryLog::InstallLogInterceptor()`. -/
  | installLogInterceptor
  /-- `MemoryLog::UninstallLogInterceptor()`, at `time`. -/
  | uninstallLogInterceptor (time : LocalTime)
  /-- Other code's `logging::SetLogMessageHandler(h)`. -/
  | setLogMessageHandler (h : Option LogMessageHandler)

/-- The `MLOG(ERROR)` of `UninstallLogInterceptor`, line 84 of `memory_log.cc`. -/
def uninstallErrorOrigin (time : LocalTime) : Origin :=
  ⟨⟨2, by decide⟩, x.memoryLogFile, 84, time⟩

/-- The text of that `MLOG(ERROR)`. -/
def kUninstallErrorText : String :=
  "Tried to uninstall MemoryLog message handler, but found another handler installed over " ++
    "top of MemoryLog\x27s handler.  Leaving all handlers installed."

namespace State

/-- `MemoryLog::InstallLogInterceptor()`. -/
def installLogInterceptor (L : State) : State :=
  { L with nestedMessageHandler := L.logMessageHandler,
           logMessageHandler := some .logMessageInterceptor }

/-- `MemoryLog::UninstallLogInterceptor()`, with `fuel` calls left on the stack. -/
def uninstallLogInterceptor (fuel : Nat) (L : State) (time : LocalTime) : Option State :=
  if L.logMessageHandler = some .logMessageInterceptor then
    some { L with logMessageHandler := L.nestedMessageHandler }
  else
    ((MemoryLogMessage.new (uninstallErrorOrigin x time) true).streamIn
      kUninstallErrorText).destroy x fuel L

/-- One call, with `fuel` calls left on the stack; `none` where it does not return. -/
def step (fuel : Nat) (L : State) : Event → Option State
  | .statement (.log o text) => logMessage x fuel L o text
  | .statement (.mlog o text) => ((MemoryLogMessage.new o true).streamIn text).destroy x fuel L
  | .installLogInterceptor => some L.installLogInterceptor
  | .uninstallLogInterceptor time => L.uninstallLogInterceptor x fuel time
  | .setLogMessageHandler h => some { L with logMessageHandler := h }

/-- A sequence of calls. -/
def run (fuel : Nat) (L : State) (es : List Event) : Option State := es.foldlM (step x fuel) L

end State

/-! ## Lines and prefixes -/

/-- The line the interceptor appends for line `str` with the message at `messageStart`, if
any. -/
def interceptedLine (o : Origin) (messageStart : Nat) (str : String) : Option String :=
  if messageStart < str.length ∧ startsWithMemoryLogPrefix str messageStart = false then
    some (memoryLogHeader o ++ kMemoryLogPrefix ++ cStrAt str messageStart ++ "\n")
  else none

/-- `LOG(severity) << text`'s line in the memory log, with the interceptor installed: none for a
text that starts with `kMemoryLogPrefix`; otherwise the message base logging hands over, newline
included, up to the first NUL, after the header and the prefix, and one more newline. -/
def logEntry (o : Origin) (text : String) : Option String :=
  if kMemoryLogPrefix.data <+: text.data then none
  else some (memoryLogHeader o ++ kMemoryLogPrefix ++ cStrAt (text ++ "\n") 0 ++ "\n")

/-- `MLOG(severity) << text`'s line in the memory log. -/
def mlogEntry (o : Origin) (text : String) : String :=
  memoryLogHeader o ++ kMemoryLogPrefix ++ text ++ "\n"

theorem data_append_drop_length (a b : String) : (a ++ b).data.drop a.length = b.data := by
  rw [String.data_append]; exact List.drop_left' rfl

theorem cStrAt_append_length (a b : String) : cStrAt (a ++ b) a.length = cStrAt b 0 := by
  simp only [cStrAt, data_append_drop_length, List.drop_zero]

theorem startsWithMemoryLogPrefix_append_length (a b : String) :
    startsWithMemoryLogPrefix (a ++ b) a.length = startsWithMemoryLogPrefix b 0 := by
  simp only [startsWithMemoryLogPrefix, data_append_drop_length, List.drop_zero]

/-- The prefix has no NUL, so a C string read from it reads through it. -/
theorem cStrAt_memoryLogPrefix_append (t : String) :
    cStrAt (kMemoryLogPrefix ++ t) 0 = kMemoryLogPrefix ++ cStrAt t 0 := by
  apply String.ext
  simp only [cStrAt, String.data_append, List.drop_zero]
  exact List.takeWhile_append_of_pos (by decide)

theorem startsWithMemoryLogPrefix_memoryLogPrefix_append (t : String) :
    startsWithMemoryLogPrefix (kMemoryLogPrefix ++ t) 0 = true := by
  have hlen : kMemoryLogPrefix.data.length = kMemoryLogPrefixLength := rfl
  simp only [startsWithMemoryLogPrefix, String.data_append, List.drop_zero, List.take_left' hlen,
    beq_self_eq_true]

/-- The prefix does not end in a newline, so base logging's newline does not complete it. -/
theorem memoryLogPrefix_prefix_newline_iff (l : List Char) :
    kMemoryLogPrefix.data <+: l ++ "\n".data ↔ kMemoryLogPrefix.data <+: l := by
  refine List.prefix_concat_iff.trans (or_iff_right fun h => ?_)
  have hmem : "\n".data.head! ∈ kMemoryLogPrefix.data := h ▸ List.mem_append_right _ (by decide)
  exact absurd hmem (by decide)

theorem startsWithMemoryLogPrefix_newline (text : String) :
    startsWithMemoryLogPrefix (text ++ "\n") 0 = true ↔ kMemoryLogPrefix.data <+: text.data := by
  rw [← memoryLogPrefix_prefix_newline_iff, List.prefix_iff_eq_take]
  simp only [startsWithMemoryLogPrefix, String.data_append, List.drop_zero, beq_iff_eq]
  exact eq_comm

/-- On a line of base logging, the interceptor appends what `logEntry` says. -/
theorem interceptedLine_log (o : Origin) (header text : String) :
    interceptedLine o header.length (header ++ text ++ "\n") = logEntry o text := by
  have hlt : header.length < (header ++ (text ++ "\n")).length := by
    have : "\n".length = 1 := rfl
    simp only [String.length_append]; omega
  rw [String.append_assoc, interceptedLine, startsWithMemoryLogPrefix_append_length,
    cStrAt_append_length, logEntry]
  by_cases hp : kMemoryLogPrefix.data <+: text.data
  · simp [hp, (startsWithMemoryLogPrefix_newline text).mpr hp]
  · have hs : startsWithMemoryLogPrefix (text ++ "\n") 0 = false := by
      simpa using mt (startsWithMemoryLogPrefix_newline text).mp hp
    rw [if_pos ⟨hlt, hs⟩, if_neg hp]

/-- On the line of an `MLOG`, the interceptor appends nothing. -/
theorem interceptedLine_memoryLogPrefix (o : Origin) (header t : String) :
    interceptedLine o header.length (header ++ (kMemoryLogPrefix ++ t) ++ "\n") = none := by
  rw [interceptedLine, String.append_assoc, startsWithMemoryLogPrefix_append_length,
    String.append_assoc, startsWithMemoryLogPrefix_memoryLogPrefix_append]
  simp

/-! ## The handlers on one line -/

namespace State

/-- What the installed handler appends for a line: the interceptor's line, or nothing. -/
def handlerLine (L : State) (o : Origin) (messageStart : Nat) (str : String) : Option String :=
  if L.logMessageHandler = some .logMessageInterceptor then interceptedLine o messageStart str
  else none

/-- Whether the handlers take a line: with the interceptor installed, its nested handler
decides. -/
def handlersTake (L : State) (o : Origin) (messageStart : Nat) (str : String) : Bool :=
  x.takes (if L.logMessageHandler = some .logMessageInterceptor then L.nestedMessageHandler
    else L.logMessageHandler) o messageStart str

end State

section Handlers

variable (i : State → Origin → Nat → String → Option (State × Bool)) (L : State) (o : Origin)
  (ms : Nat) (str : String)

@[simp] theorem callHandler_self :
    callHandler x i L (some .logMessageInterceptor) o ms str = i L o ms str := if_pos rfl

theorem callHandler_of_ne {h : Option LogMessageHandler} (hh : h ≠ some .logMessageInterceptor) :
    callHandler x i L h o ms str = some (L, x.takes h o ms str) := if_neg hh

/-- One level of the interceptor: append its line, then call the nested handler. -/
theorem logMessageInterceptor_succ (fuel : Nat) :
    logMessageInterceptor x (fuel + 1) L o ms str =
      ((L.memoryLog.appendAll (interceptedLine o ms str).toList).map fun m =>
        { L with memoryLog := m }).bind fun L =>
          callHandler x (logMessageInterceptor x fuel) L L.nestedMessageHandler o ms str := by
  rw [logMessageInterceptor, interceptedLine]
  by_cases hc : ms < str.length ∧ startsWithMemoryLogPrefix str ms = false
  · simp [hc, MemoryLogMessage.destroyWith, MemoryLogMessage.new, MemoryLogMessage.streamIn,
      State.append]
  · simp [hc]

/-- **The interceptor as its own nested handler never returns**: each level calls the next with
the same line, until the stack runs out. -/
theorem logMessageInterceptor_nested_self {L : State}
    (h : L.nestedMessageHandler = some .logMessageInterceptor) (fuel : Nat) :
    logMessageInterceptor x fuel L o ms str = none := by
  induction fuel generalizing L with
  | zero => rfl
  | succ fuel ih =>
    rw [logMessageInterceptor_succ]
    cases L.memoryLog.appendAll (interceptedLine o ms str).toList with
    | none => rfl
    | some m => simpa [h] using ih (L := { L with memoryLog := m }) h

/-- Over any other nested handler, the interceptor appends its line and returns that handler's
answer. -/
theorem logMessageInterceptor_of_ne {L : State}
    (hn : L.nestedMessageHandler ≠ some .logMessageInterceptor) (fuel : Nat) :
    logMessageInterceptor x (fuel + 1) L o ms str =
      (L.memoryLog.appendAll (interceptedLine o ms str).toList).map fun m =>
        ({ L with memoryLog := m }, x.takes L.nestedMessageHandler o ms str) := by
  rw [logMessageInterceptor_succ]
  cases L.memoryLog.appendAll (interceptedLine o ms str).toList with
  | none => rfl
  | some m => exact callHandler_of_ne x _ _ _ _ _ hn

/-- An interceptor call that returns has appended its line and nothing else. -/
theorem logMessageInterceptor_eq_some {L L' : State} {r : Bool} {fuel : Nat}
    (h : logMessageInterceptor x fuel L o ms str = some (L', r)) :
    ∃ m, L.memoryLog.appendAll (interceptedLine o ms str).toList = some m ∧
      L' = { L with memoryLog := m } := by
  have hn : L.nestedMessageHandler ≠ some .logMessageInterceptor := fun hs => by
    rw [logMessageInterceptor_nested_self x o ms str hs] at h; cases h
  cases fuel with
  | zero => cases h
  | succ fuel =>
    rw [logMessageInterceptor_of_ne x o ms str hn] at h
    obtain ⟨m, hm, he⟩ := Option.map_eq_some'.mp h
    exact ⟨m, hm, (Prod.mk.inj he).1.symm⟩

/-- The installed handler on a line, while the interceptor is not its own nested handler. -/
theorem callHandler_installed {L : State}
    (hn : L.nestedMessageHandler ≠ some .logMessageInterceptor) (fuel : Nat) :
    callHandler x (logMessageInterceptor x (fuel + 1)) L L.logMessageHandler o ms str =
      (L.memoryLog.appendAll (L.handlerLine o ms str).toList).map fun m =>
        ({ L with memoryLog := m }, L.handlersTake x o ms str) := by
  by_cases hh : L.logMessageHandler = some .logMessageInterceptor
  · rw [State.handlerLine, State.handlersTake, if_pos hh, if_pos hh, callHandler, if_pos hh]
    exact logMessageInterceptor_of_ne x o ms str hn fuel
  · simp [State.handlerLine, State.handlersTake, hh, callHandler_of_ne x _ _ _ _ _ hh]

/-- The installed handler on a line, when the call returns. -/
theorem callHandler_eq_some {L L' : State} {r : Bool} {fuel : Nat}
    (h : callHandler x (logMessageInterceptor x fuel) L L.logMessageHandler o ms str =
      some (L', r)) :
    ∃ m, L.memoryLog.appendAll (L.handlerLine o ms str).toList = some m ∧
      L' = { L with memoryLog := m } := by
  by_cases hh : L.logMessageHandler = some .logMessageInterceptor
  · rw [hh, callHandler_self] at h
    simpa [State.handlerLine, hh] using logMessageInterceptor_eq_some x o ms str h
  · rw [callHandler_of_ne x _ _ _ _ _ hh] at h
    cases h
    exact ⟨L.memoryLog, by simp [State.handlerLine, hh], rfl⟩

end Handlers

/-! ## Statements -/

/-- The message base logging gets for a statement: an `MLOG` hands over the C string after its
header, prefix included. -/
def Statement.baseText : Statement → String
  | .log _ text => text
  | .mlog _ text => kMemoryLogPrefix ++ cStrAt text 0

/-- The line base logging makes of a statement. -/
def Statement.line (s : Statement) : String := x.logMessageHeader s.origin ++ s.baseText ++ "\n"

/-- The line a statement appends to the memory log while `h` is the installed handler. -/
def Statement.entry (h : Option LogMessageHandler) : Statement → Option String
  | .log o text => if h = some .logMessageInterceptor then logEntry o text else none
  | .mlog o text => some (mlogEntry o text)

/-- What base logging writes out for a statement: its line, unless the handlers take it. -/
def State.written (L : State) (s : Statement) : List String :=
  if L.handlersTake x s.origin (x.logMessageHeader s.origin).length (s.line x) then []
  else [s.line x]

section Statements

variable {L : State}

/-- Base logging on a message below FATAL, while the interceptor is not its own nested handler:
the installed handler appends its line, and the line is written out unless the handlers take
it. -/
theorem logMessageWith_succ (hn : L.nestedMessageHandler ≠ some .logMessageInterceptor)
    {o : Origin} (hs : o.severity.val < logFatal) (fuel : Nat) (text : String) :
    logMessageWith x (logMessageInterceptor x (fuel + 1)) L o text =
      (L.memoryLog.appendAll (L.handlerLine o (x.logMessageHeader o).length
        (x.logMessageHeader o ++ text ++ "\n")).toList).map fun m =>
          { L with memoryLog := m, output := L.output ++
            if L.handlersTake x o (x.logMessageHeader o).length (x.logMessageHeader o ++ text ++ "\n")
            then [] else [x.logMessageHeader o ++ text ++ "\n"] } := by
  simp only [logMessageWith, callHandler_installed x _ _ _ hn, Option.bind_eq_bind]
  rw [Option.bind_map, Option.map_eq_bind]
  congr 1; funext m
  cases L.handlersTake x o (x.logMessageHeader o).length (x.logMessageHeader o ++ text ++ "\n") <;>
    simp [Int.ne_of_lt hs]

/-- A base-logging message that returns has appended the installed handler's line, and left the
handlers alone. -/
theorem logMessageWith_eq_some {L' : State} {fuel : Nat} {o : Origin} {text : String}
    (h : logMessageWith x (logMessageInterceptor x fuel) L o text = some L') :
    L'.logMessageHandler = L.logMessageHandler ∧
      L'.nestedMessageHandler = L.nestedMessageHandler ∧
      L.memoryLog.appendAll (L.handlerLine o (x.logMessageHeader o).length
        (x.logMessageHeader o ++ text ++ "\n")).toList = some L'.memoryLog := by
  simp only [logMessageWith] at h
  obtain ⟨⟨L₁, taken⟩, h₁, h₂⟩ := Option.bind_eq_some.mp h
  obtain ⟨m, hm, rfl⟩ := callHandler_eq_some x _ _ _ h₁
  split_ifs at h₂ <;> cases h₂ <;> exact ⟨rfl, rfl, hm⟩

/-- An `MLOG`'s message reaches the handlers as a line that starts with the prefix: the
interceptor skips it. -/
theorem handlerLine_memoryLogPrefix (o : Origin) (header t : String) :
    L.handlerLine o header.length (header ++ (kMemoryLogPrefix ++ t) ++ "\n") = none := by
  simp [State.handlerLine, interceptedLine_memoryLogPrefix]

/-- The destructor of an `MLOG`: base logging gets the prefix and the text up to the first NUL,
then the memory log the whole line. -/
theorem destroyWith_mlog (i : State → Origin → Nat → String → Option (State × Bool))
    (o : Origin) (text : String) :
    ((MemoryLogMessage.new o true).streamIn text).destroyWith x i L =
      (logMessageWith x i L o (kMemoryLogPrefix ++ cStrAt text 0)).bind fun L =>
        L.append (mlogEntry o text) := by
  have hc : cStrAt ((MemoryLogMessage.new o true).streamIn text).stream
      ((MemoryLogMessage.new o true).streamIn text).messageStart =
        kMemoryLogPrefix ++ cStrAt text 0 := by
    simp only [MemoryLogMessage.new, MemoryLogMessage.streamIn]
    rw [String.append_assoc, cStrAt_append_length, cStrAt_memoryLogPrefix_append]
  rw [MemoryLogMessage.destroyWith, ← hc]
  rfl

/-- **One statement**, below FATAL, while the interceptor is not its own nested handler: it
appends the statement's line, if any, and base logging writes out what the handlers do not
take. -/
theorem step_statement (hn : L.nestedMessageHandler ≠ some .logMessageInterceptor)
    {s : Statement} (hs : s.origin.severity.val < logFatal) (fuel : Nat) :
    L.step x (fuel + 1) (.statement s) =
      (L.memoryLog.appendAll (s.entry L.logMessageHandler).toList).map fun m =>
        { L with memoryLog := m, output := L.output ++ L.written x s } := by
  cases s with
  | log o text =>
    simp only [State.step, logMessage]
    rw [logMessageWith_succ x hn (o := o) hs]
    simp only [State.handlerLine, interceptedLine_log, Statement.entry]
    rfl
  | mlog o text =>
    simp only [State.step, MemoryLogMessage.destroy, destroyWith_mlog, Option.toList_some,
      MemoryLog.appendAll_singleton, Statement.entry]
    rw [logMessageWith_succ x hn (o := o) hs, handlerLine_memoryLogPrefix]
    simp only [Option.toList_none, MemoryLog.appendAll_nil, Option.map_some', Option.some_bind,
      State.append]
    rfl

/-- A statement that returns, with any handlers and any stack, leaves the handlers alone and
has appended at most one line. -/
theorem step_statement_eq_some {L' : State} {s : Statement} {fuel : Nat}
    (h : L.step x fuel (.statement s) = some L') :
    L'.logMessageHandler = L.logMessageHandler ∧
      L'.nestedMessageHandler = L.nestedMessageHandler ∧
      ∃ line : Option String, L.memoryLog.appendAll line.toList = some L'.memoryLog := by
  cases s with
  | log o text =>
    obtain ⟨h₁, h₂, h₃⟩ := logMessageWith_eq_some x (by simpa [State.step, logMessage] using h)
    exact ⟨h₁, h₂, _, h₃⟩
  | mlog o text =>
    simp only [State.step, MemoryLogMessage.destroy, destroyWith_mlog] at h
    obtain ⟨L₁, h₁, h₂⟩ := Option.bind_eq_some.mp h
    obtain ⟨e₁, e₂, e₃⟩ := logMessageWith_eq_some x h₁
    rw [handlerLine_memoryLogPrefix, Option.toList_none, MemoryLog.appendAll_nil,
      Option.some_inj] at e₃
    obtain ⟨m, hm, rfl⟩ := Option.map_eq_some'.mp h₂
    exact ⟨e₁, e₂, some (mlogEntry o text), by rw [Option.toList_some,
      MemoryLog.appendAll_singleton, e₃, hm]⟩

end Statements

/-! ## Runs of statements -/

/-- Externals for the examples: a bracketed header, and no handler of other code. -/
def sampleExternals : Externals :=
  ⟨fun o => "[" ++ o.file ++ "] ", fun _ _ _ _ _ _ => false, "shill/memory_log.cc"⟩

/-- An `INFO` statement of `shill/wifi.cc`, line 12, at 09:03:07 and 5 microseconds. -/
def sampleOrigin : Origin := ⟨⟨0, by decide⟩, "shill/wifi.cc", 12, ⟨114, 0, 5, 9, 3, 7, 5⟩⟩


theorem State.run_cons (fuel : Nat) (L : State) (e : Event) (es : List Event) :
    L.run x fuel (e :: es) = (L.step x fuel e).bind fun L' => L'.run x fuel es := rfl

/-- While the interceptor is not its own nested handler, a run of statements below FATAL is the
appends of their lines, in order, and the lines written out. -/
theorem run_statements_eq {L : State} (hn : L.nestedMessageHandler ≠ some .logMessageInterceptor)
    (ss : List Statement) (hs : ∀ s ∈ ss, s.origin.severity.val < logFatal) (fuel : Nat) :
    L.run x (fuel + 1) (ss.map .statement) =
      (L.memoryLog.appendAll (ss.filterMap (Statement.entry L.logMessageHandler))).map fun m =>
        { L with memoryLog := m, output := L.output ++ ss.flatMap (L.written x) } := by
  induction ss generalizing L with
  | nil => simp [State.run]
  | cons s ss ih =>
    have hrest : ∀ m, State.run x (fuel + 1)
        { L with memoryLog := m, output := L.output ++ L.written x s } (ss.map .statement) =
          (m.appendAll (ss.filterMap (Statement.entry L.logMessageHandler))).map fun m' =>
            { L with memoryLog := m', output := L.output ++ (L.written x s ++
              ss.flatMap (L.written x)) } := fun m => by
      rw [ih (L := { L with memoryLog := m, output := L.output ++ L.written x s }) hn
        fun s' hs' => hs s' (List.mem_cons_of_mem s hs')]
      simp only [List.append_assoc]
      rfl
    have hfilter : (s :: ss).filterMap (Statement.entry L.logMessageHandler) =
        (s.entry L.logMessageHandler).toList ++ ss.filterMap (Statement.entry L.logMessageHandler) := by
      cases he : s.entry L.logMessageHandler <;> simp [List.filterMap_cons, he]
    rw [List.map_cons, State.run_cons, step_statement x hn (hs s (List.mem_cons_self s ss)),
      hfilter, MemoryLog.appendAll_append, Option.bind_map, Option.map_bind, List.flatMap_cons]
    exact congrArg _ (funext hrest)

/-- The process after `InstallLogInterceptor` at startup. -/
def sampleInstalled : State := (State.init 4096).installLogInterceptor

/-- A `LOG`, an `MLOG`, and a `LOG` whose text starts with the prefix. -/
def sampleStatements : List Statement :=
  [.log sampleOrigin "hello", .mlog sampleOrigin "world", .log sampleOrigin "memlog: lost"]

/-- The interceptor is not its own nested handler, and the memory log keeps its invariant. -/
structure State.Inv (L : State) : Prop where
  nested_ne : L.nestedMessageHandler ≠ some .logMessageInterceptor
  memoryLog_inv : L.memoryLog.Inv

/-- **Each statement once, in order.** From a state of the invariant, a run of `LOG` and `MLOG`
statements below FATAL returns, with any stack. It appends to the memory log the statements'
lines in order: one per `MLOG`, and, with the interceptor installed, one per `LOG` whose text
does not start with `kMemoryLogPrefix`; base logging writes out each line the handlers do not
take. -/
theorem run_statements {L : State} (hi : L.Inv) (ss : List Statement)
    (hs : ∀ s ∈ ss, s.origin.severity.val < logFatal) (fuel : Nat) :
    ∃ m, L.memoryLog.appendAll (ss.filterMap (Statement.entry L.logMessageHandler)) = some m ∧
      L.run x (fuel + 1) (ss.map .statement) =
        some { L with memoryLog := m, output := L.output ++ ss.flatMap (L.written x) } := by
  obtain ⟨m, hm, -⟩ :=
    hi.memoryLog_inv.appendAll (ss.filterMap (Statement.entry L.logMessageHandler))
  exact ⟨m, hm, by rw [run_statements_eq x hi.nested_ne ss hs fuel, hm]; rfl⟩

theorem run_statements_installed :
    sampleInstalled.Inv ∧ (∀ s ∈ sampleStatements, s.origin.severity.val < logFatal) ∧
      ∃ m, sampleInstalled.memoryLog.appendAll
          (sampleStatements.filterMap (Statement.entry sampleInstalled.logMessageHandler)) =
            some m ∧
        sampleInstalled.run sampleExternals 1 (sampleStatements.map .statement) =
          some { sampleInstalled with memoryLog := m, output := (sampleInstalled.output ++
            sampleStatements.flatMap (sampleInstalled.written sampleExternals)) } :=
  have hi : sampleInstalled.Inv := ⟨by decide, MemoryLog.inv_new 4096⟩
  ⟨hi, by decide, run_statements sampleExternals hi _ (by decide) 0⟩

/- The line of a `LOG` keeps base logging's newline and gets one more, a `LOG` text that starts
with the prefix is lost, and the microseconds are not padded. -/
example : (sampleInstalled.run sampleExternals 1 (sampleStatements.map .statement)).map
      (·.memoryLog.log) =
    some ["2014-01-05T09:03:07.5 INFO:/wifi.cc(12) memlog: hello\n\n",
      "2014-01-05T09:03:07.5 INFO:/wifi.cc(12) memlog: world\n"] := by
  rfl

/-- **A statement appends at most one line**, whatever handlers are installed: a `LOG` or
`MLOG` statement that returns has appended nothing or one line to the memory log. -/
theorem statement_appends_at_most_once {L L' : State} {s : Statement} {fuel : Nat}
    (h : L.step x fuel (.statement s) = some L') :
    ∃ line : Option String, L.memoryLog.appendAll line.toList = some L'.memoryLog :=
  (step_statement_eq_some x h).2.2

theorem mlog_appends_at_most_once :
    ∃ L', sampleInstalled.step sampleExternals 1 (.statement (.mlog sampleOrigin "world")) =
        some L' ∧ ∃ line : Option String,
          sampleInstalled.memoryLog.appendAll line.toList = some L'.memoryLog :=
  have h : sampleInstalled.step sampleExternals 1 (.statement (.mlog sampleOrigin "world")) =
      some _ := rfl
  ⟨_, h, statement_appends_at_most_once sampleExternals h⟩

/-- Base logging, with the interceptor installed as its own nested handler, never returns. -/
theorem logMessageWith_nested_self {L : State}
    (hh : L.logMessageHandler = some .logMessageInterceptor)
    (hn : L.nestedMessageHandler = some .logMessageInterceptor) (fuel : Nat) (o : Origin)
    (text : String) : logMessageWith x (logMessageInterceptor x fuel) L o text = none := by
  simp only [logMessageWith, hh, callHandler_self, logMessageInterceptor_nested_self x _ _ _ hn]
  rfl

/-- **Installing twice never returns.** `InstallLogInterceptor` keeps no check: called again, it
makes the interceptor its own nested handler, and from then on no `LOG` or `MLOG` statement
returns, whatever the stack. -/
theorem installLogInterceptor_twice (L : State) (s : Statement) (fuel : Nat) :
    L.installLogInterceptor.installLogInterceptor.step x fuel (.statement s) = none := by
  have hl := logMessageWith_nested_self x (L := L.installLogInterceptor.installLogInterceptor)
    rfl rfl fuel
  cases s with
  | log o text => exact hl o text
  | mlog o text =>
    simp only [State.step, MemoryLogMessage.destroy, destroyWith_mlog, hl]
    rfl

/-! ## Runs from startup -/

/-- What the process may do: log below FATAL, and install the interceptor only where it is not
the installed handler. -/
def Allowed (L : State) : Event → Prop
  | .statement s => s.origin.severity.val < logFatal
  | .installLogInterceptor => L.logMessageHandler ≠ some .logMessageInterceptor
  | .uninstallLogInterceptor _ => True
  | .setLogMessageHandler _ => True

instance (L : State) (e : Event) : Decidable (Allowed L e) := by
  cases e <;> unfold Allowed <;> infer_instance

/-- The states reachable from startup by allowed calls, with any stack. -/
inductive Reach (defaultMax : Nat) : State → Prop
  | init : Reach defaultMax (State.init defaultMax)
  | step {L L' : State} {e : Event} {fuel : Nat} :
      Reach defaultMax L → Allowed L e → L.step x fuel e = some L' → Reach defaultMax L'

/-- The failing branch of `UninstallLogInterceptor` is an `MLOG(ERROR)` statement. -/
theorem State.uninstallLogInterceptor_eq (fuel : Nat) (L : State) (time : LocalTime) :
    L.uninstallLogInterceptor x fuel time =
      if L.logMessageHandler = some .logMessageInterceptor then
        some { L with logMessageHandler := L.nestedMessageHandler }
      else L.step x fuel (.statement (.mlog (uninstallErrorOrigin x time) kUninstallErrorText)) :=
  rfl

theorem State.Inv.step {L L' : State} (hi : L.Inv) {e : Event} (he : Allowed L e) {fuel : Nat}
    (h : L.step x fuel e = some L') : L'.Inv := by
  cases e with
  | statement s =>
    obtain ⟨-, hn, line, hm⟩ := step_statement_eq_some x h
    exact ⟨hn ▸ hi.nested_ne, hi.memoryLog_inv.of_appendAll hm⟩
  | installLogInterceptor =>
    cases h
    exact ⟨he, hi.memoryLog_inv⟩
  | uninstallLogInterceptor time =>
    rw [State.step, State.uninstallLogInterceptor_eq] at h
    split at h
    · cases h
      exact ⟨hi.nested_ne, hi.memoryLog_inv⟩
    · obtain ⟨-, hn, line, hm⟩ := step_statement_eq_some x h
      exact ⟨hn ▸ hi.nested_ne, hi.memoryLog_inv.of_appendAll hm⟩
  | setLogMessageHandler h' =>
    cases h
    exact ⟨hi.nested_ne, hi.memoryLog_inv⟩

theorem Reach.inv {defaultMax : Nat} {L : State} (h : Reach x defaultMax L) : L.Inv := by
  induction h with
  | init => exact ⟨by simp [State.init], MemoryLog.inv_new defaultMax⟩
  | step _ he hs ih => exact ih.step x he hs

/-- A statement below FATAL returns from a state of the invariant. -/
theorem State.Inv.statement_returns {L : State} (hi : L.Inv) {s : Statement}
    (hs : s.origin.severity.val < logFatal) (fuel : Nat) :
    ∃ L', L.step x (fuel + 1) (.statement s) = some L' := by
  obtain ⟨m, hm, -⟩ := hi.memoryLog_inv.appendAll (s.entry L.logMessageHandler).toList
  exact ⟨_, by rw [step_statement x hi.nested_ne hs, hm]; rfl⟩

/-- **Every allowed call returns.** From startup, as long as `InstallLogInterceptor` is not
called while the interceptor is installed, every call below FATAL returns with any stack: no
handler chain recurses without end, and no `Append` faults. -/
theorem Reach.step_returns {defaultMax : Nat} {L : State} (h : Reach x defaultMax L) {e : Event}
    (he : Allowed L e) (fuel : Nat) : ∃ L', L.step x (fuel + 1) e = some L' := by
  have hi := h.inv
  cases e with
  | statement s => exact hi.statement_returns x he fuel
  | installLogInterceptor => exact ⟨_, rfl⟩
  | uninstallLogInterceptor time =>
    rw [State.step, State.uninstallLogInterceptor_eq]
    split
    · exact ⟨_, rfl⟩
    · exact hi.statement_returns x (by simp [Statement.origin, uninstallErrorOrigin, logFatal]) fuel
  | setLogMessageHandler h' => exact ⟨_, rfl⟩

theorem log_returns_after_install :
    Reach sampleExternals 4096 (State.init 4096).installLogInterceptor ∧
      Allowed (State.init 4096).installLogInterceptor (.statement (.log sampleOrigin "hello")) ∧
      ∃ L', (State.init 4096).installLogInterceptor.step sampleExternals 1
        (.statement (.log sampleOrigin "hello")) = some L' :=
  have hr : Reach sampleExternals 4096 (State.init 4096).installLogInterceptor :=
    .step .init (by decide)
      (rfl : (State.init 4096).step sampleExternals 0 .installLogInterceptor = _)
  ⟨hr, by decide, Reach.step_returns sampleExternals hr (by decide) 0⟩

/-- **The memory log stays bounded in the whole process.** After any allowed run from startup
(statements below FATAL, installs, uninstalls and other code's handlers, in any order),
whatever the other handlers take, a `FlushToDisk` whose file opens and whose writes all
complete returns `current_size_bytes_`, which is within `maximum_size_bytes_`. -/
theorem Reach.flushToDisk_within_maximum {defaultMax : Nat} {L : State}
    (h : Reach x defaultMax L) {file : MemoryLog.DiskFile} (hopen : file.opens = true)
    (hw : ∀ i msg, file.fwrite i msg = (size msg, false)) :
    L.memoryLog.flushToDisk file = L.memoryLog.currentSizeBytes ∧
      L.memoryLog.currentSizeBytes ≤ L.memoryLog.maximumSizeBytes :=
  (h.inv x).memoryLog_inv.flushToDisk_eq_currentSizeBytes hopen hw

/-- The process after `InstallLogInterceptor` and a `LOG` at startup. -/
def sampleLogged : State :=
  { sampleInstalled with
    memoryLog := (⟨4096, 55, ["2014-01-05T09:03:07.5 INFO:/wifi.cc(12) memlog: hello\n\n"]⟩),
    output := ["[shill/wifi.cc] hello\n"] }

theorem flushToDisk_after_log :
    Reach sampleExternals 4096 sampleLogged ∧ MemoryLog.completeFile.opens = true ∧
      (∀ i msg, MemoryLog.completeFile.fwrite i msg = (size msg, false)) ∧
      (sampleLogged.memoryLog.flushToDisk MemoryLog.completeFile =
          sampleLogged.memoryLog.currentSizeBytes ∧
        sampleLogged.memoryLog.currentSizeBytes ≤ sampleLogged.memoryLog.maximumSizeBytes) :=
  have hr : Reach sampleExternals 4096 sampleLogged :=
    .step (.step .init (by decide)
        (rfl : (State.init 4096).step sampleExternals 0 .installLogInterceptor = _))
      (by decide)
      (rfl : sampleInstalled.step sampleExternals 1 (.statement (.log sampleOrigin "hello")) = _)
  ⟨hr, rfl, fun _ _ => rfl, Reach.flushToDisk_within_maximum sampleExternals hr rfl fun _ _ => rfl⟩

end Logging

end Shill
