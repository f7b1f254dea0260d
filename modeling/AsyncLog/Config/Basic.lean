import AsyncLog.Config.Mode
/-!
# Configuration of a log writer

A configuration is built from settings, each of which replaces what an earlier
one said about the same field.  Building refuses a queue without room and a
drain thread that never waits, so every configuration has both.
-/

namespace AsyncLog

inductive Capacity where
  | bounded (entries : Nat)
  | unbounded
  deriving DecidableEq, Repr

def Capacity.limit : Capacity -> Option Nat
  | .bounded entries => some entries
  | .unbounded => none

/-- A validated configuration: a bounded queue has room for an entry and the
poll interval is not zero. -/
structure Config where
  openMode : OpenMode
  pollInterval : Duration
  capacity : Option Nat
  overflow : OverflowPolicy
  drainMode : DrainMode
  writeRetries : UInt32
  retryBackoff : Duration
  capacity_ne_zero : capacity ≠ some 0
  pollInterval_ne_zero : pollInterval.isZero = false
  deriving DecidableEq

def Config.default : Config where
  openMode := .truncate
  pollInterval := { secs := 0, nanos := 1000000 }
  capacity := some 65536
  overflow := .dropNewest
  drainMode := .batch
  writeRetries := 3
  retryBackoff := { secs := 0, nanos := 1000000 }
  capacity_ne_zero := by decide
  pollInterval_ne_zero := by decide

instance : Inhabited Config := ⟨Config.default⟩

structure Builder where
  openMode : Option OpenMode := none
  pollInterval : Option Duration := none
  capacity : Capacity := .bounded 65536
  overflow : Option OverflowPolicy := none
  drainMode : Option DrainMode := none
  writeRetries : Option UInt32 := none
  retryBackoff : Option Duration := none
  deriving DecidableEq

/-- One choice for one field; the two about the capacity concern the same field. -/
inductive Setting where
  | openMode (mode : OpenMode)
  | pollInterval (interval : Duration)
  | capacity (entries : Nat)
  | unbounded
  | overflow (policy : OverflowPolicy)
  | drainMode (mode : DrainMode)
  | writeRetries (retries : UInt32)
  | retryBackoff (backoff : Duration)
  deriving DecidableEq

namespace Builder

def set (b : Builder) : Setting -> Builder
  | .openMode mode => { b with openMode := some mode }
  | .pollInterval interval => { b with pollInterval := some interval }
  | .capacity entries => { b with capacity := .bounded entries }
  | .unbounded => { b with capacity := .unbounded }
  | .overflow policy => { b with overflow := some policy }
  | .drainMode mode => { b with drainMode := some mode }
  | .writeRetries retries => { b with writeRetries := some retries }
  | .retryBackoff backoff => { b with retryBackoff := some backoff }

def setAll (b : Builder) (settings : List Setting) : Builder :=
  settings.foldl set b

@[simp] theorem setAll_nil (b : Builder) : b.setAll [] = b := rfl

@[simp] theorem setAll_cons (b : Builder) (s : Setting) (rest : List Setting) :
    b.setAll (s :: rest) = (b.set s).setAll rest := rfl

inductive Error where
  | zeroCapacity
  | zeroPollInterval
  deriving DecidableEq, Repr

def Error.message : Error -> String
  | .zeroCapacity => "queue capacity must be at least 1"
  | .zeroPollInterval => "poll interval must be non-zero"

def effectivePoll (b : Builder) : Duration :=
  b.pollInterval.getD Config.default.pollInterval

/-- The configuration of the settings so far; a queue without room is refused
before a poll interval of zero is. -/
def build (b : Builder) : Except Error Config :=
  if hcapacity : b.capacity.limit = some 0 then .error .zeroCapacity
  else if hpoll : b.effectivePoll.isZero = true then .error .zeroPollInterval
  else .ok {
    openMode := b.openMode.getD Config.default.openMode
    pollInterval := b.effectivePoll
    capacity := b.capacity.limit
    overflow := b.overflow.getD Config.default.overflow
    drainMode := b.drainMode.getD Config.default.drainMode
    writeRetries := b.writeRetries.getD Config.default.writeRetries
    retryBackoff := b.retryBackoff.getD Config.default.retryBackoff
    capacity_ne_zero := hcapacity
    pollInterval_ne_zero := by simpa using hpoll }

end Builder

/-!
## Text of a configuration
-/

def optionText (text : α -> String) : Option α -> String
  | none => "None"
  | some a => "Some(" ++ text a ++ ")"

def recordText (name : String) (fields : List (String × String)) : String :=
  name ++ " \x7b " ++ ", ".intercalate (fields.map fun field => field.1 ++ ": " ++ field.2) ++ " \x7d"

def Config.text (c : Config) : String :=
  recordText "WriterConfig" [
    ("open_mode", c.openMode.text),
    ("poll_interval", c.pollInterval.text),
    ("capacity", optionText toString c.capacity),
    ("overflow", c.overflow.text),
    ("drain_mode", c.drainMode.text),
    ("write_retries", toString c.writeRetries.toNat),
    ("retry_backoff", c.retryBackoff.text)]

end AsyncLog
