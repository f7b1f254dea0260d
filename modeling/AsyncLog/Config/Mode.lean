import AsyncLog.Duration
import AsyncLog.Text.Case
/-!
# Modes of a log writer

How the log file is opened, what happens to an entry that finds the queue full,
and how many entries are detached at a time.  Each mode is written as a keyword,
whose letters may be of either case.
-/

namespace AsyncLog

inductive OpenMode where
  | append
  | truncate
  deriving DecidableEq, Repr

/-- What becomes of an entry that finds the queue full: the oldest queued entry
gives way, the new one is discarded, or the new one is discarded after a wait
for room that lasts at most so long. -/
inductive OverflowPolicy where
  | dropOldest
  | dropNewest
  | block (limit : Duration)
  deriving DecidableEq

/-- Whether the whole backlog is detached at once or one entry at a time. -/
inductive DrainMode where
  | batch
  | perEntry
  deriving DecidableEq, Repr

inductive KeywordError where
  | openMode (text : String)
  | overflow (text : String)
  | drainMode (text : String)
  deriving DecidableEq, Repr

def KeywordError.message : KeywordError -> String
  | .openMode text => "unknown open mode '" ++ text ++ "'"
  | .overflow text => "unknown overflow policy '" ++ text ++ "'"
  | .drainMode text => "unknown drain mode '" ++ text ++ "'"

/-!
## Keywords
-/

def OpenMode.ofKeyword (text : List Char) : Except KeywordError OpenMode :=
  let word := String.ofList (Text.lowerCase text)
  if word = "append" then .ok .append
  else if word = "truncate" then .ok .truncate
  else .error (.openMode word)

def OverflowPolicy.defaultLimit : Duration := { secs := 0, nanos := 10000000 }

def OverflowPolicy.ofKeyword (text : List Char) : Except KeywordError OverflowPolicy :=
  let word := String.ofList (Text.lowerCase text)
  if word = "drop-oldest" ∨ word = "drop_oldest" then .ok .dropOldest
  else if word = "drop-newest" ∨ word = "drop_newest" then .ok .dropNewest
  else if word = "block" then .ok (.block defaultLimit)
  else .error (.overflow word)

def DrainMode.ofKeyword (text : List Char) : Except KeywordError DrainMode :=
  let word := String.ofList (Text.lowerCase text)
  if word = "batch" then .ok .batch
  else if word = "per-entry" ∨ word = "per_entry" then .ok .perEntry
  else .error (.drainMode word)

/-!
## Names in reports
-/

def OpenMode.text : OpenMode -> String
  | .append => "Append"
  | .truncate => "Truncate"

def OverflowPolicy.text : OverflowPolicy -> String
  | .dropOldest => "DropOldest"
  | .dropNewest => "DropNewest"
  | .block limit => "Block(" ++ limit.text ++ ")"

def DrainMode.text : DrainMode -> String
  | .batch => "Batch"
  | .perEntry => "PerEntry"

end AsyncLog
