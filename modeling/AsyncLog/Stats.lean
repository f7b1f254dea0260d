import AsyncLog.Config.Basic
/-!
# Counters

What became of the entries handed to a writer.  All counts are 64-bit words and
wrap around.
-/

namespace AsyncLog

/-- A reading of the counters: entries accepted into the queue, written in full,
discarded by the overflow policy, given up after failed writes, refused after
the queue was closed, and flushes that were given up. -/
structure Stats where
  appended : UInt64 := 0
  written : UInt64 := 0
  dropped : UInt64 := 0
  failed : UInt64 := 0
  rejected : UInt64 := 0
  flushFailures : UInt64 := 0
  deriving DecidableEq, Repr, Inhabited

namespace Stats

def lost (s : Stats) : UInt64 :=
  s.dropped + s.failed + s.rejected

def text (s : Stats) : String :=
  recordText "WriterStats" [
    ("appended", toString s.appended.toNat),
    ("written", toString s.written.toNat),
    ("dropped", toString s.dropped.toNat),
    ("failed", toString s.failed.toNat),
    ("rejected", toString s.rejected.toNat),
    ("flush_failures", toString s.flushFailures.toNat)]

end Stats

/-- The counters of a writer, with the number of detached entries whose write
has not come to an end. -/
structure Counters where
  stats : Stats := {}
  inFlight : UInt64 := 0
  deriving DecidableEq, Repr, Inhabited

namespace Counters

def countAppended (c : Counters) : Counters :=
  { c with stats := { c.stats with appended := c.stats.appended + 1 } }

def countWritten (c : Counters) : Counters :=
  { c with stats := { c.stats with written := c.stats.written + 1 } }

def countDropped (c : Counters) : Counters :=
  { c with stats := { c.stats with dropped := c.stats.dropped + 1 } }

def countFailed (c : Counters) (n : UInt64) : Counters :=
  { c with stats := { c.stats with failed := c.stats.failed + n } }

def countRejected (c : Counters) : Counters :=
  { c with stats := { c.stats with rejected := c.stats.rejected + 1 } }

def countFlushFailure (c : Counters) : Counters :=
  { c with stats := { c.stats with flushFailures := c.stats.flushFailures + 1 } }

def countDetached (c : Counters) (n : UInt64) : Counters :=
  { c with inFlight := n }

def countSettled (c : Counters) : Counters :=
  { c with inFlight := c.inFlight - 1 }

/-- Give up the entries still in flight, and tell how many there were. -/
def abandonInFlight (c : Counters) : UInt64 × Counters :=
  (c.inFlight, { c with inFlight := 0 })

end Counters

end AsyncLog
