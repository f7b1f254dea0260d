import AsyncLog.Config.Environment
import AsyncLog.Output.Error
import AsyncLog.Report.Event
import AsyncLog.Stats
/-!
# Diagnostics

What the library reports about itself: values it ignored, outputs it opens,
writes it repeats or gives up, and the life of the drain thread.
-/

namespace AsyncLog

inductive Diagnostic where
  | valueIgnored (value : IgnoredValue)
  | openingOutput (path : String) (config : Config)
  | threadStarted
  | retrying (attempt : UInt32) (error : IoError)
  | entryFailed (error : IoError) (bytes : Nat)
  | flushFailed (error : IoError)
  | threadStopping
  | threadPanicked (lost : UInt64)
  | shutDown (stats : Stats)
  deriving DecidableEq

namespace Diagnostic

def level : Diagnostic -> Level
  | .valueIgnored _ => .warn
  | .openingOutput _ _ => .debug
  | .threadStarted => .trace
  | .retrying _ _ => .debug
  | .entryFailed _ _ => .warn
  | .flushFailed _ => .warn
  | .threadStopping => .trace
  | .threadPanicked _ => .error
  | .shutDown _ => .trace

/-- Diagnostics of a thread that is writing to the output, the drain thread or
the thread that makes the final pass; the others come from callers. -/
def whileDraining : Diagnostic -> Bool
  | .threadStarted | .retrying _ _ | .entryFailed _ _ | .flushFailed _ | .threadStopping => true
  | .valueIgnored _ | .openingOutput _ _ | .threadPanicked _ | .shutDown _ => false

def target : Diagnostic -> String
  | .valueIgnored _ => "botlog::configuration"
  | .retrying _ _ => "botlog::sink"
  | _ => "botlog::log_writer"

def span : Diagnostic -> Option String
  | .openingOutput _ _ => some "with_config"
  | _ => none

def message : Diagnostic -> String
  | .valueIgnored value =>
      "ignoring " ++ value.key.name ++ "=" ++ Text.quote value.raw ++ ": " ++ value.cause.message
  | .openingOutput _ _ => "opening log sink"
  | .threadStarted => "log writer thread started"
  | .retrying _ _ => "log sink write failed, retrying"
  | .entryFailed _ _ => "dropping log entry after failed write"
  | .flushFailed _ => "log sink flush failed"
  | .threadStopping => "log writer thread stopping"
  | .threadPanicked _ => "log writer thread panicked, queued entries lost"
  | .shutDown _ => "log writer shut down"

def fields : Diagnostic -> List Field
  | .valueIgnored _ => []
  | .openingOutput path config => [⟨"path", .shown path⟩, ⟨"config", .shown config.text⟩]
  | .threadStarted => []
  | .retrying attempt error => [⟨"attempt", .int attempt.toNat⟩, ⟨"error", .shown error.message⟩]
  | .entryFailed error bytes => [⟨"error", .shown error.message⟩, ⟨"bytes", .int bytes⟩]
  | .flushFailed error => [⟨"error", .shown error.message⟩]
  | .threadStopping => []
  | .threadPanicked lost => [⟨"lost", .int lost.toNat⟩]
  | .shutDown stats => [⟨"stats", .shown stats.text⟩]

def event (d : Diagnostic) : Event where
  level := d.level
  span := d.span
  target := d.target
  message := d.message
  fields := d.fields

end Diagnostic

end AsyncLog
