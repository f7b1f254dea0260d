import AsyncLog.Output.Sink
import AsyncLog.Queue.Basic
/-!
# The state of a log writer

Any number of producers push entries, one drain thread moves them from the
queue to the output, and the owner shuts the writer down.  Each of them is
described by the place it has reached, and everything they share is here: the
queue, the flag that keeps the drain thread going, the counters, and the output,
which belongs to the drain thread until the owner gets it back.

The trace tells what happened so far, the latest first.  Nothing in the writer
depends on it.
-/

namespace AsyncLog

/-- A listener that makes an entry for this writer of every event it hears; all
its lines carry the same time stamp. -/
structure Listener where
  level : Level
  stamp : String
  deriving DecidableEq, Repr

/-- Where a thread stands in a push: before its decision, asleep until there is
room, or between its decision and the counting of the answer. -/
inductive PushPhase where
  | idle
  | offering (entry : Entry)
  | blocked (entry : Entry)
  | counting (outcome : Push)
  deriving DecidableEq, Repr

def PushPhase.unanswered : PushPhase -> List Entry
  | .offering e | .blocked e => [e]
  | .idle | .counting _ => []

/-- Where a thread stands in moving entries to the output.

The entries of one detached backlog are written one after the other.  Each of
them goes through the write calls for the bytes not yet taken, the return of
the write, its settlement, and the counting of the result; one flush follows.  A
panic of the output leaves behind the entry being written and those after it.
-/
inductive Stage where
  | taking
  | detached (batch : List Entry)
  | between (left : List Entry)
  | writing (entry : Entry) (rest : List UInt8) (effort : Effort) (left : List Entry)
  | returned (entry : Entry) (error : Option IoError) (left : List Entry)
  | settled (entry : Entry) (error : Option IoError) (left : List Entry)
  | flushing (effort : Effort)
  | flushGivenUp (error : IoError)
  | done
  | panicked (left : List Entry)
  deriving DecidableEq

namespace Stage

def uncounted : Stage -> List Entry
  | .detached batch => batch
  | .between left => left
  | .writing entry _ _ left | .returned entry _ left | .settled entry _ left => entry :: left
  | .panicked left => left
  | .taking | .flushing _ | .flushGivenUp _ | .done => []

/-- Entries of the detached backlog whose write has not been settled, from the
announcement of the backlog on. -/
def unsettled : Stage -> List Entry
  | .between left | .settled _ _ left => left
  | .writing entry _ _ left | .returned entry _ left => entry :: left
  | .panicked left => left
  | .taking | .detached _ | .flushing _ | .flushGivenUp _ | .done => []

def callsNext : Stage -> Bool
  | .writing _ _ _ _ | .flushing _ => true
  | _ => false

end Stage

/-- Where the drain thread stands.  It looks at the flag, waits for entries,
moves what is queued, and looks again. -/
inductive DrainPhase where
  | starting
  | checking
  | waiting
  | draining (stage : Stage)
  | stopping
  | stopped
  | panicked (left : List Entry)
  deriving DecidableEq

namespace DrainPhase

def hasEnded : DrainPhase -> Bool
  | .stopped | .panicked _ => true
  | _ => false

def stage : DrainPhase -> Stage
  | .draining stage => stage
  | .panicked left => .panicked left
  | _ => .done

/-- Where the thread stands once a step has led to a stage: it looks at the flag
again when all is moved, and a panic of the output ends it. -/
def after : Stage -> DrainPhase
  | .done => .checking
  | .panicked left => .panicked left
  | stage => .draining stage

theorem uncounted_after (stage : Stage) : (after stage).stage.uncounted = stage.uncounted := by
  cases stage <;> rfl

theorem unsettled_after (stage : Stage) : (after stage).stage.unsettled = stage.unsettled := by
  cases stage <;> rfl

end DrainPhase

/-- Where the owner stands.  Shutting down clears the flag, closes the queue,
joins the drain thread, moves what is left to the output or takes what a panic
left behind and counts it, reads the counters, and reports them. -/
inductive OwnerPhase where
  | inUse
  | closing
  | joining
  | finishing (stage : Stage)
  | recovering
  | abandoning (queued : List Entry)
  | reportingLoss (push : PushPhase)
  | summing
  | reportingEnd (stats : Stats) (push : PushPhase)
  | finished (stats : Stats)
  | unwound (left : List Entry)
  deriving DecidableEq

namespace OwnerPhase

def stage : OwnerPhase -> Stage
  | .finishing stage => stage
  | .unwound left => .panicked left
  | _ => .done

def uncounted : OwnerPhase -> List Entry
  | .abandoning queued => queued
  | phase => phase.stage.uncounted

def push : OwnerPhase -> PushPhase
  | .reportingLoss push | .reportingEnd _ push => push
  | _ => .idle

/-- Where the owner stands once a step of the final pass has led to a stage. -/
def after : Stage -> OwnerPhase
  | .done => .summing
  | .panicked left => .unwound left
  | stage => .finishing stage

theorem uncounted_after (stage : Stage) : (after stage).uncounted = stage.uncounted := by
  cases stage <;> rfl

theorem unsettled_after (stage : Stage) : (after stage).stage.unsettled = stage.unsettled := by
  cases stage <;> rfl

theorem push_after (stage : Stage) : (after stage).push = .idle := by
  cases stage <;> rfl

end OwnerPhase

/-- Who hands an entry over: a producer, or the listener, which makes an entry of
every report that it hears. -/
inductive Source where
  | producer (number : Nat)
  | listener
  deriving DecidableEq, Repr

/-- What happens in a run: an entry is handed over and answered, with the entry
that had to give way for it, or it is refused at once; a backlog is detached; a
detached entry is counted as written or as failed; what a panic left behind is
given up; and whatever happens at the output. -/
inductive Incident where
  | handed (source : Source) (entry : Entry)
  | answered (source : Source) (entry : Entry) (outcome : Push) (displaced : Option Entry)
  | refused (source : Source) (entry : Entry)
  | detached (batch : List Entry)
  | counted (entry : Entry) (error : Option IoError)
  | abandoned (entries : List Entry)
  | output (happening : Happening)
  deriving DecidableEq

namespace Incident

def happening? : Incident -> Option Happening
  | .output happening => some happening
  | _ => none

end Incident

structure Writer where
  config : Config
  queue : Queue
  active : Bool := true
  counters : Counters := {}
  output : Output
  listener : Option Listener := none
  producers : List PushPhase
  drain : DrainPhase := .starting
  owner : OwnerPhase := .inUse
  trace : List Incident := []

namespace Writer

def start (config : Config) (script : Script) (producers : Nat) : Writer where
  config := config
  queue := { capacity := config.capacity, overflow := config.overflow }
  output := { script := script }
  producers := List.replicate producers .idle

def stats (w : Writer) : Stats := w.counters.stats

def pending (w : Writer) : Nat := w.queue.entries.length

def record (w : Writer) (i : Incident) : Writer :=
  { w with trace := i :: w.trace }

def happenings (w : Writer) : List Happening :=
  w.trace.reverse.filterMap Incident.happening?

def happenedSince (w earlier : Writer) : List Happening :=
  (w.trace.take (w.trace.length - earlier.trace.length)).reverse.filterMap Incident.happening?

def calls (w : Writer) : List Call :=
  w.happenings.filterMap Happening.call?

def reports (w : Writer) : List Diagnostic :=
  w.happenings.filterMap Happening.report?

def written (w : Writer) : List UInt8 :=
  received w.calls

/-!
## Reports

A report of a thread that is writing to the output is never queued: if the
listener hears it, it only counts as rejected.
-/

/-- An entry is handed over on a thread that is writing to an output: it is
refused without a look at the queue. -/
def refuseEntry (w : Writer) (source : Source) (e : Entry) : Writer :=
  { w with counters := w.counters.countRejected }.record (.refused source e)

def lineOf? (w : Writer) (d : Diagnostic) : Option Entry :=
  match w.listener with
  | none => none
  | some l => if l.level.admits d.level then some (d.event.line l.stamp) else none

def refuse (w : Writer) (d : Diagnostic) : Writer :=
  match w.lineOf? d with
  | none => w
  | some line => w.refuseEntry .listener line

def happen (w : Writer) (h : Happening) : Writer :=
  let w := w.record (.output h)
  match h with
  | .reported d => w.refuse d
  | .called _ | .paused _ => w

def happenAll (w : Writer) (hs : List Happening) : Writer :=
  hs.foldl happen w

/-- A report of a thread that is not writing, and the push it may lead to. -/
def announce (w : Writer) (d : Diagnostic) : Writer × PushPhase :=
  let w := w.record (.output (.reported d))
  match w.lineOf? d with
  | none => (w, .idle)
  | some line => (w.record (.handed .listener line), .offering line)

end Writer

end AsyncLog
