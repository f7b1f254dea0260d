import AsyncLog.Writer.Step
/-!
# The history of a writer

What the trace of a run tells about its entries, in the order in which it
happened: who handed them over, how they were answered, how they left the queue,
and what became of those that were detached from it.
-/

namespace AsyncLog

structure Answer where
  source : Source
  entry : Entry
  outcome : Push
  deriving DecidableEq, Repr

/-- What becomes of a detached entry: it is written, it is given up after a failed
call, or a panic leaves it behind. -/
inductive Ending where
  | written
  | failed (error : IoError)
  | abandoned
  deriving DecidableEq, Repr

namespace Ending

def ofError? : Option IoError -> Ending
  | none => .written
  | some error => .failed error

def isWritten : Ending -> Bool
  | .written => true
  | .failed _ | .abandoned => false

end Ending

structure Result where
  entry : Entry
  ending : Ending
  deriving DecidableEq, Repr

/-!
## What one incident tells
-/

namespace Incident

def handovers : Incident -> List (Source × Entry)
  | .handed source e | .refused source e => [(source, e)]
  | _ => []

def answers : Incident -> List Answer
  | .answered source e outcome _ => [⟨source, e, outcome⟩]
  | .refused source e => [⟨source, e, .rejected⟩]
  | _ => []

def refusals : Incident -> List (Source × Entry)
  | .refused source e => [(source, e)]
  | _ => []

def departures : Incident -> List Departure
  | .answered _ _ _ displaced => displaced.toList.map .displaced
  | .detached batch => batch.map .detached
  | _ => []

def results : Incident -> List Result
  | .counted e error => [⟨e, .ofError? error⟩]
  | .abandoned entries => entries.map fun e => ⟨e, .abandoned⟩
  | _ => []

attribute [simp] handovers answers refusals departures results

end Incident

/-!
## What a run tells
-/

namespace Writer

def chronicle (w : Writer) (tell : Incident -> List α) : List α :=
  w.trace.reverse.flatMap tell

theorem chronicle_record (w : Writer) (i : Incident) (tell : Incident -> List α) :
    (w.record i).chronicle tell = w.chronicle tell ++ tell i := by
  simp [chronicle, record]

theorem chronicle_of_trace {w w' : Writer} (h : w'.trace = w.trace) (tell : Incident -> List α) :
    w'.chronicle tell = w.chronicle tell := by
  rw [chronicle, h, chronicle]

def handed (w : Writer) : List (Source × Entry) := w.chronicle Incident.handovers

def answers (w : Writer) : List Answer := w.chronicle Incident.answers

def refusals (w : Writer) : List (Source × Entry) := w.chronicle Incident.refusals

def departures (w : Writer) : List Departure := w.chronicle Incident.departures

def results (w : Writer) : List Result := w.chronicle Incident.results

@[simp] theorem handed_record (w : Writer) (i : Incident) :
    (w.record i).handed = w.handed ++ i.handovers := w.chronicle_record i _

@[simp] theorem answers_record (w : Writer) (i : Incident) :
    (w.record i).answers = w.answers ++ i.answers := w.chronicle_record i _

@[simp] theorem refusals_record (w : Writer) (i : Incident) :
    (w.record i).refusals = w.refusals ++ i.refusals := w.chronicle_record i _

@[simp] theorem departures_record (w : Writer) (i : Incident) :
    (w.record i).departures = w.departures ++ i.departures := w.chronicle_record i _

@[simp] theorem results_record (w : Writer) (i : Incident) :
    (w.record i).results = w.results ++ i.results := w.chronicle_record i _

def accepted (w : Writer) : List Answer :=
  w.answers.filter fun a => a.outcome.isAccepted

def displacedEntries (w : Writer) : List Entry :=
  w.departures.filterMap Departure.displaced?

theorem displacedEntries_of_trace {w w' : Writer} (h : w'.trace = w.trace) :
    w'.displacedEntries = w.displacedEntries :=
  congrArg (List.filterMap Departure.displaced?) (chronicle_of_trace h _)

def detachedEntries (w : Writer) : List Entry :=
  w.departures.filterMap Departure.detached?

/-- Entries that the queue had no room for, and entries that gave way to others. -/
def droppedEntries (w : Writer) : List Entry :=
  (w.answers.filter fun a => a.outcome == .dropped).map Answer.entry ++ w.displacedEntries

def rejectedEntries (w : Writer) : List Entry :=
  (w.answers.filter fun a => a.outcome == .rejected).map Answer.entry

def writtenEntries (w : Writer) : List Entry :=
  (w.results.filter fun r => r.ending.isWritten).map Result.entry

def failedEntries (w : Writer) : List Entry :=
  (w.results.filter fun r => !r.ending.isWritten).map Result.entry

/-- Detached entries whose result is not counted yet. -/
def inHand (w : Writer) : List Entry :=
  w.drain.stage.uncounted ++ w.owner.uncounted

def pushes (w : Writer) : List PushPhase :=
  w.producers ++ [w.owner.push]

/-- Nobody is inside a push. -/
def IsQuiet (w : Writer) : Prop :=
  ∀ phase ∈ w.pushes, phase = .idle

instance (w : Writer) : Decidable w.IsQuiet :=
  inferInstanceAs (Decidable (∀ phase ∈ w.pushes, phase = .idle))

end Writer

end AsyncLog
