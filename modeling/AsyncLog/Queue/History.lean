import AsyncLog.Queue.Monitor
/-!
# The history of a queue

What the threads at a queue decided under its lock, in the order in which they
held it: which entries were inserted, which ones gave way to newer ones, and
which ones were taken.
-/

namespace AsyncLog.Queue

/-- The end of a call under the lock: what it answers, and the queue before and
after it. -/
structure Decision where
  thread : Nat
  call : Call
  answer : Answer
  before : Queue
  after : Queue
  deriving DecidableEq

namespace Decision

def pushed? (d : Decision) : Option (Entry × Push) :=
  match d.call, d.answer with
  | .push e, .pushed outcome => some (e, outcome)
  | _, _ => none

def inserted (d : Decision) : List Entry :=
  match d.pushed? with
  | some (e, outcome) => if outcome.isAccepted then [e] else []
  | none => []

def taken (d : Decision) : List Entry :=
  match d.answer with
  | .took entries => entries
  | _ => []

def departures (d : Decision) : List Departure :=
  match d.answer with
  | .pushed .displacedOldest => d.before.entries.head?.toList.map .displaced
  | .took entries => entries.map .detached
  | _ => []

/-- What the answer says about the queue: an accepted entry is the newest one, an
entry displaced for it was the oldest one, entries taken were the oldest ones, and
nothing else changes the entries. -/
def Accords (d : Decision) : Prop :=
  match d.call, d.answer with
  | .push e, .pushed .queued => d.after.entries = d.before.entries ++ [e]
  | .push e, .pushed .displacedOldest =>
      exists oldest rest, d.before.entries = oldest :: rest ∧ d.after.entries = rest ++ [e]
  | .push _, .pushed .dropped | .push _, .pushed .rejected =>
      d.after.entries = d.before.entries
  | .take _, .took entries => d.before.entries = entries ++ d.after.entries
  | .awaitEntries, .awaited _ | .close, .closed => d.after.entries = d.before.entries
  | _, _ => False

end Decision

/-- Inserted entries without those that gave way to newer ones; the entries leave in
the order in which they were inserted. -/
def remaining : List Departure -> List Entry -> List Entry
  | [], inserted => inserted
  | _ :: _, [] => []
  | .displaced _ :: departures, _ :: inserted => remaining departures inserted
  | .detached _ :: departures, e :: inserted => e :: remaining departures inserted

namespace Monitor

def run (m : Monitor) (steps : List Step) : Option Monitor :=
  steps.foldlM step m

@[simp] theorem run_nil (m : Monitor) : m.run [] = some m := rfl

@[simp] theorem run_cons (m : Monitor) (s : Step) (rest : List Step) :
    m.run (s :: rest) = (m.step s).bind fun m' => m'.run rest := rfl

def decision? (m : Monitor) : Step -> Option Decision
  | .decide thread =>
      match m.phase thread with
      | .deciding call =>
          (verdict m.queue call).map fun v => ⟨thread, call, v.1, m.queue, v.2⟩
      | .redeciding call timedOut =>
          (secondVerdict m.queue timedOut call).map fun v => ⟨thread, call, v.1, m.queue, v.2⟩
      | _ => none
  | _ => none

def history (m : Monitor) : List Step -> List Decision
  | [] => []
  | s :: rest =>
      match m.step s with
      | none => []
      | some m' => (m.decision? s).toList ++ m'.history rest

end Monitor

end AsyncLog.Queue
