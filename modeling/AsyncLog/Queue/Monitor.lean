import AsyncLog.Queue.Basic
/-!
# Threads at the queue

The queue is guarded by a lock and by two conditions, one for threads that wait
for entries and one for threads that wait for room.  This module gives every
use of the lock and of the conditions as a step of its own: taking the lock,
giving it up with a decision or to sleep, each notification, the end of a wait by
time (for a sleeper or for a thread that was woken and is not yet back), and a
waking without any reason.  What a decision changes is seen by nobody before the
lock is given up, so both are one step.

A thread is a position in the list of threads, and any number of them may be
inside a call at the same time.
-/

namespace AsyncLog.Queue

inductive Call where
  | push (entry : Entry)
  | take (mode : DrainMode)
  | awaitEntries
  | close
  deriving DecidableEq

inductive Answer where
  | pushed (outcome : Push)
  | took (entries : List Entry)
  | awaited (timedOut : Bool)
  | closed
  deriving DecidableEq

inductive Condition where
  | notEmpty
  | notFull
  deriving DecidableEq, Repr

/-- A notification still to be sent, to one sleeper or to all of them. -/
inductive Signal where
  | one (condition : Condition)
  | all (condition : Condition)
  deriving DecidableEq, Repr

def Answer.signals : Answer -> List Signal
  | .pushed outcome => if outcome.isAccepted then [.one .notEmpty] else []
  | .took entries => if entries.isEmpty then [] else [.all .notFull]
  | .awaited _ => []
  | .closed => [.all .notEmpty, .all .notFull]

/-- Where a thread stands in its call. -/
inductive Phase where
  | idle
  | locking (call : Call)
  | deciding (call : Call)
  | asleep (call : Call)
  | relocking (call : Call) (timedOut : Bool)
  | redeciding (call : Call) (timedOut : Bool)
  | notifying (signals : List Signal) (answer : Answer)
  | returned (answer : Answer)
  deriving DecidableEq

def Call.condition : Call -> Condition
  | .push _ => .notFull
  | _ => .notEmpty

def Phase.sleepsOn (condition : Condition) : Phase -> Bool
  | .asleep call => call.condition == condition
  | _ => false

def Phase.woken : Phase -> Phase
  | .asleep call => .relocking call false
  | phase => phase

structure Monitor where
  queue : Queue
  holder : Option Nat := none
  threads : List Phase

/-- What happens next, and to which thread.  A notification of one sleeper names
the thread it reaches, or none if nobody sleeps. -/
inductive Monitor.Step where
  | call (thread : Nat) (call : Call)
  | acquire (thread : Nat)
  | decide (thread : Nat)
  | notify (thread : Nat) (reached : Option Nat)
  | timeout (thread : Nat)
  | wakeUp (thread : Nat)
  deriving DecidableEq

namespace Monitor

def phase (m : Monitor) (thread : Nat) : Phase :=
  m.threads.getD thread .idle

def setPhase (m : Monitor) (thread : Nat) (phase : Phase) : Monitor :=
  { m with threads := m.threads.set thread phase }

/-!
## Decisions under the lock
-/

def verdict (q : Queue) : Call -> Option (Answer × Queue)
  | .push e =>
      match q.offer e with
      | .settled outcome q' => some (.pushed outcome, q')
      | .blocked _ => none
  | .take mode => some (.took (q.take mode).1, (q.take mode).2)
  | .awaitEntries => if q.isQuiet then none else some (.awaited false, q)
  | .close => some (.closed, q.close)

/-- The decision of a thread that slept: it sleeps again if nothing changed and
there is time left. -/
def secondVerdict (q : Queue) (timedOut : Bool) : Call -> Option (Answer × Queue)
  | .push e =>
      if q.keepsWaiting && !timedOut then none
      else some (.pushed (q.reoffer e).1, (q.reoffer e).2)
  | .awaitEntries =>
      if q.isQuiet then
        if timedOut then some (.awaited true, q) else none
      else some (.awaited false, q)
  | call => verdict q call

def conclude (m : Monitor) (thread : Nat) (call : Call) :
    Option (Answer × Queue) -> Monitor
  | some (answer, queue) =>
      { m with queue, holder := none }.setPhase thread (.notifying answer.signals answer)
  | none => { m with holder := none }.setPhase thread (.asleep call)

/-!
## Steps
-/

def deliver (m : Monitor) (reached : Option Nat) : Signal -> Option Monitor
  | .all condition =>
      match reached with
      | some _ => none
      | none =>
          some { m with
            threads := m.threads.map fun p => if p.sleepsOn condition then p.woken else p }
  | .one condition =>
      match reached with
      | some sleeper =>
          if (m.phase sleeper).sleepsOn condition then
            some (m.setPhase sleeper (m.phase sleeper).woken)
          else none
      | none => if m.threads.any (Phase.sleepsOn condition) then none else some m

def step (m : Monitor) : Step -> Option Monitor
  | .call thread call =>
      match m.phase thread with
      | .idle | .returned _ =>
          if thread < m.threads.length then some (m.setPhase thread (.locking call)) else none
      | _ => none
  | .acquire thread =>
      match m.holder, m.phase thread with
      | none, .locking call => some ({ m with holder := some thread }.setPhase thread (.deciding call))
      | none, .relocking call timedOut =>
          some ({ m with holder := some thread }.setPhase thread (.redeciding call timedOut))
      | _, _ => none
  | .decide thread =>
      match m.phase thread with
      | .deciding call => some (m.conclude thread call (verdict m.queue call))
      | .redeciding call timedOut =>
          some (m.conclude thread call (secondVerdict m.queue timedOut call))
      | _ => none
  | .notify thread reached =>
      match m.phase thread with
      | .notifying (signal :: rest) answer =>
          (m.deliver reached signal).map fun m' => m'.setPhase thread (.notifying rest answer)
      | .notifying [] answer => some (m.setPhase thread (.returned answer))
      | _ => none
  | .timeout thread =>
      match m.phase thread with
      | .asleep call | .relocking call false => some (m.setPhase thread (.relocking call true))
      | _ => none
  | .wakeUp thread =>
      match m.phase thread with
      | .asleep call => some (m.setPhase thread (.relocking call false))
      | _ => none

def start (queue : Queue) (threads : Nat) : Monitor where
  queue := queue
  threads := List.replicate threads .idle

/-!
## A schedule without contention

Threads take turns, each going on until it sleeps or returns.
-/

def firstSleeper? (m : Monitor) (condition : Condition) : Option Nat :=
  m.threads.findIdx? (Phase.sleepsOn condition)

def nextStep? (m : Monitor) (thread : Nat) : Option Step :=
  match m.phase thread with
  | .locking _ | .relocking _ _ => some (.acquire thread)
  | .deciding _ | .redeciding _ _ => some (.decide thread)
  | .notifying (.one condition :: _) _ => some (.notify thread (m.firstSleeper? condition))
  | .notifying _ _ => some (.notify thread none)
  | .idle | .asleep _ | .returned _ => none

def advance (m : Monitor) (thread : Nat) : Nat -> Monitor
  | 0 => m
  | fuel + 1 =>
      match (m.nextStep? thread).bind m.step with
      | none => m
      | some m' => m'.advance thread fuel

/-- The most steps of a call between two sleeps: the lock, the decision, two
notifications and the return. -/
def callSteps : Nat := 5

def advanceAll (m : Monitor) : Monitor :=
  (List.range m.threads.length).foldl (fun m thread => m.advance thread callSteps) m

/-- Make a call, let its thread go on, and then all threads that it woke. -/
def perform (m : Monitor) (thread : Nat) (call : Call) : Monitor :=
  match m.step (.call thread call) with
  | none => m
  | some m' => (m'.advance thread callSteps).advanceAll

def expire (m : Monitor) (thread : Nat) : Monitor :=
  match m.step (.timeout thread) with
  | none => m
  | some m' => m'.advanceAll

def answer? (m : Monitor) (thread : Nat) : Option Answer :=
  match m.phase thread with
  | .returned answer => some answer
  | _ => none

end Monitor

end AsyncLog.Queue
