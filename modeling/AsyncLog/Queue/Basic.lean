import AsyncLog.Config.Mode
import AsyncLog.Entry
/-!
# The queue of pending entries

A first-in first-out queue between producers and the drain thread.  It may be
bounded, and its overflow policy decides about entries that find it full.  Once
closed it takes no entry and keeps those it holds.

The functions are the decisions taken while the queue is locked.  A push that
has to wait for room gives the lock up, so it decides twice: `offer` before the
wait and `reoffer` after it.
-/

namespace AsyncLog

structure Queue where
  capacity : Option Nat
  overflow : OverflowPolicy
  entries : List Entry := []
  closed : Bool := false
  deriving DecidableEq

/-- What became of a pushed entry: queued, queued in place of the oldest one,
discarded because the queue stayed full, or refused because it is closed. -/
inductive Push where
  | queued
  | displacedOldest
  | dropped
  | rejected
  deriving DecidableEq, Repr

def Push.isAccepted : Push -> Bool
  | .queued | .displacedOldest => true
  | .dropped | .rejected => false

inductive Departure where
  | displaced (entry : Entry)
  | detached (entry : Entry)
  deriving DecidableEq, Repr

namespace Departure

def entry : Departure -> Entry
  | .displaced e | .detached e => e

def displaced? : Departure -> Option Entry
  | .displaced e => some e
  | .detached _ => none

def detached? : Departure -> Option Entry
  | .displaced _ => none
  | .detached e => some e

@[simp] theorem entry_detached (e : Entry) : (detached e).entry = e := rfl

@[simp] theorem detached?_detached (e : Entry) : (detached e).detached? = some e := rfl

@[simp] theorem displaced?_detached (e : Entry) : (detached e).displaced? = none := rfl

@[simp] theorem detached?_displaced (e : Entry) : (displaced e).detached? = none := rfl

@[simp] theorem displaced?_displaced (e : Entry) : (displaced e).displaced? = some e := rfl

end Departure

/-- The first decision about a push: an answer and the queue after it, or a wait
for room. -/
inductive Offer where
  | settled (outcome : Push) (queue : Queue)
  | blocked (limit : Duration)

namespace Queue

def isFull (q : Queue) : Bool :=
  match q.capacity with
  | none => false
  | some n => n ≤ q.entries.length

def keepsWaiting (q : Queue) : Bool :=
  !q.closed && q.isFull

def isQuiet (q : Queue) : Bool :=
  q.entries.isEmpty && !q.closed

def insert (q : Queue) (e : Entry) : Queue :=
  { q with entries := q.entries ++ [e] }

def displaceOldest (q : Queue) (e : Entry) : Queue :=
  { q with entries := q.entries.tail ++ [e] }

def offer (q : Queue) (e : Entry) : Offer :=
  if q.closed then .settled .rejected q
  else if q.isFull then
    match q.overflow with
    | .dropNewest => .settled .dropped q
    | .dropOldest => .settled .displacedOldest (q.displaceOldest e)
    | .block limit => .blocked limit
  else .settled .queued (q.insert e)

/-- The decision about an entry that waited for room. -/
def reoffer (q : Queue) (e : Entry) : Push × Queue :=
  if q.closed then (.rejected, q)
  else if q.isFull then (.dropped, q)
  else (.queued, q.insert e)

/-- A push whose wait, if it has to wait, ends without any room made. -/
def push (q : Queue) (e : Entry) : Push × Queue :=
  match q.offer e with
  | .settled outcome q' => (outcome, q')
  | .blocked _ => q.reoffer e

/-- Detach the entries to write next: all of them or the oldest one. -/
def take (q : Queue) : DrainMode -> List Entry × Queue
  | .batch => (q.entries, { q with entries := [] })
  | .perEntry => (q.entries.take 1, { q with entries := q.entries.drop 1 })

def close (q : Queue) : Queue :=
  { q with closed := true }

/-!
## What the operations do to the entries
-/

@[simp] theorem entries_insert (q : Queue) (e : Entry) :
    (q.insert e).entries = q.entries ++ [e] := rfl

@[simp] theorem entries_displaceOldest (q : Queue) (e : Entry) :
    (q.displaceOldest e).entries = q.entries.tail ++ [e] := rfl

@[simp] theorem entries_close (q : Queue) : q.close.entries = q.entries := rfl

@[simp] theorem closed_close (q : Queue) : q.close.closed = true := rfl

/-- Nothing is lost or reordered by detaching. -/
theorem take_append_entries (q : Queue) (mode : DrainMode) :
    (q.take mode).1 ++ (q.take mode).2.entries = q.entries := by
  cases mode <;> cases h : q.entries <;> simp [take, h]

theorem take_eq_nil_iff (q : Queue) (mode : DrainMode) :
    (q.take mode).1 = [] ↔ q.entries = [] := by
  cases mode <;> cases h : q.entries <;> simp [take, h]

theorem offer_of_closed {q : Queue} (h : q.closed = true) (e : Entry) :
    q.offer e = .settled .rejected q := by
  simp [offer, h]

theorem reoffer_of_closed {q : Queue} (h : q.closed = true) (e : Entry) :
    q.reoffer e = (.rejected, q) := by
  simp [reoffer, h]

end Queue

end AsyncLog
