import AsyncLog.Writer.Step
/-!
# A schedule without races

Between two calls of its callers the drain thread is let run until it is at
rest: nothing is queued, or it stands before a gate that is held shut in front
of the output, or it has ended.  Blocked producers go on as soon as they can.
Every function here only chooses among the steps of the writer.
-/

namespace AsyncLog.Writer

def pushedEntry : PushPhase -> Entry
  | .offering e | .blocked e => e
  | .idle | .counting _ => ""

/-- An upper bound for the steps that are left to do, given the entries at hand. -/
def workBound (w : Writer) : Nat :=
  let entries := w.queue.entries ++ w.drain.stage.uncounted ++ w.owner.uncounted ++
    w.producers.map pushedEntry
  let bytes := entries.foldl (fun total e => total + e.utf8ByteSize) 0
  (bytes + entries.length + 4) * (w.config.writeRetries.toNat + 32)

def isIdle (w : Writer) : Bool :=
  w.drain == .waiting && w.queue.isQuiet

def isHeldUp (w : Writer) (held : Bool) : Bool :=
  held && w.drain.stage.callsNext

def pushOn (w : Writer) (producer : Nat) (timesOut : Bool) : Nat -> Writer
  | 0 => w
  | fuel + 1 =>
      match w.producerStep producer timesOut with
      | none => w
      | some w' => w'.pushOn producer timesOut fuel

/-- A push has at most four steps: two decisions and two countings. -/
def pushSteps : Nat := 4

def pushAll (w : Writer) : Writer :=
  (List.range w.producers.length).foldl (fun w producer => w.pushOn producer false pushSteps) w

def settleWithin (w : Writer) (held : Bool) : Nat -> Writer
  | 0 => w
  | fuel + 1 =>
      if w.isIdle || w.isHeldUp held then w
      else
        match w.drainStep with
        | none => w
        | some w' => w'.pushAll.settleWithin held fuel

def settle (w : Writer) (held : Bool) : Writer :=
  w.settleWithin held w.workBound

/-!
## Calls of producers
-/

/-- An append; if it has to wait for room, its time runs out. -/
def append (w : Writer) (producer : Nat) (e : Entry) : Writer :=
  match w.hand producer e with
  | none => w
  | some w' => w'.pushOn producer true pushSteps

/-- The end of an event: its entry is appended, if there were any bytes.  On a
thread that is writing to an output it only counts as rejected. -/
def appendEvent (w : Writer) (producer : Nat) (b : EntryBuffer) (draining : Bool) : Writer :=
  match b.finish with
  | none => w
  | some e =>
      if draining then w.refuseEntry (.producer producer) e
      else w.append producer e

def appendPatiently (w : Writer) (producer : Nat) (e : Entry) : Writer :=
  match w.hand producer e with
  | none => w
  | some w' => w'.pushOn producer false pushSteps

/-- An event on a thread that is not writing: an append of its line, if there is
a listener that hears it. -/
def raise (w : Writer) (producer : Nat) (e : Event) : Writer :=
  match w.listener with
  | none => w
  | some l => if l.level.admits e.level then w.append producer (e.line l.stamp) else w

/-!
## Calls of the owner
-/

def finishWithin (w : Writer) : Nat -> Writer
  | 0 => w
  | fuel + 1 =>
      match w.ownerStep true with
      | some w' => w'.pushAll.finishWithin fuel
      | none =>
          match w.drainStep with
          | some w' => w'.pushAll.finishWithin fuel
          | none => w

/-- What a shutdown gives back: the counters, or nothing if the output panics
in the final pass. -/
inductive Farewell where
  | counted (stats : Stats)
  | unwound
  deriving DecidableEq, Repr

/-- Shut down.  The first time gives back the counters it reported, later times
the counters as they are. -/
def shutDown (w : Writer) : Farewell × Writer :=
  match w.owner with
  | .inUse =>
      match w.beginShutdown with
      | none => (.unwound, w)
      | some begun =>
          let ended := begun.finishWithin (begun.workBound * 2)
          match ended.owner with
          | .finished stats => (.counted stats, ended)
          | _ => (.unwound, ended)
  | _ => (.counted w.stats, w)

/-!
## Text
-/

def text (w : Writer) (path : Option String) : String :=
  recordText "LogWriter" [
    ("path", optionText Text.quote path),
    ("active", if w.active then "true" else "false"),
    ("pending", toString w.pending)]

def handleText (w : Writer) : String :=
  recordText "LogHandle" [("counters", w.stats.text)]

end AsyncLog.Writer
