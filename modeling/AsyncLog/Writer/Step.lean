import AsyncLog.Writer.State
/-!
# Steps of a log writer

Every step is one thing that one thread does without another thread seeing it
half done: one decision under the lock of the queue, one change of the counters,
one call on the output.  A run is any sequence of possible steps.
-/

namespace AsyncLog

def Counters.countPush (c : Counters) : Push -> Counters
  | .queued | .displacedOldest => c.countAppended
  | .dropped => c.countDropped
  | .rejected => c.countRejected

def PushPhase.afterCount : Push -> PushPhase
  | .displacedOldest => .counting .dropped
  | .queued | .dropped | .rejected => .idle

namespace Writer

/-!
## Pushing
-/

def answer (w : Writer) (source : Source) (e : Entry) (outcome : Push) (queue : Queue) : Writer :=
  let displaced := if outcome = .displacedOldest then w.queue.entries.head? else none
  { w with queue }.record (.answered source e outcome displaced)

/-- The next step of a push.  A blocked push goes on when there is room, when
the queue is closed, or when its time has run out. -/
def pushStep (w : Writer) (source : Source) (timedOut : Bool) :
    PushPhase -> Option (Writer × PushPhase)
  | .idle => none
  | .offering e =>
      match w.queue.offer e with
      | .settled outcome queue => some (w.answer source e outcome queue, .counting outcome)
      | .blocked _ => some (w, .blocked e)
  | .blocked e =>
      if w.queue.keepsWaiting && !timedOut then none
      else
        let (outcome, queue) := w.queue.reoffer e
        some (w.answer source e outcome queue, .counting outcome)
  | .counting outcome =>
      some ({ w with counters := w.counters.countPush outcome }, .afterCount outcome)

def producerStep (w : Writer) (producer : Nat) (timedOut : Bool) : Option Writer :=
  match w.producers[producer]? with
  | none => none
  | some phase =>
      (w.pushStep (.producer producer) timedOut phase).map fun (w', phase') =>
        { w' with producers := w'.producers.set producer phase' }

/-!
## Moving entries to the output
-/

/-- After the flush: done in batch mode, and on to the next entry otherwise. -/
def afterFlush (w : Writer) : Stage :=
  match w.config.drainMode with
  | .batch => .done
  | .perEntry => .taking

/-- Write an entry; there is nothing to call for if it is empty. -/
def beginEntry (w : Writer) (e : Entry) (left : List Entry) : Stage :=
  match e.bytes with
  | [] => .returned e none left
  | bytes => .writing e bytes (.fresh w.config.retryRule) left

def writeStep (w : Writer) (e : Entry) (rest : List UInt8) (effort : Effort)
    (left : List Entry) : Writer × Stage :=
  let (reply, call, output) := Output.write rest w.output
  let w := { w with output }.happen (.called call)
  match reply with
  | .panic => (w, .panicked (e :: left))
  | .ok taken =>
      match rest.drop taken.val with
      | [] => (w, .returned e none left)
      | rest' => (w, .writing e rest' (.fresh w.config.retryRule) left)
  | .error x =>
      match effort.afterError w.config.writeRetries x with
      | none => (w, .returned e (some x) left)
      | some (effort', between) => (w.happenAll between, .writing e rest effort' left)

def flushStep (w : Writer) (effort : Effort) : Writer × Stage :=
  let (reply, call, output) := w.output.flush
  let w := { w with output }.happen (.called call)
  match reply with
  | .panic => (w, .panicked [])
  | .ok _ => (w, w.afterFlush)
  | .error x =>
      match effort.afterError w.config.writeRetries x with
      | none => (w, .flushGivenUp x)
      | some (effort', between) => (w.happenAll between, .flushing effort')

def countResult (w : Writer) (e : Entry) : Option IoError -> Writer
  | none => { w with counters := w.counters.countWritten }.record (.counted e none)
  | some x =>
      ({ w with counters := w.counters.countFailed 1 }.record (.counted e (some x))).happen
        (.reported (.entryFailed x e.bytes.length))

def stageStep (w : Writer) : Stage -> Writer × Stage
  | .taking =>
      let (batch, queue) := w.queue.take w.config.drainMode
      match batch with
      | [] => (w, .done)
      | batch => ({ w with queue }.record (.detached batch), .detached batch)
  | .detached batch =>
      ({ w with counters := w.counters.countDetached (UInt64.ofNat batch.length) }, .between batch)
  | .between [] => (w, .flushing (.fresh w.config.retryRule))
  | .between (e :: left) => (w, w.beginEntry e left)
  | .writing e rest effort left => w.writeStep e rest effort left
  | .returned e error left =>
      ({ w with counters := w.counters.countSettled }, .settled e error left)
  | .settled e error left => (w.countResult e error, .between left)
  | .flushing effort => w.flushStep effort
  | .flushGivenUp x =>
      ({ w with counters := w.counters.countFlushFailure }.happen (.reported (.flushFailed x)),
        w.afterFlush)
  | .done => (w, .done)
  | .panicked left => (w, .panicked left)

/-!
## The drain thread
-/

/-- The next step of the drain thread.  Its wait may end at any time. -/
def drainStep (w : Writer) : Option Writer :=
  match w.drain with
  | .starting => some { w.happen (.reported .threadStarted) with drain := .checking }
  | .checking => some { w with drain := if w.active then .waiting else .stopping }
  | .waiting => some { w with drain := .draining .taking }
  | .draining stage =>
      let (w', stage') := w.stageStep stage
      some { w' with drain := .after stage' }
  | .stopping => some { w.happen (.reported .threadStopping) with drain := .stopped }
  | .stopped | .panicked _ => none

/-!
## Shutting down
-/

def beginShutdown (w : Writer) : Option Writer :=
  match w.owner with
  | .inUse => some { w with active := false, owner := .closing }
  | .finished _ | .unwound _ => some w
  | _ => none

/-- Take from the queue what a panic of the drain thread left behind there. -/
def abandon (w : Writer) : Writer :=
  let (queued, queue) := w.queue.take .batch
  { w with queue, owner := .abandoning queued }.record (.detached queued)

/-- Count as failed all that a panic of the drain thread left behind: what was
queued, and what was detached and not settled, by its counter. -/
def recover (w : Writer) (queued : List Entry) : Writer :=
  let (inFlight, counters) := w.counters.abandonInFlight
  let lost := UInt64.ofNat queued.length + inFlight
  let w := { w with counters := counters.countFailed lost, drain := .panicked [] }.record
    (.abandoned (w.drain.stage.uncounted ++ queued))
  let (w, push) := w.announce (.threadPanicked lost)
  { w with owner := .reportingLoss push }

def sum (w : Writer) : Writer :=
  let stats := w.stats
  let (w, push) := w.announce (.shutDown stats)
  { w with owner := .reportingEnd stats push }

def ownerStep (w : Writer) (timedOut : Bool) : Option Writer :=
  match w.owner with
  | .inUse | .finished _ | .unwound _ => none
  | .closing => some { w with queue := w.queue.close, owner := .joining }
  | .joining =>
      match w.drain with
      | .stopped => some { w with owner := .finishing .taking }
      | .panicked _ => some { w with owner := .recovering }
      | _ => none
  | .finishing stage =>
      let (w', stage') := w.stageStep stage
      some { w' with owner := .after stage' }
  | .recovering => some w.abandon
  | .abandoning queued => some (w.recover queued)
  | .reportingLoss .idle => some { w with owner := .summing }
  | .reportingLoss push =>
      (w.pushStep .listener timedOut push).map fun (w', push') => { w' with owner := .reportingLoss push' }
  | .summing => some w.sum
  | .reportingEnd stats .idle => some { w with owner := .finished stats }
  | .reportingEnd stats push =>
      (w.pushStep .listener timedOut push).map fun (w', push') =>
        { w' with owner := .reportingEnd stats push' }

/-!
## Runs
-/

/-- What can happen next: an entry is handed over, or an event is raised on a
thread that is writing to an output, a push goes on, the drain thread goes on,
the owner asks for the end or goes on with it, or a listener is installed. -/
inductive Action where
  | hand (producer : Nat) (entry : Entry)
  | refuse (producer : Nat) (entry : Entry)
  | push (producer : Nat) (timedOut : Bool)
  | drain
  | shutDown
  | owner (timedOut : Bool)
  | listen (listener : Listener)
  deriving DecidableEq

def hand (w : Writer) (producer : Nat) (e : Entry) : Option Writer :=
  match w.producers[producer]? with
  | some .idle =>
      some ({ w with producers := w.producers.set producer (.offering e) }.record
        (.handed (.producer producer) e))
  | _ => none

/-- The entry of an event that a producer raises while it is writing to an output. -/
def handRefused (w : Writer) (producer : Nat) (e : Entry) : Option Writer :=
  match w.producers[producer]? with
  | some .idle => some (w.refuseEntry (.producer producer) e)
  | _ => none

def listen (w : Writer) (l : Listener) : Writer :=
  { w with listener := some l }

def step (w : Writer) : Action -> Option Writer
  | .hand producer entry => w.hand producer entry
  | .refuse producer entry => w.handRefused producer entry
  | .push producer timedOut => w.producerStep producer timedOut
  | .drain => w.drainStep
  | .shutDown => w.beginShutdown
  | .owner timedOut => w.ownerStep timedOut
  | .listen listener => some (w.listen listener)

def run (w : Writer) (actions : List Action) : Option Writer :=
  actions.foldlM step w

@[simp] theorem run_nil (w : Writer) : w.run [] = some w := rfl

@[simp] theorem run_cons (w : Writer) (a : Action) (rest : List Action) :
    w.run (a :: rest) = (w.step a).bind fun w' => w'.run rest := rfl

theorem run_append (w : Writer) (first second : List Action) :
    w.run (first ++ second) = (w.run first).bind fun w' => w'.run second := by
  induction first generalizing w with
  | nil => rfl
  | cons a rest ih =>
      simp only [List.cons_append, run_cons]
      cases w.step a with
      | none => rfl
      | some w' => exact ih w'

end Writer

end AsyncLog
