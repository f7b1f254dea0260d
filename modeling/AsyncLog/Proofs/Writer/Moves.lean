import AsyncLog.Proofs.Queue.Decision
import AsyncLog.Writer.History
/-!
# What a step of a writer can do

Every step of a writer is one of a few moves, and this module says once what each
of them changes.  Whatever holds of all states of a run is then shown move by
move, without looking into the functions that make the steps.
-/

namespace AsyncLog

def Counters.countRejections (c : Counters) (n : Nat) : Counters :=
  { c with stats := { c.stats with rejected := c.stats.rejected + UInt64.ofNat n } }

namespace Counters

@[simp] theorem countRejections_zero (c : Counters) : c.countRejections 0 = c := by
  simp [countRejections]

theorem countRejections_add (c : Counters) (m n : Nat) :
    (c.countRejections m).countRejections n = c.countRejections (m + n) := by
  simp [countRejections, UInt64.ofNat_add, UInt64.add_assoc]

theorem countRejected_eq (c : Counters) : c.countRejected = c.countRejections 1 := rfl

end Counters

namespace OwnerPhase

def hasEnded : OwnerPhase -> Bool
  | .finished _ | .unwound _ => true
  | _ => false

def withPush (push : PushPhase) : OwnerPhase -> OwnerPhase
  | .reportingLoss _ => .reportingLoss push
  | .reportingEnd stats _ => .reportingEnd stats push
  | phase => phase

end OwnerPhase

namespace Writer

/-!
## States with the same trace

Only the trace matters for what a run tells.
-/

section Fields

variable (config : Config) (queue : Queue) (active : Bool) (counters : Counters) (output : Output)
  (listener : Option Listener) (producers : List PushPhase) (drain : DrainPhase)
  (owner : OwnerPhase) (w : Writer)

@[simp] theorem handed_mk :
    handed ⟨config, queue, active, counters, output, listener, producers, drain, owner, w.trace⟩ =
      w.handed := rfl

@[simp] theorem answers_mk :
    answers ⟨config, queue, active, counters, output, listener, producers, drain, owner, w.trace⟩ =
      w.answers := rfl

@[simp] theorem refusals_mk :
    refusals ⟨config, queue, active, counters, output, listener, producers, drain, owner, w.trace⟩ =
      w.refusals := rfl

@[simp] theorem departures_mk :
    departures
      ⟨config, queue, active, counters, output, listener, producers, drain, owner, w.trace⟩ =
      w.departures := rfl

@[simp] theorem results_mk :
    results ⟨config, queue, active, counters, output, listener, producers, drain, owner, w.trace⟩ =
      w.results := rfl

@[simp] theorem config_record (i : Incident) : (w.record i).config = w.config := rfl

@[simp] theorem queue_record (i : Incident) : (w.record i).queue = w.queue := rfl

@[simp] theorem active_record (i : Incident) : (w.record i).active = w.active := rfl

@[simp] theorem output_record (i : Incident) : (w.record i).output = w.output := rfl

@[simp] theorem listener_record (i : Incident) : (w.record i).listener = w.listener := rfl

@[simp] theorem counters_record (i : Incident) : (w.record i).counters = w.counters := rfl

@[simp] theorem producers_record (i : Incident) : (w.record i).producers = w.producers := rfl

@[simp] theorem drain_record (i : Incident) : (w.record i).drain = w.drain := rfl

@[simp] theorem owner_record (i : Incident) : (w.record i).owner = w.owner := rfl

end Fields

/-!
## Reports

A thread that calls the output and gives reports moves no entry.  The lines that
a listener makes of its reports are handed over and refused at once.
-/

structure Telling (source : Source) (w w' : Writer) : Prop where
  departures : w'.departures = w.departures
  results : w'.results = w.results
  lines : exists lines : List Entry,
    w'.handed = w.handed ++ lines.map (fun line => (source, line)) ∧
    w'.answers = w.answers ++ lines.map (fun line => ⟨source, line, .rejected⟩) ∧
    w'.refusals = w.refusals ++ lines.map (fun line => (source, line)) ∧
    w'.counters = w.counters.countRejections lines.length

/-- Nothing but the output, the trace and the count of refused lines changed. -/
structure Chatter (w w' : Writer) : Prop extends Telling .listener w w' where
  config : w'.config = w.config
  queue : w'.queue = w.queue
  active : w'.active = w.active
  script : w'.output.script = w.output.script
  listener : w'.listener = w.listener
  producers : w'.producers = w.producers
  drain : w'.drain = w.drain
  owner : w'.owner = w.owner

theorem Telling.of_eq {source : Source} {w w' : Writer} (htrace : w'.trace = w.trace)
    (hcounters : w'.counters = w.counters) : Telling source w w' := by
  constructor
  · simp only [Writer.departures, chronicle, htrace]
  · simp only [Writer.results, chronicle, htrace]
  · exists []
    simp [handed, answers, refusals, chronicle, htrace, hcounters]

theorem Telling.trans {source : Source} {w w' w'' : Writer} (h : Telling source w w')
    (h' : Telling source w' w'') : Telling source w w'' := by
  rcases h.lines with ⟨first, hhanded, hanswers, hrefusals, hcounters⟩
  rcases h'.lines with ⟨second, hhanded', hanswers', hrefusals', hcounters'⟩
  constructor
  · rw [h'.departures, h.departures]
  · rw [h'.results, h.results]
  · exists first ++ second
    constructor
    · rw [hhanded', hhanded, List.map_append, List.append_assoc]
    constructor
    · rw [hanswers', hanswers, List.map_append, List.append_assoc]
    constructor
    · rw [hrefusals', hrefusals, List.map_append, List.append_assoc]
    · rw [hcounters', hcounters, Counters.countRejections_add, List.length_append]

theorem Chatter.refl (w : Writer) : Chatter w w :=
  { Telling.of_eq rfl rfl with
    config := rfl, queue := rfl, active := rfl, script := rfl, listener := rfl, producers := rfl,
    drain := rfl, owner := rfl }

theorem Chatter.trans {w w' w'' : Writer} (h : Chatter w w') (h' : Chatter w' w'') :
    Chatter w w'' :=
  { h.toTelling.trans h'.toTelling with
    config := h'.config.trans h.config
    queue := h'.queue.trans h.queue
    active := h'.active.trans h.active
    script := h'.script.trans h.script
    listener := h'.listener.trans h.listener
    producers := h'.producers.trans h.producers
    drain := h'.drain.trans h.drain
    owner := h'.owner.trans h.owner }

theorem chatter_output (w : Writer) {output : Output} (hscript : output.script = w.output.script) :
    Chatter w { w with output } :=
  { Telling.of_eq rfl rfl with
    config := rfl, queue := rfl, active := rfl, script := hscript, listener := rfl,
    producers := rfl, drain := rfl, owner := rfl }

theorem chatter_record_output (w : Writer) (h : Happening) : Chatter w (w.record (.output h)) where
  departures := by simp
  results := by simp
  lines := ⟨[], by simp⟩
  config := rfl
  queue := rfl
  active := rfl
  script := rfl
  listener := rfl
  producers := rfl
  drain := rfl
  owner := rfl

theorem telling_refuseEntry (w : Writer) (source : Source) (e : Entry) :
    Telling source w (w.refuseEntry source e) where
  departures := by simp [refuseEntry]
  results := by simp [refuseEntry]
  lines := ⟨[e], by simp [refuseEntry],
    by simp [refuseEntry], by simp [refuseEntry], rfl⟩

theorem chatter_refuse (w : Writer) (d : Diagnostic) : Chatter w (w.refuse d) := by
  unfold refuse
  cases w.lineOf? d with
  | none => exact Chatter.refl w
  | some line =>
      exact { telling_refuseEntry w .listener line with
        config := rfl, queue := rfl, active := rfl, script := rfl, listener := rfl
        producers := rfl, drain := rfl, owner := rfl }

theorem chatter_happen (w : Writer) (h : Happening) : Chatter w (w.happen h) := by
  cases h with
  | called call => exact chatter_record_output w _
  | paused duration => exact chatter_record_output w _
  | reported d => exact (chatter_record_output w _).trans (chatter_refuse _ d)

theorem chatter_happenAll (w : Writer) (hs : List Happening) : Chatter w (w.happenAll hs) := by
  induction hs generalizing w with
  | nil => exact Chatter.refl w
  | cons h rest ih => exact (chatter_happen w h).trans (ih _)

/-!
## Moves of a push
-/

inductive PushMove (w : Writer) (source : Source) : PushPhase -> Writer -> PushPhase -> Prop where
  | wait {e : Entry} {limit : Duration} : w.queue.offer e = .blocked limit ->
      PushMove w source (.offering e) w (.blocked e)
  | offer {e : Entry} {outcome : Push} {queue : Queue} :
      w.queue.Decides e false outcome queue ->
      PushMove w source (.offering e) (w.answer source e outcome queue) (.counting outcome)
  | reoffer {e : Entry} {outcome : Push} {queue : Queue} :
      w.queue.Decides e true outcome queue ->
      PushMove w source (.blocked e) (w.answer source e outcome queue) (.counting outcome)
  | count (outcome : Push) :
      PushMove w source (.counting outcome)
        { w with counters := w.counters.countPush outcome } (.afterCount outcome)

theorem pushMove_of_pushStep {w w' : Writer} {source : Source} {timedOut : Bool}
    {phase phase' : PushPhase} (h : w.pushStep source timedOut phase = some (w', phase')) :
    PushMove w source phase w' phase' := by
  cases phase with
  | idle => cases h
  | offering e =>
      cases hoffer : w.queue.offer e with
      | settled outcome queue =>
          simp only [pushStep, hoffer, Option.some.injEq, Prod.mk.injEq] at h
          rw [← h.1, ← h.2]
          exact .offer (Queue.decides_of_offer_settled hoffer)
      | blocked limit =>
          simp only [pushStep, hoffer, Option.some.injEq, Prod.mk.injEq] at h
          rw [← h.1, ← h.2]
          exact .wait hoffer
  | blocked e =>
      simp only [pushStep] at h
      split at h
      · cases h
      · simp only [Option.some.injEq, Prod.mk.injEq] at h
        rw [← h.1, ← h.2]
        exact .reoffer (w.queue.decides_reoffer e)
  | counting outcome =>
      simp only [pushStep, Option.some.injEq, Prod.mk.injEq] at h
      rw [← h.1, ← h.2]
      exact .count outcome

namespace PushMove

variable {w w' : Writer} {source : Source} {phase phase' : PushPhase}

theorem config (h : PushMove w source phase w' phase') : w'.config = w.config := by
  cases h <;> rfl

theorem active (h : PushMove w source phase w' phase') : w'.active = w.active := by
  cases h <;> rfl

theorem producers (h : PushMove w source phase w' phase') : w'.producers = w.producers := by
  cases h <;> rfl

theorem drain (h : PushMove w source phase w' phase') : w'.drain = w.drain := by
  cases h <;> rfl

theorem owner (h : PushMove w source phase w' phase') : w'.owner = w.owner := by
  cases h <;> rfl

end PushMove

/-!
## Moves of a thread at the output
-/

/-- What the next step of moving entries can do.  Apart from detaching a backlog
and counting, it leaves all entries where they are. -/
inductive StageMove (w : Writer) : Stage -> Writer -> Stage -> Prop where
  | talk {stage stage' : Stage} {w' : Writer} : Chatter w w' ->
      stage'.uncounted = stage.uncounted -> stage'.unsettled = stage.unsettled ->
      StageMove w stage w' stage'
  | detach : StageMove w .taking
      ({ w with queue := (w.queue.take w.config.drainMode).2 }.record
        (.detached (w.queue.take w.config.drainMode).1))
      (.detached (w.queue.take w.config.drainMode).1)
  | announce (batch : List Entry) : StageMove w (.detached batch)
      { w with counters := w.counters.countDetached (UInt64.ofNat batch.length) } (.between batch)
  | settle (e : Entry) (error : Option IoError) (left : List Entry) :
      StageMove w (.returned e error left) { w with counters := w.counters.countSettled }
        (.settled e error left)
  | succeed (e : Entry) (left : List Entry) :
      StageMove w (.settled e none left)
        ({ w with counters := w.counters.countWritten }.record (.counted e none)) (.between left)
  | fail (e : Entry) (x : IoError) (left : List Entry) {w' : Writer} :
      Chatter ({ w with counters := w.counters.countFailed 1 }.record (.counted e (some x))) w' ->
      StageMove w (.settled e (some x) left) w' (.between left)
  | failFlush (x : IoError) {stage' : Stage} {w' : Writer} :
      Chatter { w with counters := w.counters.countFlushFailure } w' ->
      stage'.uncounted = [] -> stage'.unsettled = [] -> StageMove w (.flushGivenUp x) w' stage'

namespace StageMove

variable {w w' : Writer} {stage stage' : Stage}

theorem config (h : StageMove w stage w' stage') : w'.config = w.config := by
  cases h with
  | talk hchatter => exact hchatter.config
  | fail e x left hchatter => exact hchatter.config
  | failFlush x hchatter => exact hchatter.config
  | _ => rfl

theorem active (h : StageMove w stage w' stage') : w'.active = w.active := by
  cases h with
  | talk hchatter => exact hchatter.active
  | fail e x left hchatter => exact hchatter.active
  | failFlush x hchatter => exact hchatter.active
  | _ => rfl

theorem script (h : StageMove w stage w' stage') : w'.output.script = w.output.script := by
  cases h with
  | talk hchatter => exact hchatter.script
  | fail e x left hchatter => exact hchatter.script
  | failFlush x hchatter => exact hchatter.script
  | _ => rfl

theorem producers (h : StageMove w stage w' stage') : w'.producers = w.producers := by
  cases h with
  | talk hchatter => exact hchatter.producers
  | fail e x left hchatter => exact hchatter.producers
  | failFlush x hchatter => exact hchatter.producers
  | _ => rfl

theorem drain (h : StageMove w stage w' stage') : w'.drain = w.drain := by
  cases h with
  | talk hchatter => exact hchatter.drain
  | fail e x left hchatter => exact hchatter.drain
  | failFlush x hchatter => exact hchatter.drain
  | _ => rfl

theorem owner (h : StageMove w stage w' stage') : w'.owner = w.owner := by
  cases h with
  | talk hchatter => exact hchatter.owner
  | fail e x left hchatter => exact hchatter.owner
  | failFlush x hchatter => exact hchatter.owner
  | _ => rfl

theorem queue (h : StageMove w stage w' stage') :
    w'.queue = w.queue ∨ (stage = .taking ∧ w'.queue = (w.queue.take w.config.drainMode).2) := by
  cases h with
  | talk hchatter => exact Or.inl hchatter.queue
  | fail e x left hchatter => exact Or.inl hchatter.queue
  | failFlush x hchatter => exact Or.inl hchatter.queue
  | detach => exact Or.inr ⟨rfl, rfl⟩
  | _ => exact Or.inl rfl

end StageMove

theorem uncounted_afterFlush (w : Writer) : w.afterFlush.uncounted = [] := by
  unfold afterFlush
  cases w.config.drainMode <;> rfl

theorem unsettled_afterFlush (w : Writer) : w.afterFlush.unsettled = [] := by
  unfold afterFlush
  cases w.config.drainMode <;> rfl

theorem stageMove_writeStep (w : Writer) (e : Entry) (rest : List UInt8) (effort : Effort)
    (left : List Entry) :
    StageMove w (.writing e rest effort left) (w.writeStep e rest effort left).1
      (w.writeStep e rest effort left).2 := by
  rcases hwrite : Output.write rest w.output with ⟨reply, call, output⟩
  have hcall : Chatter w ({ w with output }.happen (.called call)) :=
    (chatter_output w (congrArg (fun r => r.2.2.script) hwrite).symm).trans (chatter_happen _ _)
  simp only [writeStep, hwrite]
  cases reply with
  | panic => exact .talk hcall rfl rfl
  | ok taken =>
      dsimp only
      cases rest.drop taken.val with
      | nil => exact .talk hcall rfl rfl
      | cons b rest' => exact .talk hcall rfl rfl
  | error x =>
      simp only [hcall.config]
      cases effort.afterError w.config.writeRetries x with
      | none => exact .talk hcall rfl rfl
      | some more => exact .talk (hcall.trans (chatter_happenAll _ _)) rfl rfl

theorem stageMove_flushStep (w : Writer) (effort : Effort) :
    StageMove w (.flushing effort) (w.flushStep effort).1 (w.flushStep effort).2 := by
  rcases hflush : w.output.flush with ⟨reply, call, output⟩
  have hcall : Chatter w ({ w with output }.happen (.called call)) :=
    (chatter_output w (congrArg (fun r => r.2.2.script) hflush).symm).trans (chatter_happen _ _)
  simp only [flushStep, hflush]
  cases reply with
  | panic => exact .talk hcall rfl rfl
  | ok done => exact .talk hcall (uncounted_afterFlush _) (unsettled_afterFlush _)
  | error x =>
      simp only [hcall.config]
      cases effort.afterError w.config.writeRetries x with
      | none => exact .talk hcall rfl rfl
      | some more => exact .talk (hcall.trans (chatter_happenAll _ _)) rfl rfl

theorem stageMove_stageStep (w : Writer) (stage : Stage) :
    StageMove w stage (w.stageStep stage).1 (w.stageStep stage).2 := by
  have hstay := Chatter.refl w
  cases stage with
  | taking =>
      rcases htake : w.queue.take w.config.drainMode with ⟨batch, queue⟩
      cases batch with
      | nil =>
          simp only [stageStep, htake]
          exact .talk hstay rfl rfl
      | cons e rest =>
          have hmove : StageMove w .taking _ _ := .detach
          simp only [htake] at hmove
          simpa only [stageStep, htake] using hmove
  | detached batch => exact .announce batch
  | between left =>
      cases left with
      | nil => exact .talk hstay rfl rfl
      | cons e left =>
          simp only [stageStep, beginEntry]
          cases e.bytes with
          | nil => exact .talk hstay rfl rfl
          | cons b rest => exact .talk hstay rfl rfl
  | writing e rest effort left => exact stageMove_writeStep w e rest effort left
  | returned e error left => exact .settle e error left
  | settled e error left =>
      cases error with
      | none => exact .succeed e left
      | some x =>
          simp only [stageStep, countResult]
          exact .fail e x left (chatter_happen _ _)
  | flushing effort => exact stageMove_flushStep w effort
  | flushGivenUp x =>
      simp only [stageStep]
      exact .failFlush x (chatter_happen _ _) (uncounted_afterFlush w) (unsettled_afterFlush w)
  | done => exact .talk hstay rfl rfl
  | panicked left => exact .talk hstay rfl rfl

/-!
## Reports of the owner
-/

theorem announce_cases (w : Writer) (d : Diagnostic) :
    w.announce d = (w.record (.output (.reported d)), .idle) ∨
      exists line : Entry, w.announce d =
        ((w.record (.output (.reported d))).record (.handed .listener line), .offering line) := by
  unfold announce
  dsimp only
  cases (w.record (.output (.reported d))).lineOf? d with
  | none => exact Or.inl rfl
  | some line => exact Or.inr ⟨line, rfl⟩

section Announce

variable (w : Writer) (d : Diagnostic)

theorem handed_announce : (w.announce d).1.handed =
    w.handed ++ (w.announce d).2.unanswered.map fun line => (.listener, line) := by
  rcases announce_cases w d with h | ⟨line, h⟩ <;>
    simp [h, PushPhase.unanswered]

@[simp] theorem answers_announce : (w.announce d).1.answers = w.answers := by
  rcases announce_cases w d with h | ⟨line, h⟩ <;> simp [h]

@[simp] theorem refusals_announce : (w.announce d).1.refusals = w.refusals := by
  rcases announce_cases w d with h | ⟨line, h⟩ <;> simp [h]

@[simp] theorem departures_announce : (w.announce d).1.departures = w.departures := by
  rcases announce_cases w d with h | ⟨line, h⟩ <;> simp [h]

@[simp] theorem results_announce : (w.announce d).1.results = w.results := by
  rcases announce_cases w d with h | ⟨line, h⟩ <;> simp [h]

@[simp] theorem config_announce : (w.announce d).1.config = w.config := by
  rcases announce_cases w d with h | ⟨line, h⟩ <;> rw [h] <;> rfl

@[simp] theorem queue_announce : (w.announce d).1.queue = w.queue := by
  rcases announce_cases w d with h | ⟨line, h⟩ <;> rw [h] <;> rfl

@[simp] theorem active_announce : (w.announce d).1.active = w.active := by
  rcases announce_cases w d with h | ⟨line, h⟩ <;> rw [h] <;> rfl

@[simp] theorem counters_announce : (w.announce d).1.counters = w.counters := by
  rcases announce_cases w d with h | ⟨line, h⟩ <;> rw [h] <;> rfl

@[simp] theorem output_announce : (w.announce d).1.output = w.output := by
  rcases announce_cases w d with h | ⟨line, h⟩ <;> rw [h] <;> rfl

@[simp] theorem listener_announce : (w.announce d).1.listener = w.listener := by
  rcases announce_cases w d with h | ⟨line, h⟩ <;> rw [h] <;> rfl

@[simp] theorem producers_announce : (w.announce d).1.producers = w.producers := by
  rcases announce_cases w d with h | ⟨line, h⟩ <;> rw [h] <;> rfl

@[simp] theorem drain_announce : (w.announce d).1.drain = w.drain := by
  rcases announce_cases w d with h | ⟨line, h⟩ <;> rw [h] <;> rfl

end Announce

def giveUp (w : Writer) (queued : List Entry) : Writer :=
  { w with
    counters := w.counters.abandonInFlight.2.countFailed
      (UInt64.ofNat queued.length + w.counters.abandonInFlight.1)
    drain := .panicked [] }.record (.abandoned (w.drain.stage.uncounted ++ queued))

theorem recover_eq (w : Writer) (queued : List Entry) :
    w.recover queued =
      { ((w.giveUp queued).announce (.threadPanicked
          (UInt64.ofNat queued.length + w.counters.abandonInFlight.1))).1 with
        owner := .reportingLoss ((w.giveUp queued).announce (.threadPanicked
          (UInt64.ofNat queued.length + w.counters.abandonInFlight.1))).2 } := rfl

theorem sum_eq (w : Writer) :
    w.sum = { (w.announce (.shutDown w.stats)).1 with
      owner := .reportingEnd w.stats (w.announce (.shutDown w.stats)).2 } := rfl

/-!
## Moves of the threads
-/

inductive Pass (w : Writer) : Writer -> Prop where
  | start : w.drain = .starting ->
      Pass w { w.happen (.reported .threadStarted) with drain := .checking }
  | check : w.drain = .checking ->
      Pass w { w with drain := if w.active then .waiting else .stopping }
  | wake : w.drain = .waiting -> Pass w { w with drain := .draining .taking }
  | stop : w.drain = .stopping ->
      Pass w { w.happen (.reported .threadStopping) with drain := .stopped }
  | request : w.owner = .inUse -> Pass w { w with active := false, owner := .closing }
  | again : w.owner.hasEnded = true -> Pass w w
  | close : w.owner = .closing -> Pass w { w with queue := w.queue.close, owner := .joining }
  | join : w.owner = .joining -> w.drain = .stopped ->
      Pass w { w with owner := .finishing .taking }
  | joinPanicked {left : List Entry} : w.owner = .joining -> w.drain = .panicked left ->
      Pass w { w with owner := .recovering }
  | lossReported : w.owner = .reportingLoss .idle -> Pass w { w with owner := .summing }
  | endReported {stats : Stats} : w.owner = .reportingEnd stats .idle ->
      Pass w { w with owner := .finished stats }
  | listen (listener : Listener) : Pass w { w with listener := some listener }

namespace Pass

variable {w w' : Writer}

theorem telling (h : Pass w w') : Telling .listener w w' := by
  cases h with
  | start _ => exact (chatter_happen w _).toTelling.trans (Telling.of_eq rfl rfl)
  | stop _ => exact (chatter_happen w _).toTelling.trans (Telling.of_eq rfl rfl)
  | _ => exact Telling.of_eq rfl rfl

theorem entries (h : Pass w w') : w'.queue.entries = w.queue.entries := by
  cases h with
  | start _ => exact congrArg Queue.entries (chatter_happen w _).queue
  | stop _ => exact congrArg Queue.entries (chatter_happen w _).queue
  | _ => rfl

theorem config (h : Pass w w') : w'.config = w.config := by
  cases h with
  | start _ => exact (chatter_happen w _).config
  | stop _ => exact (chatter_happen w _).config
  | _ => rfl

theorem drain_stage (h : Pass w w') :
    w'.drain.stage.uncounted = w.drain.stage.uncounted ∧
      w'.drain.stage.unsettled = w.drain.stage.unsettled := by
  cases h with
  | start hdrain => rw [hdrain]; exact ⟨rfl, rfl⟩
  | stop hdrain => rw [hdrain]; exact ⟨rfl, rfl⟩
  | check hdrain => rw [hdrain]; cases w.active <;> exact ⟨rfl, rfl⟩
  | wake hdrain => rw [hdrain]; exact ⟨rfl, rfl⟩
  | _ => exact ⟨rfl, rfl⟩

theorem owner_hands (h : Pass w w') :
    w'.owner.uncounted = w.owner.uncounted ∧
      w'.owner.stage.unsettled = w.owner.stage.unsettled ∧ w'.owner.push = w.owner.push := by
  cases h with
  | start _ => rw [← (chatter_happen w (.reported .threadStarted)).owner]; exact ⟨rfl, rfl, rfl⟩
  | stop _ => rw [← (chatter_happen w (.reported .threadStopping)).owner]; exact ⟨rfl, rfl, rfl⟩
  | request howner | close howner | join howner _ | joinPanicked howner _ | lossReported howner
  | endReported howner => rw [howner]; exact ⟨rfl, rfl, rfl⟩
  | _ => exact ⟨rfl, rfl, rfl⟩

theorem producers (h : Pass w w') : w'.producers = w.producers := by
  cases h with
  | start _ => exact (chatter_happen w _).producers
  | stop _ => exact (chatter_happen w _).producers
  | _ => rfl

theorem inHand (h : Pass w w') : w'.inHand = w.inHand := by
  rw [Writer.inHand, Writer.inHand, h.drain_stage.1, h.owner_hands.1]

theorem pushes (h : Pass w w') : w'.pushes = w.pushes := by
  rw [Writer.pushes, Writer.pushes, h.producers, h.owner_hands.2.2]

end Pass

/-- What one step of a writer can do. -/
inductive Move (w : Writer) : Writer -> Prop where
  | hand {producer : Nat} (e : Entry) : w.producers[producer]? = some .idle ->
      Move w ({ w with producers := w.producers.set producer (.offering e) }.record
        (.handed (.producer producer) e))
  | refuse {producer : Nat} (e : Entry) : w.producers[producer]? = some .idle ->
      Move w (w.refuseEntry (.producer producer) e)
  | push {producer : Nat} {phase phase' : PushPhase} {w' : Writer} :
      w.producers[producer]? = some phase -> PushMove w (.producer producer) phase w' phase' ->
      Move w { w' with producers := w'.producers.set producer phase' }
  | report {phase' : PushPhase} {w' : Writer} : PushMove w .listener w.owner.push w' phase' ->
      Move w { w' with owner := w'.owner.withPush phase' }
  | work {stage : Stage} : w.drain = .draining stage ->
      Move w { (w.stageStep stage).1 with drain := .after (w.stageStep stage).2 }
  | finish {stage : Stage} : w.owner = .finishing stage ->
      Move w { (w.stageStep stage).1 with owner := .after (w.stageStep stage).2 }
  | abandon : w.owner = .recovering -> Move w w.abandon
  | recover {queued : List Entry} : w.owner = .abandoning queued -> Move w (w.recover queued)
  | sum : w.owner = .summing -> Move w w.sum
  | pass {w' : Writer} : Pass w w' -> Move w w'

theorem Move.config {w w' : Writer} (h : Move w w') : w'.config = w.config := by
  cases h with
  | push _ hpush => exact hpush.config
  | report hpush => exact hpush.config
  | work _ => exact (stageMove_stageStep w _).config
  | finish _ => exact (stageMove_stageStep w _).config
  | recover _ => exact config_announce _ _
  | sum _ => exact config_announce _ _
  | pass hpass => exact hpass.config
  | _ => rfl

theorem move_of_producerStep {w w' : Writer} {producer : Nat} {timedOut : Bool}
    (h : w.producerStep producer timedOut = some w') : Move w w' := by
  unfold producerStep at h
  cases hphase : w.producers[producer]? with
  | none => simp [hphase] at h
  | some phase =>
      simp only [hphase, Option.map_eq_some_iff] at h
      rcases h with ⟨⟨w'', phase'⟩, hpush, rfl⟩
      exact .push hphase (pushMove_of_pushStep hpush)

theorem move_of_drainStep {w w' : Writer} (h : w.drainStep = some w') : Move w w' := by
  unfold drainStep at h
  cases hdrain : w.drain with
  | starting =>
      simp only [hdrain, Option.some.injEq] at h
      exact h ▸ .pass (.start hdrain)
  | checking =>
      simp only [hdrain, Option.some.injEq] at h
      exact h ▸ .pass (.check hdrain)
  | waiting =>
      simp only [hdrain, Option.some.injEq] at h
      exact h ▸ .pass (.wake hdrain)
  | draining stage =>
      simp only [hdrain, Option.some.injEq] at h
      exact h ▸ .work hdrain
  | stopping =>
      simp only [hdrain, Option.some.injEq] at h
      exact h ▸ .pass (.stop hdrain)
  | stopped | panicked left => simp [hdrain] at h

theorem move_of_report {w w' : Writer} {timedOut : Bool} (owner : PushPhase -> OwnerPhase)
    (hpush : (owner w.owner.push) = w.owner)
    (howner : forall push push', (owner push).withPush push' = owner push')
    (h : ((w.pushStep .listener timedOut w.owner.push).map fun (w', push') =>
      { w' with owner := owner push' }) = some w') : Move w w' := by
  simp only [Option.map_eq_some_iff] at h
  rcases h with ⟨⟨w'', push'⟩, hstep, rfl⟩
  have hmove := pushMove_of_pushStep hstep
  have howner' : w''.owner = w.owner := hmove.owner
  have heq : owner push' = w''.owner.withPush push' := by
    rw [howner', ← hpush, howner]
  rw [heq]
  exact .report hmove

theorem move_of_ownerStep {w w' : Writer} {timedOut : Bool}
    (h : w.ownerStep timedOut = some w') : Move w w' := by
  unfold ownerStep at h
  cases howner : w.owner with
  | inUse | finished stats | unwound left => simp [howner] at h
  | closing =>
      simp only [howner, Option.some.injEq] at h
      exact h ▸ .pass (.close howner)
  | joining =>
      cases hdrain : w.drain with
      | stopped =>
          simp only [howner, hdrain, Option.some.injEq] at h
          rw [← h, ← hdrain]
          exact .pass (.join howner hdrain)
      | panicked left =>
          simp only [howner, hdrain, Option.some.injEq] at h
          rw [← h, ← hdrain]
          exact .pass (.joinPanicked howner hdrain)
      | _ => simp [howner, hdrain] at h
  | finishing stage =>
      simp only [howner, Option.some.injEq] at h
      exact h ▸ .finish howner
  | recovering =>
      simp only [howner, Option.some.injEq] at h
      exact h ▸ .abandon howner
  | abandoning queued =>
      simp only [howner, Option.some.injEq] at h
      exact h ▸ .recover howner
  | reportingLoss push =>
      have hpush : w.owner.push = push := by rw [howner]; rfl
      cases push with
      | idle =>
          simp only [howner, Option.some.injEq] at h
          exact h ▸ .pass (.lossReported howner)
      | offering e | blocked e | counting outcome =>
          simp only [howner] at h
          rw [← hpush] at h
          exact move_of_report .reportingLoss (by rw [hpush, howner]) (fun _ _ => rfl) h
  | summing =>
      simp only [howner, Option.some.injEq] at h
      exact h ▸ .sum howner
  | reportingEnd stats push =>
      have hpush : w.owner.push = push := by rw [howner]; rfl
      cases push with
      | idle =>
          simp only [howner, Option.some.injEq] at h
          exact h ▸ .pass (.endReported howner)
      | offering e | blocked e | counting outcome =>
          simp only [howner] at h
          rw [← hpush] at h
          exact move_of_report (.reportingEnd stats) (by rw [hpush, howner]) (fun _ _ => rfl) h

theorem move_of_step {w w' : Writer} {a : Action} (h : w.step a = some w') : Move w w' := by
  cases a with
  | hand producer e =>
      simp only [step, Writer.hand] at h
      split at h
      · rename_i hidle
        simp only [Option.some.injEq] at h
        exact h ▸ .hand e hidle
      · cases h
  | refuse producer e =>
      simp only [step, handRefused] at h
      split at h
      · rename_i hidle
        simp only [Option.some.injEq] at h
        exact h ▸ .refuse e hidle
      · cases h
  | push producer timedOut => exact move_of_producerStep h
  | drain => exact move_of_drainStep h
  | shutDown =>
      simp only [step, beginShutdown] at h
      cases howner : w.owner with
      | inUse =>
          simp only [howner, Option.some.injEq] at h
          exact h ▸ .pass (.request howner)
      | finished stats | unwound left =>
          simp only [howner, Option.some.injEq] at h
          exact h ▸ .pass (.again (by rw [howner]; rfl))
      | _ => simp [howner] at h
  | owner timedOut => exact move_of_ownerStep h
  | listen listener =>
      simp only [step, Option.some.injEq] at h
      exact h ▸ .pass (.listen listener)

/-- Whatever every move keeps holds at the end of a run. -/
theorem run_induction {P : Writer -> Prop} (hmove : forall {w w'}, P w -> Move w w' -> P w')
    {w w' : Writer} {actions : List Action} (h : P w) (hrun : w.run actions = some w') : P w' := by
  induction actions generalizing w with
  | nil =>
      simp only [run_nil, Option.some.injEq] at hrun
      exact hrun ▸ h
  | cons a rest ih =>
      simp only [run_cons, Option.bind_eq_some_iff] at hrun
      rcases hrun with ⟨next, hstep, hrest⟩
      exact ih (hmove h (move_of_step hstep)) hrest

theorem config_of_run {w w' : Writer} {actions : List Action} (h : w.run actions = some w') :
    w'.config = w.config := by
  refine run_induction (P := fun next => next.config = w.config) ?_ rfl h
  intro next next' hnext hmove
  rw [hmove.config, hnext]

end Writer

end AsyncLog
