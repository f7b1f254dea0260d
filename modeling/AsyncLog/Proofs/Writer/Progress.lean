import AsyncLog.Proofs.Writer.Panics
/-!
# Progress of the drain thread

A backlog in hand is dealt with in boundedly many steps, whatever the output answers:
every call that does not take any byte uses up some of the effort.  So the drain thread,
left to itself, comes to the end of the queue unless the output panics.
-/

namespace AsyncLog

def RetryRule.callLimit (rule : RetryRule) : Nat :=
  (Effort.fresh rule).budget rule.retries + 1

/-- The most steps from the announcement of some entries to the end of the flush after
them: an entry takes a call or more for each byte and three steps besides. -/
def RetryRule.stepLimit (rule : RetryRule) : List Entry -> Nat
  | [] => rule.callLimit + 2
  | e :: left => e.bytes.length * rule.callLimit + 3 + rule.stepLimit left

def Stage.stepsLeft (rule : RetryRule) : Stage -> Nat
  | .taking | .done | .panicked _ => 0
  | .detached batch => rule.stepLimit batch + 1
  | .between left => rule.stepLimit left
  | .writing _ rest effort left =>
      (rest.length - 1) * rule.callLimit + effort.budget rule.retries + 3 + rule.stepLimit left
  | .returned _ _ left => rule.stepLimit left + 2
  | .settled _ _ left => rule.stepLimit left + 1
  | .flushing effort => effort.budget rule.retries + 2
  | .flushGivenUp _ => 1

def DrainPhase.stepsLeft (rule : RetryRule) : DrainPhase -> Nat
  | .starting => 3
  | .checking => 2
  | .waiting => 1
  | .draining .taking => 0
  | .draining stage => stage.stepsLeft rule + 3
  | .stopping | .stopped | .panicked _ => 0

theorem RetryRule.budget_fresh (rule : RetryRule) :
    (Effort.fresh rule).budget rule.retries + 1 = rule.callLimit := rfl

theorem RetryRule.calls_of_drop (rule : RetryRule) {rest more : List UInt8} {b : UInt8}
    {taken : { n : Nat // 0 < n }} (hleft : rest.drop taken.val = b :: more) :
    more.length * rule.callLimit + rule.callLimit ≤ (rest.length - 1) * rule.callLimit := by
  have htaken := taken.property
  have hdropped := congrArg List.length hleft
  rw [List.length_drop, List.length_cons] at hdropped
  have hshorter : more.length + 1 ≤ rest.length - 1 := by omega
  calc more.length * rule.callLimit + rule.callLimit
      = (more.length + 1) * rule.callLimit := by rw [Nat.add_mul, Nat.one_mul]
    _ ≤ (rest.length - 1) * rule.callLimit := Nat.mul_le_mul_right _ hshorter

namespace Writer

variable {w w' : Writer} {rule : RetryRule}

theorem stepsLeft_afterFlush (w : Writer) : w.afterFlush.stepsLeft rule = 0 := by
  unfold afterFlush
  cases w.config.drainMode <;> rfl

theorem WriteEvent.stepsLeft_lt {e : Entry} {rest : List UInt8} {effort : Effort}
    {left : List Entry} {reply : Reply { n : Nat // 0 < n }} {stage' : Stage}
    (h : WriteEvent rule e rest effort left reply stage') :
    stage'.stepsLeft rule < (Stage.writing e rest effort left).stepsLeft rule := by
  cases h with
  | panicked | written _ | givenUp _ =>
      simp only [Stage.stepsLeft]
      omega
  | @partly taken b more hleft =>
      have hmost := rule.calls_of_drop hleft
      have hfresh := rule.budget_fresh
      simp only [Stage.stepsLeft, List.length_cons, Nat.add_sub_cancel]
      omega
  | again heffort =>
      have hless := Effort.budget_afterError heffort
      simp only [Stage.stepsLeft]
      omega

theorem FlushEvent.stepsLeft_lt {effort : Effort} {next stage' : Stage} {reply : Reply Unit}
    (h : FlushEvent rule effort next reply stage') (hnext : next.stepsLeft rule = 0) :
    stage'.stepsLeft rule < (Stage.flushing effort).stepsLeft rule := by
  cases h with
  | panicked | givenUp _ =>
      simp only [Stage.stepsLeft]
      omega
  | flushed =>
      rw [hnext, Stage.stepsLeft]
      omega
  | again heffort =>
      have hless := Effort.budget_afterError heffort
      simp only [Stage.stepsLeft]
      omega

/-- Every step of moving entries leads on, unless the thread is done or looks into the
queue next. -/
theorem stepsLeft_stageStep_lt {stage : Stage} (hrule : w.config.retryRule = rule)
    (hstage : 0 < stage.stepsLeft rule) :
    (w.stageStep stage).2.stepsLeft rule < stage.stepsLeft rule := by
  cases stage with
  | taking | done | panicked left => cases hstage
  | writing e rest effort left =>
      rcases hwrite : Output.write rest w.output with ⟨reply, made, output⟩
      rw [← hrule]
      exact (writeEvent_writeStep hwrite).stepsLeft_lt
  | flushing effort =>
      rcases hflush : w.output.flush with ⟨reply, made, output⟩
      rw [← hrule]
      exact (flushEvent_flushStep hflush).stepsLeft_lt (stepsLeft_afterFlush w)
  | flushGivenUp x =>
      simp only [stageStep, stepsLeft_afterFlush]
      exact hstage
  | detached batch | returned e error left | settled e error left =>
      simp only [stageStep, Stage.stepsLeft]
      omega
  | between left =>
      cases left with
      | nil =>
          simp only [stageStep, Stage.stepsLeft, RetryRule.stepLimit, hrule]
          have hfresh := rule.budget_fresh
          omega
      | cons e left =>
          simp only [stageStep, beginEntry, hrule]
          cases hbytes : e.bytes with
          | nil =>
              simp only [Stage.stepsLeft, RetryRule.stepLimit, hbytes]
              omega
          | cons b more =>
              have hfresh := rule.budget_fresh
              simp only [Stage.stepsLeft, RetryRule.stepLimit, hbytes, List.length_cons,
                Nat.add_sub_cancel, Nat.add_mul]
              omega

/-!
## The drain thread by itself
-/

theorem stepsLeft_draining {stage : Stage} (htaking : stage ≠ .taking) :
    (DrainPhase.draining stage).stepsLeft rule = stage.stepsLeft rule + 3 := by
  cases stage with
  | taking => exact absurd rfl htaking
  | _ => rfl

theorem stepsLeft_after_le (rule : RetryRule) (stage : Stage) :
    (DrainPhase.after stage).stepsLeft rule ≤ stage.stepsLeft rule + 3 := by
  cases stage <;> simp [DrainPhase.after, DrainPhase.stepsLeft]

theorem after_ne_stopping (stage : Stage) : DrainPhase.after stage ≠ .stopping := by
  cases stage <;> simp [DrainPhase.after]

/-- A step of the drain thread towards the end of the queue: the queue becomes shorter, or
the thread comes closer to looking into it. -/
structure Nears (rule : RetryRule) (w w' : Writer) : Prop where
  config : w'.config = w.config
  active : w'.active = w.active
  running : w'.drain ≠ .stopping
  entries : w'.detachedEntries ++ w'.queue.entries = w.detachedEntries ++ w.queue.entries
  closer : w'.drain.hasEnded = true ∨ w'.queue.entries.length < w.queue.entries.length ∨
    (w'.queue.entries.length = w.queue.entries.length ∧
      w'.drain.stepsLeft rule < w.drain.stepsLeft rule)

theorem closer_of_taking (hqueued : w.queue.entries ≠ []) :
    (w.stageStep .taking).1.queue.entries.length < w.queue.entries.length := by
  rcases htake : w.queue.take w.config.drainMode with ⟨batch, queue⟩
  have hall := w.queue.take_append_entries w.config.drainMode
  have hsome := mt (w.queue.take_eq_nil_iff w.config.drainMode).mp hqueued
  simp only [htake] at hall hsome
  cases batch with
  | nil => exact absurd rfl hsome
  | cons e rest =>
      have hlength := congrArg List.length hall
      rw [List.length_append, List.length_cons] at hlength
      simp only [stageStep, htake, queue_record]
      omega

theorem closer_of_stage {stage : Stage} (hrule : w.config.retryRule = rule)
    (htaking : stage ≠ .taking) :
    (DrainPhase.after (w.stageStep stage).2).stepsLeft rule <
      (DrainPhase.draining stage).stepsLeft rule := by
  rw [stepsLeft_draining htaking]
  by_cases hleft : 0 < stage.stepsLeft rule
  · have hless := stepsLeft_stageStep_lt hrule hleft
    have hafter := stepsLeft_after_le rule (w.stageStep stage).2
    omega
  · -- Nothing is left to do only where the thread goes back to its flag or has ended.
    cases stage with
    | taking => exact absurd rfl htaking
    | done => simp [stageStep, DrainPhase.after, DrainPhase.stepsLeft]
    | panicked left => simp [stageStep, DrainPhase.after, DrainPhase.stepsLeft]
    | between left => cases left <;> simp [Stage.stepsLeft, RetryRule.stepLimit] at hleft
    | _ => simp [Stage.stepsLeft] at hleft

theorem nears_stage {stage : Stage} (hrule : w.config.retryRule = rule)
    (hdrain : w.drain = .draining stage) (hqueued : w.queue.entries ≠ []) :
    Nears rule w { (w.stageStep stage).1 with drain := .after (w.stageStep stage).2 } := by
  have hmove := stageMove_stageStep w stage
  refine ⟨hmove.config, hmove.active, after_ne_stopping _, hmove.lineup, ?_⟩
  right
  by_cases htaking : stage = .taking
  · left
    rw [htaking]
    exact closer_of_taking hqueued
  · right
    constructor
    · rcases hmove.queue with hqueue | ⟨hcontra, _⟩
      · exact congrArg (fun queue => queue.entries.length) hqueue
      · exact absurd hcontra htaking
    · rw [hdrain]
      exact closer_of_stage hrule htaking

/-- As long as the writer is active the drain thread is never stuck. -/
theorem nears_drainStep (hrule : w.config.retryRule = rule) (hactive : w.active = true)
    (hrunning : w.drain.hasEnded = false) (hstopping : w.drain ≠ .stopping)
    (hqueued : w.queue.entries ≠ []) : exists w', w.step .drain = some w' ∧ Nears rule w w' := by
  cases hdrain : w.drain with
  | stopping => exact absurd hdrain hstopping
  | stopped | panicked left =>
      rw [hdrain] at hrunning
      cases hrunning
  | starting =>
      have hchatter := chatter_happen w (.reported .threadStarted)
      refine ⟨{ w.happen (.reported .threadStarted) with drain := .checking }, ?_, ?_⟩
      · simp only [step, drainStep, hdrain]
      refine ⟨hchatter.config, hchatter.active, by simp, ?_, Or.inr (Or.inr ⟨?_, ?_⟩)⟩
      · have hdetached := congrArg (List.filterMap Departure.detached?) hchatter.departures
        have hentries := congrArg Queue.entries hchatter.queue
        exact (congrArg (· ++ _) hdetached).trans (congrArg (w.detachedEntries ++ ·) hentries)
      · exact congrArg (fun queue => queue.entries.length) hchatter.queue
      · rw [hdrain]
        simp [DrainPhase.stepsLeft]
  | checking =>
      refine ⟨{ w with drain := .waiting }, ?_, ?_⟩
      · simp only [step, drainStep, hdrain, hactive, if_true]
      refine ⟨rfl, rfl, by simp, rfl, Or.inr (Or.inr ⟨rfl, ?_⟩)⟩
      rw [hdrain]
      simp [DrainPhase.stepsLeft]
  | waiting =>
      refine ⟨{ w with drain := .draining .taking }, ?_, ?_⟩
      · simp only [step, drainStep, hdrain]
      refine ⟨rfl, rfl, by simp, rfl, Or.inr (Or.inr ⟨rfl, ?_⟩)⟩
      rw [hdrain]
      simp [DrainPhase.stepsLeft]
  | draining stage =>
      refine ⟨_, ?_, nears_stage hrule hdrain hqueued⟩
      simp only [step, drainStep, hdrain]

/-- By itself the drain thread of an active writer detaches all that is queued, or it
ends in a panic on the way. -/
theorem exists_detached (rule : RetryRule) (w : Writer) (hrule : w.config.retryRule = rule)
    (hactive : w.active = true) (hrunning : w.drain.hasEnded = false)
    (hstopping : w.drain ≠ .stopping) :
    exists n w', w.run (List.replicate n .drain) = some w' ∧ w'.active = true ∧
      (w'.drain.hasEnded = true ∨
        (w'.queue.entries = [] ∧ w'.detachedEntries = w.detachedEntries ++ w.queue.entries)) := by
  by_cases hqueued : w.queue.entries = []
  · refine ⟨0, w, rfl, hactive, Or.inr ⟨hqueued, ?_⟩⟩
    rw [hqueued, List.append_nil]
  · rcases nears_drainStep hrule hactive hrunning hstopping hqueued with ⟨next, hstep, hnears⟩
    have hactive' : next.active = true := hnears.active.trans hactive
    cases hended : next.drain.hasEnded with
    | true =>
        refine ⟨1, next, ?_, hactive', Or.inl hended⟩
        simp [hstep]
    | false =>
        have hcloser := hnears.closer.resolve_left (by simp [hended])
        rcases exists_detached rule next (by rw [hnears.config, hrule]) hactive' hended
          hnears.running with ⟨n, last, hrun, hactiveLast, hlast⟩
        refine ⟨n + 1, last, ?_, hactiveLast, ?_⟩
        · rw [List.replicate_succ, run_cons, hstep]
          exact hrun
        · rw [← hnears.entries]
          exact hlast
termination_by (w.queue.entries.length, w.drain.stepsLeft rule)
decreasing_by
  rw [Prod.lex_def]
  simpa using hcloser

end Writer

end AsyncLog
