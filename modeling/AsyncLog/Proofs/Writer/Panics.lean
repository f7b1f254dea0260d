import AsyncLog.Proofs.Output.Honest
import AsyncLog.Proofs.Writer.Stages
/-!
# Panics of the output

A thread panics in a call on the output and nowhere else, and the trace keeps the call for
good.  So the calls of a run tell whether any thread has panicked, and as long as none
has, whatever the steps of moving entries keep holds.
-/

namespace AsyncLog

def Call.panics : Call -> Bool
  | .write _ .panics | .flush .panics => true
  | .write _ _ | .flush _ => false

def Stage.isPanicked : Stage -> Bool
  | .panicked _ => true
  | _ => false

section Reply

variable {rest : List UInt8} {output output' : Output} {made : Call}

theorem panics_of_write {reply : Reply { n : Nat // 0 < n }}
    (h : Output.write rest output = (reply, made, output')) :
    made.panics = true ↔ reply = .panic := by
  cases h
  constructor
  · intro hpanics
    cases hresponse : output.script.write output.writes with
    | panics => rfl
    | _ =>
        rw [hresponse] at hpanics
        cases hpanics
  · intro hpanic
    rw [response_of_panic hpanic]
    rfl

theorem panics_of_flush {reply : Reply Unit} (h : output.flush = (reply, made, output')) :
    made.panics = true ↔ reply = .panic := by
  cases h
  cases output.script.flush output.flushes <;> simp [Call.panics]

end Reply

namespace Writer

variable {w w' : Writer}

/-!
## The trace only grows
-/

theorem trace_record (w : Writer) (i : Incident) : w.trace <:+ (w.record i).trace :=
  List.suffix_cons i w.trace

theorem trace_refuse (w : Writer) (d : Diagnostic) : w.trace <:+ (w.refuse d).trace := by
  unfold refuse
  cases w.lineOf? d with
  | none => exact List.suffix_rfl
  | some line => exact trace_record _ _

theorem trace_happen (w : Writer) (h : Happening) : w.trace <:+ (w.happen h).trace := by
  cases h with
  | reported d => exact (trace_record w _).trans (trace_refuse _ d)
  | called _ | paused _ => exact trace_record w _

theorem trace_happenAll (w : Writer) (hs : List Happening) :
    w.trace <:+ (w.happenAll hs).trace := by
  induction hs generalizing w with
  | nil => exact List.suffix_rfl
  | cons h rest ih => exact (trace_happen w h).trans (ih _)

theorem trace_announce (w : Writer) (d : Diagnostic) : w.trace <:+ (w.announce d).1.trace := by
  rcases announce_cases w d with h | ⟨line, h⟩
  · rw [h]
    exact trace_record w _
  · rw [h]
    exact (trace_record w _).trans (trace_record _ _)

theorem trace_writeStep (w : Writer) (e : Entry) (rest : List UInt8) (effort : Effort)
    (left : List Entry) : w.trace <:+ (w.writeStep e rest effort left).1.trace := by
  rcases hwrite : Output.write rest w.output with ⟨reply, made, output⟩
  have hcall := trace_happen { w with output } (.called made)
  simp only [writeStep, hwrite]
  cases reply with
  | panic => exact hcall
  | ok taken =>
      dsimp only
      cases rest.drop taken.val <;> exact hcall
  | error x =>
      dsimp only
      split
      · exact hcall
      · exact hcall.trans (trace_happenAll _ _)

theorem trace_flushStep (w : Writer) (effort : Effort) :
    w.trace <:+ (w.flushStep effort).1.trace := by
  rcases hflush : w.output.flush with ⟨reply, made, output⟩
  have hcall := trace_happen { w with output } (.called made)
  simp only [flushStep, hflush]
  cases reply with
  | panic | ok _ => exact hcall
  | error x =>
      dsimp only
      split
      · exact hcall
      · exact hcall.trans (trace_happenAll _ _)

theorem trace_stageStep (w : Writer) (stage : Stage) :
    w.trace <:+ (w.stageStep stage).1.trace := by
  cases stage with
  | writing e rest effort left => exact trace_writeStep w e rest effort left
  | flushing effort => exact trace_flushStep w effort
  | taking =>
      simp only [stageStep]
      split
      · exact List.suffix_rfl
      · exact trace_record _ _
  | between left => cases left <;> exact List.suffix_rfl
  | settled e error left =>
      cases error with
      | none => exact trace_record _ _
      | some x =>
          have hcounted := trace_record { w with counters := w.counters.countFailed 1 }
            (.counted e (some x))
          exact hcounted.trans (trace_happen _ _)
  | flushGivenUp x => exact trace_happen { w with counters := w.counters.countFlushFailure } _
  | _ => exact List.suffix_rfl

theorem PushMove.trace {source : Source} {phase phase' : PushPhase}
    (h : PushMove w source phase w' phase') : w.trace <:+ w'.trace := by
  cases h with
  | wait _ | count _ => exact List.suffix_rfl
  | offer _ | reoffer _ => exact trace_record _ _

theorem Pass.trace (h : Pass w w') : w.trace <:+ w'.trace := by
  cases h with
  | start _ | stop _ => exact trace_happen w _
  | _ => exact List.suffix_rfl

theorem Move.trace (h : Move w w') : w.trace <:+ w'.trace := by
  cases h with
  | hand e _ | refuse e _ => exact trace_record _ _
  | push _ hpush => exact hpush.trace
  | report hpush => exact hpush.trace
  | work _ | finish _ => exact trace_stageStep w _
  | abandon _ => exact trace_record _ _
  | @recover queued _ =>
      have hgivenUp : w.trace <:+ (w.giveUp queued).trace := List.suffix_cons _ _
      exact hgivenUp.trans (trace_announce _ _)
  | sum _ => exact trace_announce w _
  | pass hpass => exact hpass.trace

theorem chronicle_extend (h : w.trace <:+ w'.trace) (tell : Incident -> List α) :
    w.chronicle tell <+: w'.chronicle tell := by
  rcases h with ⟨later, hlater⟩
  refine ⟨later.reverse.flatMap tell, ?_⟩
  rw [chronicle, chronicle, ← hlater, List.reverse_append, List.flatMap_append]

theorem calls_extend (h : w.trace <:+ w'.trace) : w.calls <+: w'.calls := by
  have hreverse := List.reverse_prefix.mpr h
  exact (hreverse.filterMap Incident.happening?).filterMap Happening.call?

/-!
## Calls that panic
-/

def hasPanicked (w : Writer) : Bool :=
  w.calls.any Call.panics

theorem hasPanicked_of_calls (h : w'.calls = w.calls) : w'.hasPanicked = w.hasPanicked := by
  rw [hasPanicked, h, hasPanicked]

theorem hasPanicked_of_move (hmove : Move w w') (h : w.hasPanicked = true) :
    w'.hasPanicked = true := by
  rcases List.any_eq_true.mp h with ⟨call, hcall, hpanics⟩
  exact List.any_eq_true.mpr ⟨call, (calls_extend hmove.trace).subset hcall, hpanics⟩

theorem hasPanicked_of_append {made : Call} (h : w'.calls = w.calls ++ [made]) :
    w'.hasPanicked = (w.hasPanicked || made.panics) := by
  simp [hasPanicked, h]

theorem WriteEvent.isPanicked_iff {rule : RetryRule} {e : Entry} {rest : List UInt8}
    {effort : Effort} {left : List Entry} {reply : Reply { n : Nat // 0 < n }} {stage' : Stage}
    (h : WriteEvent rule e rest effort left reply stage') :
    stage'.isPanicked = true ↔ reply = .panic := by
  cases h <;> simp [Stage.isPanicked]

theorem FlushEvent.isPanicked_iff {rule : RetryRule} {effort : Effort} {next stage' : Stage}
    {reply : Reply Unit} (h : FlushEvent rule effort next reply stage')
    (hnext : next.isPanicked = false) : stage'.isPanicked = true ↔ reply = .panic := by
  cases h with
  | flushed => simp [hnext]
  | _ => simp [Stage.isPanicked]

theorem isPanicked_afterFlush (w : Writer) : w.afterFlush.isPanicked = false := by
  unfold afterFlush
  cases w.config.drainMode <;> rfl

theorem isPanicked_stageStep {stage : Stage} (hstage : stage.isPanicked = false)
    (hsilent : stage.callsNext = false) : (w.stageStep stage).2.isPanicked = false := by
  cases stage with
  | writing _ _ _ _ | flushing _ => cases hsilent
  | panicked left => cases hstage
  | taking =>
      simp only [stageStep]
      split <;> rfl
  | between left =>
      cases left with
      | nil => rfl
      | cons e left =>
          simp only [stageStep, beginEntry]
          split <;> rfl
  | flushGivenUp x => exact isPanicked_afterFlush w
  | _ => rfl

theorem hasPanicked_stageStep {stage : Stage} (hstage : stage.isPanicked = false) :
    (w.stageStep stage).1.hasPanicked =
      (w.hasPanicked || (w.stageStep stage).2.isPanicked) := by
  cases hsilent : stage.callsNext with
  | false =>
      rw [isPanicked_stageStep hstage hsilent, Bool.or_false]
      exact hasPanicked_of_calls (calls_stageStep hsilent)
  | true =>
      cases stage with
      | writing e rest effort left =>
          rcases hwrite : Output.write rest w.output with ⟨reply, made, output⟩
          have hevent : WriteEvent w.config.retryRule e rest effort left reply
              (w.writeStep e rest effort left).2 := writeEvent_writeStep hwrite
          have hpanics := hevent.isPanicked_iff.trans (panics_of_write hwrite).symm
          rw [stageStep, Bool.eq_iff_iff.mpr hpanics]
          exact hasPanicked_of_append (calls_writeStep hwrite).1
      | flushing effort =>
          rcases hflush : w.output.flush with ⟨reply, made, output⟩
          have hevent : FlushEvent w.config.retryRule effort w.afterFlush reply
              (w.flushStep effort).2 := flushEvent_flushStep hflush
          have hpanics := (hevent.isPanicked_iff (isPanicked_afterFlush w)).trans
            (panics_of_flush hflush).symm
          rw [stageStep, Bool.eq_iff_iff.mpr hpanics]
          exact hasPanicked_of_append (calls_flushStep hflush).1
      | _ => cases hsilent

/-- What the steps of moving entries keep from stage to stage holds in a whole run in which
no call has panicked. -/
theorem calm_induction {P : Writer -> Stage -> Prop}
    (honward : forall {w stage}, stage.isPanicked = false ->
      (w.stageStep stage).2.isPanicked = false -> P w stage ->
      P (w.stageStep stage).1 (w.stageStep stage).2)
    (hbegin : forall {w}, P w .done -> P w .taking)
    (haside : forall {w w' stage}, Offstage w w' -> w.trace <:+ w'.trace -> P w stage ->
      P w' stage) {actions : List Action} (hdiscipline : Discipline w)
    (hstage : w.workStage.isPanicked = false) (h : P w w.workStage)
    (hrun : w.run actions = some w') (hcalm : w'.hasPanicked = false) :
    w'.workStage.isPanicked = false ∧ P w' w'.workStage := by
  refine (Discipline.run (P := fun w => w.hasPanicked = false ->
    w.workStage.isPanicked = false ∧ P w w.workStage) ?_ hdiscipline (fun _ => ⟨hstage, h⟩)
    hrun).2 hcalm
  intro w w' hdiscipline hkept hmove hcalm'
  have hcalm : w.hasPanicked = false := by
    cases hpanicked : w.hasPanicked with
    | false => rfl
    | true =>
        rw [hasPanicked_of_move hmove hpanicked] at hcalm'
        cases hcalm'
  rcases hkept hcalm with ⟨hstage, hw⟩
  cases stageEvent_of_move hdiscipline hmove with
  | onward htrace hoff hnext =>
      have hpanicked := hasPanicked_stageStep (w := w) hstage
      rw [← hasPanicked_of_calls hoff.calls, hcalm', hcalm, Bool.false_or] at hpanicked
      rw [hnext]
      have hsame : (w.stageStep w.workStage).1.trace <:+ w'.trace := htrace ▸ List.suffix_rfl
      exact ⟨hpanicked.symm, haside hoff hsame (honward hstage hpanicked.symm hw)⟩
  | begin hoff hdone hnext =>
      rw [hdone] at hw
      rw [hnext]
      exact ⟨rfl, haside hoff hmove.trace (hbegin hw)⟩
  | aside hoff hnext =>
      rw [hnext]
      exact ⟨hstage, haside hoff hmove.trace hw⟩
  | recovery hleft =>
      rw [hleft] at hstage
      cases hstage

end Writer

end AsyncLog
