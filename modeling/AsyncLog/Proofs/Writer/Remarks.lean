import AsyncLog.Proofs.Output.Backoff
import AsyncLog.Proofs.Writer.Closing
/-!
# What a move tells

A move calls the output, or it makes at most one report, and none as long as a thread is in
the middle of an operation.  When it reports a loss it has counted it.
-/

namespace AsyncLog

namespace Diagnostic

def failures : Diagnostic -> UInt64
  | .entryFailed _ _ => 1
  | .threadPanicked lost => lost
  | _ => 0

def flushFailures : Diagnostic -> UInt64
  | .flushFailed _ => 1
  | _ => 0

def lost? : Diagnostic -> Option UInt64
  | .threadPanicked lost => some lost
  | _ => none

end Diagnostic

def Effort.between (retries : UInt32) (f : Effort) : Reply α -> List Happening
  | .error e => ((f.afterError retries e).map Prod.snd).getD []
  | .ok _ | .panic => []

theorem Effort.attempts_between (retries : UInt32) (f : Effort) (reply : Reply α) :
    forall d, d ∈ (f.between retries reply).filterMap Happening.report? ->
      d.attempt? ≠ none := by
  cases reply with
  | ok _ | panic => exact List.forall_mem_nil _
  | error e =>
      cases heffort : f.afterError retries e with
      | none =>
          rw [between, heffort]
          exact List.forall_mem_nil _
      | some more =>
          rw [between, heffort]
          cases Effort.consequence_of_afterError heffort with
          | atOnce _ _ => exact List.forall_mem_nil _
          | paused _ _ =>
              intro d hd
              rw [List.mem_singleton.mp hd]
              exact Option.some_ne_none _

namespace Writer

variable {w w' : Writer}

/-!
## What happens in a step
-/

theorem happenings_happenAll (w : Writer) (hs : List Happening) :
    (w.happenAll hs).happenings = w.happenings ++ hs := by
  induction hs generalizing w with
  | nil => exact (List.append_nil _).symm
  | cons h rest ih =>
      refine (ih (w.happen h)).trans ?_
      rw [happenings_happen, List.append_assoc]
      rfl

theorem happenings_writeStep {e : Entry} {rest : List UInt8} {effort : Effort}
    {left : List Entry} {reply : Reply { n : Nat // 0 < n }} {made : Call} {output : Output}
    (hwrite : Output.write rest w.output = (reply, made, output)) :
    (w.writeStep e rest effort left).1.happenings =
      w.happenings ++ .called made :: effort.between w.config.writeRetries reply := by
  have hcall : ({ w with output }.happen (.called made)).happenings =
      w.happenings ++ [.called made] := happenings_happen _ _
  have hconfig : ({ w with output }.happen (.called made)).config = w.config :=
    (chatter_happen _ _).config
  simp only [writeStep, hwrite]
  cases reply with
  | panic => exact hcall
  | ok taken =>
      dsimp only
      cases rest.drop taken.val <;> exact hcall
  | error x =>
      simp only [hconfig, Effort.between]
      cases effort.afterError w.config.writeRetries x with
      | none => exact hcall
      | some more =>
          refine (happenings_happenAll _ _).trans ?_
          rw [hcall, List.append_assoc]
          rfl

theorem happenings_flushStep {effort : Effort} {reply : Reply Unit} {made : Call}
    {output : Output} (hflush : w.output.flush = (reply, made, output)) :
    (w.flushStep effort).1.happenings =
      w.happenings ++ .called made :: effort.between w.config.writeRetries reply := by
  have hcall : ({ w with output }.happen (.called made)).happenings =
      w.happenings ++ [.called made] := happenings_happen _ _
  have hconfig : ({ w with output }.happen (.called made)).config = w.config :=
    (chatter_happen _ _).config
  simp only [flushStep, hflush]
  cases reply with
  | panic | ok _ => exact hcall
  | error x =>
      simp only [hconfig, Effort.between]
      cases effort.afterError w.config.writeRetries x with
      | none => exact hcall
      | some more =>
          refine (happenings_happenAll _ _).trans ?_
          rw [hcall, List.append_assoc]
          rfl

/-!
## Remarks
-/

structure Silent (w w' : Writer) : Prop where
  happenings : w'.happenings = w.happenings
  failed : w'.stats.failed = w.stats.failed
  flushFailures : w'.stats.flushFailures = w.stats.flushFailures

/-- Nothing happened but a report, which is about no attempt, and what it gives up was counted. -/
structure Remark (w w' : Writer) (d : Diagnostic) : Prop where
  happenings : w'.happenings = w.happenings ++ [.reported d]
  plain : d.attempt? = none
  failed : w'.stats.failed = w.stats.failed + d.failures
  flushFailures : w'.stats.flushFailures = w.stats.flushFailures + d.flushFailures

theorem Offstage.silent (h : Offstage w w') (hhappenings : w'.happenings = w.happenings) :
    Silent w w' :=
  ⟨hhappenings, h.failed, h.flushFailures⟩

theorem Offstage.remark {d : Diagnostic} (h : Offstage w w')
    (hhappenings : w'.happenings = w.happenings ++ [.reported d]) (hplain : d.attempt? = none)
    (hfailures : d.failures = 0) (hflush : d.flushFailures = 0) : Remark w w' d := by
  constructor
  · exact hhappenings
  · exact hplain
  · rw [hfailures, h.failed, UInt64.add_zero]
  · rw [hflush, h.flushFailures, UInt64.add_zero]

theorem Chatter.failed (h : Chatter w w') : w'.stats.failed = w.stats.failed := by
  rcases h.lines with ⟨lines, _, _, _, hcounters⟩
  rw [stats, hcounters]
  rfl

theorem Chatter.flushFailures (h : Chatter w w') :
    w'.stats.flushFailures = w.stats.flushFailures := by
  rcases h.lines with ⟨lines, _, _, _, hcounters⟩
  rw [stats, hcounters]
  rfl

theorem remark_stageStep {stage : Stage} (hsilent : stage.callsNext = false) :
    Silent w (w.stageStep stage).1 ∨
      exists d, Remark w (w.stageStep stage).1 d ∧ d.lost? = none := by
  cases stage with
  | taking =>
      apply Or.inl
      simp only [stageStep]
      split
      · exact ⟨rfl, rfl, rfl⟩
      · exact ⟨happenings_record_silent _ rfl, rfl, rfl⟩
  | between left => cases left <;> exact Or.inl ⟨rfl, rfl, rfl⟩
  | writing _ _ _ _ | flushing _ => cases hsilent
  | settled e error left =>
      cases error with
      | none => exact Or.inl ⟨happenings_record_silent _ rfl, rfl, rfl⟩
      | some x =>
          have hchatter := chatter_happen
            ({ w with counters := w.counters.countFailed 1 }.record (.counted e (some x)))
            (.reported (.entryFailed x e.bytes.length))
          right
          exists .entryFailed x e.bytes.length
          constructor
          · constructor
            · refine (happenings_happen _ _).trans ?_
              exact congrArg (· ++ _) (happenings_record_silent _ rfl)
            · rfl
            · exact hchatter.failed
            · exact hchatter.flushFailures.trans (UInt64.add_zero _).symm
          · rfl
  | flushGivenUp x =>
      have hchatter := chatter_happen { w with counters := w.counters.countFlushFailure }
        (.reported (.flushFailed x))
      right
      exists .flushFailed x
      constructor
      · constructor
        · exact happenings_happen _ _
        · rfl
        · exact hchatter.failed.trans (UInt64.add_zero _).symm
        · exact hchatter.flushFailures
      · rfl
  | _ => exact Or.inl ⟨rfl, rfl, rfl⟩

theorem PushMove.happenings {source : Source} {phase phase' : PushPhase}
    (h : PushMove w source phase w' phase') : w'.happenings = w.happenings := by
  cases h with
  | wait _ | count _ => rfl
  | offer _ | reoffer _ => exact happenings_record_silent _ rfl

theorem calls_of_silent (hdiscipline : Discipline w) (hmove : Move w w')
    (hsilent : w.workStage.callsNext = false) : w'.calls = w.calls := by
  rcases hmove.calls with hsame | ⟨hcalls, hdrain⟩ | ⟨stage, howner, hcalls⟩
  · exact hsame
  · rw [workStage_of_idle (hdiscipline.owner_hands hdrain).2, hcalls] at hsilent
    cases hsilent
  · have hstage : w.workStage = stage := by
      rw [workStage_of_stopped (hdiscipline.knows howner).1, howner]
      rfl
    rw [hstage, hcalls] at hsilent
    cases hsilent

theorem calls_of_callsNext {stage : Stage} (hcalls : stage.callsNext = true) :
    exists made, (w.stageStep stage).1.calls = w.calls ++ [made] := by
  cases stage with
  | writing e rest effort left =>
      rcases hwrite : Output.write rest w.output with ⟨reply, made, output⟩
      exact ⟨made, (calls_writeStep hwrite).1⟩
  | flushing effort =>
      rcases hflush : w.output.flush with ⟨reply, made, output⟩
      exact ⟨made, (calls_flushStep hflush).1⟩
  | _ => cases hcalls

theorem silent_of_calls {stage : Stage} (hcalls : (w.stageStep stage).1.calls = w.calls) :
    stage.callsNext = false := by
  cases hsilent : stage.callsNext with
  | false => rfl
  | true =>
      rcases calls_of_callsNext (w := w) hsilent with ⟨made, hmade⟩
      rw [hmade, List.append_right_eq_self] at hcalls
      cases hcalls

/-- What a move without a call tells: nothing, or it makes a remark, but not in the middle of
an operation.  Only the owner tells of a panic, as its first report. -/
inductive Tells (w w' : Writer) : Prop where
  | nothing : Silent w w' -> Tells w w'
  | remark {d : Diagnostic} : w.workStage.callsNext = false -> Remark w w' d -> d.lost? = none ->
      Tells w w'
  | panic {lost : UInt64} : w.workStage.callsNext = false ->
      Remark w w' (.threadPanicked lost) -> w.owner.isPastOutput = false ->
      w'.owner.isPastOutput = true -> Tells w w'

theorem tells_of_stageStep {stage : Stage} (hsilent : w.workStage.callsNext = false)
    (hstage : stage.callsNext = false) (drain : DrainPhase) (owner : OwnerPhase) :
    Tells w { (w.stageStep stage).1 with drain, owner } := by
  rcases remark_stageStep (w := w) hstage with hnothing | ⟨d, hremark, hlost⟩
  · exact .nothing ⟨hnothing.happenings, hnothing.failed, hnothing.flushFailures⟩
  · exact .remark hsilent
      ⟨hremark.happenings, hremark.plain, hremark.failed, hremark.flushFailures⟩ hlost

theorem tells_of_pass (hdiscipline : Discipline w) (hpass : Pass w w') : Tells w w' := by
  have hoff := Offstage.of_pass hpass
  cases hpass with
  | start hdrain =>
      have hidle := (hdiscipline.owner_hands (by rw [hdrain]; rfl)).2
      have hremark := hoff.remark (happenings_happen w (.reported .threadStarted)) rfl rfl rfl
      apply Tells.remark _ hremark rfl
      rw [workStage_of_idle hidle, hdrain]
      rfl
  | stop hdrain =>
      have hidle := (hdiscipline.owner_hands (by rw [hdrain]; rfl)).2
      have hremark := hoff.remark (happenings_happen w (.reported .threadStopping)) rfl rfl rfl
      apply Tells.remark _ hremark rfl
      rw [workStage_of_idle hidle, hdrain]
      rfl
  | _ => exact .nothing (hoff.silent rfl)

theorem tells_of_recover {queued : List Entry} (hdiscipline : Discipline w)
    (howner : w.owner = .abandoning queued) : Tells w (w.recover queued) := by
  rcases (hdiscipline.knows howner).1 with ⟨left, hdrain⟩
  have hreport := happenings_announce (w.giveUp queued)
    (.threadPanicked (UInt64.ofNat queued.length + w.counters.abandonInFlight.1))
  have hgivenUp : (w.giveUp queued).happenings = w.happenings := happenings_record_silent _ rfl
  rw [hgivenUp] at hreport
  have hremark : Remark w (w.recover queued)
      (.threadPanicked (UInt64.ofNat queued.length + w.counters.abandonInFlight.1)) := by
    constructor
    · exact hreport
    · rfl
    · rw [recover_eq, stats, counters_announce]
      rfl
    · rw [recover_eq, stats, counters_announce]
      exact (UInt64.add_zero _).symm
  have hstage : w.workStage = .panicked left := by
    rw [workStage_of_idle (by rw [howner]; rfl), hdrain]
    rfl
  exact .panic (by rw [hstage]; rfl) hremark (by rw [howner]; rfl) rfl

theorem tells_of_move (hdiscipline : Discipline w) (hmove : Move w w')
    (hcalls : w'.calls = w.calls) : Tells w w' := by
  cases hmove with
  | hand e _ => exact .nothing ((Offstage.of_hand w _ _ e).silent (happenings_record_silent _ rfl))
  | refuse e _ =>
      exact .nothing ((Offstage.of_refuse w _ e).silent (happenings_record_silent _ rfl))
  | push _ hpush | report hpush =>
      exact .nothing (((Offstage.of_push hpush).places _ _ _).silent hpush.happenings)
  | @work stage hdrain =>
      have hidle := (hdiscipline.owner_hands (by rw [hdrain]; rfl)).2
      have hstage : stage.callsNext = false := silent_of_calls hcalls
      apply tells_of_stageStep _ hstage
      rw [workStage_of_idle hidle, hdrain]
      exact hstage
  | @finish stage howner =>
      have hstage : stage.callsNext = false := silent_of_calls hcalls
      apply tells_of_stageStep _ hstage
      rw [workStage_of_stopped (hdiscipline.knows howner).1, howner]
      exact hstage
  | abandon _ => exact .nothing ⟨happenings_record_silent _ rfl, rfl, rfl⟩
  | recover howner => exact tells_of_recover hdiscipline howner
  | sum howner =>
      have hremark := (Offstage.of_sum w).remark (happenings_announce _ _) rfl rfl rfl
      apply Tells.remark _ hremark rfl
      rw [workStage_of_idle (by rw [howner]; rfl)]
      rcases (hdiscipline.knows howner).1 with hdrain | hdrain <;> rw [hdrain] <;> rfl
  | pass hpass => exact tells_of_pass hdiscipline hpass

theorem reports_of_happenings {told : List Happening}
    (h : w'.happenings = w.happenings ++ told) :
    w'.reports = w.reports ++ told.filterMap Happening.report? := by
  rw [reports, h, List.filterMap_append, reports]

theorem attempts_of_stageStep {stage : Stage} (hcalls : stage.callsNext = true) :
    (w.stageStep stage).1.stats.failed = w.stats.failed ∧
      (w.stageStep stage).1.stats.flushFailures = w.stats.flushFailures ∧
      exists attempts, (w.stageStep stage).1.reports = w.reports ++ attempts ∧
        forall d, d ∈ attempts -> d.attempt? ≠ none := by
  have hmove := stageMove_stageStep w stage
  cases stage with
  | writing e rest effort left =>
      cases hmove with
      | talk hchatter =>
          rcases hwrite : Output.write rest w.output with ⟨reply, made, output⟩
          exact ⟨hchatter.failed, hchatter.flushFailures, _,
            reports_of_happenings (happenings_writeStep hwrite), effort.attempts_between _ reply⟩
  | flushing effort =>
      cases hmove with
      | talk hchatter =>
          rcases hflush : w.output.flush with ⟨reply, made, output⟩
          exact ⟨hchatter.failed, hchatter.flushFailures, _,
            reports_of_happenings (happenings_flushStep hflush), effort.attempts_between _ reply⟩
  | _ => cases hcalls

end Writer

end AsyncLog
