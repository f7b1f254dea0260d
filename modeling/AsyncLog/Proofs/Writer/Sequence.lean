import AsyncLog.Proofs.Output.Operation
import AsyncLog.Proofs.Writer.Stages
import AsyncLog.Proofs.Writer.Tally
/-!
# Entries written one after the other

However entries are detached from the queue, in whole backlogs or one at a time, on
the drain thread or in the final pass, they are written as if one thread wrote each
of them to the output in turn.  The flush calls in between change nothing about it.
-/

namespace AsyncLog

open Sink (writeBytes)

/-!
## Writing without interruption
-/

def Ending.ofReply : Reply Unit -> Ending
  | .ok _ => .written
  | .error e => .failed e
  | .panic => .abandoned

/-- What comes of writing some entries: their results, the write calls, and the output
after them. -/
structure Transcript where
  results : List Result
  calls : List Call
  output : Output

namespace Transcript

def after (results : List Result) (calls : List Call) (t : Transcript) : Transcript where
  results := results ++ t.results
  calls := calls ++ t.calls
  output := t.output

@[simp] theorem after_after (results results' : List Result) (calls calls' : List Call)
    (t : Transcript) :
    (t.after results' calls').after results calls =
      t.after (results ++ results') (calls ++ calls') := by
  simp [after]

@[simp] theorem after_nil (t : Transcript) : t.after [] [] = t := rfl

end Transcript

def writeEach (rule : RetryRule) : List Entry -> Output -> Transcript
  | [], output => ⟨[], [], output⟩
  | e :: entries, output =>
      let (reply, output', happened) := writeBytes rule e.bytes output
      (writeEach rule entries output').after [⟨e, .ofReply reply⟩]
        (happened.filterMap Happening.call?)

theorem writeEach_append (rule : RetryRule) (first second : List Entry) (output : Output) :
    writeEach rule (first ++ second) output =
      (writeEach rule second (writeEach rule first output).output).after
        (writeEach rule first output).results (writeEach rule first output).calls := by
  induction first generalizing output with
  | nil => rfl
  | cons e first ih =>
      simp only [List.cons_append, writeEach, ih, Transcript.after_after]
      rfl

def Sink.resume (rule : RetryRule) (rest : List UInt8) (effort : Effort) (output : Output) :
    Reply Unit × Output × List Happening :=
  match persist rule.retries (Output.write rest) effort output with
  | (.ok taken, output', happened) =>
      let (reply, output'', later) := writeBytes rule (rest.drop taken.val) output'
      (reply, output'', happened ++ later)
  | (.error e, output', happened) => (.error e, output', happened)
  | (.panic, output', happened) => (.panic, output', happened)

namespace Sink

variable {rule : RetryRule} {rest : List UInt8} {effort : Effort} {output output' : Output}
  {call : Call}

theorem writeBytes_of_ne_nil (hrest : rest ≠ []) :
    writeBytes rule rest output = resume rule rest (.fresh rule) output := by
  rw [writeBytes, dif_neg hrest]
  rfl

theorem resume_of_ok {taken : { n : Nat // 0 < n }}
    (h : Output.write rest output = (.ok taken, call, output')) :
    resume rule rest effort output =
      ((writeBytes rule (rest.drop taken.val) output').1,
        (writeBytes rule (rest.drop taken.val) output').2.1,
        .called call :: (writeBytes rule (rest.drop taken.val) output').2.2) := by
  rw [resume, persist_of_ok h]
  rfl

theorem resume_of_givenUp {x : IoError} (h : Output.write rest output = (.error x, call, output'))
    (heffort : effort.afterError rule.retries x = none) :
    resume rule rest effort output = (.error x, output', [.called call]) := by
  rw [resume, persist_of_givenUp h heffort]

theorem resume_of_repeated {x : IoError} {effort' : Effort} {between : List Happening}
    (h : Output.write rest output = (.error x, call, output'))
    (heffort : effort.afterError rule.retries x = some (effort', between)) :
    resume rule rest effort output =
      ((resume rule rest effort' output').1, (resume rule rest effort' output').2.1,
        .called call :: between ++ (resume rule rest effort' output').2.2) := by
  rw [resume, persist_of_repeated h heffort, resume]
  rcases persist rule.retries (Output.write rest) effort' output' with ⟨reply, last, later⟩
  cases reply with
  | ok taken => simp
  | error e => rfl
  | panic => rfl

end Sink

/-!
## Writing with interruptions
-/

def Output.unflushed (output : Output) : Output where
  script := { write := output.script.write, flush := fun _ => .done }
  writes := output.writes

def Call.isWrite : Call -> Bool
  | .write _ _ => true
  | .flush _ => false

structure Script.Answers (script : Script) : Prop where
  write : forall call, script.write call ≠ .panics
  flush : forall call, script.flush call ≠ .panics

def Stage.toCome (rule : RetryRule) (output : Output) : Stage -> Transcript
  | .detached batch | .between batch => writeEach rule batch output
  | .writing e rest effort left =>
      let (reply, output', happened) := Sink.resume rule rest effort output
      (writeEach rule left output').after [⟨e, .ofReply reply⟩]
        (happened.filterMap Happening.call?)
  | .returned e error left | .settled e error left =>
      (writeEach rule left output).after [⟨e, .ofError? error⟩] []
  | .taking | .flushing _ | .flushGivenUp _ | .done | .panicked _ => ⟨[], [], output⟩

theorem Stage.toCome_of_uncounted {stage : Stage} (h : stage.uncounted = []) (rule : RetryRule)
    (output : Output) : stage.toCome rule output = ⟨[], [], output⟩ := by
  cases stage with
  | detached batch | between batch =>
      have hnone : batch = [] := h
      rw [hnone]
      rfl
  | writing _ _ _ _ | returned _ _ _ | settled _ _ _ => cases h
  | _ => rfl

section Write

variable {rule : RetryRule} {output output' : Output} {rest : List UInt8} {effort : Effort}
  {made : Call} {reply : Reply { n : Nat // 0 < n }}

theorem write_unflushed (h : Output.write rest output = (reply, made, output')) :
    Output.write rest output.unflushed = (reply, made, output'.unflushed) := by
  cases h
  rfl

theorem isWrite_of_write (h : Output.write rest output = (reply, made, output')) :
    made.isWrite = true := by
  cases h
  rfl

def Stage.afterTaking (rule : RetryRule) (e : Entry) (left : List Entry) : List UInt8 -> Stage
  | [] => .returned e none left
  | rest => .writing e rest (.fresh rule) left

theorem toCome_of_ok {taken : { n : Nat // 0 < n }} (rule : RetryRule) (effort : Effort)
    (e : Entry) (left : List Entry)
    (h : Output.write rest output = (.ok taken, made, output')) :
    (Stage.writing e rest effort left).toCome rule output =
      ((Stage.afterTaking rule e left (rest.drop taken.val)).toCome rule output').after []
        [made] := by
  rw [Stage.toCome, Sink.resume_of_ok h]
  cases rest.drop taken.val with
  | nil =>
      rw [Sink.writeBytes_nil]
      rfl
  | cons b more =>
      rw [Sink.writeBytes_of_ne_nil (by simp)]
      rfl

theorem toCome_of_givenUp {x : IoError} (e : Entry) (left : List Entry)
    (h : Output.write rest output = (.error x, made, output'))
    (heffort : effort.afterError rule.retries x = none) :
    (Stage.writing e rest effort left).toCome rule output =
      ((Stage.returned e (some x) left).toCome rule output').after [] [made] := by
  rw [Stage.toCome, Sink.resume_of_givenUp h heffort]
  rfl

theorem toCome_of_repeated {x : IoError} {effort' : Effort} {between : List Happening}
    (e : Entry) (left : List Entry) (h : Output.write rest output = (.error x, made, output'))
    (heffort : effort.afterError rule.retries x = some (effort', between)) :
    (Stage.writing e rest effort left).toCome rule output =
      ((Stage.writing e rest effort' left).toCome rule output').after [] [made] := by
  have hbetween := Effort.calls_afterError heffort
  rw [Stage.toCome, Sink.resume_of_repeated h heffort]
  simp [Stage.toCome, Happening.call?, hbetween]

end Write

namespace Writer

variable {w w' : Writer} {rule : RetryRule} {output : Output} {stage stage' : Stage}

theorem toCome_beginEntry (hrule : w.config.retryRule = rule) (e : Entry) (left : List Entry)
    (output : Output) :
    (w.beginEntry e left).toCome rule output =
      (Stage.between (e :: left)).toCome rule output := by
  unfold beginEntry
  cases hbytes : e.bytes with
  | nil =>
      simp only [Stage.toCome, writeEach, hbytes, Sink.writeBytes_nil]
      rfl
  | cons b rest =>
      simp only [Stage.toCome, writeEach, hbytes, hrule,
        Sink.writeBytes_of_ne_nil (List.cons_ne_nil b rest)]

def writeCalls (w : Writer) : List Call :=
  w.calls.filter Call.isWrite

theorem writeCalls_of_calls (h : w'.calls = w.calls) : w'.writeCalls = w.writeCalls :=
  congrArg (List.filter Call.isWrite) h

/-- With what is to come the writer has done all that one thread would do in turn. -/
def Foretold (rule : RetryRule) (output : Output) (w : Writer) (stage : Stage) : Prop :=
  writeEach rule w.detachedEntries output =
    (stage.toCome rule w.output.unflushed).after w.results w.writeCalls

namespace Foretold

theorem move_on (h : Foretold rule output w stage) (results : List Result) (calls : List Call)
    (hdetached : w'.detachedEntries = w.detachedEntries)
    (hresults : w'.results = w.results ++ results)
    (hcalls : w'.writeCalls = w.writeCalls ++ calls)
    (htocome : stage.toCome rule w.output.unflushed =
      (stage'.toCome rule w'.output.unflushed).after results calls) :
    Foretold rule output w' stage' := by
  rw [Foretold, hdetached, hresults, hcalls, ← Transcript.after_after, ← htocome]
  exact h

theorem stay (h : Foretold rule output w stage) (hdetached : w'.detachedEntries = w.detachedEntries)
    (hresults : w'.results = w.results) (hcalls : w'.writeCalls = w.writeCalls)
    (htocome : stage'.toCome rule w'.output.unflushed = stage.toCome rule w.output.unflushed) :
    Foretold rule output w' stage' := by
  rw [Foretold, hdetached, hresults, hcalls, htocome]
  exact h

theorem call (h : Foretold rule output w stage) {output' : Output} {made : Call}
    (between : List Happening) (hbetween : between.filterMap Happening.call? = [])
    (htocome : stage.toCome rule w.output.unflushed =
      (stage'.toCome rule output'.unflushed).after [] ([made].filter Call.isWrite)) :
    Foretold rule output (({ w with output := output' }.happen (.called made)).happenAll between)
      stage' := by
  have hchatter := (chatter_happen { w with output := output' } (.called made)).trans
    (chatter_happenAll _ between)
  have houtput : (({ w with output := output' }.happen (.called made)).happenAll between).output =
      output' := (output_happenAll _ _).trans (output_happen _ _)
  refine h.move_on [] _ ?_ ?_ ?_ (houtput.symm ▸ htocome)
  · rw [detachedEntries, hchatter.departures]
    rfl
  · rw [hchatter.results, List.append_nil]
    rfl
  · rw [writeCalls, calls_happenAll, hbetween, calls_happen, List.append_nil, List.filter_append]
    rfl

theorem writeStep {e : Entry} {rest : List UInt8} {effort : Effort} {left : List Entry}
    (h : Foretold rule output w (.writing e rest effort left)) (hrule : w.config.retryRule = rule)
    (hanswers : w.output.script.Answers) :
    Foretold rule output (w.writeStep e rest effort left).1 (w.writeStep e rest effort left).2 ∧
      forall left', (w.writeStep e rest effort left).2 ≠ .panicked left' := by
  rcases hwrite : Output.write rest w.output with ⟨reply, made, output'⟩
  have hconfig : ({ w with output := output' }.happen (.called made)).config = w.config :=
    (chatter_happen _ _).config
  have hunflushed := write_unflushed hwrite
  have hmade : [made].filter Call.isWrite = [made] := by simp [isWrite_of_write hwrite]
  simp only [Writer.writeStep, hwrite, hconfig, hrule]
  cases reply with
  | panic =>
      have hresponse := response_of_panic (congrArg Prod.fst hwrite)
      exact absurd hresponse (hanswers.write _)
  | ok taken =>
      have htocome := toCome_of_ok rule effort e left hunflushed
      dsimp only
      cases hleft : rest.drop taken.val with
      | nil =>
          rw [hleft, ← hmade] at htocome
          exact ⟨h.call [] rfl htocome, fun _ => by simp⟩
      | cons b more =>
          rw [hleft, ← hmade] at htocome
          exact ⟨h.call [] rfl htocome, fun _ => by simp⟩
  | error x =>
      have hretries : w.config.writeRetries = rule.retries := congrArg RetryRule.retries hrule
      simp only [hretries]
      cases heffort : effort.afterError rule.retries x with
      | none =>
          have htocome := toCome_of_givenUp e left hunflushed heffort
          rw [← hmade] at htocome
          exact ⟨h.call [] rfl htocome, fun _ => by simp⟩
      | some more =>
          have htocome := toCome_of_repeated e left hunflushed heffort
          rw [← hmade] at htocome
          exact ⟨h.call _ (Effort.calls_afterError heffort) htocome, fun _ => by simp⟩

theorem toCome_afterFlush (w : Writer) (rule : RetryRule) (output : Output) :
    w.afterFlush.toCome rule output = ⟨[], [], output⟩ :=
  Stage.toCome_of_uncounted (uncounted_afterFlush w) rule output

theorem afterFlush_ne_panicked (w : Writer) (left : List Entry) :
    w.afterFlush ≠ .panicked left := by
  unfold afterFlush
  cases w.config.drainMode <;> simp

theorem flushStep {effort : Effort} (h : Foretold rule output w (.flushing effort))
    (hanswers : w.output.script.Answers) :
    Foretold rule output (w.flushStep effort).1 (w.flushStep effort).2 ∧
      forall left, (w.flushStep effort).2 ≠ .panicked left := by
  simp only [Writer.flushStep, Output.flush]
  cases hresponse : w.output.script.flush w.output.flushes with
  | panics => exact absurd hresponse (hanswers.flush _)
  | done =>
      refine ⟨h.call [] rfl ?_, afterFlush_ne_panicked _⟩
      rw [toCome_afterFlush]
      rfl
  | fails x =>
      dsimp only
      split
      · exact ⟨h.call [] rfl rfl, fun _ => by simp⟩
      · rename_i effort' between heffort
        exact ⟨h.call _ (Effort.calls_afterError heffort) rfl, fun _ => by simp⟩

theorem stageStep (h : Foretold rule output w stage) (hrule : w.config.retryRule = rule)
    (hanswers : w.output.script.Answers) (hstage : forall left, stage ≠ .panicked left) :
    Foretold rule output (w.stageStep stage).1 (w.stageStep stage).2 ∧
      forall left, (w.stageStep stage).2 ≠ .panicked left := by
  cases stage with
  | writing e rest effort left => exact h.writeStep hrule hanswers
  | flushing effort => exact h.flushStep hanswers
  | panicked left => exact absurd rfl (hstage left)
  | done => exact ⟨h, hstage⟩
  | detached batch => exact ⟨h.stay rfl rfl rfl rfl, fun _ => by simp [Writer.stageStep]⟩
  | returned e error left => exact ⟨h.stay rfl rfl rfl rfl, fun _ => by simp [Writer.stageStep]⟩
  | taking =>
      rcases htake : w.queue.take w.config.drainMode with ⟨batch, queue⟩
      cases batch with
      | nil =>
          simp only [Writer.stageStep, htake]
          exact ⟨h, fun _ => by simp⟩
      | cons e batch =>
          simp only [Writer.stageStep, htake]
          refine ⟨?_, fun _ => by simp⟩
          have hdetached : ({ w with queue }.record (.detached (e :: batch))).detachedEntries =
              w.detachedEntries ++ e :: batch := by
            simp [detachedEntries]
          have hcalls : ({ w with queue }.record (.detached (e :: batch))).writeCalls =
              w.writeCalls := writeCalls_of_calls (calls_record _ rfl)
          rw [Foretold] at h ⊢
          rw [hdetached, hcalls, writeEach_append, h]
          simp [Stage.toCome, Transcript.after]
  | between left =>
      cases left with
      | nil => exact ⟨h, fun _ => by simp [Writer.stageStep]⟩
      | cons e left =>
          refine ⟨h.stay rfl rfl rfl (toCome_beginEntry hrule e left _), ?_⟩
          intro left'
          simp only [Writer.stageStep, beginEntry]
          split <;> simp
  | settled e error left =>
      refine ⟨?_, fun _ => by simp [Writer.stageStep]⟩
      have hcalls : (w.stageStep (.settled e error left)).1.writeCalls = w.writeCalls :=
        writeCalls_of_calls (calls_stageStep rfl)
      cases error with
      | none =>
          refine h.move_on [⟨e, .written⟩] [] ?_ ?_ ?_ rfl
          · simp [Writer.stageStep, countResult, detachedEntries]
          · simp [Writer.stageStep, countResult, Ending.ofError?]
          · rw [hcalls, List.append_nil]
      | some x =>
          have hchatter := chatter_happen
            ({ w with counters := w.counters.countFailed 1 }.record (.counted e (some x)))
            (.reported (.entryFailed x e.bytes.length))
          refine h.move_on [⟨e, .failed x⟩] [] ?_ ?_ ?_ ?_
          · simp [Writer.stageStep, countResult, detachedEntries, hchatter.departures]
          · simp [Writer.stageStep, countResult, hchatter.results, Ending.ofError?]
          · rw [hcalls, List.append_nil]
          · simp only [Writer.stageStep, countResult, output_happen]
            rfl
  | flushGivenUp x =>
      have hchatter := chatter_happen { w with counters := w.counters.countFlushFailure }
        (.reported (.flushFailed x))
      refine ⟨h.stay ?_ hchatter.results (writeCalls_of_calls (calls_stageStep rfl)) ?_,
        afterFlush_ne_panicked w⟩
      · simp only [Writer.stageStep, detachedEntries, hchatter.departures]
        rfl
      · simp only [Writer.stageStep, output_happen]
        exact toCome_afterFlush w rule _

end Foretold

/-!
## Runs
-/

structure InSequence (rule : RetryRule) (output : Output) (w : Writer) (stage : Stage) : Prop where
  config : w.config.retryRule = rule
  answers : w.output.script.Answers
  running : forall left, stage ≠ .panicked left
  foretold : Foretold rule output w stage

namespace InSequence

theorem stageStep (h : InSequence rule output w stage) :
    InSequence rule output (w.stageStep stage).1 (w.stageStep stage).2 := by
  have hmove := stageMove_stageStep w stage
  rcases h.foretold.stageStep h.config h.answers h.running with ⟨hforetold, hrunning⟩
  constructor
  · rw [hmove.config]
    exact h.config
  · rw [hmove.script]
    exact h.answers
  · exact hrunning
  · exact hforetold

theorem offstage (h : InSequence rule output w stage) (hoff : Offstage w w') :
    InSequence rule output w' stage := by
  constructor
  · rw [hoff.config]
    exact h.config
  · rw [hoff.output]
    exact h.answers
  · exact h.running
  · refine h.foretold.stay hoff.detached hoff.results (writeCalls_of_calls hoff.calls) ?_
    rw [hoff.output]

theorem of_run {config : Config} {script : Script} {producers : Nat} {actions : List Action}
    (hanswers : script.Answers)
    (hrun : (start config script producers).run actions = some w) :
    InSequence config.retryRule { script : Output }.unflushed w w.workStage := by
  refine stage_induction stageStep ?_ (fun hoff h => h.offstage hoff)
    (fun h => h.running _ rfl) (.start config script producers) ?_ hrun
  · intro w h
    exact ⟨h.config, h.answers, fun _ => by simp, h.foretold⟩
  · exact ⟨rfl, hanswers, fun _ => by simp [workStage, start, OwnerPhase.stage, DrainPhase.stage],
      rfl⟩

end InSequence

/-- When nothing is in hand, all detached entries have been written in turn. -/
theorem writeEach_of_run {config : Config} {script : Script} {producers : Nat}
    {actions : List Action} (hanswers : script.Answers)
    (hrun : (start config script producers).run actions = some w) (hhand : w.inHand = []) :
    (writeEach config.retryRule w.detachedEntries { script : Output }.unflushed).results =
        w.results ∧
      (writeEach config.retryRule w.detachedEntries { script : Output }.unflushed).calls =
        w.writeCalls := by
  have hforetold := (InSequence.of_run hanswers hrun).foretold
  rw [Foretold, Stage.toCome_of_uncounted (uncounted_workStage hhand)] at hforetold
  rw [hforetold]
  exact ⟨List.append_nil _, List.append_nil _⟩

theorem written_of_writeCalls (h : w'.writeCalls = w.writeCalls) : w'.written = w.written := by
  have hreceived (calls : List Call) : received (calls.filter Call.isWrite) = received calls := by
    induction calls with
    | nil => rfl
    | cons c rest ih =>
        cases c with
        | write offered response =>
            rw [List.filter_cons_of_pos rfl, received_cons, received_cons, ih]
        | flush response =>
            rw [List.filter_cons_of_neg (by simp [Call.isWrite]), received_cons, ih]
            rfl
  rw [written, written, ← hreceived, ← hreceived w.calls]
  exact congrArg received h

/-- Two writers that have drained the same entries to outputs that answer write calls alike,
by the same rule for failed calls, have made the same write calls and have the same result
for every entry, however the entries were detached and whatever the flush calls answered. -/
theorem drained_alike {config config' : Config} {script script' : Script}
    {producers producers' : Nat} {actions actions' : List Action}
    (hrule : config'.retryRule = config.retryRule) (hwrite : script'.write = script.write)
    (hanswers : script.Answers) (hanswers' : script'.Answers)
    (hrun : (start config script producers).run actions = some w)
    (hrun' : (start config' script' producers').run actions' = some w')
    (hhand : w.inHand = []) (hhand' : w'.inHand = [])
    (hentries : w'.detachedEntries = w.detachedEntries) :
    w.results.map Result.entry = w.detachedEntries ∧
    w'.results = w.results ∧ w'.writeCalls = w.writeCalls ∧ w'.written = w.written ∧
    w'.stats.written = w.stats.written ∧ w'.stats.failed = w.stats.failed := by
  rcases writeEach_of_run hanswers hrun hhand with ⟨hresults, hcalls⟩
  rcases writeEach_of_run hanswers' hrun' hhand' with ⟨hresults', hcalls'⟩
  have houtput : ({ script := script' } : Output).unflushed = { script : Output }.unflushed := by
    rw [Output.unflushed, hwrite]
    rfl
  rw [hrule, houtput, hentries] at hresults' hcalls'
  have hsame : w'.results = w.results := hresults'.symm.trans hresults
  have hsameCalls : w'.writeCalls = w.writeCalls := hcalls'.symm.trans hcalls
  have htally := StageTally.of_run hrun
  have htally' := StageTally.of_run hrun'
  refine ⟨?_, hsame, hsameCalls, written_of_writeCalls hsameCalls, ?_, ?_⟩
  · have hwork := (InLine.of_run hrun).work
    rw [InWork, hhand, List.append_nil] at hwork
    exact hwork.symm
  · rw [htally'.written, htally.written, writtenEntries, hsame, writtenEntries]
  · rw [htally'.failed, htally.failed, failedEntries, hsame, failedEntries]

def faltering (flush : FlushResponse) : Script where
  write := fun call =>
    if call = 0 then .atMost 2 else if call < 5 then .fails (.plain .brokenPipe) else .all
  flush := fun _ => flush

theorem answers_faltering {flush : FlushResponse} (h : flush ≠ .panics) :
    (faltering flush).Answers where
  write := by
    intro call
    simp only [faltering]
    split
    · simp
    · split <;> simp
  flush := fun _ => h

def entryByEntry : Config :=
  { Config.default with drainMode := .perEntry }

def writtenTogether : List Action :=
  [.hand 0 "abc", .push 0 false, .push 0 false, .hand 0 "de", .push 0 false, .push 0 false] ++
    List.replicate 18 .drain

def writtenApart : List Action :=
  [.hand 0 "abc", .push 0 false, .push 0 false] ++ List.replicate 20 .drain ++
    [.hand 0 "de", .push 0 false, .push 0 false, .shutDown, .owner false] ++
    List.replicate 2 .drain ++ List.replicate 16 (.owner false)

theorem drained_alike_faltering :
    exists w w' : Writer,
      (start Config.default (faltering .done) 1).run writtenTogether = some w ∧
      (start entryByEntry (faltering (.fails (.plain .other))) 1).run writtenApart = some w' ∧
      w.results = [⟨"abc", .failed (.plain .brokenPipe)⟩, ⟨"de", .written⟩] ∧
      w'.results = w.results ∧ w'.writeCalls = w.writeCalls ∧
      w.stats.flushFailures = 0 ∧ w'.stats.flushFailures = 2 := by
  let together := ((start Config.default (faltering .done) 1).run writtenTogether).get (by decide)
  let apart := ((start entryByEntry (faltering (.fails (.plain .other))) 1).run writtenApart).get
    (by decide)
  have hrun : (start Config.default (faltering .done) 1).run writtenTogether = some together :=
    (Option.some_get _).symm
  have hrun' : (start entryByEntry (faltering (.fails (.plain .other))) 1).run writtenApart =
      some apart := (Option.some_get _).symm
  have hrule : entryByEntry.retryRule = Config.default.retryRule := rfl
  have hwrite : (faltering (.fails (.plain .other))).write = (faltering .done).write := rfl
  have halike := drained_alike hrule hwrite (answers_faltering (by simp))
    (answers_faltering (by simp)) hrun hrun' (by decide) (by decide) (by decide)
  exact ⟨together, apart, hrun, hrun', by decide, halike.2.1, halike.2.2.1, by decide, by decide⟩

end Writer

end AsyncLog
