import AsyncLog.Proofs.Output.Honest
import AsyncLog.Proofs.Writer.Moves
/-!
# Calls on the output

Only two kinds of steps call the output, those of a thread that writes an entry
and those of a thread that flushes.  The reply to the call tells where they lead.
-/

namespace AsyncLog

namespace Writer

variable {w w' : Writer}

/-!
## What happens at the output
-/

theorem happenings_record (w : Writer) (i : Incident) :
    (w.record i).happenings = w.happenings ++ i.happening?.toList := by
  have hlast : [i].filterMap Incident.happening? = i.happening?.toList := by
    cases hhappening : i.happening? <;> simp [hhappening]
  rw [happenings, happenings, record, List.reverse_cons, List.filterMap_append, hlast]

theorem happenings_record_silent (w : Writer) {i : Incident} (h : i.happening? = none) :
    (w.record i).happenings = w.happenings := by
  rw [happenings_record, h, Option.toList_none, List.append_nil]

theorem happenings_refuse (w : Writer) (d : Diagnostic) :
    (w.refuse d).happenings = w.happenings := by
  unfold refuse
  cases w.lineOf? d with
  | none => rfl
  | some line => exact happenings_record_silent _ rfl

theorem happenings_happen (w : Writer) (h : Happening) :
    (w.happen h).happenings = w.happenings ++ [h] := by
  cases h with
  | called call => exact happenings_record w _
  | paused duration => exact happenings_record w _
  | reported d => exact (happenings_refuse _ d).trans (happenings_record w _)

theorem happenings_announce (w : Writer) (d : Diagnostic) :
    (w.announce d).1.happenings = w.happenings ++ [.reported d] := by
  have hreport := happenings_record w (.output (.reported d))
  rcases announce_cases w d with h | ⟨line, h⟩
  · rw [h]
    exact hreport
  · rw [h]
    exact (happenings_record_silent _ rfl).trans hreport

theorem happenedSince_of_trace (new : List Incident) (h : new ++ w.trace = w'.trace) :
    w'.happenedSince w = new.reverse.filterMap Incident.happening? := by
  rw [happenedSince, ← h, List.length_append, Nat.add_sub_cancel, List.take_left]

theorem calls_of_happenings (h : w'.happenings = w.happenings) : w'.calls = w.calls := by
  rw [calls, h, calls]

theorem calls_record (w : Writer) {i : Incident} (h : i.happening? = none) :
    (w.record i).calls = w.calls :=
  calls_of_happenings (happenings_record_silent w h)

theorem calls_happen (w : Writer) (h : Happening) :
    (w.happen h).calls = w.calls ++ h.call?.toList := by
  rw [calls, happenings_happen, List.filterMap_append, calls]
  cases h <;> rfl

theorem calls_happenAll (w : Writer) (hs : List Happening) :
    (w.happenAll hs).calls = w.calls ++ hs.filterMap Happening.call? := by
  induction hs generalizing w with
  | nil => exact (List.append_nil _).symm
  | cons h rest ih =>
      refine (ih (w.happen h)).trans ?_
      rw [calls_happen, List.append_assoc]
      cases h <;> rfl

theorem calls_announce (w : Writer) (d : Diagnostic) : (w.announce d).1.calls = w.calls := by
  rw [calls, happenings_announce, List.filterMap_append]
  exact List.append_nil _

theorem output_refuse (w : Writer) (d : Diagnostic) : (w.refuse d).output = w.output := by
  unfold refuse
  cases w.lineOf? d <;> rfl

theorem output_happen (w : Writer) (h : Happening) : (w.happen h).output = w.output := by
  cases h with
  | reported d => exact output_refuse _ d
  | _ => rfl

theorem output_happenAll (w : Writer) (hs : List Happening) :
    (w.happenAll hs).output = w.output := by
  induction hs generalizing w with
  | nil => rfl
  | cons h rest ih => exact (ih (w.happen h)).trans (output_happen w h)

/-!
## What a call leads to
-/

inductive WriteEvent (rule : RetryRule) (e : Entry) (rest : List UInt8) (effort : Effort)
    (left : List Entry) : Reply { n : Nat // 0 < n } -> Stage -> Prop where
  | panicked : WriteEvent rule e rest effort left .panic (.panicked (e :: left))
  | written {taken : { n : Nat // 0 < n }} : rest.drop taken.val = [] ->
      WriteEvent rule e rest effort left (.ok taken) (.returned e none left)
  | partly {taken : { n : Nat // 0 < n }} {b : UInt8} {more : List UInt8} :
      rest.drop taken.val = b :: more ->
      WriteEvent rule e rest effort left (.ok taken) (.writing e (b :: more) (.fresh rule) left)
  | givenUp {x : IoError} : effort.afterError rule.retries x = none ->
      WriteEvent rule e rest effort left (.error x) (.returned e (some x) left)
  | again {x : IoError} {effort' : Effort} {between : List Happening} :
      effort.afterError rule.retries x = some (effort', between) ->
      WriteEvent rule e rest effort left (.error x) (.writing e rest effort' left)

inductive FlushEvent (rule : RetryRule) (effort : Effort) (next : Stage) :
    Reply Unit -> Stage -> Prop where
  | panicked : FlushEvent rule effort next .panic (.panicked [])
  | flushed : FlushEvent rule effort next (.ok ()) next
  | givenUp {x : IoError} : effort.afterError rule.retries x = none ->
      FlushEvent rule effort next (.error x) (.flushGivenUp x)
  | again {x : IoError} {effort' : Effort} {between : List Happening} :
      effort.afterError rule.retries x = some (effort', between) ->
      FlushEvent rule effort next (.error x) (.flushing effort')

theorem writeEvent_writeStep {e : Entry} {rest : List UInt8} {effort : Effort}
    {left : List Entry} {reply : Reply { n : Nat // 0 < n }} {made : Call} {output : Output}
    (hwrite : Output.write rest w.output = (reply, made, output)) :
    WriteEvent w.config.retryRule e rest effort left reply (w.writeStep e rest effort left).2 := by
  have hconfig : ({ w with output }.happen (.called made)).config = w.config :=
    (chatter_happen _ _).config
  simp only [writeStep, hwrite, hconfig]
  cases reply with
  | panic => exact .panicked
  | ok taken =>
      dsimp only
      cases hleft : rest.drop taken.val with
      | nil => exact .written hleft
      | cons b more => exact .partly hleft
  | error x =>
      dsimp only
      cases heffort : effort.afterError w.config.writeRetries x with
      | none => exact .givenUp heffort
      | some more => exact .again heffort

theorem flushEvent_flushStep {effort : Effort} {reply : Reply Unit} {made : Call}
    {output : Output} (hflush : w.output.flush = (reply, made, output)) :
    FlushEvent w.config.retryRule effort w.afterFlush reply (w.flushStep effort).2 := by
  have hconfig : ({ w with output }.happen (.called made)).config = w.config :=
    (chatter_happen _ _).config
  simp only [flushStep, afterFlush, hflush, hconfig]
  cases reply with
  | panic => exact .panicked
  | ok done => exact .flushed
  | error x =>
      dsimp only
      cases heffort : effort.afterError w.config.writeRetries x with
      | none => exact .givenUp heffort
      | some more => exact .again heffort

theorem calls_writeStep {e : Entry} {rest : List UInt8} {effort : Effort} {left : List Entry}
    {reply : Reply { n : Nat // 0 < n }} {made : Call} {output : Output}
    (hwrite : Output.write rest w.output = (reply, made, output)) :
    (w.writeStep e rest effort left).1.calls = w.calls ++ [made] ∧
      (w.writeStep e rest effort left).1.output = output := by
  have hcalls : ({ w with output }.happen (.called made)).calls = w.calls ++ [made] :=
    calls_happen _ _
  have houtput : ({ w with output }.happen (.called made)).output = output := output_happen _ _
  simp only [writeStep, hwrite]
  cases reply with
  | panic => exact ⟨hcalls, houtput⟩
  | ok taken =>
      dsimp only
      cases rest.drop taken.val <;> exact ⟨hcalls, houtput⟩
  | error x =>
      dsimp only
      split
      · exact ⟨hcalls, houtput⟩
      · rename_i effort' between heffort
        rw [calls_happenAll, Effort.calls_afterError heffort, List.append_nil, output_happenAll]
        exact ⟨hcalls, houtput⟩

theorem calls_flushStep {effort : Effort} {reply : Reply Unit} {made : Call} {output : Output}
    (hflush : w.output.flush = (reply, made, output)) :
    (w.flushStep effort).1.calls = w.calls ++ [made] ∧
      (w.flushStep effort).1.output = output := by
  have hcalls : ({ w with output }.happen (.called made)).calls = w.calls ++ [made] :=
    calls_happen _ _
  have houtput : ({ w with output }.happen (.called made)).output = output := output_happen _ _
  simp only [flushStep, hflush]
  cases reply with
  | panic | ok _ => exact ⟨hcalls, houtput⟩
  | error x =>
      dsimp only
      split
      · exact ⟨hcalls, houtput⟩
      · rename_i effort' between heffort
        rw [calls_happenAll, Effort.calls_afterError heffort, List.append_nil, output_happenAll]
        exact ⟨hcalls, houtput⟩

/-!
## Which moves call the output
-/

theorem PushMove.calls {source : Source} {phase phase' : PushPhase}
    (h : PushMove w source phase w' phase') : w'.calls = w.calls := by
  cases h with
  | wait _ => rfl
  | offer _ | reoffer _ => exact calls_record _ rfl
  | count outcome => rfl

theorem Pass.calls (h : Pass w w') : w'.calls = w.calls := by
  cases h with
  | start _ | stop _ => exact (calls_happen w _).trans (List.append_nil _)
  | _ => rfl

theorem calls_stageStep {stage : Stage} (h : stage.callsNext = false) :
    (w.stageStep stage).1.calls = w.calls := by
  cases stage with
  | taking =>
      simp only [stageStep]
      split
      · rfl
      · exact calls_record _ rfl
  | between left => cases left <;> rfl
  | writing e rest effort left => cases h
  | flushing effort => cases h
  | settled e error left =>
      cases error with
      | none => exact calls_record _ rfl
      | some x =>
          refine (calls_happen _ _).trans ((List.append_nil _).trans ?_)
          exact calls_record _ rfl
  | flushGivenUp x => exact (calls_happen _ _).trans (List.append_nil _)
  | _ => rfl

/-- What may lie behind a move: the drain thread or the owner may be about to call. -/
theorem Move.calls (h : Move w w') :
    w'.calls = w.calls ∨ (w.drain.stage.callsNext = true ∧ w.drain.hasEnded = false) ∨
      exists stage, w.owner = .finishing stage ∧ stage.callsNext = true := by
  cases h with
  | hand e _ | refuse e _ => exact Or.inl (calls_record _ rfl)
  | push _ hpush => exact Or.inl hpush.calls
  | report hpush => exact Or.inl hpush.calls
  | @work stage hdrain =>
      cases hnext : stage.callsNext with
      | true => exact Or.inr (Or.inl (by rw [hdrain]; exact ⟨hnext, rfl⟩))
      | false => exact Or.inl (calls_stageStep hnext)
  | @finish stage howner =>
      cases hnext : stage.callsNext with
      | true => exact Or.inr (Or.inr ⟨stage, howner, hnext⟩)
      | false => exact Or.inl (calls_stageStep hnext)
  | abandon _ => exact Or.inl (calls_record _ rfl)
  | recover _ =>
      refine Or.inl ((calls_announce _ _).trans ?_)
      exact calls_record _ rfl
  | sum _ => exact Or.inl (calls_announce _ _)
  | pass hpass => exact Or.inl hpass.calls

end Writer

end AsyncLog
