import AsyncLog.Proofs.Writer.Blocks
import AsyncLog.Proofs.Writer.Panics
/-!
# One flush for each backlog

Every backlog that is detached is written and then flushed once, whatever becomes of its
entries.  So the calls of a run are a sequence of blocks, one for each backlog, and only the
last of them may still be under way.
-/

namespace AsyncLog

/-!
## The backlogs of a run
-/

def Incident.backlogs : Incident -> List (List Entry)
  | .detached (e :: rest) => [e :: rest]
  | _ => []

namespace Writer

variable {w w' : Writer} {rule : RetryRule} {output : Output} {stage stage' : Stage}

def backlogs (w : Writer) : List (List Entry) :=
  w.chronicle Incident.backlogs

theorem ne_nil_of_mem_backlogs {batch : List Entry} (h : batch ∈ w.backlogs) : batch ≠ [] := by
  rcases List.mem_flatMap.mp h with ⟨i, _, hbatch⟩
  unfold Incident.backlogs at hbatch
  split at hbatch
  · rw [List.mem_singleton.mp hbatch]
    simp
  · cases hbatch

theorem flatten_backlogs (w : Writer) : w.backlogs.flatten = w.detachedEntries := by
  have hincident (i : Incident) :
      i.backlogs.flatten = i.departures.filterMap Departure.detached? := by
    cases i with
    | detached batch => cases batch <;> simp [Incident.backlogs, List.filterMap_map]
    | answered source e outcome displaced => cases displaced <;> simp [Incident.backlogs]
    | _ => rfl
  rw [backlogs, chronicle, detachedEntries, departures, chronicle]
  induction w.trace.reverse with
  | nil => rfl
  | cons i rest ih =>
      rw [List.flatMap_cons, List.flatten_append, ih, hincident, List.flatMap_cons,
        List.filterMap_append]

theorem backlogs_of_detached (htrace : w.trace <:+ w'.trace)
    (hdetached : w'.detachedEntries = w.detachedEntries) : w'.backlogs = w.backlogs := by
  rcases chronicle_extend htrace Incident.backlogs with ⟨later, hlater⟩
  have hflatten := congrArg List.flatten hlater
  change (w.backlogs ++ later).flatten = w'.backlogs.flatten at hflatten
  rw [List.flatten_append, flatten_backlogs, flatten_backlogs, hdetached,
    List.append_right_eq_self] at hflatten
  have hnone : later = [] := by
    cases later with
    | nil => rfl
    | cons batch rest =>
        have hbatch : batch ∈ w'.backlogs := by
          rw [backlogs, ← hlater]
          simp
        rw [List.flatten_cons, List.append_eq_nil_iff] at hflatten
        exact absurd hflatten.1 (ne_nil_of_mem_backlogs hbatch)
  rw [backlogs, ← hlater, hnone, List.append_nil]
  rfl

/-!
## Single steps
-/

theorem detachedEntries_stageStep (htaking : stage ≠ .taking) :
    (w.stageStep stage).1.detachedEntries = w.detachedEntries := by
  have hmove := stageMove_stageStep w stage
  rcases hmove.detaches with ⟨batch, hdepartures, hentries⟩
  have hnone : batch = [] := by
    rcases hmove.queue with hqueue | ⟨hcontra, _⟩
    · rw [hqueue] at hentries
      exact List.append_left_eq_self.mp hentries.symm
    · exact absurd hcontra htaking
  rw [detachedEntries, hdepartures, hnone, List.map_nil, List.append_nil, detachedEntries]

theorem backlogs_stageStep (htaking : stage ≠ .taking) :
    (w.stageStep stage).1.backlogs = w.backlogs :=
  backlogs_of_detached (trace_stageStep w stage) (detachedEntries_stageStep htaking)

theorem flushFailures_of_telling {source : Source} (h : Telling source w w') :
    w'.stats.flushFailures = w.stats.flushFailures := by
  rcases h.lines with ⟨lines, _, _, _, hcounters⟩
  rw [stats, hcounters]
  rfl

theorem StageMove.flushFailures (h : StageMove w stage w' stage')
    (hstage : forall x, stage ≠ .flushGivenUp x) :
    w'.stats.flushFailures = w.stats.flushFailures := by
  cases h with
  | talk hchatter => exact flushFailures_of_telling hchatter.toTelling
  | fail e x left hchatter => exact (flushFailures_of_telling hchatter.toTelling).trans rfl
  | failFlush x _ => exact absurd rfl (hstage x)
  | _ => rfl

theorem output_stageStep (hsilent : stage.callsNext = false) :
    (w.stageStep stage).1.output = w.output := by
  cases stage with
  | taking =>
      simp only [stageStep]
      split <;> rfl
  | between left => cases left <;> rfl
  | writing _ _ _ _ | flushing _ => cases hsilent
  | settled e error left =>
      cases error with
      | none => rfl
      | some x => exact output_happen _ _
  | flushGivenUp x => exact output_happen _ _
  | _ => rfl

/-!
## Blocks one after the other
-/

structure Apart (rule : RetryRule) (first : Output) (w : Writer) : Prop where
  calls : w.calls = (moveBlocks rule w.backlogs first).1.flatMap Block.calls
  failures : w.stats.flushFailures =
    UInt64.ofNat ((moveBlocks rule w.backlogs first).1.countP Block.gaveUp)
  output : w.output = (moveBlocks rule w.backlogs first).2

/-- The blocks of all backlogs but the last one are over, and of that one some calls are
made. -/
structure Amid (rule : RetryRule) (first : Output) (w : Writer) (stage : Stage)
    (earlier : List (List Entry)) (batch : List Entry) (made : List Call) : Prop where
  backlogs : w.backlogs = earlier ++ [batch]
  calls : w.calls = (moveBlocks rule earlier first).1.flatMap Block.calls ++ made
  failures : w.stats.flushFailures =
    UInt64.ofNat ((moveBlocks rule earlier first).1.countP Block.gaveUp)
  remainder : (Stage.between batch).remainder rule (moveBlocks rule earlier first).2 =
    (stage.remainder rule w.output).after made

section Steps

variable {first : Output} {earlier : List (List Entry)} {batch : List Entry} {made more : List Call}

theorem Amid.move_on (h : Amid rule first w stage earlier batch made)
    (hbacklogs : w'.backlogs = w.backlogs) (hcalls : w'.calls = w.calls ++ more)
    (hfailures : w'.stats.flushFailures = w.stats.flushFailures)
    (hremainder : stage.remainder rule w.output = (stage'.remainder rule w'.output).after more) :
    Amid rule first w' stage' earlier batch (made ++ more) where
  backlogs := hbacklogs.trans h.backlogs
  calls := by rw [hcalls, h.calls, List.append_assoc]
  failures := hfailures.trans h.failures
  remainder := by rw [h.remainder, hremainder, Remainder.after_after]

theorem Amid.close (gaveUp : Bool) (h : Amid rule first w stage earlier batch made)
    (hbacklogs : w'.backlogs = w.backlogs) (hcalls : w'.calls = w.calls ++ more)
    (hfailures : w'.stats.flushFailures =
      w.stats.flushFailures + UInt64.ofNat (if gaveUp then 1 else 0))
    (hremainder : stage.remainder rule w.output = { calls := more, gaveUp, output := w'.output }) :
    Apart rule first w' := by
  have hblock := h.remainder
  rw [remainder_between, hremainder, Remainder.after, Remainder.mk.injEq] at hblock
  rcases hblock with ⟨hblockCalls, hblockGaveUp, hblockOutput⟩
  have hall := moveBlocks_concat rule earlier batch first
  rw [← h.backlogs, ← hbacklogs] at hall
  constructor
  · rw [hall, List.flatMap_append, List.flatMap_singleton, hcalls, h.calls, hblockCalls,
      List.append_assoc]
  · rw [hall, List.countP_append, List.countP_singleton, hblockGaveUp, hfailures, h.failures,
      UInt64.ofNat_add]
  · rw [hall, hblockOutput]

theorem Apart.open (h : Apart rule first w) (hbacklogs : w'.backlogs = w.backlogs ++ [batch])
    (hcalls : w'.calls = w.calls) (hfailures : w'.stats.flushFailures = w.stats.flushFailures)
    (houtput : w'.output = w.output) :
    Amid rule first w' (.detached batch) w.backlogs batch [] where
  backlogs := hbacklogs
  calls := by rw [hcalls, h.calls, List.append_nil]
  failures := hfailures.trans h.failures
  remainder := by rw [houtput, h.output, Remainder.after_nil]; rfl

theorem Apart.stay (h : Apart rule first w) (hbacklogs : w'.backlogs = w.backlogs)
    (hcalls : w'.calls = w.calls) (hfailures : w'.stats.flushFailures = w.stats.flushFailures)
    (houtput : w'.output = w.output) : Apart rule first w' where
  calls := by rw [hcalls, h.calls, hbacklogs]
  failures := by rw [hfailures, h.failures, hbacklogs]
  output := by rw [houtput, h.output, hbacklogs]

theorem WriteEvent.remainder {e : Entry} {rest : List UInt8} {effort : Effort}
    {left : List Entry} {reply : Reply { n : Nat // 0 < n }} {call : Call} {output' : Output}
    (h : WriteEvent rule e rest effort left reply stage')
    (hwrite : Output.write rest output = (reply, call, output'))
    (hcalm : stage'.isPanicked = false) :
    stage'.inBlock = true ∧ (Stage.writing e rest effort left).remainder rule output =
      (stage'.remainder rule output').after [call] := by
  cases h with
  | panicked => cases hcalm
  | written hleft =>
      have htocome := toCome_of_ok rule effort e left hwrite
      rw [hleft] at htocome
      exact ⟨rfl, remainder_of_toCome rfl rfl htocome⟩
  | partly hleft =>
      have htocome := toCome_of_ok rule effort e left hwrite
      rw [hleft] at htocome
      exact ⟨rfl, remainder_of_toCome rfl rfl htocome⟩
  | givenUp heffort =>
      exact ⟨rfl, remainder_of_toCome rfl rfl (toCome_of_givenUp e left hwrite heffort)⟩
  | again heffort =>
      exact ⟨rfl, remainder_of_toCome rfl rfl (toCome_of_repeated e left hwrite heffort)⟩

theorem inBlock_afterFlush (w : Writer) : w.afterFlush.inBlock = false := by
  unfold afterFlush
  cases w.config.drainMode <;> rfl

/-- A thread that moves entries makes block after block. -/
structure Arranged (rule : RetryRule) (first : Output) (w : Writer) (stage : Stage) : Prop where
  config : w.config.retryRule = rule
  single : w.config.drainMode = .perEntry -> forall batch, batch ∈ w.backlogs -> batch.length = 1
  amid : stage.inBlock = true -> exists earlier batch made,
    Amid rule first w stage earlier batch made
  apart : stage.inBlock = false -> Apart rule first w

namespace Arranged

theorem of_amid (h : Arranged rule first w stage) (hconfig : w'.config = w.config)
    (hbacklogs : w'.backlogs = w.backlogs) (hin : stage'.inBlock = true)
    (hamid : Amid rule first w' stage' earlier batch made) : Arranged rule first w' stage' where
  config := hconfig ▸ h.config
  single := by rw [hconfig, hbacklogs]; exact h.single
  amid := fun _ => ⟨earlier, batch, made, hamid⟩
  apart := fun hout => by rw [hin] at hout; cases hout

theorem of_apart (h : Arranged rule first w stage) (hconfig : w'.config = w.config)
    (hbacklogs : w'.backlogs = w.backlogs) (hout : stage'.inBlock = false)
    (hapart : Apart rule first w') : Arranged rule first w' stage' where
  config := hconfig ▸ h.config
  single := by rw [hconfig, hbacklogs]; exact h.single
  amid := fun hin => by rw [hout] at hin; cases hin
  apart := fun _ => hapart

theorem quiet (h : Arranged rule first w stage) (hin : stage.inBlock = true)
    (hsilent : stage.callsNext = false) (hgivenUp : forall x, stage ≠ .flushGivenUp x)
    (hremainder : stage.remainder rule w.output =
      (w.stageStep stage).2.remainder rule w.output)
    (hin' : (w.stageStep stage).2.inBlock = true) :
    Arranged rule first (w.stageStep stage).1 (w.stageStep stage).2 := by
  have hmove := stageMove_stageStep w stage
  have htaking : stage ≠ .taking := by
    intro hcontra
    rw [hcontra] at hin
    cases hin
  have hbacklogs := backlogs_stageStep (w := w) htaking
  rcases h.amid hin with ⟨earlier, batch, made, hamid⟩
  refine h.of_amid hmove.config hbacklogs hin' (hamid.move_on hbacklogs
    ((calls_stageStep hsilent).trans (List.append_nil _).symm) (hmove.flushFailures hgivenUp) ?_)
  rw [output_stageStep hsilent, Remainder.after_nil]
  exact hremainder

theorem writeStep {e : Entry} {rest : List UInt8} {effort : Effort} {left : List Entry}
    (h : Arranged rule first w (.writing e rest effort left))
    (hcalm : (w.writeStep e rest effort left).2.isPanicked = false) :
    Arranged rule first (w.writeStep e rest effort left).1 (w.writeStep e rest effort left).2 := by
  have hmove := stageMove_writeStep w e rest effort left
  have hbacklogs : (w.stageStep (.writing e rest effort left)).1.backlogs = w.backlogs :=
    backlogs_stageStep (by simp)
  rcases hwrite : Output.write rest w.output with ⟨reply, call, output⟩
  have hmade : (w.writeStep e rest effort left).1.calls = w.calls ++ [call] ∧
      (w.writeStep e rest effort left).1.output = output := calls_writeStep hwrite
  have hevent : WriteEvent w.config.retryRule e rest effort left reply
      (w.writeStep e rest effort left).2 := writeEvent_writeStep hwrite
  rw [h.config] at hevent
  rcases hevent.remainder hwrite hcalm with ⟨hin, hremainder⟩
  rcases h.amid rfl with ⟨earlier, batch, made, hamid⟩
  refine h.of_amid hmove.config hbacklogs hin
    (hamid.move_on hbacklogs hmade.1 (hmove.flushFailures (by simp)) ?_)
  rw [hmade.2]
  exact hremainder

theorem flushStep {effort : Effort} (h : Arranged rule first w (.flushing effort))
    (hcalm : (w.flushStep effort).2.isPanicked = false) :
    Arranged rule first (w.flushStep effort).1 (w.flushStep effort).2 := by
  have hmove := stageMove_flushStep w effort
  have hbacklogs : (w.stageStep (.flushing effort)).1.backlogs = w.backlogs :=
    backlogs_stageStep (by simp)
  have hfailures := hmove.flushFailures (by simp)
  rcases hflush : w.output.flush with ⟨reply, call, output⟩
  have hmade : (w.flushStep effort).1.calls = w.calls ++ [call] ∧
      (w.flushStep effort).1.output = output := calls_flushStep hflush
  have hevent : FlushEvent w.config.retryRule effort w.afterFlush reply (w.flushStep effort).2 :=
    flushEvent_flushStep hflush
  rcases h.amid rfl with ⟨earlier, batch, made, hamid⟩
  rw [h.config] at hevent
  generalize (w.flushStep effort).2 = stage' at hevent hcalm ⊢
  cases hevent with
  | panicked => cases hcalm
  | flushed =>
      have hnone : w.stats.flushFailures = w.stats.flushFailures + 0 := (UInt64.add_zero _).symm
      refine h.of_apart hmove.config hbacklogs (inBlock_afterFlush w)
        (hamid.close false hbacklogs hmade.1 (hfailures.trans hnone) ?_)
      rw [hmade.2]
      exact flushFrom_of_ok hflush
  | givenUp heffort =>
      refine h.of_amid hmove.config hbacklogs rfl (hamid.move_on hbacklogs hmade.1 hfailures ?_)
      rw [hmade.2]
      exact flushFrom_of_givenUp hflush heffort
  | again heffort =>
      refine h.of_amid hmove.config hbacklogs rfl (hamid.move_on hbacklogs hmade.1 hfailures ?_)
      rw [hmade.2]
      exact flushFrom_of_repeated hflush heffort

theorem taking (h : Arranged rule first w .taking) :
    Arranged rule first (w.stageStep .taking).1 (w.stageStep .taking).2 := by
  have hapart := h.apart rfl
  rcases htake : w.queue.take w.config.drainMode with ⟨batch, queue⟩
  cases batch with
  | nil =>
      simp only [Writer.stageStep, htake]
      exact h.of_apart rfl rfl rfl hapart
  | cons e rest =>
      simp only [Writer.stageStep, htake]
      have hbacklogs : ({ w with queue }.record (.detached (e :: rest))).backlogs =
          w.backlogs ++ [e :: rest] := chronicle_record _ _ _
      constructor
      · exact h.config
      · intro hmode batch hbatch
        rw [hbacklogs] at hbatch
        rcases List.mem_append.mp hbatch with hold | hnew
        · exact h.single hmode batch hold
        · have hmode' : w.config.drainMode = .perEntry := hmode
          rw [hmode', Queue.take, Prod.mk.injEq] at htake
          have hlength := congrArg List.length htake.1
          rw [List.length_take, List.length_cons] at hlength
          rw [List.mem_singleton.mp hnew, List.length_cons]
          omega
      · intro _
        exact ⟨w.backlogs, e :: rest, [], hapart.open hbacklogs (calls_record _ rfl) rfl rfl⟩
      · intro hout
        cases hout

theorem stageStep (hcalm : (w.stageStep stage).2.isPanicked = false)
    (h : Arranged rule first w stage) :
    Arranged rule first (w.stageStep stage).1 (w.stageStep stage).2 := by
  cases stage with
  | writing e rest effort left => exact h.writeStep hcalm
  | flushing effort => exact h.flushStep hcalm
  | taking => exact h.taking
  | done | panicked left => exact h
  | detached batch | returned e error left => exact h.quiet rfl rfl (by simp) rfl rfl
  | settled e error left => exact h.quiet rfl rfl (by simp) rfl rfl
  | between left =>
      cases left with
      | nil => exact h.quiet rfl rfl (by simp) (by rw [Writer.stageStep, h.config]; rfl) rfl
      | cons e left =>
          have hbefore : (w.beginEntry e left).beforeFlush = true ∧
              (w.beginEntry e left).inBlock = true := by
            unfold beginEntry
            split <;> exact ⟨rfl, rfl⟩
          have htocome := (toCome_beginEntry h.config e left w.output).symm
          have hremainder := remainder_of_toCome rfl hbefore.1
            (htocome.trans (Transcript.after_nil _).symm)
          exact h.quiet rfl rfl (by simp) hremainder hbefore.2
  | flushGivenUp x =>
      have hmove := stageMove_stageStep w (.flushGivenUp x)
      have hbacklogs : (w.stageStep (.flushGivenUp x)).1.backlogs = w.backlogs :=
        backlogs_stageStep (by simp)
      rcases h.amid rfl with ⟨earlier, batch, made, hamid⟩
      refine h.of_apart hmove.config hbacklogs (inBlock_afterFlush w)
        (hamid.close true hbacklogs
          ((calls_stageStep rfl).trans (List.append_nil _).symm) ?_ ?_)
      · have hchatter := chatter_happen { w with counters := w.counters.countFlushFailure }
          (.reported (.flushFailed x))
        exact flushFailures_of_telling hchatter.toTelling
      · rw [output_stageStep rfl]
        rfl

theorem offstage (h : Arranged rule first w stage) (hoff : Offstage w w')
    (htrace : w.trace <:+ w'.trace) : Arranged rule first w' stage := by
  have hbacklogs := backlogs_of_detached htrace hoff.detached
  constructor
  · rw [hoff.config]
    exact h.config
  · rw [hoff.config, hbacklogs]
    exact h.single
  · intro hin
    rcases h.amid hin with ⟨earlier, batch, made, hamid⟩
    refine ⟨earlier, batch, _, hamid.move_on hbacklogs
      (hoff.calls.trans (List.append_nil _).symm) hoff.flushFailures ?_⟩
    rw [hoff.output, Remainder.after_nil]
  · intro hout
    exact (h.apart hout).stay hbacklogs hoff.calls hoff.flushFailures hoff.output

theorem of_run {config : Config} {script : Script} {producers : Nat} {actions : List Action}
    (hrun : (Writer.start config script producers).run actions = some w)
    (hcalm : w.hasPanicked = false) :
    w.workStage.isPanicked = false ∧ Arranged config.retryRule { script } w w.workStage := by
  refine calm_induction (fun _ hcalm h => h.stageStep hcalm) ?_
    (fun hoff htrace h => h.offstage hoff htrace) (.start config script producers) rfl ?_ hrun hcalm
  · intro w h
    exact h.of_apart rfl rfl rfl (h.apart rfl)
  · constructor
    · rfl
    · intro _ batch hbatch
      cases hbatch
    · intro hin
      cases hin
    · intro _
      exact ⟨rfl, rfl, rfl⟩

end Arranged

end Steps

/-!
## Runs
-/

/-- The blocks that are over when a thread stands at a stage of the last one. -/
def completeBlocks (stage : Stage) (blocks : List Block) : List Block :=
  if stage.inBlock then blocks.dropLast else blocks

theorem Arranged.calls_complete {first : Output} (h : Arranged rule first w stage) :
    let blocks := (moveBlocks rule w.backlogs first).1
    (completeBlocks stage blocks).flatMap Block.calls <+: w.calls ∧
      w.calls <+: blocks.flatMap Block.calls ∧
      w.stats.flushFailures = UInt64.ofNat ((completeBlocks stage blocks).countP Block.gaveUp) := by
  intro blocks
  cases hin : stage.inBlock with
  | false =>
      have hapart := h.apart hin
      have hcomplete : completeBlocks stage blocks = blocks := by simp [completeBlocks, hin]
      rw [hcomplete, hapart.calls]
      exact ⟨List.prefix_rfl, List.prefix_rfl, hapart.failures⟩
  | true =>
      rcases h.amid hin with ⟨earlier, batch, made, hamid⟩
      have hblocks : blocks = (moveBlocks rule earlier first).1 ++
          [(moveBlock rule batch (moveBlocks rule earlier first).2).1] := by
        change (moveBlocks rule w.backlogs first).1 = _
        rw [hamid.backlogs, moveBlocks_concat]
      have hcomplete : completeBlocks stage blocks = (moveBlocks rule earlier first).1 := by
        simp [completeBlocks, hin, hblocks]
      have hblock := congrArg Remainder.calls hamid.remainder
      rw [remainder_between] at hblock
      rw [hcomplete, hamid.calls, hblocks, List.flatMap_append, List.flatMap_singleton]
      refine ⟨List.prefix_append _ _, ?_, hamid.failures⟩
      rw [List.prefix_append_right_inj]
      exact ⟨_, hblock.symm⟩

theorem isWrite_of_getLast? {blocks : List Block}
    (hflushes : forall b, b ∈ blocks -> b.flushes ≠ [] ∧
      forall c, c ∈ b.flushes -> c.isWrite = false) {call : Call}
    (h : (blocks.flatMap Block.calls).getLast? = some call) : call.isWrite = false := by
  rcases List.eq_nil_or_concat blocks with hnil | ⟨earlier, last, hlast⟩
  · rw [hnil] at h
    cases h
  · rw [List.concat_eq_append] at hlast
    have hmem : last ∈ blocks := by rw [hlast]; simp
    rcases hflushes last hmem with ⟨hsome, hnone⟩
    rw [hlast, List.flatMap_append, List.flatMap_singleton, Block.calls, ← List.append_assoc,
      List.getLast?_append] at h
    cases hfinal : last.flushes.getLast? with
    | none => exact absurd (List.getLast?_eq_none_iff.mp hfinal) hsome
    | some final =>
        rw [hfinal, Option.some_or, Option.some.injEq] at h
        rw [← h]
        exact hnone final (List.mem_of_getLast? hfinal)

theorem inBlock_of_rest (hdiscipline : Discipline w) (hcalm : w.workStage.isPanicked = false)
    (hrest : w.drain = .waiting ∨ exists stats, w.owner = .finished stats) :
    w.workStage.inBlock = false := by
  rcases hrest with hwaiting | ⟨stats, hfinished⟩
  · have hidle := (hdiscipline.owner_hands (by rw [hwaiting]; rfl)).2
    rw [workStage_of_idle hidle, hwaiting]
    rfl
  · rw [workStage_of_idle (by rw [hfinished]; rfl)] at hcalm ⊢
    rcases (hdiscipline.knows hfinished).1 with hdrain | hdrain
    · rw [hdrain]
      rfl
    · rw [hdrain] at hcalm
      cases hcalm

/-- In a run without a panic the calls on the output are one block for each backlog that was
detached: the calls that write its entries in turn and then those of one flush.  Only the
last block may be under way, and it is not when the drain thread waits or the shutdown has
returned. -/
theorem flush_discipline {config : Config} {script : Script} {producers : Nat}
    {actions : List Action} (hrun : (start config script producers).run actions = some w)
    (hcalm : w.hasPanicked = false) :
    let blocks := (moveBlocks config.retryRule w.backlogs { script }).1
    let complete := completeBlocks w.workStage blocks
    blocks.map Block.batch = w.backlogs ∧ w.backlogs.flatten = w.detachedEntries ∧
    (forall b, b ∈ blocks -> b.batch ≠ [] ∧ (config.drainMode = .perEntry -> b.batch.length = 1) ∧
      (forall call, call ∈ b.writes -> call.isWrite = true) ∧ b.flushes ≠ [] ∧
      forall call, call ∈ b.flushes -> call.isWrite = false) ∧
    complete.flatMap Block.calls <+: w.calls ∧ w.calls <+: blocks.flatMap Block.calls ∧
    w.stats.flushFailures = UInt64.ofNat (complete.countP Block.gaveUp) ∧
    (w.drain = .waiting ∨ (exists stats, w.owner = .finished stats) ->
      complete = blocks ∧ w.calls = blocks.flatMap Block.calls ∧
      forall call, w.calls.getLast? = some call -> call.isWrite = false) := by
  intro blocks complete
  rcases Arranged.of_run hrun hcalm with ⟨hrunning, harranged⟩
  have hconfig : w.config = config := config_of_run hrun
  rcases harranged.calls_complete with ⟨hcomplete, hcalls, hfailures⟩
  have hbatches : blocks.map Block.batch = w.backlogs := batch_moveBlocks _ _ _
  have hflushes : forall b, b ∈ blocks -> b.flushes ≠ [] ∧
      forall call, call ∈ b.flushes -> call.isWrite = false := by
    intro b hb
    rcases exists_of_mem_moveBlocks hb with ⟨batch, output, _, rfl⟩
    exact flushes_moveBlock _ batch output
  refine ⟨hbatches, flatten_backlogs w, ?_, hcomplete, hcalls, hfailures, ?_⟩
  · intro b hb
    have hbatch : b.batch ∈ w.backlogs := by
      rw [← hbatches]
      exact List.mem_map_of_mem hb
    refine ⟨ne_nil_of_mem_backlogs hbatch, ?_, ?_, hflushes b hb⟩
    · intro hmode
      exact harranged.single (hconfig ▸ hmode) b.batch hbatch
    · rcases exists_of_mem_moveBlocks hb with ⟨batch, output, _, rfl⟩
      exact isWrite_of_mem_writeEach _ batch output
  · intro hrest
    have hout := inBlock_of_rest (Discipline.of_run hrun) hrunning hrest
    have hall : w.calls = blocks.flatMap Block.calls := (harranged.apart hout).calls
    refine ⟨by simp [complete, completeBlocks, hout], hall, ?_⟩
    intro call hlast
    rw [hall] at hlast
    exact isWrite_of_getLast? hflushes hlast

def sluggish : Script where
  write := fun call => if call = 0 then .fails (.plain .brokenPipe) else .all
  flush := fun call => if call = 0 then .fails (.plain .other) else .done

def withoutRetries : Config :=
  { Config.default with writeRetries := 0 }

def firstBacklog : List Action :=
  [.hand 0 "ab", .push 0 false, .push 0 false, .hand 0 "", .push 0 false, .push 0 false] ++
    List.replicate 16 .drain

def bothBacklogs : List Action :=
  firstBacklog ++ [.hand 0 "", .push 0 false, .push 0 false, .shutDown, .owner false] ++
    List.replicate 10 .drain ++ List.replicate 4 (.owner false)

theorem flush_discipline_sluggish :
    exists waiting w : Writer,
      (start withoutRetries sluggish 1).run firstBacklog = some waiting ∧
      waiting.drain = .waiting ∧ waiting.hasPanicked = false ∧
      waiting.calls = (moveBlocks withoutRetries.retryRule waiting.backlogs
        { script := sluggish }).1.flatMap Block.calls ∧
      (start withoutRetries sluggish 1).run bothBacklogs = some w ∧
      w.owner = .finished w.stats ∧ w.hasPanicked = false ∧
      w.backlogs = [["ab", ""], [""]] ∧
      w.calls = [.write (Entry.bytes "ab") (.fails (.plain .brokenPipe)),
        .flush (.fails (.plain .other)), .flush .done] ∧
      w.stats.flushFailures = 1 ∧
      forall call, w.calls.getLast? = some call -> call.isWrite = false := by
  let waiting := ((start withoutRetries sluggish 1).run firstBacklog).get (by decide)
  let ended := ((start withoutRetries sluggish 1).run bothBacklogs).get (by decide)
  have hrun : (start withoutRetries sluggish 1).run firstBacklog = some waiting :=
    (Option.some_get _).symm
  have hrun' : (start withoutRetries sluggish 1).run bothBacklogs = some ended :=
    (Option.some_get _).symm
  have hwaiting : waiting.drain = .waiting := by decide
  have hended : ended.owner = .finished ended.stats := by decide
  have hcalm : waiting.hasPanicked = false := by decide
  have hcalm' : ended.hasPanicked = false := by decide
  rcases flush_discipline hrun hcalm with ⟨_, _, _, _, _, _, hrest⟩
  rcases flush_discipline hrun' hcalm' with ⟨_, _, _, _, _, _, hrest'⟩
  exact ⟨waiting, ended, hrun, hwaiting, hcalm, (hrest (Or.inl hwaiting)).2.1, hrun', hended,
    hcalm', by decide, by decide, by decide, (hrest' (Or.inr ⟨_, hended⟩)).2.2⟩

end Writer

end AsyncLog
