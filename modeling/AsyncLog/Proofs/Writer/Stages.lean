import AsyncLog.Proofs.Writer.Calls
import AsyncLog.Proofs.Writer.Line
/-!
# The thread that moves entries

At most one thread moves entries to the output at any time: the drain thread, and
once it has stopped the owner.  So a run shows the stages of a single thread, and
whatever happens in between leaves the output and the detached entries alone.
-/

namespace AsyncLog

theorem DrainPhase.stage_after (stage : Stage) : (after stage).stage = stage := by
  cases stage <;> rfl

theorem OwnerPhase.stage_after (stage : Stage) : (after stage).stage = stage := by
  cases stage <;> rfl

namespace Writer

variable {w w' : Writer}

/-- The stage of the thread that moves entries; the owner does not move any before it
has joined the drain thread. -/
def workStage (w : Writer) : Stage :=
  match w.owner.stage with
  | .done => w.drain.stage
  | stage => stage

theorem workStage_congr (hdrain : w'.drain.stage = w.drain.stage)
    (howner : w'.owner.stage = w.owner.stage) : w'.workStage = w.workStage := by
  rw [workStage, hdrain, howner, workStage]

theorem workStage_of_idle (howner : w.owner.stage = .done) : w.workStage = w.drain.stage := by
  rw [workStage, howner]

theorem workStage_of_stopped (hdrain : w.drain = .stopped) : w.workStage = w.owner.stage := by
  rw [workStage, hdrain]
  cases w.owner.stage <;> rfl

theorem uncounted_workStage (h : w.inHand = []) : w.workStage.uncounted = [] := by
  rw [inHand, List.append_eq_nil_iff] at h
  rcases h with ⟨hdrain, howner⟩
  have hstage : w.owner.stage.uncounted = [] := by
    cases hphase : w.owner with
    | abandoning queued => rfl
    | _ =>
        rw [hphase] at howner
        exact howner
  unfold workStage
  cases hwork : w.owner.stage with
  | done => exact hdrain
  | _ =>
      rw [hwork] at hstage
      exact hstage

/-- The owner only moves entries when the drain thread has stopped. -/
theorem drain_of_working (h : Discipline w) (howner : w.owner.stage ≠ .done) :
    w.drain = .stopped := by
  cases hphase : w.owner with
  | finishing stage | unwound left => exact (h.knows hphase).1
  | _ =>
      rw [hphase] at howner
      exact absurd rfl howner

/-!
## Away from the output
-/

structure Offstage (w w' : Writer) : Prop where
  config : w'.config = w.config
  output : w'.output = w.output
  calls : w'.calls = w.calls
  results : w'.results = w.results
  detached : w'.detachedEntries = w.detachedEntries
  written : w'.stats.written = w.stats.written
  failed : w'.stats.failed = w.stats.failed
  flushFailures : w'.stats.flushFailures = w.stats.flushFailures

theorem Telling.offstage {source : Source} (h : Telling source w w')
    (hconfig : w'.config = w.config) (houtput : w'.output = w.output)
    (hcalls : w'.calls = w.calls) : Offstage w w' := by
  rcases h.lines with ⟨lines, _, _, _, hcounters⟩
  refine ⟨hconfig, houtput, hcalls, h.results, ?_, ?_, ?_, ?_⟩
  · rw [detachedEntries, h.departures, detachedEntries]
  · rw [stats, hcounters]
    rfl
  · rw [stats, hcounters]
    rfl
  · rw [stats, hcounters]
    rfl

namespace Offstage

theorem refl (w : Writer) : Offstage w w :=
  ⟨rfl, rfl, rfl, rfl, rfl, rfl, rfl, rfl⟩

theorem trans {w'' : Writer} (h : Offstage w w') (h' : Offstage w' w'') : Offstage w w'' where
  config := h'.config.trans h.config
  output := h'.output.trans h.output
  calls := h'.calls.trans h.calls
  results := h'.results.trans h.results
  detached := h'.detached.trans h.detached
  written := h'.written.trans h.written
  failed := h'.failed.trans h.failed
  flushFailures := h'.flushFailures.trans h.flushFailures

theorem places (h : Offstage w w') (producers : List PushPhase) (drain : DrainPhase)
    (owner : OwnerPhase) : Offstage w { w' with producers, drain, owner } :=
  ⟨h.config, h.output, h.calls, h.results, h.detached, h.written, h.failed, h.flushFailures⟩

theorem of_hand (w : Writer) (producers : List PushPhase) (source : Source) (e : Entry) :
    Offstage w ({ w with producers }.record (.handed source e)) :=
  ⟨rfl, rfl, calls_record _ rfl, by simp, by simp [detachedEntries], rfl, rfl, rfl⟩

theorem of_refuse (w : Writer) (source : Source) (e : Entry) :
    Offstage w (w.refuseEntry source e) :=
  (telling_refuseEntry w source e).offstage rfl rfl (calls_record _ rfl)

theorem of_push {source : Source} {phase phase' : PushPhase}
    (h : PushMove w source phase w' phase') : Offstage w w' := by
  have hcalls := h.calls
  cases h with
  | wait _ => exact refl w
  | @offer e outcome queue _ | @reoffer e outcome queue _ =>
      refine ⟨rfl, rfl, hcalls, by simp [answer], ?_, rfl, rfl, rfl⟩
      rw [detachedEntries, departures_answer, List.filterMap_append, List.filterMap_map,
        filterMap_detached?_displaced, List.append_nil, detachedEntries]
  | count outcome =>
      refine ⟨rfl, rfl, rfl, rfl, rfl, ?_, ?_, ?_⟩
      · cases outcome <;> rfl
      · cases outcome <;> rfl
      · cases outcome <;> rfl

theorem of_sum (w : Writer) : Offstage w w.sum := by
  refine ⟨?_, ?_, calls_announce _ _, ?_, ?_, ?_, ?_, ?_⟩
  all_goals simp [Writer.sum, stats, detachedEntries]

theorem of_pass (h : Pass w w') : Offstage w w' := by
  refine h.telling.offstage h.config ?_ h.calls
  cases h with
  | start _ => exact output_happen w _
  | stop _ => exact output_happen w _
  | _ => rfl

end Offstage

/-!
## One thread
-/

/-- What a move means for the thread that moves entries: it goes on to its next stage, a
thread begins to move entries, or it stays where it is.  Only a panic lets others take
its entries. -/
inductive StageEvent (w w' : Writer) : Prop where
  | onward : w'.trace = (w.stageStep w.workStage).1.trace ->
      Offstage (w.stageStep w.workStage).1 w' -> w'.workStage = (w.stageStep w.workStage).2 ->
      StageEvent w w'
  | begin : Offstage w w' -> w.workStage = .done -> w'.workStage = .taking -> StageEvent w w'
  | aside : Offstage w w' -> w'.workStage = w.workStage -> StageEvent w w'
  | recovery {left left' : List Entry} : w.workStage = .panicked left ->
      w'.workStage = .panicked left' -> StageEvent w w'

theorem stageEvent_of_pass (hdiscipline : Discipline w) (hpass : Pass w w') : StageEvent w w' := by
  have hoff := Offstage.of_pass hpass
  cases hpass with
  | start hdrain =>
      have howner := (chatter_happen w (.reported .threadStarted)).owner
      refine .aside hoff (workStage_congr ?_ ?_)
      · rw [hdrain]
        rfl
      · exact congrArg OwnerPhase.stage howner
  | stop hdrain =>
      have howner := (chatter_happen w (.reported .threadStopping)).owner
      refine .aside hoff (workStage_congr ?_ ?_)
      · rw [hdrain]
        rfl
      · exact congrArg OwnerPhase.stage howner
  | check hdrain =>
      refine .aside hoff (workStage_congr ?_ rfl)
      rw [hdrain]
      cases w.active <;> rfl
  | wake hdrain =>
      have hidle := (hdiscipline.owner_hands (by rw [hdrain]; rfl)).2
      refine .begin hoff ?_ ?_
      · rw [workStage_of_idle hidle, hdrain]
        rfl
      · exact workStage_of_idle hidle
  | join howner hdrain =>
      refine .begin hoff ?_ ?_
      · rw [workStage_of_stopped hdrain, howner]
        rfl
      · exact workStage_of_stopped hdrain
  | request howner | close howner | joinPanicked howner _ | lossReported howner
  | endReported howner =>
      refine .aside hoff (workStage_congr rfl ?_)
      rw [howner]
      rfl
  | again _ => exact .aside hoff rfl
  | listen listener => exact .aside hoff rfl

theorem stageEvent_of_move (hdiscipline : Discipline w) (hmove : Move w w') : StageEvent w w' := by
  cases hmove with
  | hand e _ => exact .aside (.of_hand w _ _ e) rfl
  | refuse e _ => exact .aside (.of_refuse w _ e) rfl
  | push _ hpush =>
      refine .aside ((Offstage.of_push hpush).places _ _ _) (workStage_congr ?_ ?_)
      · rw [hpush.drain]
      · rw [hpush.owner]
  | @report phase' next hpush =>
      refine .aside ((Offstage.of_push hpush).places _ _ _) (workStage_congr ?_ ?_)
      · rw [hpush.drain]
      · rw [hpush.owner]
        cases w.owner <;> rfl
  | @work stage hdrain =>
      have hidle := (hdiscipline.owner_hands (by rw [hdrain]; rfl)).2
      have hstage : w.workStage = stage := by
        rw [workStage_of_idle hidle, hdrain]
        rfl
      have hidle' : (w.stageStep stage).1.owner.stage = .done := by
        rw [(stageMove_stageStep w stage).owner, hidle]
      refine .onward ?_ ?_ ?_
      · rw [hstage]
      · rw [hstage]
        exact (Offstage.refl _).places _ _ _
      · rw [hstage]
        refine Eq.trans (workStage_of_idle ?_) (DrainPhase.stage_after _)
        exact hidle'
  | @finish stage howner =>
      have hdrain := (hdiscipline.knows howner).1
      have hstage : w.workStage = stage := by
        rw [workStage_of_stopped hdrain, howner]
        rfl
      have hdrain' : (w.stageStep stage).1.drain = .stopped := by
        rw [(stageMove_stageStep w stage).drain, hdrain]
      refine .onward ?_ ?_ ?_
      · rw [hstage]
      · rw [hstage]
        exact (Offstage.refl _).places _ _ _
      · rw [hstage]
        refine Eq.trans (workStage_of_stopped ?_) (OwnerPhase.stage_after _)
        exact hdrain'
  | abandon howner =>
      rcases hdiscipline.knows howner with ⟨left, hdrain⟩
      have hstage : w.workStage = .panicked left := by
        rw [workStage_of_idle (by rw [howner]; rfl), hdrain]
        rfl
      have hsame : w.abandon.workStage = w.workStage := workStage_congr rfl (by rw [howner]; rfl)
      exact .recovery hstage (hsame.trans hstage)
  | @recover queued howner =>
      rcases (hdiscipline.knows howner).1 with ⟨left, hdrain⟩
      have hstage : w.workStage = .panicked left := by
        rw [workStage_of_idle (by rw [howner]; rfl), hdrain]
        rfl
      have hdrain' : (w.recover queued).drain = .panicked [] := by
        rw [recover_eq, drain_announce]
        rfl
      exact .recovery hstage ((workStage_of_idle rfl).trans (congrArg DrainPhase.stage hdrain'))
  | sum howner =>
      refine .aside (.of_sum w) (workStage_congr ?_ ?_)
      · rw [Writer.sum, drain_announce]
      · rw [howner]
        rfl
  | pass hpass => exact stageEvent_of_pass hdiscipline hpass

/-- What the steps of moving entries keep from stage to stage holds in a whole run, as
long as it rules out a panic. -/
theorem stage_induction {P : Writer -> Stage -> Prop}
    (honward : forall {w stage}, P w stage -> P (w.stageStep stage).1 (w.stageStep stage).2)
    (hbegin : forall {w}, P w .done -> P w .taking)
    (haside : forall {w w' stage}, Offstage w w' -> P w stage -> P w' stage)
    (hpanic : forall {w left}, ¬ P w (.panicked left)) {actions : List Action}
    (hdiscipline : Discipline w) (h : P w w.workStage) (hrun : w.run actions = some w') :
    P w' w'.workStage := by
  refine (Discipline.run (P := fun w => P w w.workStage) ?_ hdiscipline h hrun).2
  intro w w' hdiscipline h hmove
  cases stageEvent_of_move hdiscipline hmove with
  | onward _ hoff hstage =>
      rw [hstage]
      exact haside hoff (honward h)
  | begin hoff hdone hstage =>
      rw [hdone] at h
      rw [hstage]
      exact haside hoff (hbegin h)
  | aside hoff hstage =>
      rw [hstage]
      exact haside hoff h
  | recovery hleft =>
      rw [hleft] at h
      exact absurd h hpanic

end Writer

end AsyncLog
