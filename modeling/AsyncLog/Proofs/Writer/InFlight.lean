import AsyncLog.Proofs.Writer.FinalPass
import AsyncLog.Proofs.Writer.Remarks
import AsyncLog.Proofs.Writer.Running
/-!
# Entries in flight

The counter of entries in flight is set when a backlog is announced and goes down by one
when a write is settled.  So it tells how many entries of the backlog have yet to come out
of their write, and when a panic stops it, how many it left behind.
-/

namespace AsyncLog

namespace Stage

/-- Entries of the announced backlog whose write has not returned. -/
def unreturned : Stage -> List Entry
  | .between left | .returned _ _ left | .settled _ _ left => left
  | .writing entry _ _ left => entry :: left
  | .panicked left => left
  | .taking | .detached _ | .flushing _ | .flushGivenUp _ | .done => []

def isReturned : Stage -> Bool
  | .returned _ _ _ => true
  | _ => false

def isAnnounced : Stage -> Bool
  | .between _ | .writing _ _ _ _ | .returned _ _ _ | .settled _ _ _ | .panicked _ => true
  | .taking | .detached _ | .flushing _ | .flushGivenUp _ | .done => false

theorem length_unsettled (stage : Stage) :
    stage.unsettled.length = stage.unreturned.length + stage.isReturned.toNat := by
  cases stage <;> rfl

theorem unsettled_of_not_announced {stage : Stage} (h : stage.isAnnounced = false) :
    stage.unsettled = [] := by
  cases stage with
  | taking | detached _ | flushing _ | flushGivenUp _ | done => rfl
  | _ => cases h

theorem length_unsettled_le (stage : Stage) :
    stage.unsettled.length ≤ stage.uncounted.length := by
  cases stage with
  | settled e error left => exact Nat.le_succ left.length
  | detached batch => exact Nat.zero_le _
  | _ => exact Nat.le_refl _

end Stage

namespace Writer

variable {w w' : Writer}

theorem unsettled_workStage (h : Discipline w) : w.unsettled = w.workStage.unsettled := by
  by_cases hidle : w.owner.stage = .done
  · rw [workStage_of_idle hidle, unsettled, hidle]
    exact List.append_nil _
  · have hdrain := drain_of_working h hidle
    rw [workStage_of_stopped hdrain, unsettled, hdrain]
    rfl

/-!
## Changes of the counter
-/

inductive StageFlight (c c' : Counters) : Stage -> Stage -> Prop where
  | kept {stage stage' : Stage} : c'.inFlight = c.inFlight -> StageFlight c c' stage stage'
  | announced (batch : List Entry) : c' = c.countDetached (UInt64.ofNat batch.length) ->
      StageFlight c c' (.detached batch) (.between batch)
  | settled (e : Entry) (error : Option IoError) (left : List Entry) : c' = c.countSettled ->
      StageFlight c c' (.returned e error left) (.settled e error left)

theorem Telling.inFlight {source : Source} (h : Telling source w w') :
    w'.counters.inFlight = w.counters.inFlight := by
  rcases h.lines with ⟨lines, _, _, _, hcounters⟩
  rw [hcounters]
  rfl

theorem StageMove.flight {stage stage' : Stage} (h : StageMove w stage w' stage') :
    StageFlight w.counters w'.counters stage stage' := by
  cases h with
  | talk hchatter => exact .kept hchatter.inFlight
  | fail e x left hchatter => exact .kept hchatter.inFlight
  | failFlush x hchatter => exact .kept hchatter.inFlight
  | announce batch => exact .announced batch rfl
  | settle e error left => exact .settled e error left rfl
  | detach | succeed _ _ => exact .kept rfl

/-- What a move does to the counter of entries in flight.  It is set while it is zero, it is
lowered while it counts the entry whose write has returned, and what a panic left of it is taken
and counted as failed; nothing else touches it. -/
inductive FlightChange (w w' : Writer) : Prop where
  | kept : w'.counters.inFlight = w.counters.inFlight -> FlightChange w w'
  | announced {batch : List Entry} : w.workStage = .detached batch ->
      w'.workStage = .between batch -> w.counters.inFlight = 0 ->
      w'.counters = w.counters.countDetached (UInt64.ofNat batch.length) -> FlightChange w w'
  | settled {e : Entry} {error : Option IoError} {left : List Entry} :
      w.workStage = .returned e error left -> w'.workStage = .settled e error left ->
      w.counters.inFlight = UInt64.ofNat (left.length + 1) ->
      w'.counters = w.counters.countSettled -> FlightChange w w'
  | taken {queued left : List Entry} : w.owner = .abandoning queued ->
      w.drain = .panicked left -> w.counters.abandonInFlight.1 = UInt64.ofNat left.length ->
      w'.counters = w.counters.abandonInFlight.2.countFailed
        (UInt64.ofNat (queued.length + left.length)) -> FlightChange w w'

theorem StageTally.flightChange (h : StageTally w w.workStage.unsettled)
    (hflight : StageFlight w.counters w'.counters w.workStage w'.workStage) :
    FlightChange w w' := by
  have hcount := h.inFlight
  generalize hstage : w.workStage = stage at hflight hcount
  generalize hstage' : w'.workStage = stage' at hflight
  cases hflight with
  | kept hsame => exact .kept hsame
  | announced batch hcounters => exact .announced hstage hstage' hcount hcounters
  | settled e error left hcounters => exact .settled hstage hstage' hcount hcounters

theorem PushMove.inFlight {source : Source} {phase phase' : PushPhase}
    (h : PushMove w source phase w' phase') : w'.counters.inFlight = w.counters.inFlight := by
  cases h with
  | wait _ | offer _ | reoffer _ => rfl
  | count outcome => cases outcome <;> rfl

theorem flightChange_of_work {stage : Stage} (hdiscipline : Discipline w)
    (h : StageTally w w.workStage.unsettled) (hdrain : w.drain = .draining stage) :
    FlightChange w { (w.stageStep stage).1 with drain := .after (w.stageStep stage).2 } := by
  have hmove := stageMove_stageStep w stage
  have hidle := (hdiscipline.owner_hands (by rw [hdrain]; rfl)).2
  have hstage : w.workStage = stage := by
    rw [workStage_of_idle hidle, hdrain]
    rfl
  have hidle' : (w.stageStep stage).1.owner.stage = .done := by
    rw [hmove.owner, hidle]
  apply h.flightChange
  rw [hstage, workStage_of_idle (by exact hidle'), DrainPhase.stage_after]
  exact hmove.flight

theorem flightChange_of_finish {stage : Stage} (hdiscipline : Discipline w)
    (h : StageTally w w.workStage.unsettled) (howner : w.owner = .finishing stage) :
    FlightChange w { (w.stageStep stage).1 with owner := .after (w.stageStep stage).2 } := by
  have hmove := stageMove_stageStep w stage
  have hdrain := (hdiscipline.knows howner).1
  have hstage : w.workStage = stage := by
    rw [workStage_of_stopped hdrain, howner]
    rfl
  have hdrain' : (w.stageStep stage).1.drain = .stopped := by
    rw [hmove.drain, hdrain]
  apply h.flightChange
  rw [hstage, workStage_of_stopped (by exact hdrain'), OwnerPhase.stage_after]
  exact hmove.flight

theorem flightChange_of_recover {queued : List Entry} (hdiscipline : Discipline w)
    (h : StageTally w w.workStage.unsettled) (howner : w.owner = .abandoning queued) :
    FlightChange w (w.recover queued) := by
  rcases (hdiscipline.knows howner).1 with ⟨left, hdrain⟩
  have hcount : w.counters.abandonInFlight.1 = UInt64.ofNat left.length := by
    have hinFlight := h.inFlight
    rw [workStage_of_idle (by rw [howner]; rfl), hdrain] at hinFlight
    exact hinFlight
  apply FlightChange.taken howner hdrain hcount
  rw [recover_eq, UInt64.ofNat_add, ← hcount]
  exact counters_announce _ _

theorem flightChange_of_move (hdiscipline : Discipline w) (h : StageTally w w.unsettled)
    (hmove : Move w w') : FlightChange w w' := by
  rw [unsettled_workStage hdiscipline] at h
  cases hmove with
  | hand e _ | refuse e _ | abandon _ => exact .kept rfl
  | push _ hpush | report hpush => exact .kept hpush.inFlight
  | work hdrain => exact flightChange_of_work hdiscipline h hdrain
  | finish howner => exact flightChange_of_finish hdiscipline h howner
  | recover howner => exact flightChange_of_recover hdiscipline h howner
  | sum howner => exact .kept (congrArg Counters.inFlight (counters_announce _ _))
  | pass hpass => exact .kept hpass.telling.inFlight

/-!
## After a panic of the drain thread
-/

theorem isPastOutput_of_move (hdiscipline : Discipline w) (hmove : Move w w')
    (h : w'.owner.isPastOutput = false) : w.owner.isPastOutput = false := by
  cases hpast : w.owner.isPastOutput with
  | false => rfl
  | true =>
      rw [(AtRest.of_move hdiscipline hpast hmove).2] at h
      cases h

/-- Only the drain thread itself comes to panic, until the owner makes up for it. -/
theorem drain_of_panicked {left : List Entry} (hmove : Move w w')
    (hleft : w'.drain = .panicked left) (hpast : w'.owner.isPastOutput = false) :
    w.drain = .panicked left ∨ exists stage, w.drain = .draining stage ∧
      (w.stageStep stage).2 = .panicked left ∧ w'.calls = (w.stageStep stage).1.calls := by
  cases hmove with
  | hand _ _ | refuse _ _ | abandon _ => exact Or.inl hleft
  | push _ hpush | report hpush => exact Or.inl (hpush.drain.symm.trans hleft)
  | @work stage hdrain =>
      right
      refine ⟨stage, hdrain, ?_, rfl⟩
      cases hnext : (w.stageStep stage).2 <;> simp [hnext, DrainPhase.after] at hleft
      rw [hleft]
  | finish _ => exact Or.inl ((stageMove_stageStep w _).drain.symm.trans hleft)
  | recover _ => cases hpast
  | sum _ => exact Or.inl ((drain_announce _ _).symm.trans hleft)
  | pass hpass =>
      cases hpass with
      | check _ =>
          cases hactive : w.active <;> simp [hactive] at hleft
      | start _ | wake _ | stop _ => cases hleft
      | _ => exact Or.inl hleft

/-- Until the owner has made up for it, the last call is the one in which the drain thread
panicked. -/
def DrainStruck (w : Writer) : Prop :=
  forall left, w.drain = .panicked left -> w.owner.isPastOutput = false -> Struck w.calls left

namespace DrainStruck

theorem move (hdiscipline : Discipline w) (hfate : Fate w) (h : DrainStruck w)
    (hmove : Move w w') : DrainStruck w' := by
  intro left hleft hpast
  rcases drain_of_panicked hmove hleft hpast with hdrain | ⟨stage, hdrain, hstage, hcalls⟩
  · -- Nobody is left to call: the owner does not touch the output after a panic.
    have hcalls : w'.calls = w.calls := by
      rcases hmove.calls with hsame | ⟨_, hrunning⟩ | ⟨stage, hfinishing, _⟩
      · exact hsame
      · rw [hdrain] at hrunning
        cases hrunning
      · rw [(hdiscipline.knows hfinishing).1] at hdrain
        cases hdrain
    rw [hcalls]
    exact h left hdrain (isPastOutput_of_move hdiscipline hmove hpast)
  · rw [hcalls]
    exact struck_stageStep (fun other heq => hfate.unwound other (heq ▸ hdrain)) hstage

theorem of_run {config : Config} {script : Script} {producers : Nat} {actions : List Action}
    (h : (start config script producers).run actions = some w) : DrainStruck w := by
  refine (Discipline.run (P := fun w => Fate w ∧ DrainStruck w) ?_
    (.start config script producers) ⟨.start config script producers, ?_⟩ h).2.2
  · intro w w' hdiscipline hw hmove
    exact ⟨hw.1.move hdiscipline hmove, hw.2.move hdiscipline hw.1 hmove⟩
  · intro left hleft
    cases hleft

end DrainStruck

/-- What the owner takes of the counter is what the panic left behind, and the last call tells
whether that is anything. -/
theorem taken_after_panic {left : List Entry} (hdiscipline : Discipline w)
    (htally : StageTally w w.unsettled) (hstruck : DrainStruck w)
    (hleft : w.drain = .panicked left) (hpast : w.owner.isPastOutput = false) :
    w.counters.abandonInFlight.1 = UInt64.ofNat left.length ∧
      w.inHand = left ++ w.owner.uncounted ∧
      (left = [] ↔ w.calls.getLast? = some (.flush .panics)) ∧
      (left ≠ [] ↔ exists offered, w.calls.getLast? = some (.write offered .panics)) := by
  have hidle : w.owner.stage = .done := by
    by_contra hworking
    rw [drain_of_working hdiscipline hworking] at hleft
    cases hleft
  have hunsettled : w.unsettled = left := by
    rw [unsettled_workStage hdiscipline, workStage_of_idle hidle, hleft]
    rfl
  have hstruck := hstruck left hleft hpast
  refine ⟨?_, ?_, hstruck.nil_iff, ?_⟩
  · have htaken := htally.inFlight
    rw [hunsettled] at htaken
    exact htaken
  · rw [inHand, hleft]
    rfl
  · cases hstruck with
    | write offered hlast hne => simp [hlast, hne]
    | flush hlast => simp [hlast]

/-!
## The counter in a run
-/

/-- The detached entries are those with a result and those in hand.  From the announcement of
a backlog on the counter is the number of its entries whose write has not returned, with the
one whose write has just returned and is settled next.  It is zero while the drain thread waits
and while a thread is about to take, to announce or to flush.  So each step sets it while it is
zero, lowers it while it counts the write that has returned, or leaves it alone; and once the
drain thread has panicked, what is taken of it is what the panic left behind, which is nothing
exactly if the thread panicked in a flush. -/
theorem in_flight_exact {config : Config} {script : Script} {producers : Nat}
    {actions : List Action} (hrun : (start config script producers).run actions = some w) :
    let inFlight := w.counters.inFlight
    let stage := w.workStage
    let count := stage.unreturned.length + stage.isReturned.toNat
    w.detachedEntries = w.results.map Result.entry ++ w.inHand ∧
    inFlight = UInt64.ofNat count ∧
    (stage.uncounted.length < UInt64.size -> inFlight.toNat = count) ∧
    (w.drain = .waiting -> inFlight = 0) ∧
    (stage.isAnnounced = false -> inFlight = 0) ∧
    (forall a w', w.step a = some w' -> FlightChange w w') ∧
    forall left, w.drain = .panicked left -> w.owner.isPastOutput = false ->
      w.counters.abandonInFlight.1 = UInt64.ofNat left.length ∧
      w.inHand = left ++ w.owner.uncounted ∧
      (left = [] ↔ w.calls.getLast? = some (.flush .panics)) ∧
      (left ≠ [] ↔ exists offered, w.calls.getLast? = some (.write offered .panics)) := by
  intro inFlight stage count
  have hdiscipline := Discipline.of_run hrun
  have htally := StageTally.of_run hrun
  have hunsettled := unsettled_workStage hdiscipline
  have hlength : w.unsettled.length = count := by
    rw [hunsettled, Stage.length_unsettled]
  have hcount : inFlight = UInt64.ofNat count := by
    rw [← hlength]
    exact htally.inFlight
  have hnone : stage.isAnnounced = false -> inFlight = 0 := by
    intro hstage
    rw [hcount, ← hlength, hunsettled, Stage.unsettled_of_not_announced hstage]
    rfl
  refine ⟨(InLine.of_run hrun).work, hcount, ?_, ?_, hnone, ?_, ?_⟩
  · intro hfits
    have hle := stage.length_unsettled_le
    rw [hcount, UInt64.toNat_ofNat_of_lt']
    rw [← hlength, hunsettled]
    exact Nat.lt_of_le_of_lt hle hfits
  · intro hwaiting
    have hidle := (hdiscipline.owner_hands (by rw [hwaiting]; rfl)).2
    apply hnone
    show w.workStage.isAnnounced = false
    rw [workStage_of_idle hidle, hwaiting]
    rfl
  · intro a w' hstep
    exact flightChange_of_move hdiscipline htally (move_of_step hstep)
  · intro left hleft hpast
    exact taken_after_panic hdiscipline htally (.of_run hrun) hleft hpast

def stranded : List Action :=
  [.hand 0 "a", .push 0 false, .push 0 false, .hand 0 "boom", .push 0 false, .push 0 false] ++
    List.replicate 5 .drain ++ [.hand 0 "c", .push 0 false, .push 0 false] ++
    List.replicate 6 .drain ++ .shutDown :: List.replicate 3 (.owner false)

theorem in_flight_exact_stranded :
    exists w w' : Writer, (start Config.default tripwire 1).run stranded = some w ∧
      w.drain = .panicked ["boom"] ∧ w.owner = .abandoning ["c"] ∧
      w.counters.inFlight = 1 ∧ w.counters.abandonInFlight.1 = 1 ∧
      w.inHand = ["boom"] ++ ["c"] ∧
      (exists offered, w.calls.getLast? = some (.write offered .panics)) ∧
      w.step (.owner false) = some w' ∧ FlightChange w w' ∧ w'.counters.inFlight = 0 ∧
      w'.stats = { appended := 3, written := 1, failed := 2 } := by
  let ended := ((start Config.default tripwire 1).run stranded).get (by decide)
  let recovered := (ended.step (.owner false)).get (by decide)
  have hrun : (start Config.default tripwire 1).run stranded = some ended :=
    (Option.some_get _).symm
  have hstep : ended.step (.owner false) = some recovered := (Option.some_get _).symm
  have hdrain : ended.drain = .panicked ["boom"] := by decide
  rcases in_flight_exact hrun with ⟨_, hcount, _, _, _, hchange, hpanicked⟩
  rcases hpanicked ["boom"] hdrain (by decide) with ⟨htaken, hhand, _, hwrite⟩
  exact ⟨ended, recovered, hrun, hdrain, by decide, hcount, htaken, hhand,
    hwrite.mp (by decide), hstep, hchange _ _ hstep, by decide, by decide⟩

end Writer

end AsyncLog
