import AsyncLog.Proofs.Writer.Flushing
import AsyncLog.Proofs.Writer.Progress
import AsyncLog.Proofs.Writer.Remarks
/-!
# A budget of calls

At a closed queue nothing joins the entries that are still to be written, so the calls that may
still be made are budgeted for: so many for each byte that is queued or detached, and as many
for each flush.  A call takes one from the budget, and only a new backlog adds to it, for its
flush.
-/

namespace AsyncLog

theorem RetryRule.callLimit_eq (rule : RetryRule) : rule.callLimit = rule.retries.toNat + 17 := rfl

def RetryRule.load (rule : RetryRule) (entries : List Entry) : Nat :=
  (entries.map fun e => e.bytes.length * rule.callLimit).sum

section Load

variable (rule : RetryRule)

theorem load_cons (e : Entry) (entries : List Entry) :
    rule.load (e :: entries) = e.bytes.length * rule.callLimit + rule.load entries := by
  rw [RetryRule.load, List.map_cons, List.sum_cons, ← RetryRule.load]

theorem load_append (first second : List Entry) :
    rule.load (first ++ second) = rule.load first + rule.load second := by
  rw [RetryRule.load, List.map_append, List.sum_append, ← RetryRule.load, ← RetryRule.load]

end Load

namespace Stage

/-- An entry under way has bytes left, none that are not its own, and an operation has no more
effort ahead than at its beginning. -/
def WithinBounds (rule : RetryRule) : Stage -> Prop
  | .writing e rest effort _ =>
      rest ≠ [] ∧ rest.length ≤ e.bytes.length ∧ effort.budget rule.retries < rule.callLimit
  | .flushing effort => effort.budget rule.retries < rule.callLimit
  | _ => True

/-- The most calls that are still to come for the backlog in hand. -/
def callsAhead (rule : RetryRule) : Stage -> Nat
  | .taking | .done | .panicked _ | .flushGivenUp _ => 0
  | .detached batch | .between batch => rule.load batch + rule.callLimit
  | .writing _ rest effort left =>
      (rest.length - 1) * rule.callLimit + (effort.budget rule.retries + 1) +
        (rule.load left + rule.callLimit)
  | .returned _ _ left | .settled _ _ left => rule.load left + rule.callLimit
  | .flushing effort => effort.budget rule.retries + 1

def flushDue : Stage -> Bool
  | .taking | .done | .panicked _ | .flushGivenUp _ => false
  | .detached _ | .between _ | .writing _ _ _ _ | .returned _ _ _ | .settled _ _ _
  | .flushing _ => true

theorem WithinBounds.callsAhead_le {rule : RetryRule} {stage : Stage}
    (h : stage.WithinBounds rule) :
    stage.callsAhead rule ≤
      rule.load stage.uncounted + rule.callLimit * stage.flushDue.toNat := by
  cases stage with
  | taking | done | panicked left | flushGivenUp x => exact Nat.zero_le _
  | detached batch | between batch =>
      rw [flushDue, Bool.toNat_true, Nat.mul_one]
      exact Nat.le_refl _
  | returned e error left | settled e error left =>
      rw [flushDue, Bool.toNat_true, Nat.mul_one, uncounted, load_cons]
      exact Nat.add_le_add_right (Nat.le_add_left _ _) _
  | writing e rest effort left =>
      rcases h with ⟨hrest, hwithin, heffort⟩
      have hpositive : 0 < rest.length := List.length_pos_iff.mpr hrest
      have hentry : (rest.length - 1) * rule.callLimit + (effort.budget rule.retries + 1) ≤
          e.bytes.length * rule.callLimit := by
        calc (rest.length - 1) * rule.callLimit + (effort.budget rule.retries + 1)
            ≤ (rest.length - 1) * rule.callLimit + rule.callLimit :=
              Nat.add_le_add_left heffort _
          _ = (rest.length - 1 + 1) * rule.callLimit := by rw [Nat.add_mul, Nat.one_mul]
          _ ≤ e.bytes.length * rule.callLimit :=
              Nat.mul_le_mul_right _ (by rw [Nat.sub_add_cancel hpositive]; exact hwithin)
      rw [flushDue, Bool.toNat_true, Nat.mul_one, uncounted, load_cons, Nat.add_assoc]
      exact Nat.add_le_add_right hentry _
  | flushing effort =>
      rw [flushDue, Bool.toNat_true, Nat.mul_one]
      exact Nat.le_trans h (Nat.le_add_left _ _)

end Stage

namespace Writer

variable {w w' : Writer} {rule : RetryRule} {stage : Stage}

/-!
## Bounds of a stage
-/

theorem WriteEvent.withinBounds {e : Entry} {rest : List UInt8} {effort : Effort}
    {left : List Entry} {reply : Reply { n : Nat // 0 < n }} {stage' : Stage}
    (h : WriteEvent rule e rest effort left reply stage')
    (hbounds : (Stage.writing e rest effort left).WithinBounds rule) :
    stage'.WithinBounds rule := by
  rcases hbounds with ⟨hrest, hwithin, heffort⟩
  cases h with
  | panicked | written _ | givenUp _ => exact True.intro
  | @partly taken b more hleft =>
      have hdropped := congrArg List.length hleft
      rw [List.length_drop] at hdropped
      constructor
      · exact List.cons_ne_nil b more
      constructor
      · rw [← hdropped]
        exact Nat.le_trans (Nat.sub_le _ _) hwithin
      · exact Nat.lt_succ_self _
  | again hagain =>
      have hless := Effort.budget_afterError hagain
      exact ⟨hrest, hwithin, Nat.lt_trans hless heffort⟩

theorem withinBounds_afterFlush (w : Writer) : w.afterFlush.WithinBounds rule := by
  unfold afterFlush
  cases w.config.drainMode <;> exact True.intro

theorem FlushEvent.withinBounds {effort : Effort} {next stage' : Stage} {reply : Reply Unit}
    (h : FlushEvent rule effort next reply stage') (hnext : next.WithinBounds rule)
    (hbounds : (Stage.flushing effort).WithinBounds rule) : stage'.WithinBounds rule := by
  cases h with
  | panicked | givenUp _ => exact True.intro
  | flushed => exact hnext
  | again hagain => exact Nat.lt_trans (Effort.budget_afterError hagain) hbounds

theorem withinBounds_stageStep (hrule : w.config.retryRule = rule)
    (h : stage.WithinBounds rule) : (w.stageStep stage).2.WithinBounds rule := by
  cases stage with
  | writing e rest effort left =>
      rcases hwrite : Output.write rest w.output with ⟨reply, made, output⟩
      rw [← hrule] at h ⊢
      exact (writeEvent_writeStep hwrite).withinBounds h
  | flushing effort =>
      rcases hflush : w.output.flush with ⟨reply, made, output⟩
      rw [← hrule] at h ⊢
      exact (flushEvent_flushStep hflush).withinBounds (withinBounds_afterFlush w) h
  | taking =>
      simp only [stageStep]
      split <;> exact True.intro
  | between left =>
      have hfresh : (Effort.fresh w.config.retryRule).budget rule.retries < rule.callLimit := by
        rw [hrule]
        exact Nat.lt_succ_self _
      cases left with
      | nil => exact hfresh
      | cons e left =>
          simp only [stageStep, beginEntry]
          cases hbytes : e.bytes with
          | nil => exact True.intro
          | cons b more =>
              constructor
              · exact List.cons_ne_nil b more
              constructor
              · exact Nat.le_of_eq (congrArg List.length hbytes.symm)
              · exact hfresh
  | flushGivenUp x => exact withinBounds_afterFlush w
  | _ => exact True.intro

theorem withinBounds_of_run {config : Config} {script : Script} {producers : Nat}
    {actions : List Action} (hrun : (start config script producers).run actions = some w) :
    w.workStage.WithinBounds config.retryRule := by
  refine (Discipline.run (P := fun w => w.config = config ∧
    w.workStage.WithinBounds config.retryRule) ?_ (.start config script producers)
    ⟨rfl, True.intro⟩ hrun).2.2
  intro w w' hdiscipline h hmove
  rcases h with ⟨hconfig, hbounds⟩
  constructor
  · rw [hmove.config, hconfig]
  · cases stageEvent_of_move hdiscipline hmove with
    | onward _ _ hstage =>
        rw [hstage]
        exact withinBounds_stageStep (by rw [hconfig]) hbounds
    | begin _ _ hstage =>
        rw [hstage]
        exact True.intro
    | aside _ hstage =>
        rw [hstage]
        exact hbounds
    | recovery _ hleft =>
        rw [hleft]
        exact True.intro

/-!
## What a step takes from the budget
-/

theorem WriteEvent.callsAhead_lt {e : Entry} {rest : List UInt8} {effort : Effort}
    {left : List Entry} {reply : Reply { n : Nat // 0 < n }} {stage' : Stage}
    (h : WriteEvent rule e rest effort left reply stage') :
    stage'.callsAhead rule < (Stage.writing e rest effort left).callsAhead rule := by
  cases h with
  | panicked | written _ | givenUp _ =>
      simp only [Stage.callsAhead]
      omega
  | @partly taken b more hleft =>
      have hmost := rule.calls_of_drop hleft
      have hfresh := rule.budget_fresh
      simp only [Stage.callsAhead, List.length_cons, Nat.add_sub_cancel]
      omega
  | again heffort =>
      have hless := Effort.budget_afterError heffort
      simp only [Stage.callsAhead]
      omega

theorem callsAhead_afterFlush (w : Writer) : w.afterFlush.callsAhead rule = 0 := by
  unfold afterFlush
  cases w.config.drainMode <;> rfl

theorem FlushEvent.callsAhead_lt {effort : Effort} {next stage' : Stage} {reply : Reply Unit}
    (h : FlushEvent rule effort next reply stage') (hnext : next.callsAhead rule = 0) :
    stage'.callsAhead rule < (Stage.flushing effort).callsAhead rule := by
  cases h with
  | panicked | givenUp _ => exact Nat.succ_pos _
  | flushed =>
      rw [hnext]
      exact Nat.succ_pos _
  | again heffort => exact Nat.succ_lt_succ (Effort.budget_afterError heffort)

/-- Where a thread does not look into the queue, its step takes from the budget as many calls
as it makes. -/
theorem callsAhead_stageStep (hrule : w.config.retryRule = rule) (htaking : stage ≠ .taking) :
    (w.stageStep stage).1.calls.length + (w.stageStep stage).2.callsAhead rule ≤
      w.calls.length + stage.callsAhead rule := by
  have hsilent (hcalls : stage.callsNext = false)
      (hless : (w.stageStep stage).2.callsAhead rule ≤ stage.callsAhead rule) :
      (w.stageStep stage).1.calls.length + (w.stageStep stage).2.callsAhead rule ≤
        w.calls.length + stage.callsAhead rule := by
    rw [calls_stageStep hcalls]
    exact Nat.add_le_add_left hless _
  cases stage with
  | taking => exact absurd rfl htaking
  | writing e rest effort left =>
      rcases hwrite : Output.write rest w.output with ⟨reply, made, output⟩
      have hmade : (w.stageStep (.writing e rest effort left)).1.calls = w.calls ++ [made] :=
        (calls_writeStep hwrite).1
      rw [hmade, List.length_append, List.length_singleton, Nat.add_right_comm, Nat.add_assoc]
      rw [← hrule]
      exact Nat.add_le_add_left (writeEvent_writeStep hwrite).callsAhead_lt _
  | flushing effort =>
      rcases hflush : w.output.flush with ⟨reply, made, output⟩
      have hmade : (w.stageStep (.flushing effort)).1.calls = w.calls ++ [made] :=
        (calls_flushStep hflush).1
      rw [hmade, List.length_append, List.length_singleton, Nat.add_right_comm, Nat.add_assoc]
      rw [← hrule]
      exact Nat.add_le_add_left
        ((flushEvent_flushStep hflush).callsAhead_lt (callsAhead_afterFlush w)) _
  | between left =>
      apply hsilent rfl
      cases left with
      | nil =>
          simp only [stageStep, hrule, Stage.callsAhead]
          exact Nat.le_add_left _ _
      | cons e left =>
          simp only [stageStep, beginEntry, hrule]
          cases hbytes : e.bytes with
          | nil =>
              simp only [Stage.callsAhead, load_cons]
              omega
          | cons b more =>
              have hfresh := rule.budget_fresh
              simp only [Stage.callsAhead, load_cons, hbytes, List.length_cons,
                Nat.add_sub_cancel, Nat.add_mul]
              omega
  | flushGivenUp x =>
      apply hsilent rfl
      exact Nat.le_of_eq (callsAhead_afterFlush w)
  | _ => exact hsilent rfl (Nat.le_refl _)

/-!
## Moves at a closed queue
-/

def expense (w : Writer) (rule : RetryRule) : Nat :=
  w.calls.length + w.workStage.callsAhead rule + rule.load w.queue.entries

/-- A move pays for its calls out of the budget, to which every new backlog adds a flush. -/
def Affords (rule : RetryRule) (w w' : Writer) : Prop :=
  w'.expense rule + rule.callLimit * w.backlogs.length ≤
    w.expense rule + rule.callLimit * w'.backlogs.length

theorem affords_taking (hcalls : w'.calls = w.calls)
    (hqueue : w'.queue.entries = (w.stageStep .taking).1.queue.entries)
    (hstage : w.workStage = .taking) (hstage' : w'.workStage = (w.stageStep .taking).2)
    (hbacklogs : w'.backlogs = (w.stageStep .taking).1.backlogs) : Affords rule w w' := by
  have hall := w.queue.take_append_entries w.config.drainMode
  rw [Affords, expense, expense, hcalls, hqueue, hstage, hstage', hbacklogs]
  rcases htake : w.queue.take w.config.drainMode with ⟨batch, queue⟩
  rw [htake] at hall
  cases batch with
  | nil =>
      simp only [stageStep, htake]
      exact Nat.le_refl _
  | cons e rest =>
      have hmore : (w.stageStep .taking).1.backlogs = w.backlogs ++ [e :: rest] := by
        simp only [stageStep, htake]
        exact chronicle_record _ _ _
      rw [hmore, ← hall, load_append, List.length_append, List.length_singleton, Nat.mul_add]
      simp only [stageStep, htake, Stage.callsAhead, queue_record]
      omega

theorem affords_of_same (hcalls : w'.calls = w.calls)
    (hstage : w'.workStage.callsAhead rule = w.workStage.callsAhead rule)
    (hqueue : rule.load w'.queue.entries ≤ rule.load w.queue.entries)
    (hbacklogs : w.backlogs.length ≤ w'.backlogs.length) : Affords rule w w' := by
  rw [Affords, expense, expense, hcalls, hstage]
  exact Nat.add_le_add (Nat.add_le_add_left hqueue _) (Nat.mul_le_mul_left _ hbacklogs)

theorem entries_of_onward {stage : Stage} (hclosed : w.queue.closed = true) (hmove : Move w w')
    (htrace : w'.trace = (w.stageStep stage).1.trace) :
    w'.queue.entries = (w.stageStep stage).1.queue.entries := by
  have hdetached : w'.detachedEntries = (w.stageStep stage).1.detachedEntries :=
    congrArg (List.filterMap Departure.detached?) (chronicle_of_trace htrace _)
  have hline := (hmove.lineup hclosed).trans (stageMove_stageStep w stage).lineup.symm
  rw [hdetached, List.append_cancel_left_eq] at hline
  exact hline

theorem affords_of_move (hrule : w.config.retryRule = rule) (hdiscipline : Discipline w)
    (hclosed : w.queue.closed = true) (hmove : Move w w') : Affords rule w w' := by
  rcases hmove.detaches hclosed with ⟨batch, hdepartures, hentries⟩
  have hqueue : rule.load w'.queue.entries ≤ rule.load w.queue.entries := by
    rw [hentries, load_append]
    exact Nat.le_add_left _ _
  have hbacklogs : w.backlogs.length ≤ w'.backlogs.length :=
    (chronicle_extend hmove.trace Incident.backlogs).length_le
  cases stageEvent_of_move hdiscipline hmove with
  | begin hoff hdone hstage =>
      exact affords_of_same hoff.calls (by rw [hdone, hstage]; rfl) hqueue hbacklogs
  | aside hoff hstage => exact affords_of_same hoff.calls (by rw [hstage]) hqueue hbacklogs
  | recovery hleft hleft' =>
      have hcalls := calls_of_silent hdiscipline hmove (by rw [hleft]; rfl)
      exact affords_of_same hcalls (by rw [hleft, hleft']; rfl) hqueue hbacklogs
  | onward htrace hoff hstage =>
      have hsame : w'.backlogs = (w.stageStep w.workStage).1.backlogs :=
        chronicle_of_trace htrace _
      -- Only the look into the queue leaves fewer bytes there and announces a flush.
      by_cases htaking : w.workStage = .taking
      · have hleft := entries_of_onward hclosed hmove htrace
        have hcalls : w'.calls = w.calls :=
          hoff.calls.trans (calls_stageStep (by rw [htaking]; rfl))
        rw [htaking] at hsame hstage hleft
        exact affords_taking hcalls hleft htaking hstage hsame
      · have hless := callsAhead_stageStep hrule htaking
        rw [← hoff.calls, ← hstage] at hless
        exact Nat.add_le_add (Nat.add_le_add hless hqueue) (Nat.mul_le_mul_left _ hbacklogs)

theorem trace_of_run {actions : List Action} (hrun : w.run actions = some w') :
    w.trace <:+ w'.trace :=
  run_induction (P := fun next => w.trace <:+ next.trace)
    (fun hbefore hmove => hbefore.trans hmove.trace) List.suffix_rfl hrun

/-- The flushes since an earlier state: one for each backlog that was detached, and the one that
was due then. -/
def flushesSince (w earlier : Writer) : Nat :=
  (w.backlogs.length - earlier.backlogs.length) + earlier.workStage.flushDue.toNat

theorem affords_of_run {actions : List Action} (hrule : w.config.retryRule = rule)
    (hdiscipline : Discipline w) (hclosed : w.queue.closed = true)
    (hrun : w.run actions = some w') : Affords rule w w' := by
  refine (Discipline.run (P := fun next => next.config = w.config ∧ next.queue.closed = true ∧
    Affords rule w next) ?_ hdiscipline ⟨rfl, hclosed, Nat.le_refl _⟩ hrun).2.2.2
  rintro next next' hdiscipline ⟨hconfig, hclosed, hbefore⟩ hmove
  have hstep := affords_of_move (by rw [hconfig, hrule]) hdiscipline hclosed hmove
  rw [Affords] at hbefore hstep
  refine ⟨by rw [hmove.config, hconfig], hmove.stays_closed hclosed, ?_⟩
  rw [Affords]
  omega

theorem inHand_of_workStage (hdiscipline : Discipline w) (hcalm : w.workStage.isPanicked = false) :
    w.inHand = w.workStage.uncounted := by
  by_cases hidle : w.owner.stage = .done
  · rw [workStage_of_idle hidle] at hcalm ⊢
    have hnone : w.owner.uncounted = [] := by
      cases howner : w.owner with
      | abandoning queued =>
          rcases (hdiscipline.knows howner).1 with ⟨left, hleft⟩
          rw [hleft] at hcalm
          cases hcalm
      | finishing stage =>
          rw [howner] at hidle
          exact congrArg Stage.uncounted hidle
      | unwound left =>
          rw [howner] at hidle
          exact congrArg Stage.uncounted hidle
      | _ => rfl
    rw [inHand, hnone, List.append_nil]
  · have hstopped := drain_of_working hdiscipline hidle
    rw [workStage_of_stopped hstopped, inHand, hstopped]
    cases howner : w.owner with
    | abandoning queued =>
        rw [howner] at hidle
        exact absurd rfl hidle
    | _ => rfl

/-- From the close of the queue on, whatever the output answers, there are no more calls than
those for the bytes that were queued or detached then and those of the flushes since. -/
theorem calls_le_of_run {actions : List Action} (hrule : w.config.retryRule = rule)
    (hdiscipline : Discipline w) (hbounds : w.workStage.WithinBounds rule)
    (hclosed : w.queue.closed = true) (hrun : w.run actions = some w') :
    w'.calls.length ≤ w.calls.length + rule.load (w.workStage.uncounted ++ w.queue.entries) +
      rule.callLimit * w'.flushesSince w := by
  have hafford := affords_of_run hrule hdiscipline hclosed hrun
  have hahead := hbounds.callsAhead_le
  have hmore : w.backlogs.length ≤ w'.backlogs.length :=
    (chronicle_extend (trace_of_run hrun) Incident.backlogs).length_le
  rw [Affords, expense, expense] at hafford
  rw [flushesSince, load_append, Nat.mul_add, Nat.mul_sub]
  have hmost := Nat.mul_le_mul_left rule.callLimit hmore
  omega

end Writer

end AsyncLog
