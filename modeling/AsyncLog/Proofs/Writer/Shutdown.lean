import AsyncLog.Proofs.Writer.Sequence
import AsyncLog.Proofs.Writer.Termination
/-!
# From the close of the queue to the end

A pass over a closed queue, on the drain thread or by the owner, gives a result to exactly
those entries that were queued when it began.  Together with the budgets of steps and of
calls this says how a shutdown ends.
-/

namespace AsyncLog

namespace Writer

variable {w w' : Writer} {rule : RetryRule} {stage : Stage}

/-!
## Passes over a closed queue
-/

structure Emptying (w : Writer) : Prop where
  emptied : w.HasEmptied w.workStage
  done : w.workStage = .done -> w.queue.entries = []

theorem Emptying.of_entries (h : Emptying w) (hconfig : w'.config = w.config)
    (hentries : w'.queue.entries = w.queue.entries) (hstage : w'.workStage = w.workStage) :
    Emptying w' := by
  constructor
  · rw [HasEmptied, hconfig, hentries, hstage]
    exact h.emptied
  · rw [hentries, hstage]
    exact h.done

theorem Emptying.move (hdiscipline : Discipline w) (hclosed : w.queue.closed = true)
    (h : Emptying w) (hmove : Move w w') : Emptying w' := by
  cases stageEvent_of_move hdiscipline hmove with
  | onward htrace hoff hstage =>
      have hentries := entries_of_onward hclosed hmove htrace
      by_cases hdone : w.workStage = .done
      · rw [hdone] at hentries hstage
        exact h.of_entries hmove.config hentries (hstage.trans hdone.symm)
      · have hnext := Discipline.hasEmptied_stageStep hdone h.emptied
        constructor
        · rw [HasEmptied, hoff.config, hentries, hstage]
          exact hnext.1
        · rw [hentries, hstage]
          exact hnext.2
  | begin _ _ hstage =>
      constructor
      · intro _ htaking
        exact absurd hstage htaking
      · intro hdone
        rw [hstage] at hdone
        cases hdone
  | aside hoff hstage =>
      have hline := hmove.lineup hclosed
      rw [hoff.detached, List.append_cancel_left_eq] at hline
      exact h.of_entries hmove.config hline hstage
  | recovery hleft hleft' =>
      constructor
      · intro hbatch _
        have hempty : w.queue.entries = [] := by
          apply h.emptied (hmove.config ▸ hbatch)
          rw [hleft]
          exact Stage.noConfusion
        rcases hmove.detaches hclosed with ⟨batch, _, hentries⟩
        rw [hempty] at hentries
        exact (List.append_eq_nil_iff.mp hentries.symm).2
      · intro hdone
        rw [hleft'] at hdone
        cases hdone

theorem results_stageMove {stage' : Stage} (h : StageMove w stage w' stage') :
    exists settled, w'.results = w.results ++ settled ∧
      forall r, r ∈ settled -> r.ending ≠ .abandoned := by
  have hnone (hsame : w'.results = w.results) : exists settled, w'.results = w.results ++ settled ∧
      forall r, r ∈ settled -> r.ending ≠ .abandoned :=
    ⟨[], by rw [hsame, List.append_nil], List.forall_mem_nil _⟩
  cases h with
  | talk hchatter => exact hnone hchatter.results
  | detach => exact hnone (by rw [results_record]; exact List.append_nil _)
  | announce batch => exact hnone rfl
  | settle e error left => exact hnone rfl
  | succeed e left =>
      refine ⟨[⟨e, .written⟩], results_record _ _, ?_⟩
      intro r hr
      rw [List.mem_singleton.mp hr]
      exact Ending.noConfusion
  | fail e x left hchatter =>
      refine ⟨[⟨e, .failed x⟩], hchatter.results.trans (results_record _ _), ?_⟩
      intro r hr
      rw [List.mem_singleton.mp hr]
      exact Ending.noConfusion
  | failFlush x hchatter => exact hnone hchatter.results

theorem settled_of_run {output : Output} {actions : List Action}
    (h : InSequence rule output w w.workStage) (hdiscipline : Discipline w)
    (hrun : w.run actions = some w') :
    exists settled, w'.results = w.results ++ settled ∧
      forall r, r ∈ settled -> r.ending ≠ .abandoned := by
  refine (stage_induction (P := fun next stage => InSequence rule output next stage ∧
    exists settled, next.results = w.results ++ settled ∧
      forall r, r ∈ settled -> r.ending ≠ .abandoned) ?_ ?_ ?_ (fun h => h.1.running _ rfl)
    hdiscipline ⟨h, [], (List.append_nil _).symm, List.forall_mem_nil _⟩ hrun).2
  · rintro next stage ⟨hsequence, settled, hresults, hsettled⟩
    rcases results_stageMove (stageMove_stageStep next stage) with ⟨more, hmore, hall⟩
    refine ⟨hsequence.stageStep, settled ++ more, ?_, List.forall_mem_append.mpr ⟨hsettled, hall⟩⟩
    rw [hmore, hresults, List.append_assoc]
  · rintro next ⟨hsequence, hsettled⟩
    exact ⟨⟨hsequence.config, hsequence.answers, fun _ => Stage.noConfusion, hsequence.foretold⟩,
      hsettled⟩
  · rintro next next' stage hoff ⟨hsequence, settled, hresults, hsettled⟩
    exact ⟨hsequence.offstage hoff, settled, hoff.results.trans hresults, hsettled⟩

/-- A pass that begins at a closed queue leaves nothing there, and it has written or given up
just those entries that were queued. -/
theorem settled_of_pass {output : Output} {actions : List Action} (hdiscipline : Discipline w)
    (hline : InLine w) (hsequence : InSequence rule output w w.workStage)
    (hclosed : w.queue.closed = true) (htaking : w.workStage = .taking)
    (hrun : w.run actions = some w') (hdone : w'.workStage = .done) :
    w'.queue.entries = [] ∧ exists settled, w'.results = w.results ++ settled ∧
      settled.map Result.entry = w.queue.entries ∧
      forall r, r ∈ settled -> r.ending ≠ .abandoned := by
  have hemptying : Emptying w := by
    constructor
    · intro _ hcontra
      exact absurd htaking hcontra
    · intro hcontra
      rw [htaking] at hcontra
      cases hcontra
  have hempty : w'.queue.entries = [] :=
    ((Discipline.run (P := fun next => next.queue.closed = true ∧ Emptying next)
      (fun hdiscipline h hmove => ⟨hmove.stays_closed h.1, h.2.move hdiscipline h.1 hmove⟩)
      hdiscipline ⟨hclosed, hemptying⟩ hrun).2.2).done hdone
  rcases Discipline.run InLine.move hdiscipline hline hrun with ⟨hdiscipline', hline'⟩
  rcases settled_of_run hsequence hdiscipline hrun with ⟨settled, hresults, hsettled⟩
  refine ⟨hempty, settled, hresults, ?_, hsettled⟩
  have hnone : w.inHand = [] := by
    rw [inHand_of_workStage hdiscipline (by rw [htaking]; rfl), htaking]
    rfl
  have hnone' : w'.inHand = [] := by
    rw [inHand_of_workStage hdiscipline' (by rw [hdone]; rfl), hdone]
    rfl
  have hwork : w.detachedEntries = w.results.map Result.entry := by
    rw [hline.work, hnone, List.append_nil]
  have hwork' : w'.detachedEntries = w'.results.map Result.entry := by
    rw [hline'.work, hnone', List.append_nil]
  rcases (ClosedSince.of_run hdiscipline hclosed hrun).detached with
    ⟨batch, hdepartures, hentries⟩
  have hlineup := lineup_of_detaches hdepartures hentries
  rw [hempty, List.append_nil, hwork', hwork, hresults, List.map_append,
    List.append_cancel_left_eq] at hlineup
  exact hlineup

/-!
## Flushes
-/

theorem length_le_flatten {batches : List (List Entry)}
    (h : forall batch, batch ∈ batches -> batch ≠ []) :
    batches.length ≤ batches.flatten.length := by
  induction batches with
  | nil => exact Nat.le_refl _
  | cons batch rest ih =>
      rw [List.forall_mem_cons] at h
      have hsome : 0 < batch.length := List.length_pos_iff.mpr h.1
      have hrest := ih h.2
      rw [List.length_cons, List.flatten_cons, List.length_append]
      omega

theorem flushesSince_le {actions : List Action} (hdiscipline : Discipline w)
    (hclosed : w.queue.closed = true) (hrun : w.run actions = some w') :
    w'.flushesSince w ≤ w.queue.entries.length + 1 := by
  rcases chronicle_extend (trace_of_run hrun) Incident.backlogs with ⟨later, hlater⟩
  have hbacklogs : w'.backlogs = w.backlogs ++ later := hlater.symm
  rcases (ClosedSince.of_run hdiscipline hclosed hrun).detached with
    ⟨batch, hdepartures, hentries⟩
  have hlineup := lineup_of_detaches hdepartures hentries
  rw [← flatten_backlogs w', ← flatten_backlogs w, hbacklogs, List.flatten_append,
    List.append_assoc, List.append_cancel_left_eq] at hlineup
  have hsome : forall batch, batch ∈ later -> batch ≠ [] := by
    intro batch hbatch
    apply ne_nil_of_mem_backlogs (w := w')
    rw [hbacklogs]
    exact List.mem_append_right _ hbatch
  have hmost : later.length ≤ w.queue.entries.length := by
    calc later.length ≤ later.flatten.length := length_le_flatten hsome
      _ ≤ (later.flatten ++ w'.queue.entries).length := by
        rw [List.length_append]
        exact Nat.le_add_right _ _
      _ = w.queue.entries.length := by rw [hlineup]
  rw [flushesSince, hbacklogs, List.length_append, Nat.add_sub_cancel_left]
  exact Nat.add_le_add hmost (Bool.toNat_le _)

/-!
## The end of a shutdown
-/

/-- Without a panic a shutdown ends by its return, and nobody moves entries any more. -/
theorem finished_of_ended (hdiscipline : Discipline w)
    (hrunning : forall left, w.workStage ≠ .panicked left) (hended : w.owner.hasEnded = true) :
    exists stats, w.owner = .finished stats ∧ w.workStage = .done := by
  cases howner : w.owner with
  | finished stats =>
      have hstage : w.workStage = w.drain.stage := workStage_of_idle (by rw [howner]; rfl)
      refine ⟨stats, rfl, ?_⟩
      rcases (hdiscipline.knows howner).1 with hdrain | hdrain
      · rw [hstage, hdrain]
        rfl
      · rw [hdrain] at hstage
        exact absurd hstage (hrunning [])
  | unwound left =>
      have hstage := workStage_of_stopped (hdiscipline.knows howner).1
      rw [howner] at hstage
      exact absurd hstage (hrunning left)
  | _ =>
      rw [howner] at hended
      cases hended

theorem run_trans {next : Writer} {first second : List Action} (h : w.run first = some next)
    (h' : next.run second = some w') : w.run (first ++ second) = some w' := by
  rw [run_append, h, Option.bind_some, h']

/-- From the close of the queue on the two threads of the shutdown have a bounded number of
steps left, whatever producers and listeners do meanwhile, and until the end one of them can
go on.  There are no more calls for an entry that was queued or detached at the close than
`retries + 17` for each of its bytes, and as many for each flush.  If the output answers every
call, the shutdown comes to an end by itself and returns, and a pass over the queue on the way
settles those entries that were queued when it began. -/
theorem shutdown_terminates {config : Config} {script : Script} {producers : Nat}
    {before after : List Action} {timedOut : Bool} {w₀ w₁ w : Writer}
    (hbefore : (start config script producers).run before = some w₀)
    (howner : w₀.owner = .closing) (hclose : w₀.step (.owner timedOut) = some w₁)
    (hafter : w₁.run after = some w) :
    after.countP Action.isOwn + w.stepsAhead config.retryRule ≤
      w₁.stepsAhead config.retryRule ∧
    (w.drain.hasEnded = false -> exists w', w.step .drain = some w') ∧
    (w.drain.hasEnded = true -> w.owner.hasEnded = false ->
      forall timedOut, exists w', w.step (.owner timedOut) = some w') ∧
    w.calls.length ≤ w₁.calls.length +
      ((w₁.inHand ++ w₁.queue.entries).map fun e =>
        e.bytes.length * (config.writeRetries.toNat + 17)).sum +
      (config.writeRetries.toNat + 17) * w.flushesSince w₁ ∧
    w.flushesSince w₁ ≤ w₁.queue.entries.length + 1 ∧
    (script.Answers ->
      (exists rest last stats, w.run rest = some last ∧
        (forall a, a ∈ rest -> a.isOwn = true) ∧ last.owner = .finished stats ∧
        last.workStage = .done) ∧
      (w.workStage = .taking -> forall pass last, w.run pass = some last ->
        last.workStage = .done -> last.queue.entries = [] ∧
        exists settled, last.results = w.results ++ settled ∧
          settled.map Result.entry = w.queue.entries ∧
          forall r, r ∈ settled -> r.ending ≠ .abandoned)) := by
  have hw₁ : w₁ = { w₀ with queue := w₀.queue.close, owner := .joining } := by
    simpa [step, ownerStep, howner] using hclose.symm
  have hrun₁ : (start config script producers).run (before ++ [.owner timedOut]) = some w₁ := by
    apply run_trans hbefore
    rw [run_cons, hclose]
    rfl
  have hrun : (start config script producers).run (before ++ [.owner timedOut] ++ after) =
      some w :=
    run_trans hrun₁ hafter
  have hdiscipline₁ := Discipline.of_run hrun₁
  have hdiscipline := Discipline.of_run hrun
  have hclosed₁ : w₁.queue.closed = true := by
    rw [hw₁]
    rfl
  have hclosed := (ClosedSince.of_run hdiscipline₁ hclosed₁ hafter).closed
  have hrule₁ : w₁.config.retryRule = config.retryRule := by rw [config_of_run hrun₁]; rfl
  have hrule : w.config.retryRule = config.retryRule := by rw [config_of_run hrun]; rfl
  -- At the close nothing is in the hands of the owner.
  have hhand : w₁.workStage.uncounted = w₁.inHand := by
    rw [workStage_of_idle (by rw [hw₁]; rfl), inHand, hw₁]
    exact (List.append_nil _).symm
  refine ⟨ownSteps_le_of_run hrule₁ hdiscipline₁ hclosed₁ hafter, exists_drainStep,
    exists_ownerStep hclosed hdiscipline, ?_, flushesSince_le hdiscipline₁ hclosed₁ hafter, ?_⟩
  · have hmost := calls_le_of_run hrule₁ hdiscipline₁ (withinBounds_of_run hrun₁) hclosed₁ hafter
    simp only [hhand, RetryRule.load, RetryRule.callLimit_eq] at hmost
    exact hmost
  · intro hanswers
    have hsequence := InSequence.of_run hanswers hrun
    constructor
    · rcases exists_ended config.retryRule w hrule hdiscipline hclosed with
        ⟨rest, last, hrest, hown, hended⟩
      have hlast : (start config script producers).run
          (before ++ [.owner timedOut] ++ after ++ rest) = some last :=
        run_trans hrun hrest
      have hrunning := (InSequence.of_run hanswers hlast).running
      rcases finished_of_ended (Discipline.of_run hlast) hrunning hended with ⟨stats, hend⟩
      exact ⟨rest, last, stats, hrest, hown, hend⟩
    · intro htaking pass last hpass hdone
      exact settled_of_pass hdiscipline (InLine.of_run hrun) hsequence hclosed htaking hpass hdone

def onceMore : Config :=
  { entryByEntry with writeRetries := 1 }

def overheard : List Action :=
  [.listen ⟨.trace, ""⟩, .hand 0 "abc", .push 0 false, .push 0 false, .hand 0 "de", .push 0 false,
    .push 0 false, .shutDown]

def untilPass : List Action :=
  [.hand 1 "late"] ++ List.replicate 3 .drain ++ [.owner false]

def finalPass : List Action :=
  [.push 1 false, .push 1 false] ++ List.replicate 28 (.owner false)

theorem shutdown_terminates_faltering :
    exists w₀ w₁ w last : Writer,
      (start onceMore (faltering (.fails (.plain .other))) 2).run overheard = some w₀ ∧
      w₀.step (.owner false) = some w₁ ∧ w₁.run untilPass = some w ∧ w.workStage = .taking ∧
      w.run finalPass = some last ∧ last.owner.hasEnded = true ∧
      w.queue.entries = ["abc", "de"] ∧
      (exists settled, last.results = w.results ++ settled ∧
        settled.map Result.entry = w.queue.entries) ∧
      last.stats = { appended := 2, failed := 2, flushFailures := 2, rejected := 12 } ∧
      last.calls.length = 9 ∧ last.flushesSince w₁ = 2 ∧
      last.calls.length ≤ w₁.calls.length +
        ((w₁.inHand ++ w₁.queue.entries).map fun e =>
          e.bytes.length * (onceMore.writeRetries.toNat + 17)).sum +
        (onceMore.writeRetries.toNat + 17) * last.flushesSince w₁ := by
  let output := faltering (.fails (.plain .other))
  let closing := ((start onceMore output 2).run overheard).get (by decide)
  let closed := (closing.step (.owner false)).get (by decide)
  let joined := (closed.run untilPass).get (by decide)
  let ended := (joined.run finalPass).get (by decide)
  have hbefore : (start onceMore output 2).run overheard = some closing := (Option.some_get _).symm
  have hclose : closing.step (.owner false) = some closed := (Option.some_get _).symm
  have huntil : closed.run untilPass = some joined := (Option.some_get _).symm
  have hpass : joined.run finalPass = some ended := (Option.some_get _).symm
  have hall : closed.run (untilPass ++ finalPass) = some ended := run_trans huntil hpass
  have howner : closing.owner = .closing := by decide
  have htaking : joined.workStage = .taking := by decide
  have hdone : ended.workStage = .done := by decide
  have hanswers : output.Answers := answers_faltering (by simp)
  rcases shutdown_terminates hbefore howner hclose huntil with ⟨_, _, _, _, _, hsettles⟩
  rcases (hsettles hanswers).2 htaking finalPass ended hpass hdone with
    ⟨_, settled, hresults, hentries, _⟩
  rcases shutdown_terminates hbefore howner hclose hall with ⟨_, _, _, hcalls, _, _⟩
  exact ⟨closing, closed, joined, ended, hbefore, hclose, huntil, htaking, hpass, by decide,
    by decide, ⟨settled, hresults, hentries⟩, by decide, by decide, by decide, hcalls⟩

end Writer

end AsyncLog
