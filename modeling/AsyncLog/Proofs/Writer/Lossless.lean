import AsyncLog.Proofs.Writer.OrderedOutput
/-!
# Nothing is lost

An unbounded queue drops nothing, and an output that takes every write lets no
entry fail.  So a writer over such an output, once it is shut down, has written
all that its queue accepted.
-/

namespace AsyncLog

theorem Queue.isFull_of_unbounded {q : Queue} (h : q.capacity = none) : q.isFull = false := by
  rw [isFull, h]

def Stage.Unharmed : Stage -> Prop
  | .writing _ rest _ _ => rest ≠ []
  | .returned _ error _ | .settled _ error _ => error = none
  | .flushGivenUp _ | .panicked _ => False
  | .taking | .detached _ | .between _ | .flushing _ | .done => True

namespace Writer

variable {w w' : Writer}

/-!
## An unbounded queue
-/

theorem outcome_of_unbounded {e : Entry} {waited : Bool} {outcome : Push} {queue : Queue}
    (h : w.queue.capacity = none) (hdecides : w.queue.Decides e waited outcome queue) :
    outcome ≠ .dropped ∧ outcome ≠ .displacedOldest := by
  have hroom := Queue.isFull_of_unbounded h
  cases hdecides with
  | reject _ => exact ⟨by simp, by simp⟩
  | queue _ _ => exact ⟨by simp, by simp⟩
  | drop _ hfull _ =>
      rw [hroom] at hfull
      cases hfull
  | displace _ hfull _ =>
      rw [hroom] at hfull
      cases hfull

theorem droppedEntries_congr (hanswers : w'.answers = w.answers)
    (hdisplaced : w'.displacedEntries = w.displacedEntries) :
    w'.droppedEntries = w.droppedEntries := by
  rw [droppedEntries, hanswers, hdisplaced, droppedEntries]

theorem droppedEntries_answer {source : Source} {e : Entry} {waited : Bool} {outcome : Push}
    {queue : Queue} (h : w.queue.capacity = none)
    (hdecides : w.queue.Decides e waited outcome queue) :
    (w.answer source e outcome queue).droppedEntries = w.droppedEntries := by
  obtain ⟨hdropped, hdisplaced⟩ := outcome_of_unbounded h hdecides
  rw [droppedEntries, answers_answer, displacedEntries_answer, List.filter_append,
    if_neg hdisplaced]
  simp [hdropped, droppedEntries]

theorem droppedEntries_of_event (h : w.queue.capacity = none) (hevent : PushEvent w w') :
    w'.droppedEntries = w.droppedEntries := by
  cases hevent with
  | aside haside _ _ _ =>
      rcases haside.lines with ⟨lines, _, hanswers, _, _⟩
      rw [droppedEntries, hanswers, haside.displaced, List.filter_append, List.filter_map]
      simp [Function.comp_def, droppedEntries]
  | begin hnew _ => exact droppedEntries_congr hnew.answers hnew.displaced
  | go hpush htrace _ _ =>
      refine (droppedEntries_congr (chronicle_of_trace htrace _)
        (displacedEntries_of_trace htrace)).trans ?_
      cases hpush with
      | wait _ => rfl
      | offer hdecides | reoffer hdecides => exact droppedEntries_answer h hdecides
      | count _ => rfl

theorem dropless_of_run {config : Config} {script : Script} {producers : Nat}
    {actions : List Action} (hunbounded : config.capacity = none)
    (hrun : (start config script producers).run actions = some w) : w.droppedEntries = [] := by
  refine (Discipline.run (P := fun w => w.config.capacity = none ∧ w.droppedEntries = []) ?_
    (.start config script producers) ⟨hunbounded, rfl⟩ hrun).2.2
  rintro w w' hdiscipline ⟨hcapacity, hdropped⟩ hmove
  refine ⟨hmove.config ▸ hcapacity, ?_⟩
  rw [droppedEntries_of_event (hdiscipline.capacity.trans hcapacity) (pushEvent_of_move hmove)]
  exact hdropped

/-!
## An output that takes every write
-/

theorem failedEntries_congr (h : w'.results = w.results) : w'.failedEntries = w.failedEntries := by
  rw [failedEntries, h, failedEntries]

theorem writeStep_of_obliging {e : Entry} {rest : List UInt8} {effort : Effort}
    {left : List Entry} (hscript : w.output.script = .obliging) (hrest : rest ≠ []) :
    w.writeStep e rest effort left =
      ({ w with output := { w.output with writes := w.output.writes + 1 } }.happen
        (.called (.write rest .all)), .returned e none left) := by
  have hlength : 0 < rest.length := List.length_pos_iff.mpr hrest
  have hwrite : Output.write rest w.output = (.ok ⟨rest.length, hlength⟩, .write rest .all,
      { w.output with writes := w.output.writes + 1 }) := by
    simp [Output.write, hscript, Script.obliging, Output.replyTo, WriteResponse.claimed?, hlength]
  simp only [writeStep, hwrite, List.drop_length]

theorem flushStep_of_obliging {effort : Effort} (hscript : w.output.script = .obliging) :
    w.flushStep effort =
      ({ w with output := { w.output with flushes := w.output.flushes + 1 } }.happen
        (.called (.flush .done)), w.afterFlush) := by
  have hflush : w.output.flush = (.ok (), .flush .done,
      { w.output with flushes := w.output.flushes + 1 }) := by
    simp [Output.flush, hscript, Script.obliging]
  simp only [flushStep, hflush]
  rfl

theorem unharmed_stageStep {stage : Stage} (hscript : w.output.script = .obliging)
    (hunharmed : stage.Unharmed) :
    (w.stageStep stage).2.Unharmed ∧ (w.stageStep stage).1.failedEntries = w.failedEntries := by
  have hflushed : w.afterFlush.Unharmed := by
    unfold afterFlush
    cases w.config.drainMode <;> exact True.intro
  cases stage with
  | taking =>
      rcases htake : w.queue.take w.config.drainMode with ⟨batch, queue⟩
      simp only [stageStep, htake]
      cases batch with
      | nil => exact ⟨True.intro, rfl⟩
      | cons e rest => exact ⟨True.intro, failedEntries_congr (by simp)⟩
  | between left =>
      cases left with
      | nil => exact ⟨True.intro, rfl⟩
      | cons e left =>
          refine ⟨?_, rfl⟩
          simp only [stageStep, beginEntry]
          split
          · rfl
          · rename_i hbytes
            exact hbytes
  | writing e rest effort left =>
      rw [stageStep, writeStep_of_obliging hscript hunharmed]
      refine ⟨?_, failedEntries_congr (chatter_happen _ _).results⟩
      rfl
  | settled e error left =>
      rw [show error = none from hunharmed]
      refine ⟨True.intro, ?_⟩
      simp [stageStep, countResult, failedEntries, Ending.ofError?, Ending.isWritten]
  | flushing effort =>
      rw [stageStep, flushStep_of_obliging hscript]
      exact ⟨hflushed, failedEntries_congr (chatter_happen _ _).results⟩
  | returned e error left => exact ⟨hunharmed, rfl⟩
  | flushGivenUp _ | panicked _ => exact hunharmed.elim
  | detached _ | done => exact ⟨True.intro, rfl⟩

theorem faultless_of_run {config : Config} {producers : Nat} {actions : List Action}
    (hrun : (start config .obliging producers).run actions = some w) : w.failedEntries = [] := by
  refine (stage_induction
    (P := fun w stage => w.output.script = .obliging ∧ stage.Unharmed ∧ w.failedEntries = [])
    ?_ ?_ ?_ ?_ (.start config .obliging producers) ?_ hrun).2.2
  · rintro w stage ⟨hscript, hunharmed, hfailed⟩
    obtain ⟨hunharmed', hsame⟩ := unharmed_stageStep hscript hunharmed
    exact ⟨(stageMove_stageStep w stage).script.trans hscript, hunharmed', hsame.trans hfailed⟩
  · rintro w ⟨hscript, _, hfailed⟩
    exact ⟨hscript, True.intro, hfailed⟩
  · rintro w w' stage hoff ⟨hscript, hunharmed, hfailed⟩
    exact ⟨hoff.output ▸ hscript, hunharmed, (failedEntries_congr hoff.results).trans hfailed⟩
  · rintro w left ⟨_, hunharmed, _⟩
    exact hunharmed
  · exact ⟨rfl, True.intro, rfl⟩

/-!
## A whole run
-/

/-- Shut down over such an output, a writer with an unbounded queue has written all
accepted entries in the order in which they were accepted. -/
theorem written_of_unbounded {config : Config} {producers : Nat} {actions : List Action}
    {stats : Stats} (hunbounded : config.capacity = none)
    (hrun : (start config .obliging producers).run actions = some w)
    (howner : w.owner = .finished stats) :
    w.written = (w.accepted.map fun a => a.entry.bytes).flatten := by
  have hhonest : Script.obliging.IsHonest := ⟨fun _ => rfl, fun _ => by simp [Script.obliging]⟩
  exact written_of_lossless (.of_run hhonest hrun) (.of_run hrun) (.of_run hrun) howner
    (dropless_of_run hunbounded hrun) (faultless_of_run hrun)

theorem phaseOf_of_quiet (h : w.IsQuiet) (producer : Nat) :
    w.phaseOf (.producer producer) = .idle := by
  rw [phaseOf]
  cases hphase : w.producers[producer]? with
  | none => rfl
  | some phase => exact h phase (List.mem_append_left _ (List.mem_of_getElem? hphase))

/-- Whatever a producer handed over before the shutdown began was accepted, in its
order, unless it was writing to an output itself. -/
theorem handedBy_accepted {config : Config} {producers : Nat} {before after : List Action}
    {asked : Writer} (hunbounded : config.capacity = none)
    (hbefore : (start config .obliging producers).run before = some asked)
    (hinUse : asked.owner = .inUse) (hquiet : asked.IsQuiet) (hafter : asked.run after = some w)
    {producer : Nat} (hrefusals : forall e, (.producer producer, e) ∉ asked.refusals) :
    asked.handedBy (.producer producer) <+:
      (w.accepted.filter fun a => a.source = .producer producer).map Answer.entry := by
  have hrun : (start config .obliging producers).run (before ++ after) = some w := by
    rw [run_append, hbefore]
    exact hafter
  have hopen : asked.queue.closed = false := by
    rw [(Discipline.of_run hbefore).closed, hinUse]
    rfl
  have hanswered : asked.handedBy (.producer producer) =
      (asked.answersTo (.producer producer)).map Answer.entry := by
    have hturn := InTurn.of_run hbefore producer
    rwa [InTurn, phaseOf_of_quiet hquiet, PushPhase.unanswered, List.append_nil] at hturn
  rw [hanswered]
  exact (answersTo_accepted (Welcoming.of_run hbefore) hopen (answers_extend_of_run hafter)
    (dropless_of_run hunbounded hrun) hrefusals).map _

end Writer

end AsyncLog
