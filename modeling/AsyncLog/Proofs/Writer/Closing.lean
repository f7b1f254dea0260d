import AsyncLog.Proofs.Writer.Accounting
import AsyncLog.Proofs.Writer.Stages
/-!
# Closing is final

The queue is closed in one step of the shutdown.  From then on its entries only
leave it to be written, and every push is rejected, whether it waits for room or
is new.  When the shutdown has returned there is nothing left to do but to count
what was answered.
-/

namespace AsyncLog

/-- The final pass is over, or a panic of the drain thread was made up for. -/
def OwnerPhase.isPastOutput : OwnerPhase -> Bool
  | .reportingLoss _ | .summing | .reportingEnd _ _ | .finished _ => true
  | _ => false

namespace Writer

variable {w w' : Writer}

/-!
## Moves at a closed queue
-/

theorem PushMove.departures {source : Source} {phase phase' : PushPhase}
    (h : PushMove w source phase w' phase') (hclosed : w.queue.closed = true) :
    w'.departures = w.departures := by
  cases h with
  | wait _ => rfl
  | offer hdecides | reoffer hdecides =>
      rw [departures_answer, (hdecides.of_closed hclosed).1]
      exact List.append_nil _
  | count outcome => rfl

theorem Move.detaches (h : Move w w') (hclosed : w.queue.closed = true) :
    exists batch : List Entry, w'.departures = w.departures ++ batch.map .detached ∧
      w.queue.entries = batch ++ w'.queue.entries := by
  cases h with
  | hand e _ => exact ⟨[], by simp, rfl⟩
  | refuse e _ => exact ⟨[], by simp [refuseEntry], rfl⟩
  | push _ hpush | report hpush =>
      refine ⟨[], ?_, ?_⟩
      · exact (hpush.departures hclosed).trans (List.append_nil _).symm
      · exact (congrArg Queue.entries (Discipline.queue_of_pushMove hpush hclosed)).symm
  | work _ | finish _ => exact (stageMove_stageStep w _).detaches
  | abandon _ => exact ⟨w.queue.entries, by simp [Writer.abandon, Queue.take], by
      simp [Writer.abandon, Queue.take]⟩
  | recover _ => exact ⟨[], by simp [recover_eq, giveUp], by simp [recover_eq, giveUp]⟩
  | sum _ => exact ⟨[], by simp [Writer.sum], by simp [Writer.sum]⟩
  | pass hpass =>
      exact ⟨[], hpass.telling.departures.trans (List.append_nil _).symm, hpass.entries.symm⟩

theorem Move.lineup (h : Move w w') (hclosed : w.queue.closed = true) :
    w'.detachedEntries ++ w'.queue.entries = w.detachedEntries ++ w.queue.entries := by
  rcases h.detaches hclosed with ⟨batch, hdepartures, hentries⟩
  exact lineup_of_detaches hdepartures hentries

theorem Move.stays_closed (h : Move w w') (hclosed : w.queue.closed = true) :
    w'.queue.closed = true := by
  cases hopen : w'.queue.closed with
  | true => rfl
  | false =>
      rw [h.closed hopen] at hclosed
      cases hclosed

theorem PushEvent.rejects (h : PushEvent w w') (hclosed : w.queue.closed = true) :
    exists late : List Answer, w'.answers = w.answers ++ late ∧
      forall a, a ∈ late -> a.outcome = .rejected := by
  cases h with
  | aside haside _ _ _ =>
      rcases haside.lines with ⟨lines, _, hanswers, _, _⟩
      refine ⟨_, hanswers, ?_⟩
      intro a ha
      rcases List.mem_map.mp ha with ⟨line, _, rfl⟩
      rfl
  | begin hnew _ => exact ⟨[], by rw [hnew.answers, List.append_nil], by simp⟩
  | @go source phase phase' next hpush htrace _ _ =>
      have hanswers : w'.answers = next.answers := chronicle_of_trace htrace _
      rw [hanswers]
      cases hpush with
      | wait _ => exact ⟨[], by simp, by simp⟩
      | @offer e outcome queue hdecides | @reoffer e outcome queue hdecides =>
          refine ⟨[⟨source, e, outcome⟩], answers_answer source e outcome queue, ?_⟩
          intro a ha
          rw [List.mem_singleton.mp ha]
          exact (hdecides.of_closed hclosed).1
      | count outcome => exact ⟨[], by simp, by simp⟩

theorem PushEvent.counting (h : PushEvent w w') {source : Source} {outcome : Push}
    (hphase : w'.phaseOf source = .counting outcome) :
    w.phaseOf source = .counting outcome ∨
      (outcome = .dropped ∧ w.phaseOf source = .counting .displacedOldest) ∨
      exists e waited queue, (w.phaseOf source).unanswered = [e] ∧
        w.queue.Decides e waited outcome queue := by
  cases h with
  | aside _ hsame _ _ =>
      rw [hsame] at hphase
      exact Or.inl hphase
  | @begin mover e _ hadvance =>
      by_cases hmover : mover = source
      · rw [← hmover, hadvance.after] at hphase
        cases hphase
      · rw [hadvance.others source (Ne.symm hmover)] at hphase
        exact Or.inl hphase
  | @go mover phase phase' next hpush _ _ hadvance =>
      by_cases hmover : mover = source
      · rw [← hmover, hadvance.after] at hphase
        rw [← hmover, hadvance.before]
        cases hpush with
        | wait _ => cases hphase
        | offer hdecides | reoffer hdecides =>
            cases hphase
            exact Or.inr (Or.inr ⟨_, _, _, rfl, hdecides⟩)
        | count counted =>
            cases counted with
            | displacedOldest =>
                cases hphase
                exact Or.inr (Or.inl ⟨rfl, rfl⟩)
            | queued | dropped | rejected => cases hphase
      · rw [hadvance.others source (Ne.symm hmover)] at hphase
        exact Or.inl hphase

/-!
## Since the queue was closed
-/

/-- What may have happened since an earlier state with a closed queue.  The entries that
were queued then are detached in turn.  New answers are rejections, and each of them is
counted once; the other counters of pushes only count answers given earlier. -/
structure ClosedSince (w₁ w : Writer) : Prop where
  closed : w.queue.closed = true
  detached : exists batch : List Entry, w.departures = w₁.departures ++ batch.map .detached ∧
    w₁.queue.entries = batch ++ w.queue.entries
  rejected : exists late : List Answer, w.answers = w₁.answers ++ late ∧
    (forall a, a ∈ late -> a.outcome = .rejected) ∧
    Counts w₁ w Push.isRejected w₁.stats.rejected w.stats.rejected late.length
  appended : Counts w₁ w Push.isAccepted w₁.stats.appended w.stats.appended 0
  dropped : Counts w₁ w Push.drops w₁.stats.dropped w.stats.dropped 0
  counting : forall source outcome, w.phaseOf source = .counting outcome ->
    outcome = .rejected ∨ w₁.phaseOf source = .counting outcome ∨
      (outcome = .dropped ∧ w₁.phaseOf source = .counting .displacedOldest)

namespace ClosedSince

variable {w₁ w₂ : Writer}

theorem of_move (hdiscipline : Discipline w) (hclosed : w.queue.closed = true)
    (hmove : Move w w') : ClosedSince w w' := by
  have hevent := pushEvent_of_move hmove
  rcases hmove.detaches hclosed with ⟨batch, hdepartures, hentries⟩
  rcases hevent.rejects hclosed with ⟨late, hanswers, hlate⟩
  rcases PushCount.of_move hdiscipline hmove with
    ⟨⟨_, haccepted, happended⟩, ⟨_, hdropped, hdrops⟩, ⟨_, hrejected, hrejects⟩⟩
  have hnone (kept : Answer -> Bool) (hkept : forall a, a.outcome = .rejected -> kept a = false) :
      w'.answers.countP kept = w.answers.countP kept := by
    have hzero : late.countP kept = 0 := by
      rw [List.countP_eq_zero]
      intro a ha
      simp [hkept a (hlate a ha)]
    rw [hanswers, List.countP_append, hzero, Nat.add_zero]
  constructor
  · exact hmove.stays_closed hclosed
  · exact ⟨batch, hdepartures, hentries⟩
  · refine ⟨late, hanswers, hlate, ?_⟩
    have hall : (late.countP fun a => a.outcome == .rejected) = late.length := by
      rw [List.countP_eq_length]
      intro a ha
      simp [hlate a ha]
    rw [rejectedEntries_length, rejectedEntries_length, hanswers, List.countP_append, hall,
      Nat.add_left_cancel_iff] at hrejected
    rw [hrejected]
    exact hrejects
  · rw [accepted_length, accepted_length, hnone _ (fun a ha => by rw [ha]; rfl),
      Nat.left_eq_add] at haccepted
    rw [← haccepted]
    exact happended
  · have hdisplaced : w'.displacedEntries = w.displacedEntries := by
      rw [displacedEntries, hdepartures, List.filterMap_append, List.filterMap_map,
        filterMap_displaced?_detached, List.append_nil, displacedEntries]
    rw [droppedEntries_length, droppedEntries_length, hdisplaced,
      hnone _ (fun a ha => by rw [ha]; rfl), Nat.left_eq_add] at hdropped
    rw [← hdropped]
    exact hdrops
  · intro source outcome hphase
    rcases hevent.counting hphase with hsame | hrest | ⟨e, waited, queue, _, hdecides⟩
    · exact Or.inr (Or.inl hsame)
    · exact Or.inr (Or.inr hrest)
    · exact Or.inl (hdecides.of_closed hclosed).1

theorem refl (hclosed : w.queue.closed = true) : ClosedSince w w where
  closed := hclosed
  detached := ⟨[], by simp, rfl⟩
  rejected := ⟨[], by simp, by simp, .aside rfl (UInt64.add_zero _).symm⟩
  appended := .aside rfl (UInt64.add_zero _).symm
  dropped := .aside rfl (UInt64.add_zero _).symm
  counting := fun _ _ hphase => Or.inr (Or.inl hphase)

theorem trans (h : ClosedSince w₁ w₂) (h' : ClosedSince w₂ w) : ClosedSince w₁ w := by
  rcases h.detached with ⟨batch, hdepartures, hentries⟩
  rcases h'.detached with ⟨batch', hdepartures', hentries'⟩
  rcases h.rejected with ⟨late, hanswers, hlate, hrejected⟩
  rcases h'.rejected with ⟨late', hanswers', hlate', hrejected'⟩
  constructor
  · exact h'.closed
  · refine ⟨batch ++ batch', ?_, ?_⟩
    · rw [hdepartures', hdepartures, List.map_append, List.append_assoc]
    · rw [hentries, hentries', List.append_assoc]
  · refine ⟨late ++ late', ?_, ?_, ?_⟩
    · rw [hanswers', hanswers, List.append_assoc]
    · intro a ha
      rcases List.mem_append.mp ha with hfirst | hsecond
      · exact hlate a hfirst
      · exact hlate' a hsecond
    · rw [List.length_append]
      exact hrejected.trans hrejected'
  · exact h.appended.trans h'.appended
  · exact h.dropped.trans h'.dropped
  · intro source outcome hphase
    rcases h'.counting source outcome hphase with hrejects | hsame | ⟨hdropped, hrest⟩
    · exact Or.inl hrejects
    · exact h.counting source outcome hsame
    · -- What is left of an answer that displaced an entry was given before the close, too.
      rcases h.counting source .displacedOldest hrest with hno | hsame | ⟨hno, _⟩
      · cases hno
      · exact Or.inr (Or.inr ⟨hdropped, hsame⟩)
      · cases hno

theorem of_run {actions : List Action} (hdiscipline : Discipline w₁)
    (hclosed : w₁.queue.closed = true) (hrun : w₁.run actions = some w) : ClosedSince w₁ w :=
  (Discipline.run (P := ClosedSince w₁)
    (fun hdiscipline h hmove => h.trans (of_move hdiscipline h.closed hmove))
    hdiscipline (refl hclosed) hrun).2

end ClosedSince

/-- A push at a closed queue is not blocked: its next step is to reject the entry, and the
one after counts the rejection. -/
theorem rejected_of_push {producer : Nat} {e : Entry} (hclosed : w.queue.closed = true)
    (hwaits : w.phaseOf (.producer producer) = .offering e ∨
      w.phaseOf (.producer producer) = .blocked e) (timedOut timedOut' : Bool) :
    exists answered counted : Writer,
      w.step (.push producer timedOut) = some answered ∧
      answered.answers = w.answers ++ [⟨.producer producer, e, .rejected⟩] ∧
      answered.queue = w.queue ∧ answered.stats = w.stats ∧
      answered.step (.push producer timedOut') = some counted ∧
      counted.stats = { w.stats with rejected := w.stats.rejected + 1 } ∧
      counted.phaseOf (.producer producer) = .idle := by
  rcases hphase : w.producers[producer]? with _ | phase
  · simp [phaseOf, hphase] at hwaits
  · rcases List.getElem?_eq_some_iff.mp hphase with ⟨hlt, _⟩
    have hgoes : w.queue.keepsWaiting = false := by
      rw [Queue.keepsWaiting, hclosed]
      rfl
    let answered : Writer := { w.answer (.producer producer) e .rejected w.queue with
      producers := w.producers.set producer (.counting .rejected) }
    have hanswer : w.step (.push producer timedOut) = some answered := by
      simp only [phaseOf, hphase, Option.getD_some] at hwaits
      rcases hwaits with hoffering | hblocked
      · simp only [step, producerStep, hphase, hoffering, pushStep, Option.map_some,
          Queue.offer_of_closed hclosed]
        rfl
      · simp only [step, producerStep, hphase, hblocked, pushStep, hgoes, Bool.false_and,
          Bool.false_eq_true, if_false, Queue.reoffer_of_closed hclosed, Option.map_some]
        rfl
    have hcount : answered.step (.push producer timedOut') =
        some { answered with
          counters := answered.counters.countRejected
          producers := answered.producers.set producer .idle } := by
      simp [step, producerStep, pushStep, answered, hlt, Counters.countPush,
        PushPhase.afterCount]
    refine ⟨answered, _, hanswer, ?_, rfl, rfl, hcount, rfl, ?_⟩
    · simp [answered, Writer.answer]
    · simp [answered, phaseOf, hlt]

/-!
## After the final pass
-/

theorem Discipline.past_output (h : Discipline w) (hpast : w.owner.isPastOutput = true) :
    w.drain.hasEnded = true ∧ w.queue.entries = [] ∧ w.queue.closed = true := by
  rw [h.closed]
  cases howner : w.owner with
  | reportingLoss push | summing | reportingEnd stats push | finished stats =>
      rcases h.knows howner with ⟨hdrain, hentries⟩
      refine ⟨?_, hentries, rfl⟩
      rcases hdrain with hdrain | hdrain <;> rw [hdrain] <;> rfl
  | _ => simp [howner, OwnerPhase.isPastOutput] at hpast

structure AtRest (w w' : Writer) : Prop extends Offstage w w' where
  queue : w'.queue = w.queue

namespace AtRest

theorem refl (w : Writer) : AtRest w w :=
  { Offstage.refl w with queue := rfl }

theorem trans {w'' : Writer} (h : AtRest w w') (h' : AtRest w' w'') : AtRest w w'' :=
  { h.toOffstage.trans h'.toOffstage with queue := h'.queue.trans h.queue }

theorem of_move (hdiscipline : Discipline w) (hpast : w.owner.isPastOutput = true)
    (hmove : Move w w') : AtRest w w' ∧ w'.owner.isPastOutput = true := by
  rcases hdiscipline.past_output hpast with ⟨hended, _, hclosed⟩
  cases hmove with
  | hand e _ => exact ⟨{ Offstage.of_hand w _ _ e with queue := rfl }, hpast⟩
  | refuse e _ => exact ⟨{ Offstage.of_refuse w _ e with queue := rfl }, hpast⟩
  | push _ hpush =>
      have hqueue := Discipline.queue_of_pushMove hpush hclosed
      exact ⟨{ (Offstage.of_push hpush).places _ _ _ with queue := hqueue }, hpush.owner ▸ hpast⟩
  | @report phase' next hpush =>
      have hqueue := Discipline.queue_of_pushMove hpush hclosed
      refine ⟨{ (Offstage.of_push hpush).places _ _ _ with queue := hqueue }, ?_⟩
      rw [← hpush.owner] at hpast
      cases howner : next.owner <;> simp [howner, OwnerPhase.isPastOutput] at hpast <;> rfl
  | work hdrain => simp [hdrain, DrainPhase.hasEnded] at hended
  | finish howner | abandon howner | recover howner =>
      simp [howner, OwnerPhase.isPastOutput] at hpast
  | sum _ => exact ⟨{ Offstage.of_sum w with queue := queue_announce _ _ }, rfl⟩
  | pass hpass =>
      have hoff := Offstage.of_pass hpass
      cases hpass with
      | start hdrain | check hdrain | wake hdrain | stop hdrain =>
          simp [hdrain, DrainPhase.hasEnded] at hended
      | request howner | close howner | join howner _ | joinPanicked howner _ =>
          simp [howner, OwnerPhase.isPastOutput] at hpast
      | again _ => exact ⟨refl w, hpast⟩
      | lossReported _ | endReported _ => exact ⟨{ hoff with queue := rfl }, rfl⟩
      | listen listener => exact ⟨{ hoff with queue := rfl }, hpast⟩

theorem of_run {actions : List Action} (hdiscipline : Discipline w)
    (hpast : w.owner.isPastOutput = true) (hrun : w.run actions = some w') : AtRest w w' := by
  have hall : Discipline w' ∧ AtRest w w' ∧ w'.owner.isPastOutput = true := by
    refine Discipline.run (P := fun next => AtRest w next ∧ next.owner.isPastOutput = true) ?_
      hdiscipline ⟨refl w, hpast⟩ hrun
    intro next next' hdiscipline h hmove
    rcases of_move hdiscipline h.2 hmove with ⟨hrest, hpast'⟩
    exact ⟨h.1.trans hrest, hpast'⟩
  exact hall.2.1

end AtRest

/-- From the step that closes the queue on, its entries only leave it from the front, and
whatever is decided about a push is to reject it, which the push does in its next step and
counts in the one after.  From the end of the shutdown on nothing is queued and nothing
happens at the output, and the counters change by rejections and by answers given before
the close. -/
theorem closing_final {config : Config} {script : Script} {producers : Nat}
    {before after : List Action} {timedOut : Bool} {w₀ w₁ w : Writer}
    (hbefore : (start config script producers).run before = some w₀)
    (howner : w₀.owner = .closing) (hclose : w₀.step (.owner timedOut) = some w₁)
    (hafter : w₁.run after = some w) :
    w₁.queue = w₀.queue.close ∧ ClosedSince w₁ w ∧
    (forall producer e, w.phaseOf (.producer producer) = .offering e ∨
        w.phaseOf (.producer producer) = .blocked e ->
      forall timedOut timedOut', exists answered counted : Writer,
        w.step (.push producer timedOut) = some answered ∧
        answered.answers = w.answers ++ [⟨.producer producer, e, .rejected⟩] ∧
        answered.queue = w.queue ∧ answered.stats = w.stats ∧
        answered.step (.push producer timedOut') = some counted ∧
        counted.stats = { w.stats with rejected := w.stats.rejected + 1 } ∧
        counted.phaseOf (.producer producer) = .idle) ∧
    (forall stats, w.owner = .finished stats -> w.pending = 0 ∧
      forall later w', w.run later = some w' ->
        w'.pending = 0 ∧ AtRest w w' ∧ ClosedSince w w') := by
  have hdiscipline₀ := Discipline.of_run hbefore
  have hmove := move_of_step hclose
  have hw₁ : w₁ = { w₀ with queue := w₀.queue.close, owner := .joining } := by
    simpa [step, ownerStep, howner] using hclose.symm
  have hdiscipline₁ : Discipline w₁ := hdiscipline₀.move hmove
  have hsince : ClosedSince w₁ w := .of_run hdiscipline₁ (by rw [hw₁]; rfl) hafter
  have hdiscipline : Discipline w := run_induction Discipline.move hdiscipline₁ hafter
  refine ⟨by rw [hw₁], hsince, ?_, ?_⟩
  · intro producer e hwaits timedOut timedOut'
    exact rejected_of_push hsince.closed hwaits timedOut timedOut'
  · intro stats hfinished
    have hpast : w.owner.isPastOutput = true := by
      rw [hfinished]
      rfl
    have hempty : w.pending = 0 := by
      rw [pending, (hdiscipline.past_output hpast).2.1]
      rfl
    refine ⟨hempty, ?_⟩
    intro later w' hlater
    have hrest := AtRest.of_run hdiscipline hpast hlater
    refine ⟨?_, hrest, .of_run hdiscipline hsince.closed hlater⟩
    rw [pending, hrest.queue]
    exact hempty

def narrow : Config :=
  { Config.default with
    capacity := some 1
    overflow := .block OverflowPolicy.defaultLimit
    capacity_ne_zero := by decide }

def takenPlace : List Action :=
  [.hand 0 "a", .push 0 false, .hand 1 "b", .push 1 false, .shutDown]

def clearedPlace : List Action :=
  [.push 1 false, .push 1 false] ++ List.replicate 3 .drain ++ List.replicate 11 (.owner false)

def latePushes : List Action := [.push 0 false, .hand 0 "c", .push 0 false, .push 0 false]

theorem closing_final_narrow :
    exists w₀ w₁ w w' : Writer, (start narrow .obliging 2).run takenPlace = some w₀ ∧
      w₀.phaseOf (.producer 1) = .blocked "b" ∧ w₀.step (.owner false) = some w₁ ∧
      w₁.run clearedPlace = some w ∧ w.stats = { written := 1, rejected := 1 } ∧
      ClosedSince w₁ w ∧ w.run latePushes = some w' ∧
      w'.stats = { appended := 1, written := 1, rejected := 2 } ∧ w'.pending = 0 ∧
      AtRest w w' ∧ ClosedSince w w' := by
  let closing := ((start narrow .obliging 2).run takenPlace).get (by decide)
  let closed := (closing.step (.owner false)).get (by decide)
  let ended := (closed.run clearedPlace).get (by decide)
  let later := (ended.run latePushes).get (by decide)
  have hbefore : (start narrow .obliging 2).run takenPlace = some closing :=
    (Option.some_get _).symm
  have hclose : closing.step (.owner false) = some closed := (Option.some_get _).symm
  have hafter : closed.run clearedPlace = some ended := (Option.some_get _).symm
  have hlater : ended.run latePushes = some later := (Option.some_get _).symm
  have howner : closing.owner = .closing := by decide
  have hfinished : ended.owner = .finished ended.stats := by decide
  have hfinal := closing_final hbefore howner hclose hafter
  rcases (hfinal.2.2.2 _ hfinished).2 latePushes later hlater with ⟨hpending, hrest, hsince⟩
  exact ⟨closing, closed, ended, later, hbefore, by decide, hclose, hafter, by decide,
    hfinal.2.1, hlater, by decide, hpending, hrest, hsince⟩

end Writer

end AsyncLog
