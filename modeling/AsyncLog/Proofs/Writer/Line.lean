import AsyncLog.Proofs.Writer.Discipline
/-!
# Entries stand in line

Entries leave the queue in the order in which it accepted them, each of them to
make room for a newer one or to be written, and what was detached gets its
results in that order, too.  So all accepted entries form one line: those with a
result, those in hand, and those still queued.
-/

namespace AsyncLog

namespace Writer

/-- The accepted entries are those that left the queue, in this order, and those
that are still in it. -/
def InOrder (w : Writer) : Prop :=
  w.accepted.map Answer.entry = w.departures.map Departure.entry ++ w.queue.entries

/-- The detached entries are those that have a result, in this order, and those in hand. -/
def InWork (w : Writer) (hand : List Entry) : Prop :=
  w.detachedEntries = w.results.map Result.entry ++ hand

structure InLine (w : Writer) : Prop where
  order : w.InOrder
  work : w.InWork w.inHand

@[simp] theorem entry_comp_detached : Departure.entry ∘ Departure.detached = id := rfl

@[simp] theorem detached?_comp_detached : Departure.detached? ∘ Departure.detached = some := rfl

@[simp] theorem displaced?_comp_displaced : Departure.displaced? ∘ Departure.displaced = some := rfl

@[simp] theorem filterMap_detached?_displaced (entries : List Entry) :
    entries.filterMap (Departure.detached? ∘ Departure.displaced) = [] := by
  simp [List.filterMap_eq_nil_iff, Departure.detached?]

@[simp] theorem filterMap_displaced?_detached (entries : List Entry) :
    entries.filterMap (Departure.displaced? ∘ Departure.detached) = [] := by
  simp [List.filterMap_eq_nil_iff, Departure.displaced?]

variable {w w' : Writer}

/-!
## Reports and pushes
-/

theorem Telling.accepted {source : Source} (h : Telling source w w') :
    w'.accepted = w.accepted := by
  rcases h.lines with ⟨lines, _, hanswers, _, _⟩
  rw [Writer.accepted, hanswers, List.filter_append, Writer.accepted]
  have hnone : (lines.map fun line => (⟨source, line, .rejected⟩ : Answer)).filter
      (fun a => a.outcome.isAccepted) = [] := by
    simp [List.filter_eq_nil_iff]
  rw [hnone, List.append_nil]

theorem Telling.inOrder {source : Source} (h : Telling source w w')
    (hentries : w'.queue.entries = w.queue.entries) (horder : w.InOrder) : w'.InOrder := by
  rw [InOrder, h.accepted, h.departures, hentries]
  exact horder

theorem Telling.inWork {source : Source} {hand : List Entry} (h : Telling source w w')
    (hwork : w.InWork hand) : w'.InWork hand := by
  rw [InWork, detachedEntries, h.departures, h.results]
  exact hwork

theorem answers_answer (source : Source) (e : Entry) (outcome : Push) (queue : Queue) :
    (w.answer source e outcome queue).answers = w.answers ++ [⟨source, e, outcome⟩] := by
  simp [answer]

theorem accepted_answer (source : Source) (e : Entry) (outcome : Push) (queue : Queue) :
    (w.answer source e outcome queue).accepted =
      w.accepted ++ if outcome.isAccepted then [⟨source, e, outcome⟩] else [] := by
  cases outcome <;> simp [answer, accepted]

theorem departures_answer (source : Source) (e : Entry) (outcome : Push) (queue : Queue) :
    (w.answer source e outcome queue).departures = w.departures ++
      (if outcome = .displacedOldest then w.queue.entries.head? else none).toList.map
        .displaced := by
  simp [answer]

theorem displacedEntries_answer (source : Source) (e : Entry) (outcome : Push) (queue : Queue) :
    (w.answer source e outcome queue).displacedEntries = w.displacedEntries ++
      (if outcome = .displacedOldest then w.queue.entries.head? else none).toList := by
  rw [displacedEntries, departures_answer, List.filterMap_append, List.filterMap_map,
    displaced?_comp_displaced, List.filterMap_some, displacedEntries]

/-- The oldest entry makes room at the front while the new one joins at the end. -/
theorem inOrder_answer {source : Source} {e : Entry} {waited : Bool} {outcome : Push}
    {queue : Queue} (h : w.InOrder) (hdecides : w.queue.Decides e waited outcome queue) :
    (w.answer source e outcome queue).InOrder := by
  unfold InOrder at h ⊢
  rw [accepted_answer, departures_answer, List.map_append, h]
  cases hdecides with
  | reject _ => simp [answer]
  | drop _ _ _ => simp [answer]
  | queue _ _ => simp [answer]
  | displace _ _ _ => cases hentries : w.queue.entries <;> simp [answer, hentries, Departure.entry]

theorem inWork_answer {hand : List Entry} (source : Source) (e : Entry) (outcome : Push)
    (queue : Queue) (h : w.InWork hand) : (w.answer source e outcome queue).InWork hand := by
  unfold InWork detachedEntries at h ⊢
  rw [departures_answer, List.filterMap_append, List.filterMap_map, filterMap_detached?_displaced,
    List.append_nil, h]
  simp [answer]

theorem inOrder_pushMove {source : Source} {phase phase' : PushPhase} (h : w.InOrder)
    (hmove : PushMove w source phase w' phase') : w'.InOrder := by
  cases hmove with
  | wait _ => exact h
  | offer hdecides => exact inOrder_answer h hdecides
  | reoffer hdecides => exact inOrder_answer h hdecides
  | count outcome => exact h

theorem inWork_pushMove {source : Source} {phase phase' : PushPhase} {hand : List Entry}
    (h : w.InWork hand) (hmove : PushMove w source phase w' phase') : w'.InWork hand := by
  cases hmove with
  | wait _ => exact h
  | offer _ => exact inWork_answer _ _ _ _ h
  | reoffer _ => exact inWork_answer _ _ _ _ h
  | count outcome => exact h

/-!
## Moving entries
-/

/-- Moving entries takes a backlog, if it takes any, from the front of the queue. -/
theorem StageMove.detaches {stage stage' : Stage} (h : StageMove w stage w' stage') :
    exists batch : List Entry, w'.departures = w.departures ++ batch.map .detached ∧
      w.queue.entries = batch ++ w'.queue.entries := by
  cases h with
  | talk hchatter => exact ⟨[], by rw [hchatter.departures]; simp, by rw [hchatter.queue]; rfl⟩
  | detach => exact ⟨_, by simp, (w.queue.take_append_entries w.config.drainMode).symm⟩
  | announce batch => exact ⟨[], by simp, rfl⟩
  | settle e error left => exact ⟨[], by simp, rfl⟩
  | succeed e left => exact ⟨[], by simp, rfl⟩
  | fail e x left hchatter =>
      refine ⟨[], ?_, by rw [hchatter.queue]; rfl⟩
      rw [hchatter.departures]
      simp
  | failFlush x hchatter =>
      refine ⟨[], ?_, by rw [hchatter.queue]; rfl⟩
      rw [hchatter.departures]
      simp

theorem lineup_of_detaches {batch : List Entry}
    (hdepartures : w'.departures = w.departures ++ batch.map .detached)
    (hentries : w.queue.entries = batch ++ w'.queue.entries) :
    w'.detachedEntries ++ w'.queue.entries = w.detachedEntries ++ w.queue.entries := by
  have hdetached : w'.detachedEntries = w.detachedEntries ++ batch := by
    rw [detachedEntries, hdepartures, List.filterMap_append, List.filterMap_map,
      detached?_comp_detached, List.filterMap_some, detachedEntries]
  rw [hdetached, hentries, List.append_assoc]

theorem StageMove.lineup {stage stage' : Stage} (h : StageMove w stage w' stage') :
    w'.detachedEntries ++ w'.queue.entries = w.detachedEntries ++ w.queue.entries := by
  rcases h.detaches with ⟨batch, hdepartures, hentries⟩
  exact lineup_of_detaches hdepartures hentries

theorem inOrder_stageMove {stage stage' : Stage} (h : w.InOrder)
    (hmove : StageMove w stage w' stage') : w'.InOrder := by
  cases hmove with
  | talk hchatter => exact hchatter.inOrder (by rw [hchatter.queue]) h
  | detach =>
      unfold InOrder at h ⊢
      have htake := w.queue.take_append_entries w.config.drainMode
      rw [← htake] at h
      simpa [accepted] using h
  | announce batch => exact h
  | settle e error left => exact h
  | succeed e left => simpa [InOrder, accepted] using h
  | fail e x left hchatter =>
      apply hchatter.inOrder (by rw [hchatter.queue])
      simpa [InOrder, accepted] using h
  | failFlush x hchatter => exact hchatter.inOrder (by rw [hchatter.queue]) h

theorem inWork_stageMove {stage stage' : Stage} (h : w.InWork stage.uncounted)
    (hmove : StageMove w stage w' stage') : w'.InWork stage'.uncounted := by
  cases hmove with
  | talk hchatter huncounted => exact huncounted ▸ hchatter.inWork h
  | detach =>
      unfold InWork detachedEntries at h ⊢
      simp [List.filterMap_map, h, Stage.uncounted]
  | announce batch => exact h
  | settle e error left => exact h
  | succeed e left =>
      unfold InWork detachedEntries at h ⊢
      simp [h, Stage.uncounted]
  | fail e x left hchatter =>
      apply hchatter.inWork
      unfold InWork detachedEntries at h ⊢
      simp [h, Stage.uncounted]
  | failFlush x hchatter huncounted => exact huncounted ▸ hchatter.inWork h

/-!
## Runs

The hands of the drain thread and those of the owner are never full at the same
time: the owner only takes entries once the drain thread has ended.
-/

namespace InLine

theorem of_telling {source : Source} (h : InLine w) (htelling : Telling source w w')
    (hentries : w'.queue.entries = w.queue.entries) (hhand : w'.inHand = w.inHand) :
    InLine w' where
  order := htelling.inOrder hentries h.order
  work := hhand ▸ htelling.inWork h.work

theorem start (config : Config) (script : Script) (producers : Nat) :
    InLine (start config script producers) where
  order := rfl
  work := rfl

theorem drained {stage : Stage} (h : InLine w) (hdiscipline : Discipline w)
    (hdrain : w.drain = .draining stage) :
    InLine { (w.stageStep stage).1 with drain := .after (w.stageStep stage).2 } := by
  have hmove := stageMove_stageStep w stage
  have howner := (hdiscipline.owner_hands (by rw [hdrain]; rfl)).1
  have hwork := h.work
  rw [inHand, hdrain, howner, List.append_nil] at hwork
  have horder' := inOrder_stageMove h.order hmove
  have hwork' := inWork_stageMove hwork hmove
  refine ⟨horder', ?_⟩
  rw [inHand, hmove.owner, howner, List.append_nil, DrainPhase.uncounted_after]
  exact hwork'

theorem finished {stage : Stage} (h : InLine w) (hdiscipline : Discipline w)
    (howner : w.owner = .finishing stage) :
    InLine { (w.stageStep stage).1 with owner := .after (w.stageStep stage).2 } := by
  have hmove := stageMove_stageStep w stage
  have hdrain : w.drain.stage.uncounted = [] := by
    rw [(hdiscipline.knows howner).1]
    rfl
  have hwork := h.work
  rw [inHand, howner, hdrain, List.nil_append] at hwork
  have horder' := inOrder_stageMove h.order hmove
  have hwork' := inWork_stageMove hwork hmove
  refine ⟨horder', ?_⟩
  rw [inHand, hmove.drain, hdrain, List.nil_append, OwnerPhase.uncounted_after]
  exact hwork'

theorem reported {phase' : PushPhase} (h : InLine w)
    (hmove : PushMove w .listener w.owner.push w' phase') :
    InLine { w' with owner := w'.owner.withPush phase' } := by
  have horder' := inOrder_pushMove h.order hmove
  have hwork' := inWork_pushMove h.work hmove
  refine ⟨horder', ?_⟩
  have hhand : ({ w' with owner := w'.owner.withPush phase' } : Writer).inHand = w.inHand := by
    rw [inHand, inHand, hmove.drain, hmove.owner]
    cases w.owner <;> rfl
  rw [hhand]
  exact hwork'

theorem abandoned (h : InLine w) (howner : w.owner = .recovering) : InLine w.abandon := by
  have horder := h.order
  have hwork := h.work
  unfold InOrder at horder
  unfold InWork detachedEntries at hwork
  rw [inHand, howner] at hwork
  constructor
  · simpa [InOrder, Writer.abandon, accepted, Queue.take]
      using horder
  · simp [InWork, detachedEntries, Writer.abandon, Queue.take, List.filterMap_map, hwork, inHand,
      OwnerPhase.uncounted, OwnerPhase.stage, Stage.uncounted]

theorem recovered {queued : List Entry} (h : InLine w) (howner : w.owner = .abandoning queued) :
    InLine (w.recover queued) := by
  have horder := h.order
  have hwork := h.work
  unfold InOrder at horder
  unfold InWork detachedEntries at hwork
  rw [inHand, howner] at hwork
  rw [recover_eq]
  constructor
  · simpa [InOrder, accepted, giveUp] using horder
  · simpa [InWork, detachedEntries, giveUp, inHand, Function.comp_def, OwnerPhase.uncounted,
      OwnerPhase.stage, DrainPhase.stage, Stage.uncounted] using hwork

theorem summed (h : InLine w) (howner : w.owner = .summing) : InLine w.sum := by
  have horder := h.order
  have hwork := h.work
  unfold InOrder at horder
  unfold InWork detachedEntries at hwork
  rw [inHand, howner] at hwork
  constructor
  · simpa [InOrder, accepted, Writer.sum] using horder
  · simpa [InWork, detachedEntries, Writer.sum, inHand, OwnerPhase.uncounted, OwnerPhase.stage]
      using hwork

theorem handed (h : InLine w) (producers : List PushPhase) (source : Source) (e : Entry) :
    InLine ({ w with producers }.record (.handed source e)) := by
  constructor
  · simpa [InOrder, accepted] using h.order
  · simpa [InWork, detachedEntries, Writer.inHand]
      using h.work

theorem pushed {source : Source} {phase phase' : PushPhase} (h : InLine w)
    (hmove : PushMove w source phase w' phase') (producers : List PushPhase) :
    InLine { w' with producers } := by
  have horder' := inOrder_pushMove h.order hmove
  have hwork' := inWork_pushMove h.work hmove
  refine ⟨horder', ?_⟩
  have hhand : ({ w' with producers } : Writer).inHand = w.inHand := by
    rw [inHand, inHand, hmove.drain, hmove.owner]
  rw [hhand]
  exact hwork'

theorem move (hdiscipline : Discipline w) (hline : InLine w) (hmove : Move w w') : InLine w' := by
  cases hmove with
  | hand e _ => exact hline.handed _ _ e
  | refuse e _ => exact hline.of_telling (telling_refuseEntry w _ e) rfl rfl
  | push _ hpush => exact hline.pushed hpush _
  | report hpush => exact hline.reported hpush
  | work hdrain => exact hline.drained hdiscipline hdrain
  | finish howner => exact hline.finished hdiscipline howner
  | abandon howner => exact hline.abandoned howner
  | recover howner => exact hline.recovered howner
  | sum howner => exact hline.summed howner
  | pass hpass => exact hline.of_telling hpass.telling hpass.entries hpass.inHand

theorem of_run {config : Config} {script : Script} {producers : Nat} {actions : List Action}
    (h : (Writer.start config script producers).run actions = some w) : InLine w :=
  (Discipline.run move (.start config script producers) (start config script producers) h).2

end InLine

end Writer

end AsyncLog
