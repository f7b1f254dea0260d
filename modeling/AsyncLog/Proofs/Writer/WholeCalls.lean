import AsyncLog.Proofs.Writer.Closing
import AsyncLog.Proofs.Writer.Panics
import AsyncLog.Writer.Schedule
/-!
# Whole calls

A single caller sees a writer between two of its calls only.  An append hands one
entry over and is answered once, and no call changes who listens.
-/

namespace AsyncLog

def Counters.countAnswer (c : Counters) (outcome : Push) : Counters :=
  match outcome with
  | .displacedOldest => (c.countPush .displacedOldest).countPush .dropped
  | .queued | .dropped | .rejected => c.countPush outcome

namespace Writer

variable {w w' : Writer}

/-!
## One entry
-/

/-- What an append does: one entry is handed over and one answer is counted, and the
answer is that of a push whose wait, if there is one, ends without room. -/
structure Offered (line : Entry) (w w' : Writer) : Prop where
  handed : w'.handed = w.handed ++ [(.producer 0, line)]
  answers : w'.answers = w.answers ++ [⟨.producer 0, line, (w.queue.push line).1⟩]
  counters : w'.counters = w.counters.countAnswer (w.queue.push line).1
  queue : w'.queue = (w.queue.push line).2
  rest : w' = { w with queue := w'.queue, counters := w'.counters, trace := w'.trace }
  happened : w'.happenedSince w = []

theorem append_eq (hidle : w.producers = [.idle]) (line : Entry) :
    w.append 0 line =
      { w.answer (.producer 0) line (w.queue.push line).1 (w.queue.push line).2 with
        counters := w.counters.countAnswer (w.queue.push line).1
        trace := ((w.record (.handed (.producer 0) line)).answer (.producer 0) line
          (w.queue.push line).1 (w.queue.push line).2).trace } := by
  have hhand : w.hand 0 line = some ({ w with producers := [.offering line] }.record
      (.handed (.producer 0) line)) := by
    simp [hand, hidle]
  rw [append, hhand]
  simp only [pushSteps]
  cases hoffer : w.queue.offer line with
  | settled outcome queue =>
      have hpush : w.queue.push line = (outcome, queue) := by rw [Queue.push, hoffer]
      rw [hpush]
      cases outcome <;>
        simp [pushOn, producerStep, pushStep, hoffer, record, answer, PushPhase.afterCount,
          Counters.countAnswer, Counters.countPush, hidle]
  | blocked limit =>
      have hpush : w.queue.push line = w.queue.reoffer line := by rw [Queue.push, hoffer]
      rw [hpush]
      rcases hreoffer : w.queue.reoffer line with ⟨outcome, queue⟩
      cases outcome <;>
        simp [pushOn, producerStep, pushStep, hoffer, hreoffer, record, answer, PushPhase.afterCount,
          Counters.countAnswer, Counters.countPush, hidle]

theorem offered_append (hidle : w.producers = [.idle]) (line : Entry) :
    Offered line w (w.append 0 line) := by
  rw [append_eq hidle]
  constructor
  · simp [answer, handed_mk]
  · simp [answer]
  · rfl
  · rfl
  · rfl
  · simp [happenedSince, answer, record, Incident.happening?, Nat.add_assoc]

structure Rejected (line : Entry) (w w' : Writer) : Prop extends Offered line w w' where
  answered : w'.answers = w.answers ++ [⟨.producer 0, line, .rejected⟩]
  unchanged : w'.queue = w.queue
  counted : w'.stats = { w.stats with rejected := w.stats.rejected + 1 }

theorem Offered.rejected {line : Entry} (h : Offered line w w') (hclosed : w.queue.closed = true) :
    Rejected line w w' := by
  have hpush : w.queue.push line = (.rejected, w.queue) := by
    rw [Queue.push, Queue.offer_of_closed hclosed]
  have hanswers := h.answers
  have hcounters := h.counters
  have hqueue := h.queue
  rw [hpush] at hanswers hcounters hqueue
  refine ⟨h, hanswers, hqueue, ?_⟩
  rw [stats, hcounters]
  rfl

/-!
## Between the calls
-/

/-- A writer as its callers find it: it is in the order of a shutdown, and nobody is
inside a push. -/
structure Ready (w : Writer) : Prop where
  idle : w.producers = [.idle]
  discipline : Discipline w

theorem ready_start (config : Config) (script : Script) : Ready (start config script 1) :=
  ⟨rfl, .start config script 1⟩

/-- A call leaves the writer as its callers find it, it listens as before, a closed queue
stays closed, and nothing that happened is forgotten. -/
structure Upkeep (w w' : Writer) : Prop extends Ready w' where
  listener : w'.listener = w.listener
  closed : w.queue.closed = true -> w'.queue.closed = true
  trace : w.trace <:+ w'.trace

theorem Upkeep.refl (h : Ready w) : Upkeep w w := ⟨h, rfl, id, List.suffix_rfl⟩

theorem Upkeep.trans {w'' : Writer} (h : Upkeep w w') (h' : Upkeep w' w'') : Upkeep w w'' :=
  ⟨h'.toReady, h'.listener.trans h.listener, h'.closed ∘ h.closed, h.trace.trans h'.trace⟩

theorem upkeep_of_move (hready : Ready w) (hmove : Move w w')
    (hproducers : w'.producers = w.producers) (hlistener : w'.listener = w.listener) :
    Upkeep w w' :=
  ⟨⟨hproducers.trans hready.idle, hready.discipline.move hmove⟩, hlistener, hmove.stays_closed,
    hmove.trace⟩

theorem upkeep_refuse (hready : Ready w) (d : Diagnostic) : Upkeep w (w.refuse d) := by
  have hchatter := chatter_refuse w d
  exact ⟨⟨hchatter.producers.trans hready.idle, hready.discipline.chatter hchatter⟩,
    hchatter.listener, fun hclosed => hchatter.queue ▸ hclosed, trace_refuse w d⟩

theorem append_induction {P : Writer -> Prop}
    (hmove : forall {w w'}, Move w w' -> P w -> P w') (h : P w) (producer : Nat) (line : Entry) :
    P (w.append producer line) := by
  have hpush : forall fuel {w : Writer}, P w -> P (w.pushOn producer true fuel) := by
    intro fuel
    induction fuel with
    | zero => exact fun h => h
    | succ fuel ih =>
        intro w h
        rw [pushOn]
        split
        · exact h
        · rename_i hstep
          exact ih (hmove (move_of_producerStep hstep) h)
  rw [append]
  split
  · exact h
  · rename_i hhand
    exact hpush _ (hmove (move_of_step (a := .hand producer line) hhand) h)

theorem upkeep_append (hready : Ready w) (line : Entry) : Upkeep w (w.append 0 line) := by
  have hrest := (offered_append hready.idle line).rest
  refine ⟨⟨?_, ?_⟩, ?_, fun hclosed => ?_, ?_⟩
  · rw [hrest]
    exact hready.idle
  · exact append_induction (fun hmove h => h.move hmove) hready.discipline 0 line
  · rw [hrest]
  · exact append_induction (P := fun w => w.queue.closed = true)
      (fun hmove h => hmove.stays_closed h) hclosed 0 line
  · exact append_induction (P := fun w' => w.trace <:+ w'.trace)
      (fun hmove h => h.trans hmove.trace) List.suffix_rfl 0 line

theorem upkeep_raise (hready : Ready w) (e : Event) : Upkeep w (w.raise 0 e) := by
  rw [raise]
  split
  · exact .refl hready
  · split
    · exact upkeep_append hready _
    · exact .refl hready

/-!
## Steps of the other threads
-/

theorem StageMove.listener {stage stage' : Stage} (h : StageMove w stage w' stage') :
    w'.listener = w.listener := by
  cases h with
  | talk hchatter => exact hchatter.listener
  | fail e x left hchatter => exact hchatter.listener
  | failFlush x hchatter => exact hchatter.listener
  | _ => rfl

theorem PushMove.listener {source : Source} {phase phase' : PushPhase}
    (h : PushMove w source phase w' phase') : w'.listener = w.listener := by
  cases h <;> rfl

theorem upkeep_stageStep (hready : Ready w) {stage : Stage} (hmove : Move w w')
    (hproducers : w'.producers = (w.stageStep stage).1.producers)
    (hlistener : w'.listener = (w.stageStep stage).1.listener) : Upkeep w w' :=
  upkeep_of_move hready hmove (hproducers.trans (stageMove_stageStep w stage).producers)
    (hlistener.trans (stageMove_stageStep w stage).listener)

theorem upkeep_drainStep (hready : Ready w) (h : w.drainStep = some w') : Upkeep w w' := by
  have hmove := move_of_drainStep h
  unfold drainStep at h
  cases hdrain : w.drain with
  | starting =>
      have hchatter := chatter_happen w (.reported .threadStarted)
      simp only [hdrain, Option.some.injEq] at h
      subst h
      exact upkeep_of_move hready hmove hchatter.producers hchatter.listener
  | stopping =>
      have hchatter := chatter_happen w (.reported .threadStopping)
      simp only [hdrain, Option.some.injEq] at h
      subst h
      exact upkeep_of_move hready hmove hchatter.producers hchatter.listener
  | checking | waiting =>
      simp only [hdrain, Option.some.injEq] at h
      subst h
      exact upkeep_of_move hready hmove rfl rfl
  | draining stage =>
      simp only [hdrain, Option.some.injEq] at h
      subst h
      exact upkeep_stageStep hready hmove rfl rfl
  | stopped | panicked left => simp [hdrain] at h

theorem kept_of_report {resume : Writer × PushPhase -> Writer} {timedOut : Bool}
    {push : PushPhase} (h : (w.pushStep .listener timedOut push).map resume = some w')
    (hresume : forall pushed, (resume pushed).producers = pushed.1.producers ∧
      (resume pushed).listener = pushed.1.listener) :
    w'.producers = w.producers ∧ w'.listener = w.listener := by
  rw [Option.map_eq_some_iff] at h
  obtain ⟨pushed, hstep, rfl⟩ := h
  have hmove := pushMove_of_pushStep hstep
  exact ⟨(hresume pushed).1.trans hmove.producers, (hresume pushed).2.trans hmove.listener⟩

theorem upkeep_ownerStep {timedOut : Bool} (hready : Ready w)
    (h : w.ownerStep timedOut = some w') : Upkeep w w' := by
  have hmove := move_of_step (a := .owner timedOut) h
  unfold ownerStep at h
  cases howner : w.owner with
  | inUse | finished stats | unwound left => simp [howner] at h
  | closing | recovering =>
      simp only [howner, Option.some.injEq] at h
      subst h
      exact upkeep_of_move hready hmove rfl rfl
  | joining =>
      simp only [howner] at h
      split at h
      · cases h
        exact upkeep_of_move hready hmove rfl rfl
      · cases h
        exact upkeep_of_move hready hmove rfl rfl
      · cases h
  | finishing stage =>
      simp only [howner, Option.some.injEq] at h
      subst h
      exact upkeep_stageStep hready hmove rfl rfl
  | abandoning queued =>
      simp only [howner, Option.some.injEq] at h
      subst h
      rw [recover_eq] at hmove ⊢
      exact upkeep_of_move hready hmove (producers_announce _ _) (listener_announce _ _)
  | summing =>
      simp only [howner, Option.some.injEq] at h
      subst h
      exact upkeep_of_move hready hmove (producers_announce _ _) (listener_announce _ _)
  | reportingLoss push | reportingEnd _ push =>
      cases push with
      | idle =>
          simp only [howner, Option.some.injEq] at h
          subst h
          exact upkeep_of_move hready hmove rfl rfl
      | offering e | blocked e | counting outcome =>
          simp only [howner] at h
          obtain ⟨hproducers, hlistener⟩ := kept_of_report h fun _ => ⟨rfl, rfl⟩
          exact upkeep_of_move hready hmove hproducers hlistener

theorem upkeep_beginShutdown (hready : Ready w) (h : w.beginShutdown = some w') :
    Upkeep w w' := by
  have hmove := move_of_step (a := .shutDown) h
  unfold beginShutdown at h
  split at h
  · cases h
    exact upkeep_of_move hready hmove rfl rfl
  · cases h
    exact .refl hready
  · cases h
    exact .refl hready
  · cases h

/-!
## Shutting down in one call
-/

theorem pushAll_of_ready (hready : Ready w) : w.pushAll = w := by
  simp [pushAll, hready.idle, pushOn, pushSteps, producerStep, pushStep]

theorem upkeep_finishWithin (hready : Ready w) (fuel : Nat) : Upkeep w (w.finishWithin fuel) := by
  induction fuel generalizing w with
  | zero => exact .refl hready
  | succ fuel ih =>
      rw [finishWithin]
      cases howner : w.ownerStep true with
      | some next =>
          have hnext := upkeep_ownerStep hready howner
          simp only [pushAll_of_ready hnext.toReady]
          exact hnext.trans (ih hnext.toReady)
      | none =>
          cases hdrain : w.drainStep with
          | some next =>
              have hnext := upkeep_drainStep hready hdrain
              simp only [pushAll_of_ready hnext.toReady]
              exact hnext.trans (ih hnext.toReady)
          | none => exact .refl hready

theorem shutDown_snd_of_inUse (hinUse : w.owner = .inUse) :
    w.shutDown.2 = { w with active := false, owner := .closing }.finishWithin
      ({ w with active := false, owner := .closing }.workBound * 2) := by
  simp only [shutDown, hinUse, beginShutdown]
  split <;> rfl

theorem upkeep_shutDown (hready : Ready w) : Upkeep w w.shutDown.2 := by
  by_cases hinUse : w.owner = .inUse
  · have hbegin : w.beginShutdown = some { w with active := false, owner := .closing } := by
      rw [beginShutdown, hinUse]
    have hbegun := upkeep_beginShutdown hready hbegin
    rw [shutDown_snd_of_inUse hinUse]
    exact hbegun.trans (upkeep_finishWithin hbegun.toReady _)
  · rw [shutDown]
    split
    · exact absurd (by assumption) hinUse
    · exact .refl hready

theorem closed_shutDown (hready : Ready w) (hinUse : w.owner = .inUse) :
    w.shutDown.2.queue.closed = true := by
  let begun : Writer := { w with active := false, owner := .closing }
  have hbegun : Ready begun :=
    (upkeep_beginShutdown hready (by rw [beginShutdown, hinUse])).toReady
  have hclose : begun.ownerStep true =
      some { begun with queue := begun.queue.close, owner := .joining } := rfl
  have hclosed := upkeep_ownerStep hbegun hclose
  have hfuel : begun.workBound * 2 ≠ 0 :=
    Nat.mul_ne_zero (Nat.mul_ne_zero (Nat.succ_ne_zero _) (Nat.succ_ne_zero _)) (by decide)
  obtain ⟨fuel, hfuel⟩ := Nat.exists_eq_succ_of_ne_zero hfuel
  rw [shutDown_snd_of_inUse hinUse, hfuel, finishWithin, hclose]
  simp only [pushAll_of_ready hclosed.toReady]
  exact (upkeep_finishWithin hclosed.toReady fuel).closed rfl

end Writer

end AsyncLog
