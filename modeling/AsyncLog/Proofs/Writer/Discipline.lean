import AsyncLog.Proofs.Writer.Moves
/-!
# The order of a shutdown

Clearing the flag, closing the queue, joining the drain thread and making the
final pass happen in this order, and the place that the owner has reached tells
what is true of the queue and of the drain thread.  The invariant of this module
says so for every state of a run.
-/

namespace AsyncLog

def OwnerPhase.hasClosed : OwnerPhase -> Bool
  | .inUse | .closing => false
  | _ => true

theorem OwnerPhase.hasClosed_after (stage : Stage) : (after stage).hasClosed = true := by
  cases stage <;> rfl

theorem OwnerPhase.after_ne_inUse (stage : Stage) : after stage ≠ .inUse := by
  cases stage <;> simp [after]

namespace Writer

open OwnerPhase (hasClosed_after after_ne_inUse)

def HasEmptied (w : Writer) (stage : Stage) : Prop :=
  w.config.drainMode = .batch -> stage ≠ .taking -> w.queue.entries = []

/-- What the place of the owner tells. -/
def OwnerKnows (w : Writer) : OwnerPhase -> Prop
  | .inUse | .closing | .joining => True
  | .finishing stage => w.drain = .stopped ∧ stage ≠ .done ∧ w.HasEmptied stage
  | .recovering => exists left, w.drain = .panicked left
  | .abandoning _ => (exists left, w.drain = .panicked left) ∧ w.queue.entries = []
  | .reportingLoss _ | .summing | .reportingEnd _ _ | .finished _ =>
      (w.drain = .stopped ∨ w.drain = .panicked []) ∧ w.queue.entries = []
  | .unwound _ => w.drain = .stopped ∧ (w.config.drainMode = .batch -> w.queue.entries = [])

/-- The settings are those of the start, and everything is in the order of a shutdown. -/
structure Discipline (w : Writer) : Prop where
  capacity : w.queue.capacity = w.config.capacity
  overflow : w.queue.overflow = w.config.overflow
  active : w.active = true ↔ w.owner = .inUse
  closed : w.queue.closed = w.owner.hasClosed
  owner : w.OwnerKnows w.owner

namespace Discipline

variable {w w' : Writer}

theorem knows {owner : OwnerPhase} (h : Discipline w) (howner : w.owner = owner) :
    w.OwnerKnows owner :=
  howner ▸ h.owner

theorem before_join (h : Discipline w) (hdrain : w.drain.hasEnded = false) :
    w.owner = .inUse ∨ w.owner = .closing ∨ w.owner = .joining := by
  cases howner : w.owner with
  | inUse => exact Or.inl rfl
  | closing => exact Or.inr (Or.inl rfl)
  | joining => exact Or.inr (Or.inr rfl)
  | finishing stage | unwound left =>
      simp [(h.knows howner).1, DrainPhase.hasEnded] at hdrain
  | recovering =>
      rcases h.knows howner with ⟨left, hleft⟩
      simp [hleft, DrainPhase.hasEnded] at hdrain
  | abandoning queued =>
      rcases h.knows howner with ⟨⟨left, hleft⟩, _⟩
      simp [hleft, DrainPhase.hasEnded] at hdrain
  | reportingLoss push | summing | reportingEnd stats push | finished stats =>
      rcases (h.knows howner).1 with hended | hended <;>
        simp [hended, DrainPhase.hasEnded] at hdrain

/-- As long as the drain thread runs the owner has nothing in its hands. -/
theorem owner_hands (h : Discipline w) (hdrain : w.drain.hasEnded = false) :
    w.owner.uncounted = [] ∧ w.owner.stage = .done := by
  rcases h.before_join hdrain with howner | howner | howner <;> rw [howner] <;> exact ⟨rfl, rfl⟩

theorem set_drain (h : Discipline w) (hdrain : w.drain.hasEnded = false) (drain : DrainPhase) :
    Discipline { w with drain } := by
  refine ⟨h.capacity, h.overflow, h.active, h.closed, ?_⟩
  rcases h.before_join hdrain with howner | howner | howner <;>
    simp only [howner] <;> exact True.intro

theorem inactive (h : Discipline w) (howner : w.owner ≠ .inUse) : w.active = false := by
  cases hactive : w.active with
  | false => rfl
  | true => exact absurd (h.active.mp hactive) howner

theorem active_iff_of_false (hactive : w.active = false) (howner : w.owner ≠ .inUse) :
    w.active = true ↔ w.owner = .inUse := by
  constructor
  · intro hcontra
    rw [hactive] at hcontra
    cases hcontra
  · intro hcontra
    exact absurd hcontra howner

theorem set_owner {owner : OwnerPhase} (h : Discipline w) (hinactive : w.active = false)
    (howner : owner ≠ .inUse) (hclosed : owner.hasClosed = w.owner.hasClosed)
    (hknows : w.OwnerKnows owner) : Discipline { w with owner } := by
  refine ⟨h.capacity, h.overflow, active_iff_of_false hinactive howner, ?_, ?_⟩
  · rw [hclosed]
    exact h.closed
  · exact hknows

theorem closed_of_push (h : Discipline w) (hpush : w.owner.push ≠ .idle) :
    w.queue.closed = true := by
  rw [h.closed]
  cases howner : w.owner with
  | reportingLoss push | reportingEnd stats push => rfl
  | _ => simp [howner, OwnerPhase.push] at hpush

theorem start (config : Config) (script : Script) (producers : Nat) :
    Discipline (start config script producers) where
  capacity := rfl
  overflow := rfl
  active := ⟨fun _ => rfl, fun _ => rfl⟩
  closed := rfl
  owner := True.intro

/-!
## Pushes
-/

theorem queue_of_pushMove {source : Source} {phase phase' : PushPhase}
    (h : PushMove w source phase w' phase') (hclosed : w.queue.closed = true) :
    w'.queue = w.queue := by
  cases h with
  | wait _ => rfl
  | offer hdecides => exact (hdecides.of_closed hclosed).2
  | reoffer hdecides => exact (hdecides.of_closed hclosed).2
  | count _ => rfl

theorem settings_of_pushMove {source : Source} {phase phase' : PushPhase}
    (h : PushMove w source phase w' phase') :
    w'.queue.capacity = w.queue.capacity ∧ w'.queue.overflow = w.queue.overflow ∧
      w'.queue.closed = w.queue.closed := by
  cases h with
  | wait _ => exact ⟨rfl, rfl, rfl⟩
  | offer hdecides => exact ⟨hdecides.capacity, hdecides.overflow, hdecides.closed⟩
  | reoffer hdecides => exact ⟨hdecides.capacity, hdecides.overflow, hdecides.closed⟩
  | count _ => exact ⟨rfl, rfl, rfl⟩

theorem ownerKnows_congr {owner : OwnerPhase} (hconfig : w'.config = w.config)
    (hdrain : w'.drain = w.drain) (hentries : w'.queue.entries = w.queue.entries)
    (h : w.OwnerKnows owner) : w'.OwnerKnows owner := by
  have hsame : w'.OwnerKnows owner = w.OwnerKnows owner := by
    cases owner <;> simp only [OwnerKnows, HasEmptied, hconfig, hdrain, hentries]
  rw [hsame]
  exact h

theorem ownerKnows_of_pushMove {source : Source} {phase phase' : PushPhase} (h : Discipline w)
    (hmove : PushMove w source phase w' phase') : w'.OwnerKnows w.owner := by
  cases hclosed : w.queue.closed with
  | true =>
      have hqueue := queue_of_pushMove hmove hclosed
      exact ownerKnows_congr hmove.config hmove.drain (by rw [hqueue]) h.owner
  | false =>
      have howner := h.closed
      rw [hclosed] at howner
      cases hphase : w.owner with
      | inUse | closing => exact True.intro
      | _ => simp [hphase, OwnerPhase.hasClosed] at howner

theorem push {source : Source} {phase phase' : PushPhase} (h : Discipline w)
    (hmove : PushMove w source phase w' phase') : Discipline w' := by
  rcases settings_of_pushMove hmove with ⟨hcapacity, hoverflow, hclosed⟩
  constructor
  · rw [hcapacity, hmove.config, h.capacity]
  · rw [hoverflow, hmove.config, h.overflow]
  · rw [hmove.active, hmove.owner]
    exact h.active
  · rw [hclosed, hmove.owner, h.closed]
  · rw [hmove.owner]
    exact h.ownerKnows_of_pushMove hmove

theorem report {phase' : PushPhase} (h : Discipline w)
    (hmove : PushMove w .listener w.owner.push w' phase') :
    Discipline { w' with owner := w'.owner.withPush phase' } := by
  have h' := h.push hmove
  have hsame : w'.owner = w.owner := hmove.owner
  constructor
  · exact h'.capacity
  · exact h'.overflow
  · cases howner : w'.owner <;> simpa [howner, OwnerPhase.withPush] using h'.active
  · rw [h'.closed]
    cases w'.owner <;> rfl
  · have hknows := h'.owner
    cases howner : w'.owner <;> rw [howner] at hknows <;> exact hknows

/-!
## The final pass
-/

theorem stageStep_snd_of_ne (w : Writer) {stage : Stage} (htaking : stage ≠ .taking)
    (hdone : stage ≠ .done) :
    (w.stageStep stage).2 = w.afterFlush ∨
      ((w.stageStep stage).2 ≠ .done ∧ (w.stageStep stage).2 ≠ .taking) := by
  cases stage with
  | taking => exact absurd rfl htaking
  | done => exact absurd rfl hdone
  | flushGivenUp x => exact Or.inl rfl
  | detached batch | returned e error left | settled e error left | panicked left =>
      exact Or.inr ⟨by simp [stageStep], by simp [stageStep]⟩
  | between left =>
      cases left with
      | nil => exact Or.inr ⟨by simp [stageStep], by simp [stageStep]⟩
      | cons e left =>
          simp only [stageStep, beginEntry]
          cases e.bytes with
          | nil => exact Or.inr ⟨by simp, by simp⟩
          | cons b rest => exact Or.inr ⟨by simp, by simp⟩
  | writing e rest effort left =>
      right
      simp only [stageStep, writeStep]
      rcases Output.write rest w.output with ⟨reply, call, output⟩
      dsimp only
      split
      · exact ⟨by simp, by simp⟩
      · split
        · exact ⟨by simp, by simp⟩
        · exact ⟨by simp, by simp⟩
      · split
        · exact ⟨by simp, by simp⟩
        · exact ⟨by simp, by simp⟩
  | flushing effort =>
      simp only [stageStep, flushStep]
      rcases w.output.flush with ⟨reply, call, output⟩
      dsimp only
      split
      · exact Or.inr ⟨by simp, by simp⟩
      · left
        have hcall := chatter_happen { w with output } (.called call)
        simp only [afterFlush, hcall.config]
      · split
        · exact Or.inr ⟨by simp, by simp⟩
        · exact Or.inr ⟨by simp, by simp⟩

theorem hasEmptied_stageStep {stage : Stage} (hdone : stage ≠ .done)
    (h : w.HasEmptied stage) :
    (w.stageStep stage).1.HasEmptied (w.stageStep stage).2 ∧
      ((w.stageStep stage).2 = .done -> (w.stageStep stage).1.queue.entries = []) := by
  by_cases htaking : stage = .taking
  · subst htaking
    rcases htake : w.queue.take w.config.drainMode with ⟨batch, queue⟩
    cases batch with
    | nil =>
        have hentries : w.queue.entries = [] :=
          (w.queue.take_eq_nil_iff w.config.drainMode).mp (by rw [htake])
        simp only [stageStep, htake]
        exact ⟨fun _ _ => hentries, fun _ => hentries⟩
    | cons e rest =>
        simp only [stageStep, htake]
        constructor
        · intro hbatch _
          have hqueue : queue = (w.queue.take .batch).2 := by
            change w.config.drainMode = .batch at hbatch
            rw [← hbatch, htake]
          rw [hqueue]
          rfl
        · intro himpossible
          cases himpossible
  · -- Only `taking` touches the queue, and the pass ends after a flush.
    have hmove := stageMove_stageStep w stage
    have hqueue : (w.stageStep stage).1.queue = w.queue := by
      rcases hmove.queue with hsame | ⟨hcontra, _⟩
      · exact hsame
      · exact absurd hcontra htaking
    rcases stageStep_snd_of_ne w htaking hdone with hflush | ⟨hne, hne'⟩
    · rw [HasEmptied, hqueue, hmove.config, hflush, afterFlush]
      cases hmode : w.config.drainMode with
      | batch => exact ⟨fun _ _ => h hmode htaking, fun _ => h hmode htaking⟩
      | perEntry =>
          constructor
          · intro himpossible
            cases himpossible
          · intro himpossible
            cases himpossible
    · rw [HasEmptied, hqueue, hmove.config]
      exact ⟨fun hmode _ => h hmode htaking, fun himpossible => absurd himpossible hne⟩

theorem settings_of_stageMove {stage stage' : Stage} (h : StageMove w stage w' stage') :
    w'.queue.capacity = w.queue.capacity ∧ w'.queue.overflow = w.queue.overflow ∧
      w'.queue.closed = w.queue.closed := by
  rcases h.queue with hqueue | ⟨_, hqueue⟩
  · rw [hqueue]
    exact ⟨rfl, rfl, rfl⟩
  · rw [hqueue]
    exact ⟨Queue.capacity_take _ _, Queue.overflow_take _ _, Queue.closed_take _ _⟩

theorem work {stage : Stage} (h : Discipline w) (hdrain : w.drain = .draining stage) :
    Discipline { (w.stageStep stage).1 with drain := .after (w.stageStep stage).2 } := by
  have hmove := stageMove_stageStep w stage
  have hrunning : w.drain.hasEnded = false := by rw [hdrain]; rfl
  rcases settings_of_stageMove hmove with ⟨hcapacity, hoverflow, hclosed⟩
  constructor
  · exact hcapacity.trans (h.capacity.trans (by rw [hmove.config]))
  · exact hoverflow.trans (h.overflow.trans (by rw [hmove.config]))
  · simpa only [hmove.active, hmove.owner] using h.active
  · simpa only [hclosed, hmove.owner] using h.closed
  · simp only [hmove.owner]
    rcases h.before_join hrunning with howner | howner | howner <;>
      rw [howner] <;> exact True.intro

theorem finish {stage : Stage} (h : Discipline w) (howner : w.owner = .finishing stage) :
    Discipline { (w.stageStep stage).1 with owner := .after (w.stageStep stage).2 } := by
  have hmove := stageMove_stageStep w stage
  rcases settings_of_stageMove hmove with ⟨hcapacity, hoverflow, hclosed⟩
  rcases h.knows howner with ⟨hdrain, hdone, hemptied⟩
  rcases hasEmptied_stageStep hdone hemptied with ⟨hemptied', hentries⟩
  have hactive := h.inactive (by simp [howner])
  have hdrain' := hmove.drain.trans hdrain
  rcases hstep : w.stageStep stage with ⟨next, stage'⟩
  rw [hstep] at hmove hcapacity hoverflow hclosed hemptied' hentries hdrain'
  constructor
  · exact hcapacity.trans (h.capacity.trans (by rw [hmove.config]))
  · exact hoverflow.trans (h.overflow.trans (by rw [hmove.config]))
  · exact active_iff_of_false (hmove.active.trans hactive) (after_ne_inUse stage')
  · rw [hasClosed_after]
    exact hclosed.trans (h.closed.trans (by rw [howner]; rfl))
  · cases stage' with
    | done => exact ⟨Or.inl hdrain', hentries rfl⟩
    | panicked left => exact ⟨hdrain', fun hmode => hemptied' hmode (by simp)⟩
    | _ => exact ⟨hdrain', by simp, hemptied'⟩

/-!
## After a panic
-/

theorem abandon (h : Discipline w) (howner : w.owner = .recovering) : Discipline w.abandon := by
  have hclosed := h.closed
  rw [howner] at hclosed
  have hactive := h.inactive (by simp [howner])
  constructor
  · exact h.capacity
  · exact h.overflow
  · exact active_iff_of_false hactive (by simp [Writer.abandon])
  · exact hclosed
  · exact ⟨h.knows howner, rfl⟩

theorem recover {queued : List Entry} (h : Discipline w) (howner : w.owner = .abandoning queued) :
    Discipline (w.recover queued) := by
  have hactive := h.inactive (by simp [howner])
  have hclosed : w.queue.closed = true := by rw [h.closed, howner]; rfl
  rw [recover_eq]
  constructor
  · simpa [giveUp] using h.capacity
  · simpa [giveUp] using h.overflow
  · exact active_iff_of_false (by simpa [giveUp] using hactive) (by simp)
  · simpa [giveUp, OwnerPhase.hasClosed] using hclosed
  · simpa [OwnerKnows, giveUp] using (h.knows howner).2

theorem sum (h : Discipline w) (howner : w.owner = .summing) : Discipline w.sum := by
  have hactive := h.inactive (by simp [howner])
  have hclosed : w.queue.closed = true := by rw [h.closed, howner]; rfl
  unfold Writer.sum
  constructor
  · simpa using h.capacity
  · simpa using h.overflow
  · exact active_iff_of_false (by simpa using hactive) (by simp)
  · simpa [OwnerPhase.hasClosed] using hclosed
  · simpa [OwnerKnows] using h.knows howner

/-!
## Runs
-/

theorem chatter (h : Discipline w) (hchatter : Chatter w w') : Discipline w' := by
  constructor
  · rw [hchatter.queue, hchatter.config, h.capacity]
  · rw [hchatter.queue, hchatter.config, h.overflow]
  · rw [hchatter.active, hchatter.owner]
    exact h.active
  · rw [hchatter.queue, hchatter.owner, h.closed]
  · rw [hchatter.owner]
    exact ownerKnows_congr hchatter.config hchatter.drain (by rw [hchatter.queue]) h.owner

theorem pass (h : Discipline w) (hpass : Pass w w') : Discipline w' := by
  cases hpass with
  | start hdrain =>
      have hrunning : w.drain.hasEnded = false := by rw [hdrain]; rfl
      have hchatter := chatter_happen w (.reported .threadStarted)
      exact (h.chatter hchatter).set_drain (by rw [hchatter.drain, hrunning]) _
  | check hdrain => exact h.set_drain (by rw [hdrain]; rfl) _
  | wake hdrain => exact h.set_drain (by rw [hdrain]; rfl) _
  | stop hdrain =>
      have hrunning : w.drain.hasEnded = false := by rw [hdrain]; rfl
      have hchatter := chatter_happen w (.reported .threadStopping)
      exact (h.chatter hchatter).set_drain (by rw [hchatter.drain, hrunning]) _
  | request howner =>
      refine ⟨h.capacity, h.overflow, active_iff_of_false rfl (by simp), ?_, True.intro⟩
      rw [h.closed, howner]
      rfl
  | again _ => exact h
  | close howner =>
      have hactive := h.inactive (by simp [howner])
      exact ⟨h.capacity, h.overflow, active_iff_of_false hactive (by simp), rfl, True.intro⟩
  | join howner hdrain =>
      refine h.set_owner (h.inactive (by simp [howner])) (by simp) (by rw [howner]; rfl) ?_
      exact ⟨hdrain, by simp, fun _ hcontra => absurd rfl hcontra⟩
  | joinPanicked howner hdrain =>
      exact h.set_owner (h.inactive (by simp [howner])) (by simp) (by rw [howner]; rfl) ⟨_, hdrain⟩
  | lossReported howner | endReported howner =>
      have hknows := h.knows howner
      exact h.set_owner (h.inactive (by simp [howner])) (by simp) (by rw [howner]; rfl) hknows
  | listen listener => exact ⟨h.capacity, h.overflow, h.active, h.closed, h.owner⟩

theorem move (h : Discipline w) (hmove : Move w w') : Discipline w' := by
  cases hmove with
  | hand e _ => exact ⟨h.capacity, h.overflow, h.active, h.closed, h.owner⟩
  | refuse e _ => exact ⟨h.capacity, h.overflow, h.active, h.closed, h.owner⟩
  | push _ hpush =>
      have h' := h.push hpush
      exact ⟨h'.capacity, h'.overflow, h'.active, h'.closed, h'.owner⟩
  | report hpush => exact h.report hpush
  | work hdrain => exact h.work hdrain
  | finish howner => exact h.finish howner
  | abandon howner => exact h.abandon howner
  | recover howner => exact h.recover howner
  | sum howner => exact h.sum howner
  | pass hpass => exact h.pass hpass

theorem run {P : Writer -> Prop}
    (hmove : forall {w w'}, Discipline w -> P w -> Move w w' -> P w') {actions : List Action}
    (hdiscipline : Discipline w) (h : P w) (hrun : w.run actions = some w') :
    Discipline w' ∧ P w' := by
  refine run_induction (P := fun w => Discipline w ∧ P w) ?_ ⟨hdiscipline, h⟩ hrun
  intro w w' hw hstep
  exact ⟨hw.1.move hstep, hmove hw.1 hw.2 hstep⟩

theorem of_run {config : Config} {script : Script} {producers : Nat} {actions : List Action}
    (h : (Writer.start config script producers).run actions = some w) : Discipline w :=
  run_induction move (start config script producers) h

end Discipline

end Writer

end AsyncLog
