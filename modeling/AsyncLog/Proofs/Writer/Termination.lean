import AsyncLog.Proofs.Writer.CallBudget
/-!
# The end of a shutdown

Once the queue is closed, the drain thread and the owner have only so many steps left,
whatever the output answers and whatever producers and listeners do meanwhile.  One of the two
can always go on until the shutdown has ended.  So it ends, and each pass over the queue on the
way gives a result to exactly those entries that were queued when it began.
-/

namespace AsyncLog

/-!
## Steps ahead
-/

def RetryRule.passLimit (rule : RetryRule) : List Entry -> Nat
  | [] => 0
  | e :: rest => rule.stepLimit [e] + 2 + rule.passLimit rest

/-- The most steps until a pass ends, if nothing is queued any more: when the backlog in hand is
dealt with the thread looks into the queue once more. -/
def Stage.stepsAhead (rule : RetryRule) : Stage -> Nat
  | .done | .panicked _ => 0
  | stage => stage.stepsLeft rule + 1

def DrainPhase.stepsAhead (rule : RetryRule) : DrainPhase -> Nat
  | .stopped | .panicked _ => 0
  | .stopping => 1
  | .checking => 2
  | .starting => 3
  | .draining stage => stage.stepsAhead rule + 3
  | .waiting => 5

def PushPhase.stepsAhead : PushPhase -> Nat
  | .idle => 0
  | .counting .displacedOldest => 2
  | .counting _ => 1
  | .blocked _ => 3
  | .offering _ => 4

def OwnerPhase.stepsAhead (rule : RetryRule) : OwnerPhase -> Nat
  | .finished _ | .unwound _ => 0
  | .reportingEnd _ push => push.stepsAhead + 1
  | .summing => 6
  | .reportingLoss push => push.stepsAhead + 7
  | .abandoning _ => 12
  | .recovering => 13
  | .finishing stage => stage.stepsAhead rule + 7
  | .joining => 14
  | .closing => 15
  | .inUse => 16

/-- The steps of the two threads that shut a writer down; all others are those of producers and
listeners. -/
def Writer.Action.isOwn : Writer.Action -> Bool
  | .drain | .owner _ => true
  | .hand _ _ | .refuse _ _ | .push _ _ | .shutDown | .listen _ => false

theorem Stage.over_or_running (stage : Stage) :
    stage = .done ∨ (exists left, stage = .panicked left) ∨
      (stage ≠ .done ∧ stage.isPanicked = false) := by
  cases stage with
  | done => exact Or.inl rfl
  | panicked left => exact Or.inr (Or.inl ⟨left, rfl⟩)
  | _ => exact Or.inr (Or.inr ⟨Stage.noConfusion, rfl⟩)

theorem passLimit_append (rule : RetryRule) (first second : List Entry) :
    rule.passLimit (first ++ second) = rule.passLimit first + rule.passLimit second := by
  induction first with
  | nil => exact (Nat.zero_add _).symm
  | cons e first ih =>
      rw [List.cons_append, RetryRule.passLimit, RetryRule.passLimit, ih]
      exact (Nat.add_assoc _ _ _).symm

theorem stepLimit_le_passLimit (rule : RetryRule) (e : Entry) (rest : List Entry) :
    rule.stepLimit (e :: rest) + 2 ≤ rule.passLimit (e :: rest) := by
  induction rest generalizing e with
  | nil => exact Nat.le_refl _
  | cons next rest ih =>
      -- One by one, the entry has a flush of its own; the rest is as it would be without it.
      have hrest := ih next
      simp only [RetryRule.passLimit, RetryRule.stepLimit] at hrest ⊢
      omega

namespace Writer

variable {w w' : Writer} {rule : RetryRule} {stage : Stage}

def stepsAhead (w : Writer) (rule : RetryRule) : Nat :=
  w.drain.stepsAhead rule + w.owner.stepsAhead rule + rule.passLimit w.queue.entries

/-!
## A step of a pass
-/

theorem stepsLeft_of_running (rule : RetryRule) (htaking : stage ≠ .taking)
    (hdone : stage ≠ .done) (hcalm : stage.isPanicked = false) : 0 < stage.stepsLeft rule := by
  cases stage with
  | taking => exact absurd rfl htaking
  | done => exact absurd rfl hdone
  | panicked left => cases hcalm
  | between left =>
      cases left <;> simp only [Stage.stepsLeft, RetryRule.stepLimit] <;> omega
  | _ =>
      simp only [Stage.stepsLeft]
      omega

theorem stepsAhead_le (rule : RetryRule) (stage : Stage) :
    stage.stepsAhead rule ≤ stage.stepsLeft rule + 1 := by
  cases stage with
  | done | panicked left => exact Nat.zero_le _
  | _ => exact Nat.le_refl _

theorem stepsAhead_stageStep (hrule : w.config.retryRule = rule) (hdone : stage ≠ .done)
    (hcalm : stage.isPanicked = false) :
    (w.stageStep stage).2.stepsAhead rule + rule.passLimit (w.stageStep stage).1.queue.entries <
      stage.stepsAhead rule + rule.passLimit w.queue.entries := by
  by_cases htaking : stage = .taking
  · have hall := w.queue.take_append_entries w.config.drainMode
    rcases htake : w.queue.take w.config.drainMode with ⟨batch, queue⟩
    rw [htake] at hall
    rw [htaking]
    cases batch with
    | nil =>
        simp only [stageStep, htake, Stage.stepsAhead, Stage.stepsLeft]
        omega
    | cons e rest =>
        have hmost := stepLimit_le_passLimit rule e rest
        rw [← hall, passLimit_append]
        simp only [stageStep, htake, queue_record, Stage.stepsAhead, Stage.stepsLeft]
        omega
  · have hpositive := stepsLeft_of_running rule htaking hdone hcalm
    have hless := stepsLeft_stageStep_lt hrule hpositive
    have hnext := stepsAhead_le rule (w.stageStep stage).2
    have hstage : stage.stepsAhead rule = stage.stepsLeft rule + 1 := by
      cases stage with
      | done => exact absurd rfl hdone
      | panicked left => cases hcalm
      | _ => rfl
    rcases (stageMove_stageStep w stage).queue with hqueue | ⟨hcontra, _⟩
    · rw [hqueue, hstage]
      omega
    · exact absurd hcontra htaking

/-!
## Own steps
-/

/-- A step of a pass takes a thread closer to its end, if what follows the pass is not further
away than the pass itself. -/
theorem stepsAhead_after (after : Stage -> Nat) {base : Nat} (hrule : w.config.retryRule = rule)
    (hafter : forall stage : Stage, after stage ≤ stage.stepsAhead rule + base)
    (hdone : after .done < base) (hpanicked : forall left, after (.panicked left) < base)
    (stage : Stage) :
    after (w.stageStep stage).2 + rule.passLimit (w.stageStep stage).1.queue.entries <
      stage.stepsAhead rule + base + rule.passLimit w.queue.entries := by
  rcases stage.over_or_running with rfl | ⟨left, rfl⟩ | ⟨hmore, hcalm⟩
  · show after .done + rule.passLimit w.queue.entries < 0 + base + _
    rw [Nat.zero_add]
    exact Nat.add_lt_add_right hdone _
  · show after (.panicked left) + rule.passLimit w.queue.entries < 0 + base + _
    rw [Nat.zero_add]
    exact Nat.add_lt_add_right (hpanicked left) _
  · have hless := stepsAhead_stageStep hrule hmore hcalm
    have hnext := hafter (w.stageStep stage).2
    omega

theorem stepsAhead_draining (hrule : w.config.retryRule = rule) (stage : Stage) :
    (DrainPhase.after (w.stageStep stage).2).stepsAhead rule +
        rule.passLimit (w.stageStep stage).1.queue.entries <
      (DrainPhase.draining stage).stepsAhead rule + rule.passLimit w.queue.entries := by
  apply stepsAhead_after (fun next => (DrainPhase.after next).stepsAhead rule) hrule
  · intro next
    cases next with
    | done => exact Nat.le_succ 2
    | panicked left => exact Nat.zero_le _
    | _ => exact Nat.le_refl _
  · exact Nat.lt_succ_self 2
  · intro _
    exact Nat.succ_pos 2

theorem stepsAhead_finishing (hrule : w.config.retryRule = rule) (stage : Stage) :
    (OwnerPhase.after (w.stageStep stage).2).stepsAhead rule +
        rule.passLimit (w.stageStep stage).1.queue.entries <
      (OwnerPhase.finishing stage).stepsAhead rule + rule.passLimit w.queue.entries := by
  apply stepsAhead_after (fun next => (OwnerPhase.after next).stepsAhead rule) hrule
  · intro next
    cases next with
    | done => exact Nat.le_succ 6
    | panicked left => exact Nat.zero_le _
    | _ => exact Nat.le_refl _
  · exact Nat.lt_succ_self 6
  · intro _
    exact Nat.succ_pos 6

theorem stepsAhead_of_places (hqueue : w'.queue.entries = w.queue.entries)
    (hless : w'.drain.stepsAhead rule + w'.owner.stepsAhead rule <
      w.drain.stepsAhead rule + w.owner.stepsAhead rule) :
    w'.stepsAhead rule < w.stepsAhead rule := by
  rw [stepsAhead, stepsAhead, hqueue]
  exact Nat.add_lt_add_right hless _

theorem stepsAhead_drainStep (hrule : w.config.retryRule = rule) (hinactive : w.active = false)
    (h : w.drainStep = some w') : w'.stepsAhead rule < w.stepsAhead rule := by
  unfold drainStep at h
  cases hdrain : w.drain with
  | stopped | panicked left => simp [hdrain] at h
  | starting =>
      have hchatter := chatter_happen w (.reported .threadStarted)
      simp only [hdrain, Option.some.injEq] at h
      rw [← h]
      apply stepsAhead_of_places
      · exact congrArg Queue.entries hchatter.queue
      · show 2 + _ < _
        rw [hchatter.owner, hdrain]
        exact Nat.add_lt_add_right (Nat.lt_succ_self 2) _
  | stopping =>
      have hchatter := chatter_happen w (.reported .threadStopping)
      simp only [hdrain, Option.some.injEq] at h
      rw [← h]
      apply stepsAhead_of_places
      · exact congrArg Queue.entries hchatter.queue
      · show 0 + _ < _
        rw [hchatter.owner, hdrain]
        exact Nat.add_lt_add_right (Nat.lt_succ_self 0) _
  | checking =>
      simp only [hdrain, hinactive, Bool.false_eq_true, if_false, Option.some.injEq] at h
      rw [← h]
      apply stepsAhead_of_places
      · rfl
      · rw [hdrain]
        exact Nat.add_lt_add_right (Nat.lt_succ_self 1) _
  | waiting =>
      simp only [hdrain, Option.some.injEq] at h
      rw [← h]
      apply stepsAhead_of_places
      · rfl
      · rw [hdrain]
        exact Nat.add_lt_add_right (Nat.lt_succ_self 4) _
  | draining stage =>
      have hless := stepsAhead_draining hrule stage
      simp only [hdrain, Option.some.injEq] at h
      rw [← h, stepsAhead, stepsAhead, hdrain, (stageMove_stageStep w stage).owner]
      dsimp only
      omega

theorem PushMove.stepsAhead_lt {source : Source} {phase phase' : PushPhase}
    (h : PushMove w source phase w' phase') (hclosed : w.queue.closed = true) :
    phase'.stepsAhead < phase.stepsAhead := by
  cases h with
  | wait _ => exact Nat.lt_succ_self 3
  | offer hdecides =>
      rw [(hdecides.of_closed hclosed).1]
      exact Nat.lt_add_of_pos_left (Nat.succ_pos 2)
  | reoffer hdecides =>
      rw [(hdecides.of_closed hclosed).1]
      exact Nat.lt_add_of_pos_left (Nat.succ_pos 1)
  | count outcome =>
      cases outcome with
      | displacedOldest => exact Nat.lt_succ_self 1
      | queued | dropped | rejected => exact Nat.lt_succ_self 0

theorem stepsAhead_of_report (owner : PushPhase -> OwnerPhase) {push : PushPhase} {base : Nat}
    {timedOut : Bool} (hclosed : w.queue.closed = true) (howner : w.owner = owner push)
    (hsteps : forall push : PushPhase, (owner push).stepsAhead rule = push.stepsAhead + base)
    (h : ((w.pushStep .listener timedOut push).map fun (next, push') =>
      { next with owner := owner push' }) = some w') : w'.stepsAhead rule < w.stepsAhead rule := by
  rw [Option.map_eq_some_iff] at h
  rcases h with ⟨⟨next, push'⟩, hstep, rfl⟩
  have hmove := pushMove_of_pushStep hstep
  have hqueue := Discipline.queue_of_pushMove hmove hclosed
  apply stepsAhead_of_places
  · exact congrArg Queue.entries hqueue
  · show next.drain.stepsAhead rule + (owner push').stepsAhead rule < _
    rw [hmove.drain, howner, hsteps, hsteps]
    exact Nat.add_lt_add_left (Nat.add_lt_add_right (hmove.stepsAhead_lt hclosed) _) _

theorem stepsAhead_announce (w : Writer) (d : Diagnostic) : (w.announce d).2.stepsAhead ≤ 4 := by
  rcases announce_cases w d with h | ⟨line, h⟩
  · rw [h]
    exact Nat.zero_le 4
  · rw [h]
    exact Nat.le_refl 4

theorem stepsAhead_ownerStep {timedOut : Bool} (hrule : w.config.retryRule = rule)
    (hclosed : w.queue.closed = true) (h : w.ownerStep timedOut = some w') :
    w'.stepsAhead rule < w.stepsAhead rule := by
  unfold ownerStep at h
  cases howner : w.owner with
  | inUse | finished stats | unwound left => simp [howner] at h
  | closing =>
      simp only [howner, Option.some.injEq] at h
      rw [← h]
      apply stepsAhead_of_places
      · rfl
      · rw [howner]
        exact Nat.add_lt_add_left (Nat.lt_succ_self 14) _
  | joining =>
      cases hdrain : w.drain with
      | stopped =>
          simp only [howner, hdrain, Option.some.injEq] at h
          rw [← h]
          apply stepsAhead_of_places
          · rfl
          · rw [howner, hdrain]
            exact Nat.add_lt_add_left (Nat.lt_add_of_pos_left (Nat.succ_pos 5)) 0
      | panicked left =>
          simp only [howner, hdrain, Option.some.injEq] at h
          rw [← h]
          apply stepsAhead_of_places
          · rfl
          · rw [howner, hdrain]
            exact Nat.add_lt_add_left (Nat.lt_succ_self 13) 0
      | _ => simp [howner, hdrain] at h
  | finishing stage =>
      have hless := stepsAhead_finishing hrule stage
      simp only [howner, Option.some.injEq] at h
      rw [← h, stepsAhead, stepsAhead, howner, (stageMove_stageStep w stage).drain]
      dsimp only
      omega
  | recovering =>
      -- Whatever is queued is given up at once, without a step for each entry.
      simp only [howner, Option.some.injEq] at h
      rw [← h, stepsAhead, stepsAhead, howner]
      show w.drain.stepsAhead rule + 12 + 0 < _
      exact Nat.lt_add_right _ (Nat.add_lt_add_left (Nat.lt_succ_self 12) _)
  | abandoning queued =>
      simp only [howner, Option.some.injEq] at h
      have hpush := stepsAhead_announce (w.giveUp queued) (.threadPanicked
        (UInt64.ofNat queued.length + w.counters.abandonInFlight.1))
      rw [← h, recover_eq, stepsAhead, stepsAhead, howner, drain_announce, queue_announce]
      show 0 + (_ + 7) + rule.passLimit w.queue.entries < _ + 12 + _
      omega
  | reportingLoss push =>
      cases push with
      | idle =>
          simp only [howner, Option.some.injEq] at h
          rw [← h]
          apply stepsAhead_of_places
          · rfl
          · rw [howner]
            exact Nat.add_lt_add_left (Nat.lt_succ_self 6) _
      | offering e | blocked e | counting outcome =>
          simp only [howner] at h
          exact stepsAhead_of_report .reportingLoss hclosed howner (fun _ => rfl) h
  | summing =>
      simp only [howner, Option.some.injEq] at h
      have hpush := stepsAhead_announce w (.shutDown w.stats)
      rw [← h, sum_eq, stepsAhead, stepsAhead, howner, drain_announce, queue_announce]
      show _ + (_ + 1) + _ < _ + 6 + _
      omega
  | reportingEnd stats push =>
      cases push with
      | idle =>
          simp only [howner, Option.some.injEq] at h
          rw [← h]
          apply stepsAhead_of_places
          · rfl
          · rw [howner]
            exact Nat.add_lt_add_left (Nat.lt_succ_self 0) _
      | offering e | blocked e | counting outcome =>
          simp only [howner] at h
          exact stepsAhead_of_report (.reportingEnd stats) hclosed howner (fun _ => rfl) h

theorem stepsAhead_of_others {a : Action} (hother : a.isOwn = false)
    (hdiscipline : Discipline w) (hclosed : w.queue.closed = true) (hstep : w.step a = some w') :
    w'.stepsAhead rule = w.stepsAhead rule := by
  have hplaces (hdrain : w'.drain = w.drain) (howner : w'.owner = w.owner)
      (hqueue : w'.queue = w.queue) : w'.stepsAhead rule = w.stepsAhead rule := by
    rw [stepsAhead, hdrain, howner, hqueue, stepsAhead]
  cases a with
  | drain | owner timedOut => cases hother
  | hand producer e =>
      simp only [step, Writer.hand] at hstep
      split at hstep
      · cases hstep
        exact hplaces rfl rfl rfl
      · cases hstep
  | refuse producer e =>
      simp only [step, handRefused] at hstep
      split at hstep
      · cases hstep
        exact hplaces rfl rfl rfl
      · cases hstep
  | push producer timedOut =>
      simp only [step, producerStep] at hstep
      split at hstep
      · cases hstep
      · rw [Option.map_eq_some_iff] at hstep
        rcases hstep with ⟨⟨next, phase'⟩, hpush, rfl⟩
        have hmove := pushMove_of_pushStep hpush
        have hqueue : next.queue = w.queue := Discipline.queue_of_pushMove hmove hclosed
        exact hplaces hmove.drain hmove.owner hqueue
  | shutDown =>
      simp only [step, beginShutdown] at hstep
      split at hstep
      · rename_i howner
        rw [hdiscipline.closed, howner] at hclosed
        cases hclosed
      · cases hstep
        rfl
      · cases hstep
        rfl
      · cases hstep
  | listen listener =>
      cases hstep
      exact hplaces rfl rfl rfl

theorem Discipline.inactive_of_closed (h : Discipline w) (hclosed : w.queue.closed = true) :
    w.active = false := by
  apply h.inactive
  intro howner
  rw [h.closed, howner] at hclosed
  cases hclosed

theorem stepsAhead_of_step {a : Action} (hrule : w.config.retryRule = rule)
    (hdiscipline : Discipline w) (hclosed : w.queue.closed = true) (hstep : w.step a = some w') :
    a.isOwn.toNat + w'.stepsAhead rule ≤ w.stepsAhead rule := by
  cases hown : a.isOwn with
  | false =>
      rw [stepsAhead_of_others hown hdiscipline hclosed hstep]
      exact Nat.le_of_eq (Nat.zero_add _)
  | true =>
      rw [Bool.toNat_true, Nat.add_comm]
      cases a with
      | drain => exact stepsAhead_drainStep hrule (hdiscipline.inactive_of_closed hclosed) hstep
      | owner timedOut => exact stepsAhead_ownerStep hrule hclosed hstep
      | _ => cases hown

/-- However the steps of all threads are mixed, the two threads that shut the writer down take
no more of them than there were ahead. -/
theorem ownSteps_le_of_run {actions : List Action} (hrule : w.config.retryRule = rule)
    (hdiscipline : Discipline w) (hclosed : w.queue.closed = true)
    (hrun : w.run actions = some w') :
    actions.countP Action.isOwn + w'.stepsAhead rule ≤ w.stepsAhead rule := by
  induction actions generalizing w with
  | nil =>
      cases hrun
      exact Nat.le_of_eq (Nat.zero_add _)
  | cons a rest ih =>
      rw [run_cons, Option.bind_eq_some_iff] at hrun
      rcases hrun with ⟨next, hstep, hrest⟩
      have hmove := move_of_step hstep
      have hfirst := stepsAhead_of_step hrule hdiscipline hclosed hstep
      have hlater := ih (by rw [hmove.config, hrule]) (hdiscipline.move hmove)
        (hmove.stays_closed hclosed) hrest
      have hcount : (a :: rest).countP Action.isOwn =
          rest.countP Action.isOwn + a.isOwn.toNat := by
        rw [List.countP_cons]
        cases a.isOwn <;> rfl
      omega

/-!
## The way to the end
-/

theorem exists_drainStep (hrunning : w.drain.hasEnded = false) :
    exists w', w.step .drain = some w' := by
  cases hdrain : w.drain with
  | stopped | panicked left =>
      rw [hdrain] at hrunning
      cases hrunning
  | _ =>
      simp only [step, drainStep, hdrain]
      exact ⟨_, rfl⟩

theorem exists_report {source : Source} {phase : PushPhase} {timedOut : Bool}
    (hclosed : w.queue.closed = true) (hphase : phase ≠ .idle)
    (place : Writer × PushPhase -> Writer) :
    exists w', (w.pushStep source timedOut phase).map place = some w' := by
  cases phase with
  | idle => exact absurd rfl hphase
  | offering e =>
      simp only [pushStep]
      split <;> exact ⟨_, rfl⟩
  | blocked e =>
      have hgoes : w.queue.keepsWaiting = false := by
        rw [Queue.keepsWaiting, hclosed]
        rfl
      simp only [pushStep, hgoes, Bool.false_and, Bool.false_eq_true, if_false]
      exact ⟨_, rfl⟩
  | counting outcome => exact ⟨_, rfl⟩

theorem exists_ownerStep (hclosed : w.queue.closed = true) (hdiscipline : Discipline w)
    (hended : w.drain.hasEnded = true) (hunfinished : w.owner.hasEnded = false)
    (timedOut : Bool) : exists w', w.step (.owner timedOut) = some w' := by
  cases howner : w.owner with
  | inUse =>
      rw [hdiscipline.closed, howner] at hclosed
      cases hclosed
  | finished stats | unwound left =>
      rw [howner] at hunfinished
      cases hunfinished
  | joining =>
      cases hdrain : w.drain with
      | stopped | panicked left =>
          simp only [step, ownerStep, howner, hdrain]
          exact ⟨_, rfl⟩
      | _ =>
          rw [hdrain] at hended
          cases hended
  | reportingLoss push | reportingEnd stats push =>
      cases push with
      | idle =>
          simp only [step, ownerStep, howner]
          exact ⟨_, rfl⟩
      | offering e | blocked e | counting outcome =>
          simp only [step, ownerStep, howner]
          apply exists_report hclosed
          exact PushPhase.noConfusion
  | _ =>
      simp only [step, ownerStep, howner]
      exact ⟨_, rfl⟩

/-- Until the shutdown has ended one of its two threads can go on. -/
theorem exists_ownStep (hdiscipline : Discipline w) (hclosed : w.queue.closed = true)
    (hunfinished : w.owner.hasEnded = false) :
    exists a w', a.isOwn = true ∧ w.step a = some w' := by
  cases hdrain : w.drain.hasEnded with
  | false =>
      rcases exists_drainStep hdrain with ⟨w', hstep⟩
      exact ⟨.drain, w', rfl, hstep⟩
  | true =>
      rcases exists_ownerStep hclosed hdiscipline hdrain hunfinished false with ⟨w', hstep⟩
      exact ⟨.owner false, w', rfl, hstep⟩

/-- The two threads come to the end of the shutdown by themselves. -/
theorem exists_ended (rule : RetryRule) (w : Writer) (hrule : w.config.retryRule = rule)
    (hdiscipline : Discipline w) (hclosed : w.queue.closed = true) :
    exists rest last, w.run rest = some last ∧ (forall a, a ∈ rest -> a.isOwn = true) ∧
      last.owner.hasEnded = true := by
  cases hended : w.owner.hasEnded with
  | true => exact ⟨[], w, rfl, List.forall_mem_nil _, hended⟩
  | false =>
      -- The steps ahead become fewer with every step of its own.
      rcases exists_ownStep hdiscipline hclosed hended with ⟨a, next, hown, hstep⟩
      have hmove := move_of_step hstep
      have hless := stepsAhead_of_step hrule hdiscipline hclosed hstep
      rcases exists_ended rule next (by rw [hmove.config, hrule]) (hdiscipline.move hmove)
        (hmove.stays_closed hclosed) with ⟨rest, last, hrun, hall, hlast⟩
      exists a :: rest, last
      constructor
      · rw [run_cons, hstep]
        exact hrun
      · exact ⟨List.forall_mem_cons.mpr ⟨hown, hall⟩, hlast⟩
termination_by w.stepsAhead rule
decreasing_by
  rw [hown, Bool.toNat_true] at hless
  exact Nat.lt_of_lt_of_le (Nat.lt_add_of_pos_left Nat.one_pos) hless

end Writer

end AsyncLog
