import AsyncLog.Proofs.Queue.Decision
import AsyncLog.Queue.History
/-!
# What a step at the queue can do

A step of a thread either decides about the queue under the lock, or it leaves
the queue as it is and only leads threads to other places of their calls.
-/

namespace AsyncLog.Queue

/-!
## Decisions
-/

/-- What can be answered to a call, and the queue after it; a push may have waited. -/
inductive Rules (q : Queue) (waited : Bool) : Call -> Answer -> Queue -> Prop where
  | push {e : Entry} {outcome : Push} {q' : Queue} : q.Decides e waited outcome q' ->
      Rules q waited (.push e) (.pushed outcome) q'
  | take (mode : DrainMode) :
      Rules q waited (.take mode) (.took (q.take mode).1) (q.take mode).2
  | await (timedOut : Bool) : Rules q waited .awaitEntries (.awaited timedOut) q
  | close : Rules q waited .close .closed q.close

namespace Rules

variable {q q' : Queue} {waited : Bool} {call : Call} {answer : Answer}

theorem capacity (h : q.Rules waited call answer q') : q'.capacity = q.capacity := by
  cases h with
  | push hdecides => exact hdecides.capacity
  | take mode => exact capacity_take q mode
  | await timedOut => rfl
  | close => rfl

/-- A queue with room for an entry holds one when it is full, so that there is an
oldest entry to displace. -/
theorem accords (h : q.Rules waited call answer q') (hcapacity : q.capacity ≠ some 0)
    (thread : Nat) : (Decision.mk thread call answer q q').Accords := by
  cases h with
  | take mode => exact (q.take_append_entries mode).symm
  | await timedOut => rfl
  | close => rfl
  | push hdecides =>
      cases hdecides with
      | reject _ => rfl
      | drop _ _ _ => rfl
      | queue _ _ => rfl
      | displace _ hfull _ =>
          cases hentries : q.entries with
          | nil => exact absurd hentries (entries_ne_nil_of_full hcapacity hfull)
          | cons oldest rest => exact ⟨oldest, rest, hentries, by simp [hentries]⟩

end Rules

namespace Monitor

theorem rules_of_verdict {q q' : Queue} {call : Call} {answer : Answer} (waited : Bool)
    (hpush : forall e, call = .push e -> waited = false)
    (h : verdict q call = some (answer, q')) : q.Rules waited call answer q' := by
  cases call with
  | push e =>
      rw [hpush e rfl]
      simp only [verdict] at h
      cases hoffer : q.offer e with
      | settled outcome q'' =>
          simp only [hoffer, Option.some.injEq, Prod.mk.injEq] at h
          rw [← h.1, ← h.2]
          exact .push (decides_of_offer_settled hoffer)
      | blocked limit => simp [hoffer] at h
  | take mode =>
      simp only [verdict, Option.some.injEq, Prod.mk.injEq] at h
      rw [← h.1, ← h.2]
      exact .take mode
  | awaitEntries =>
      simp only [verdict] at h
      split at h
      · cases h
      · simp only [Option.some.injEq, Prod.mk.injEq] at h
        rw [← h.1, ← h.2]
        exact .await false
  | close =>
      simp only [verdict, Option.some.injEq, Prod.mk.injEq] at h
      rw [← h.1, ← h.2]
      exact .close

theorem rules_of_secondVerdict {q q' : Queue} {timedOut : Bool} {call : Call} {answer : Answer}
    (h : secondVerdict q timedOut call = some (answer, q')) : q.Rules true call answer q' := by
  cases call with
  | push e =>
      simp only [secondVerdict] at h
      split at h
      · cases h
      · simp only [Option.some.injEq, Prod.mk.injEq] at h
        rw [← h.1, ← h.2]
        exact .push (q.decides_reoffer e)
  | awaitEntries =>
      simp only [secondVerdict] at h
      split at h
      · split at h
        · simp only [Option.some.injEq, Prod.mk.injEq] at h
          rw [← h.1, ← h.2]
          exact .await true
        · cases h
      · simp only [Option.some.injEq, Prod.mk.injEq] at h
        rw [← h.1, ← h.2]
        exact .await false
  | take mode => exact rules_of_verdict true (fun _ hcall => by cases hcall) h
  | close => exact rules_of_verdict true (fun _ hcall => by cases hcall) h

/-!
## Places of threads
-/

variable {m m' : Monitor}

theorem phase_setPhase (m : Monitor) (thread other : Nat) (phase : Phase) :
    (m.setPhase thread phase).phase other =
      if thread = other ∧ thread < m.threads.length then phase else m.phase other := by
  simp only [Monitor.phase, setPhase, List.getD_eq_getElem?_getD, List.getElem?_set]
  by_cases hthread : thread = other
  · subst hthread
    by_cases hlt : thread < m.threads.length
    · simp [hlt]
    · simp [hlt]
  · simp [hthread]

theorem phase_setPhase_self {thread : Nat} {phase : Phase} (h : thread < m.threads.length) :
    (m.setPhase thread phase).phase thread = phase := by
  rw [phase_setPhase, if_pos ⟨rfl, h⟩]

theorem phase_setPhase_other {thread other : Nat} {phase : Phase} (h : thread ≠ other) :
    (m.setPhase thread phase).phase other = m.phase other := by
  rw [phase_setPhase, if_neg fun hboth => h hboth.1]

theorem lt_length_of_phase {thread : Nat} (h : m.phase thread ≠ .idle) :
    thread < m.threads.length := by
  rcases Nat.lt_or_ge thread m.threads.length with hlt | hge
  · exact hlt
  · have hidle : m.phase thread = .idle := by
      rw [Monitor.phase, List.getD_eq_getElem?_getD, List.getElem?_eq_none hge]
      rfl
    exact absurd hidle h

structure Wakes (m m' : Monitor) : Prop where
  queue : m'.queue = m.queue
  holder : m'.holder = m.holder
  length : m'.threads.length = m.threads.length
  phase : forall thread, m'.phase thread = m.phase thread ∨
    m'.phase thread = (m.phase thread).woken

theorem wakes_of_deliver {reached : Option Nat} {signal : Signal}
    (h : m.deliver reached signal = some m') : Wakes m m' := by
  cases signal with
  | all condition =>
      cases reached with
      | some sleeper => cases h
      | none =>
          simp only [deliver, Option.some.injEq] at h
          rw [← h]
          refine ⟨rfl, rfl, List.length_map _, ?_⟩
          intro thread
          simp only [Monitor.phase, List.getD_eq_getElem?_getD, List.getElem?_map]
          cases m.threads[thread]? with
          | none => exact Or.inl rfl
          | some phase =>
              cases hsleeps : phase.sleepsOn condition with
              | true => exact Or.inr (by simp [hsleeps])
              | false => exact Or.inl (by simp [hsleeps])
  | one condition =>
      cases reached with
      | none =>
          simp only [deliver] at h
          split at h
          · cases h
          · simp only [Option.some.injEq] at h
            rw [← h]
            exact ⟨rfl, rfl, rfl, fun _ => Or.inl rfl⟩
      | some sleeper =>
          simp only [deliver] at h
          split at h
          · simp only [Option.some.injEq] at h
            rw [← h]
            refine ⟨rfl, rfl, List.length_set, ?_⟩
            intro thread
            rw [phase_setPhase]
            by_cases hboth : sleeper = thread ∧ sleeper < m.threads.length
            · rw [if_pos hboth, hboth.1]
              exact Or.inr rfl
            · rw [if_neg hboth]
              exact Or.inl rfl
          · cases h

/-!
## Steps
-/

inductive Decides (m : Monitor) (thread : Nat) (call : Call) : (waited : Bool) -> Prop where
  | first : m.phase thread = .deciding call -> Decides m thread call false
  | again {timedOut : Bool} : m.phase thread = .redeciding call timedOut ->
      Decides m thread call true

theorem Decides.lt_length {thread : Nat} {call : Call} {waited : Bool}
    (h : m.Decides thread call waited) : thread < m.threads.length := by
  cases h with
  | first hphase => exact lt_length_of_phase (by simp [hphase])
  | again hphase => exact lt_length_of_phase (by simp [hphase])

theorem of_decision? {s : Step} {d : Decision} (h : m.decision? s = some d) :
    s = .decide d.thread ∧ d.before = m.queue ∧
      exists waited, m.Decides d.thread d.call waited ∧
        m.queue.Rules waited d.call d.answer d.after := by
  cases s with
  | decide thread =>
      simp only [decision?] at h
      cases hphase : m.phase thread with
      | deciding call =>
          simp only [hphase, Option.map_eq_some_iff] at h
          rcases h with ⟨⟨answer, queue⟩, hverdict, rfl⟩
          exact ⟨rfl, rfl, false, .first hphase, rules_of_verdict false (fun _ _ => rfl) hverdict⟩
      | redeciding call timedOut =>
          simp only [hphase, Option.map_eq_some_iff] at h
          rcases h with ⟨⟨answer, queue⟩, hverdict, rfl⟩
          exact ⟨rfl, rfl, true, .again hphase, rules_of_secondVerdict hverdict⟩
      | _ => simp [hphase] at h
  | _ => cases h

/-- What one step can do. -/
inductive Move (m : Monitor) : Step -> Monitor -> Prop where
  | call {thread : Nat} (call : Call) : thread < m.threads.length ->
      m.phase thread = .idle ∨ (exists answer, m.phase thread = .returned answer) ->
      Move m (.call thread call) (m.setPhase thread (.locking call))
  | lock {thread : Nat} {call : Call} : m.holder = none -> m.phase thread = .locking call ->
      Move m (.acquire thread) ({ m with holder := some thread }.setPhase thread (.deciding call))
  | relock {thread : Nat} {call : Call} {timedOut : Bool} : m.holder = none ->
      m.phase thread = .relocking call timedOut ->
      Move m (.acquire thread)
        ({ m with holder := some thread }.setPhase thread (.redeciding call timedOut))
  | answer (d : Decision) : m.decision? (.decide d.thread) = some d ->
      Move m (.decide d.thread)
        ({ m with queue := d.after, holder := none }.setPhase d.thread
          (.notifying d.answer.signals d.answer))
  | sleep {thread : Nat} {call : Call} {waited : Bool} : m.Decides thread call waited ->
      m.decision? (.decide thread) = none ->
      Move m (.decide thread) ({ m with holder := none }.setPhase thread (.asleep call))
  | notify {thread : Nat} {reached : Option Nat} {signal : Signal} {rest : List Signal}
      {answer : Answer} {m' : Monitor} : m.phase thread = .notifying (signal :: rest) answer ->
      m.deliver reached signal = some m' ->
      Move m (.notify thread reached) (m'.setPhase thread (.notifying rest answer))
  | finish {thread : Nat} {answer : Answer} (reached : Option Nat) :
      m.phase thread = .notifying [] answer ->
      Move m (.notify thread reached) (m.setPhase thread (.returned answer))
  | timeout {thread : Nat} {call : Call} :
      m.phase thread = .asleep call ∨ m.phase thread = .relocking call false ->
      Move m (.timeout thread) (m.setPhase thread (.relocking call true))
  | wakeUp {thread : Nat} {call : Call} : m.phase thread = .asleep call ->
      Move m (.wakeUp thread) (m.setPhase thread (.relocking call false))

theorem move_conclude {thread : Nat} {call : Call} {waited : Bool}
    {verdict : Option (Answer × Queue)} (hdecides : m.Decides thread call waited)
    (hdecision : m.decision? (.decide thread) =
      verdict.map fun v => ⟨thread, call, v.1, m.queue, v.2⟩) :
    Move m (.decide thread) (m.conclude thread call verdict) := by
  cases verdict with
  | none => exact .sleep hdecides hdecision
  | some answered => exact .answer ⟨thread, call, answered.1, m.queue, answered.2⟩ hdecision

theorem move_of_decide {thread : Nat} (h : m.step (.decide thread) = some m') :
    Move m (.decide thread) m' := by
  cases hphase : m.phase thread with
  | deciding call =>
      simp only [step, hphase, Option.some.injEq] at h
      exact h ▸ move_conclude (.first hphase) (by simp only [decision?, hphase])
  | redeciding call timedOut =>
      simp only [step, hphase, Option.some.injEq] at h
      exact h ▸ move_conclude (.again hphase) (by simp only [decision?, hphase])
  | _ => simp [step, hphase] at h

theorem move_of_acquire {thread : Nat} (h : m.step (.acquire thread) = some m') :
    Move m (.acquire thread) m' := by
  cases hholder : m.holder with
  | some holder => simp [step, hholder] at h
  | none =>
      cases hphase : m.phase thread with
      | locking call =>
          simp only [step, hholder, hphase, Option.some.injEq] at h
          exact h ▸ .lock hholder hphase
      | relocking call timedOut =>
          simp only [step, hholder, hphase, Option.some.injEq] at h
          exact h ▸ .relock hholder hphase
      | _ => simp [step, hholder, hphase] at h

theorem move_of_notify {thread : Nat} {reached : Option Nat}
    (h : m.step (.notify thread reached) = some m') : Move m (.notify thread reached) m' := by
  cases hphase : m.phase thread with
  | notifying signals answer =>
      cases signals with
      | nil =>
          simp only [step, hphase, Option.some.injEq] at h
          exact h ▸ .finish reached hphase
      | cons signal rest =>
          simp only [step, hphase, Option.map_eq_some_iff] at h
          rcases h with ⟨next, hdeliver, rfl⟩
          exact .notify hphase hdeliver
  | _ => simp [step, hphase] at h

theorem move_of_step {s : Step} (h : m.step s = some m') : Move m s m' := by
  cases s with
  | call thread call =>
      cases hphase : m.phase thread with
      | idle =>
          simp only [step, hphase, Option.ite_none_right_eq_some, Option.some.injEq] at h
          exact h.2 ▸ .call call h.1 (Or.inl hphase)
      | returned answer =>
          simp only [step, hphase, Option.ite_none_right_eq_some, Option.some.injEq] at h
          exact h.2 ▸ .call call h.1 (Or.inr ⟨answer, hphase⟩)
      | _ => simp [step, hphase] at h
  | acquire thread => exact move_of_acquire h
  | decide thread => exact move_of_decide h
  | notify thread reached => exact move_of_notify h
  | timeout thread =>
      cases hphase : m.phase thread with
      | asleep call =>
          simp only [step, hphase, Option.some.injEq] at h
          exact h ▸ .timeout (Or.inl hphase)
      | relocking call timedOut =>
          cases timedOut with
          | true => simp [step, hphase] at h
          | false =>
              simp only [step, hphase, Option.some.injEq] at h
              exact h ▸ .timeout (Or.inr hphase)
      | _ => simp [step, hphase] at h
  | wakeUp thread =>
      cases hphase : m.phase thread with
      | asleep call =>
          simp only [step, hphase, Option.some.injEq] at h
          exact h ▸ .wakeUp hphase
      | _ => simp [step, hphase] at h

structure Shift (m m' : Monitor) (thread : Nat) (phase' : Phase) : Prop where
  self : m'.phase thread = phase'
  others : forall other, thread ≠ other ->
    m'.phase other = m.phase other ∨ m'.phase other = (m.phase other).woken

theorem Wakes.shift {thread : Nat} (h : Wakes m m') (phase' : Phase)
    (hlt : thread < m.threads.length) : Shift m (m'.setPhase thread phase') thread phase' where
  self := phase_setPhase_self (h.length.symm ▸ hlt)
  others := by
    intro other hother
    rw [phase_setPhase_other hother]
    exact h.phase other

theorem shift_setPhase {thread : Nat} (queue : Queue) (holder : Option Nat) (phase' : Phase)
    (hlt : thread < m.threads.length) :
    Shift m ({ m with queue := queue, holder := holder }.setPhase thread phase') thread phase' where
  self := phase_setPhase_self hlt
  others := fun _ hother => Or.inl (phase_setPhase_other hother)

theorem run_induction {P : Monitor -> Prop} {steps : List Step}
    (hmove : forall {m m' : Monitor} {s : Step}, s ∈ steps -> P m -> Move m s m' -> P m')
    {m m' : Monitor} (h : P m) (hrun : m.run steps = some m') : P m' := by
  induction steps generalizing m with
  | nil =>
      simp only [run_nil, Option.some.injEq] at hrun
      exact hrun ▸ h
  | cons s rest ih =>
      simp only [run_cons, Option.bind_eq_some_iff] at hrun
      rcases hrun with ⟨next, hstep, hrest⟩
      have hnext := hmove List.mem_cons_self h (move_of_step hstep)
      exact ih (fun hs => hmove (List.mem_cons_of_mem s hs)) hnext hrest

end Monitor

end AsyncLog.Queue
