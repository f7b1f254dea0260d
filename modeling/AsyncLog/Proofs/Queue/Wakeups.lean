import AsyncLog.Proofs.Queue.Conservation
/-!
# Sleepers at the queue

A thread sends its notifications after it has given the lock up, so for a while others
may sleep although there is something for them to do.  Once all notifications have been
sent this is over: whoever still sleeps has a reason to.  A new entry wakes a single
sleeper, so this takes that no more than one thread waits for entries.
-/

namespace AsyncLog.Queue

def Call.hasReason (q : Queue) : Call -> Bool
  | .push _ => q.keepsWaiting
  | .awaitEntries => q.isQuiet
  | .take _ | .close => false

def Signal.condition : Signal -> Condition
  | .one condition | .all condition => condition

def Phase.owed : Phase -> List Signal
  | .notifying signals _ => signals
  | _ => []

def Monitor.Step.actor : Monitor.Step -> Nat
  | .call thread _ | .acquire thread | .decide thread | .notify thread _ | .timeout thread
  | .wakeUp thread => thread

theorem Phase.owed_woken (phase : Phase) : phase.woken.owed = phase.owed := by
  cases phase <;> rfl

theorem Phase.woken_ne_asleep (phase : Phase) (call : Call) : phase.woken ≠ .asleep call := by
  cases phase <;> simp [Phase.woken]

theorem Call.sleeps_of_hasReason {q : Queue} {call : Call} (h : call.hasReason q = true) :
    call = .awaitEntries ∨ exists e, call = .push e := by
  cases call with
  | push e => exact Or.inr ⟨e, rfl⟩
  | awaitEntries => exact Or.inl rfl
  | take mode | close => cases h

theorem Answer.not_one_notFull (answer : Answer) : .one .notFull ∉ answer.signals := by
  cases answer with
  | pushed outcome => cases outcome <;> simp [Answer.signals]
  | took entries => cases entries <;> simp [Answer.signals]
  | awaited timedOut => simp [Answer.signals]
  | closed => simp [Answer.signals]

/-!
## Decisions and sleepers
-/

theorem keepsWaiting_iff (q : Queue) :
    q.keepsWaiting = true ↔ q.closed = false ∧ q.isFull = true := by
  simp [keepsWaiting]

theorem isQuiet_iff (q : Queue) : q.isQuiet = true ↔ q.entries = [] ∧ q.closed = false := by
  simp [isQuiet]

theorem isFull_displaceOldest {q : Queue} (e : Entry) (h : q.isFull = true) :
    (q.displaceOldest e).isFull = true := by
  unfold isFull at h ⊢
  have hcapacity : (q.displaceOldest e).capacity = q.capacity := rfl
  rw [hcapacity]
  cases hlimit : q.capacity with
  | none => simp [hlimit] at h
  | some n =>
      simp only [hlimit, decide_eq_true_eq] at h ⊢
      simp only [entries_displaceOldest, List.length_append, List.length_tail,
        List.length_singleton]
      omega

/-- Whatever takes a sleeper's reason away is followed by a notification. -/
theorem Rules.hasReason_or_signals {q q' : Queue} {waited : Bool} {made call : Call}
    {answer : Answer} (h : q.Rules waited made answer q') (hreason : call.hasReason q = true) :
    call.hasReason q' = true ∨
      exists signal, signal ∈ answer.signals ∧ signal.condition = call.condition := by
  cases call with
  | push e =>
      rcases (keepsWaiting_iff q).mp hreason with ⟨hopen, hfull⟩
      cases h with
      | push hdecides =>
          cases hdecides with
          | reject _ | drop _ _ _ => exact Or.inl hreason
          | displace _ _ _ =>
              exact Or.inl ((keepsWaiting_iff _).mpr ⟨hopen, isFull_displaceOldest _ hfull⟩)
          | queue _ hroom => simp [hfull] at hroom
      | take mode =>
          cases htaken : (q.take mode).1 with
          | nil =>
              left
              have hentries : (q.take mode).2.entries = q.entries := by
                have hall := q.take_append_entries mode
                rwa [htaken, List.nil_append] at hall
              rw [Call.hasReason, keepsWaiting_iff, isFull, closed_take, capacity_take, hentries]
              exact ⟨hopen, hfull⟩
          | cons first rest => exact Or.inr ⟨.all .notFull, by simp [Answer.signals], rfl⟩
      | await _ => exact Or.inl hreason
      | close => exact Or.inr ⟨.all .notFull, by simp [Answer.signals], rfl⟩
  | awaitEntries =>
      rcases (isQuiet_iff q).mp hreason with ⟨hempty, hopen⟩
      cases h with
      | push hdecides =>
          cases hdecides with
          | reject _ | drop _ _ _ => exact Or.inl hreason
          | displace _ _ _ | queue _ _ => exact Or.inr ⟨.one .notEmpty, by simp [Answer.signals], rfl⟩
      | take mode =>
          left
          have hall := q.take_append_entries mode
          rw [hempty, List.append_eq_nil_iff] at hall
          exact (isQuiet_iff _).mpr ⟨hall.2, by rw [closed_take, hopen]⟩
      | await _ => exact Or.inl hreason
      | close => exact Or.inr ⟨.all .notEmpty, by simp [Answer.signals], rfl⟩
  | take mode | close => cases hreason

namespace Monitor

theorem hasReason_of_verdict {q : Queue} {call : Call} (h : verdict q call = none) :
    call.hasReason q = true := by
  cases call with
  | push e =>
      cases hoffer : q.offer e with
      | settled outcome q' => simp [verdict, hoffer] at h
      | blocked limit =>
          rcases offer_blocked hoffer with ⟨hopen, hfull, _⟩
          exact (keepsWaiting_iff q).mpr ⟨hopen, hfull⟩
  | awaitEntries =>
      simp only [verdict] at h
      split at h
      · rename_i hquiet
        exact hquiet
      · cases h
  | take mode | close => cases h

theorem hasReason_of_secondVerdict {q : Queue} {timedOut : Bool} {call : Call}
    (h : secondVerdict q timedOut call = none) : call.hasReason q = true := by
  cases call with
  | push e =>
      simp only [secondVerdict] at h
      split at h
      · rename_i hwaits
        exact ((Bool.and_eq_true _ _).mp hwaits).1
      · cases h
  | awaitEntries =>
      simp only [secondVerdict] at h
      split at h
      · rename_i hquiet
        exact hquiet
      · cases h
  | take mode | close => cases h

variable {m m' : Monitor}

theorem hasReason_of_sleep {thread : Nat} {call : Call} {waited : Bool}
    (hdecides : m.Decides thread call waited) (hnone : m.decision? (.decide thread) = none) :
    call.hasReason m.queue = true := by
  cases hdecides with
  | first hphase =>
      simp only [decision?, hphase, Option.map_eq_none_iff] at hnone
      exact hasReason_of_verdict hnone
  | again hphase =>
      simp only [decision?, hphase, Option.map_eq_none_iff] at hnone
      exact hasReason_of_secondVerdict hnone

/-!
## Steps and sleepers
-/

/-- What a step means for sleepers: its thread falls asleep with a reason, decides,
notifies, or goes on without any of this. -/
inductive Stir (m : Monitor) (s : Step) (m' : Monitor) : Prop where
  | sleep {call : Call} : Shift m m' s.actor (.asleep call) -> call.hasReason m.queue = true ->
      (m.phase s.actor).owed = [] -> m'.queue = m.queue -> Stir m s m'
  | decide (d : Decision) : m.decision? s = some d ->
      Shift m m' s.actor (.notifying d.answer.signals d.answer) ->
      (m.phase s.actor).owed = [] -> m'.queue = d.after -> Stir m s m'
  | notify {signal : Signal} {rest : List Signal} {answer : Answer} {reached : Option Nat}
      {next : Monitor} : m.phase s.actor = .notifying (signal :: rest) answer ->
      m.deliver reached signal = some next -> Shift m m' s.actor (.notifying rest answer) ->
      (forall other, s.actor ≠ other -> m'.phase other = next.phase other) ->
      m'.queue = m.queue -> Stir m s m'
  | silent {phase' : Phase} : Shift m m' s.actor phase' ->
      (forall call, phase' ≠ .asleep call) -> phase'.owed = [] ->
      (m.phase s.actor).owed = [] -> m'.queue = m.queue -> Stir m s m'

theorem stir_of_move {s : Step} (hmove : Move m s m') : Stir m s m' := by
  cases hmove with
  | @call thread made hlt hout =>
      refine .silent (shift_setPhase m.queue m.holder (.locking made) hlt) (by simp) rfl ?_ rfl
      rcases hout with hidle | ⟨answer, hreturned⟩
      · exact congrArg Phase.owed hidle
      · exact congrArg Phase.owed hreturned
  | @lock thread made _ hphase =>
      have hlt : thread < m.threads.length := lt_length_of_phase (by simp [hphase])
      exact .silent (shift_setPhase m.queue (some thread) (.deciding made) hlt) (by simp) rfl
        (congrArg Phase.owed hphase) rfl
  | @relock thread made timedOut _ hphase =>
      have hlt : thread < m.threads.length := lt_length_of_phase (by simp [hphase])
      exact .silent (shift_setPhase m.queue (some thread) (.redeciding made timedOut) hlt)
        (by simp) rfl (congrArg Phase.owed hphase) rfl
  | answer d hd =>
      rcases of_decision? hd with ⟨_, _, waited, hdecides, _⟩
      refine .decide d hd (shift_setPhase d.after none _ hdecides.lt_length) ?_ rfl
      cases hdecides with
      | first hphase | again hphase => exact congrArg Phase.owed hphase
  | @sleep thread made waited hdecides hnone =>
      refine .sleep (shift_setPhase m.queue none _ hdecides.lt_length)
        (hasReason_of_sleep hdecides hnone) ?_ rfl
      cases hdecides with
      | first hphase | again hphase => exact congrArg Phase.owed hphase
  | @notify thread reached signal rest answer next hphase hdeliver =>
      have hlt : thread < m.threads.length := lt_length_of_phase (by simp [hphase])
      have hwakes := wakes_of_deliver hdeliver
      exact .notify hphase hdeliver (hwakes.shift _ hlt)
        (fun _ hother => phase_setPhase_other hother) hwakes.queue
  | @finish thread answer reached hphase =>
      have hlt : thread < m.threads.length := lt_length_of_phase (by simp [hphase])
      exact .silent (shift_setPhase m.queue m.holder (.returned answer) hlt) (by simp) rfl
        (congrArg Phase.owed hphase) rfl
  | @timeout thread made hphase =>
      have howed : (m.phase thread).owed = [] := by
        rcases hphase with hphase | hphase <;> exact congrArg Phase.owed hphase
      have hlt : thread < m.threads.length := by
        apply lt_length_of_phase
        rcases hphase with hphase | hphase <;> simp [hphase]
      exact .silent (shift_setPhase m.queue m.holder (.relocking made true) hlt) (by simp) rfl
        howed rfl
  | @wakeUp thread made hphase =>
      have hlt : thread < m.threads.length := lt_length_of_phase (by simp [hphase])
      exact .silent (shift_setPhase m.queue m.holder (.relocking made false) hlt) (by simp) rfl
        (congrArg Phase.owed hphase) rfl

namespace Shift

variable {thread other : Nat} {phase' : Phase}

theorem asleep_other (h : Shift m m' thread phase') (hother : thread ≠ other) {call : Call}
    (hasleep : m'.phase other = .asleep call) : m.phase other = .asleep call := by
  rcases h.others other hother with hsame | hwoken
  · rw [← hsame]
    exact hasleep
  · rw [hwoken] at hasleep
    exact absurd hasleep (Phase.woken_ne_asleep _ _)

theorem owed_other (h : Shift m m' thread phase') (hother : thread ≠ other) :
    (m'.phase other).owed = (m.phase other).owed := by
  rcases h.others other hother with hsame | hwoken
  · rw [hsame]
  · rw [hwoken, Phase.owed_woken]

end Shift

namespace Stir

variable {s : Step}

theorem asleep (h : Stir m s m') {thread : Nat} {call : Call}
    (hasleep : m'.phase thread = .asleep call) :
    m.phase thread = .asleep call ∨
      (call.hasReason m.queue = true ∧ call.hasReason m'.queue = true) := by
  by_cases hactor : s.actor = thread
  · subst hactor
    cases h with
    | sleep hshift hreason _ hqueue =>
        rw [hshift.self, Phase.asleep.injEq] at hasleep
        rw [hqueue, ← hasleep]
        exact Or.inr ⟨hreason, hreason⟩
    | decide d _ hshift _ _ =>
        rw [hshift.self] at hasleep
        cases hasleep
    | notify _ _ hshift _ _ =>
        rw [hshift.self] at hasleep
        cases hasleep
    | silent hshift hawake _ _ _ =>
        rw [hshift.self] at hasleep
        exact absurd hasleep (hawake call)
  · cases h with
    | sleep hshift _ _ _ | decide _ _ hshift _ _ | notify _ _ hshift _ _
    | silent hshift _ _ _ _ => exact Or.inl (hshift.asleep_other hactor hasleep)

theorem owed (h : Stir m s m') {thread : Nat} {signal : Signal}
    (howed : signal ∈ (m'.phase thread).owed) :
    signal ∈ (m.phase thread).owed ∨
      exists d, m.decision? s = some d ∧ signal ∈ d.answer.signals := by
  by_cases hactor : s.actor = thread
  · subst hactor
    cases h with
    | sleep hshift _ _ _ =>
        rw [hshift.self] at howed
        cases howed
    | decide d hd hshift _ _ =>
        rw [hshift.self] at howed
        exact Or.inr ⟨d, hd, howed⟩
    | notify hphase _ hshift _ _ =>
        rw [hshift.self] at howed
        rw [hphase]
        exact Or.inl (List.mem_cons_of_mem _ howed)
    | silent hshift _ hnone _ _ =>
        rw [hshift.self, hnone] at howed
        cases howed
  · cases h with
    | sleep hshift _ _ _ | decide _ _ hshift _ _ | notify _ _ hshift _ _
    | silent hshift _ _ _ _ => exact Or.inl (hshift.owed_other hactor ▸ howed)

theorem owes (h : Stir m s m') {thread : Nat} {signal : Signal}
    (howed : signal ∈ (m.phase thread).owed) :
    signal ∈ (m'.phase thread).owed ∨
      exists reached next, m.deliver reached signal = some next ∧
        forall other, thread ≠ other -> m'.phase other = next.phase other := by
  by_cases hactor : s.actor = thread
  · subst hactor
    cases h with
    | notify hphase hdeliver hshift hnext _ =>
        rw [hphase] at howed
        rcases List.mem_cons.mp howed with hfirst | hrest
        · exact Or.inr ⟨_, _, hfirst ▸ hdeliver, hnext⟩
        · rw [hshift.self]
          exact Or.inl hrest
    | sleep _ _ hnone _ | decide _ _ _ hnone _ | silent _ _ _ hnone _ =>
        rw [hnone] at howed
        cases howed
  · cases h with
    | sleep hshift _ _ _ | decide _ _ hshift _ _ | notify _ _ hshift _ _
    | silent hshift _ _ _ _ => exact Or.inl ((hshift.owed_other hactor).symm ▸ howed)

/-- A step that takes a reason away is a decision, whose notifications are owed then. -/
theorem reason (h : Stir m s m') {call : Call} (hreason : call.hasReason m.queue = true) :
    call.hasReason m'.queue = true ∨
      exists signal, signal ∈ (m'.phase s.actor).owed ∧ signal.condition = call.condition := by
  cases h with
  | decide d hd hshift _ hqueue =>
      rcases of_decision? hd with ⟨_, _, _, _, hrules⟩
      rw [hqueue, hshift.self]
      exact hrules.hasReason_or_signals hreason
  | sleep _ _ _ hqueue | notify _ _ _ _ hqueue | silent _ _ _ _ hqueue =>
      rw [hqueue]
      exact Or.inl hreason

end Stir

theorem sleepsOn_of_deliver {reached : Option Nat} {signal : Signal}
    (h : m.deliver reached signal = some m') {thread : Nat} {call : Call}
    (hasleep : m'.phase thread = .asleep call) (hcondition : signal.condition = call.condition) :
    signal = .one call.condition ∧
      exists other, other ≠ thread ∧ (m.phase other).sleepsOn call.condition = true := by
  have hbefore : m.phase thread = .asleep call := by
    rcases (wakes_of_deliver h).phase thread with hsame | hwoken
    · rw [← hsame, hasleep]
    · rw [hwoken] at hasleep
      exact absurd hasleep (Phase.woken_ne_asleep _ _)
  have hsleeps : (m.phase thread).sleepsOn signal.condition = true := by
    rw [hbefore, hcondition]
    simp [Phase.sleepsOn]
  have hlt : thread < m.threads.length := lt_length_of_phase (by simp [hbefore])
  cases signal with
  | all condition =>
      cases reached with
      | some sleeper => cases h
      | none =>
          simp only [deliver, Option.some.injEq] at h
          have hget : m.threads[thread]? = some (m.phase thread) := by
            rw [Monitor.phase, List.getD_eq_getElem?_getD, List.getElem?_eq_getElem hlt]
            rfl
          have hwoken : m'.phase thread = (m.phase thread).woken := by
            have hif : (if (m.phase thread).sleepsOn condition then (m.phase thread).woken
                else m.phase thread) = (m.phase thread).woken := if_pos hsleeps
            rw [← h, Monitor.phase, List.getD_eq_getElem?_getD, List.getElem?_map, hget]
            exact hif
          rw [hwoken] at hasleep
          exact absurd hasleep (Phase.woken_ne_asleep _ _)
  | one condition =>
      have hone : condition = call.condition := hcondition
      refine ⟨by rw [hone], ?_⟩
      cases reached with
      | none =>
          simp only [deliver] at h
          split at h
          · cases h
          · rename_i hnobody
            exfalso
            apply hnobody
            rw [List.any_eq_true]
            refine ⟨m.phase thread, ?_, hsleeps⟩
            rw [Monitor.phase, List.getD_eq_getElem?_getD, List.getElem?_eq_getElem hlt]
            exact List.getElem_mem hlt
      | some sleeper =>
          simp only [deliver] at h
          split at h
          · rename_i hreached
            rw [hone] at hreached
            refine ⟨sleeper, ?_, hreached⟩
            intro hsame
            simp only [Option.some.injEq] at h
            rw [hsame] at h
            rw [← h, phase_setPhase_self hlt] at hasleep
            exact Phase.woken_ne_asleep _ _ hasleep
          · cases h

/-!
## Runs
-/

/-- Everyone asleep has a reason or is about to be notified.  A single thread waits for
entries; there may be many that wait for room, and all of them are notified at once. -/
structure Watched (fetcher : Nat) (m : Monitor) : Prop where
  reason : forall thread call, m.phase thread = .asleep call ->
    call.hasReason m.queue = true ∨
      exists other signal, signal ∈ (m.phase other).owed ∧ signal.condition = call.condition
  sleeps : forall thread call, m.phase thread = .asleep call ->
    call = .awaitEntries ∨ exists e, call = .push e
  fetches : forall thread, .awaitEntries ∈ (m.phase thread).undecided -> thread = fetcher
  broadcast : forall thread, .one .notFull ∉ (m.phase thread).owed

namespace Watched

variable {fetcher : Nat}

theorem fetcher_of_sleepsOn (h : Watched fetcher m) {thread : Nat}
    (hsleeps : (m.phase thread).sleepsOn .notEmpty = true) : thread = fetcher := by
  cases hphase : m.phase thread with
  | asleep call =>
      apply h.fetches
      rcases h.sleeps thread call hphase with rfl | ⟨e, rfl⟩
      · rw [hphase]
        exact List.mem_singleton_self _
      · rw [hphase] at hsleeps
        cases hsleeps
  | _ =>
      rw [hphase] at hsleeps
      cases hsleeps

theorem awake_of_deliver (h : Watched fetcher m) {thread notifier : Nat} {reached : Option Nat}
    {signal : Signal} {call : Call} (howed : signal ∈ (m.phase notifier).owed)
    (hdeliver : m.deliver reached signal = some m')
    (hcondition : signal.condition = call.condition) : m'.phase thread ≠ .asleep call := by
  intro hasleep
  rcases sleepsOn_of_deliver hdeliver hasleep hcondition with ⟨hone, other, hother, hsleeps⟩
  rw [hone] at howed
  cases hcall : call.condition with
  | notFull =>
      rw [hcall] at howed
      exact h.broadcast notifier howed
  | notEmpty =>
      have hself : (m.phase thread).sleepsOn .notEmpty = true := by
        rcases (wakes_of_deliver hdeliver).phase thread with hsame | hwoken
        · rw [← hsame, hasleep]
          simp [Phase.sleepsOn, hcall]
        · rw [hwoken] at hasleep
          exact absurd hasleep (Phase.woken_ne_asleep _ _)
      rw [hcall] at hsleeps
      exact hother ((h.fetcher_of_sleepsOn hsleeps).trans (h.fetcher_of_sleepsOn hself).symm)

theorem move {s : Step} (hfetcher : forall thread, s = .call thread .awaitEntries ->
    thread = fetcher) (h : Watched fetcher m) (hmove : Move m s m') : Watched fetcher m' := by
  have hstir := stir_of_move hmove
  constructor
  · intro thread call hasleep
    rcases hstir.asleep hasleep with hbefore | ⟨_, hreason⟩
    · rcases h.reason thread call hbefore with hreason | ⟨other, signal, howed, hcondition⟩
      · rcases hstir.reason hreason with hreason' | ⟨signal, howed, hcondition⟩
        · exact Or.inl hreason'
        · exact Or.inr ⟨s.actor, signal, howed, hcondition⟩
      · rcases hstir.owes howed with howed' | ⟨reached, next, hdeliver, hnext⟩
        · exact Or.inr ⟨other, signal, howed', hcondition⟩
        · have hother : other ≠ thread := by
            intro hsame
            rw [hsame, hbefore] at howed
            cases howed
          rw [hnext thread hother] at hasleep
          exact absurd hasleep (h.awake_of_deliver howed hdeliver hcondition)
    · exact Or.inl hreason
  · intro thread call hasleep
    rcases hstir.asleep hasleep with hbefore | ⟨hreason, _⟩
    · exact h.sleeps thread call hbefore
    · exact Call.sleeps_of_hasReason hreason
  · intro thread hundecided
    have hcalls : .awaitEntries ∈ (m.phase thread).undecided ++ s.callsOf thread := by
      rw [(turn_of_move hmove thread).calls]
      exact List.mem_append_right _ hundecided
    rcases List.mem_append.mp hcalls with hbefore | hnew
    · exact h.fetches thread hbefore
    · apply hfetcher
      cases s with
      | call caller made =>
          simp only [Step.callsOf] at hnew
          split at hnew
          · rename_i hcaller
            rw [hcaller, List.mem_singleton.mp hnew]
          · cases hnew
      | _ => cases hnew
  · intro thread howed
    rcases hstir.owed howed with hbefore | ⟨d, _, hsignals⟩
    · exact h.broadcast thread hbefore
    · exact d.answer.not_one_notFull hsignals

theorem start (queue : Queue) (threads fetcher : Nat) :
    Watched fetcher (start queue threads) := by
  constructor
  · intro thread call hasleep
    rw [phase_start] at hasleep
    cases hasleep
  · intro thread call hasleep
    rw [phase_start] at hasleep
    cases hasleep
  · intro thread hundecided
    rw [phase_start] at hundecided
    cases hundecided
  · intro thread howed
    rw [phase_start] at howed
    cases howed

theorem of_run {queue : Queue} {threads : Nat} {steps : List Step}
    (hfetcher : forall thread, .call thread .awaitEntries ∈ steps -> thread = fetcher)
    (hrun : (Monitor.start queue threads).run steps = some m) : Watched fetcher m := by
  refine run_induction ?_ (start queue threads fetcher) hrun
  intro m m' s hs h hmove
  exact h.move (fun thread hcall => hfetcher thread (hcall ▸ hs)) hmove

end Watched

/-- No thread stands between giving the lock up and its last notification. -/
def HasNotified (m : Monitor) : Prop :=
  forall phase, phase ∈ m.threads -> phase.owed = []

instance (m : Monitor) : Decidable m.HasNotified :=
  inferInstanceAs (Decidable (forall phase, phase ∈ m.threads -> phase.owed = []))

theorem HasNotified.owed (h : m.HasNotified) (thread : Nat) : (m.phase thread).owed = [] := by
  rw [Monitor.phase, List.getD_eq_getElem?_getD]
  cases hphase : m.threads[thread]? with
  | none => rfl
  | some phase => exact h phase (List.mem_of_getElem? hphase)

/-- Once all notifications have been sent, the thread that waits for entries only sleeps at
an empty open queue, and those that wait for room only at a full open one. -/
theorem no_wakeup_lost {capacity : Option Nat} {overflow : OverflowPolicy}
    {threads fetcher : Nat} {steps : List Step} {m : Monitor}
    (hfetcher : forall thread, .call thread .awaitEntries ∈ steps -> thread = fetcher)
    (hrun : (start { capacity, overflow } threads).run steps = some m)
    (hnotified : m.HasNotified) :
    (m.phase fetcher = .asleep .awaitEntries ->
      m.queue.entries = [] ∧ m.queue.closed = false) ∧
    forall producer e, m.phase producer = .asleep (.push e) ->
      m.queue.isFull = true ∧ m.queue.closed = false := by
  have hwatched := Watched.of_run hfetcher hrun
  have hreason : forall thread call, m.phase thread = .asleep call ->
      call.hasReason m.queue = true := by
    intro thread call hasleep
    rcases hwatched.reason thread call hasleep with hreason | ⟨other, signal, howed, _⟩
    · exact hreason
    · rw [hnotified.owed other] at howed
      cases howed
  constructor
  · intro hasleep
    exact (isQuiet_iff m.queue).mp (hreason fetcher .awaitEntries hasleep)
  · intro producer e hasleep
    exact ((keepsWaiting_iff m.queue).mp (hreason producer (.push e) hasleep)).symm

def fetchSteps : List Step := [.call 0 .awaitEntries, .acquire 0, .decide 0]

def raceSteps : List Step :=
  fetchSteps ++
    [.call 1 (.push "a"), .acquire 1, .decide 1, .call 2 (.push "b"), .acquire 2, .decide 2,
      .call 3 (.push "c"), .acquire 3, .decide 3, .notify 1 (some 0), .acquire 0, .decide 0,
      .notify 0 none, .call 0 (.take .perEntry), .acquire 0, .decide 0, .notify 0 none,
      .acquire 2, .decide 2, .notify 2 none, .acquire 3, .decide 3]

theorem no_wakeup_lost_race :
    let first := start { capacity := some 1, overflow := .block OverflowPolicy.defaultLimit } 4
    exists idle crowded, first.run fetchSteps = some idle ∧
      idle.phase 0 = .asleep .awaitEntries ∧ idle.HasNotified ∧
      (idle.queue.entries = [] ∧ idle.queue.closed = false) ∧
      first.run raceSteps = some crowded ∧
      crowded.phase 3 = .asleep (.push "c") ∧ crowded.HasNotified ∧
      (crowded.queue.isFull = true ∧ crowded.queue.closed = false) := by
  intro first
  let idle := (first.run fetchSteps).get (by decide)
  let crowded := (first.run raceSteps).get (by decide)
  have hidle : first.run fetchSteps = some idle := (Option.some_get _).symm
  have hcrowded : first.run raceSteps = some crowded := (Option.some_get _).symm
  have hfetch : forall thread, .call thread .awaitEntries ∈ fetchSteps -> thread = 0 := by
    simp [fetchSteps]
  have hrace : forall thread, .call thread .awaitEntries ∈ raceSteps -> thread = 0 := by
    simp [raceSteps, fetchSteps]
  have hasleep : idle.phase 0 = .asleep .awaitEntries := by decide
  have hwaits : crowded.phase 3 = .asleep (.push "c") := by decide
  have hidleSent : idle.HasNotified := by decide
  have hcrowdedSent : crowded.HasNotified := by decide
  have hquiet := (no_wakeup_lost hfetch hidle hidleSent).1 hasleep
  have hfull := (no_wakeup_lost hrace hcrowded hcrowdedSent).2 3 "c" hwaits
  exact ⟨idle, crowded, hidle, hasleep, hidleSent, hquiet, hcrowded, hwaits, hcrowdedSent, hfull⟩

end Monitor

end AsyncLog.Queue
