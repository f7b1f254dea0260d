import AsyncLog.Proofs.Queue.Threads
/-!
# Entries at the queue

Whatever the threads at a queue do, its entries change by decisions only, each of
which finds the queue as the one before it left it.  So the entries taken and
those still queued are the inserted ones in their order, without those that gave
way to newer ones.
-/

namespace AsyncLog.Queue

def Linked (q : Queue) : List Decision -> Queue -> Prop
  | [], q' => q' = q
  | d :: rest, q' => d.before = q ∧ Linked d.after rest q'

theorem Linked.append {q q' q'' : Queue} {first second : List Decision} (h : q.Linked first q')
    (h' : q'.Linked second q'') : q.Linked (first ++ second) q'' := by
  induction first generalizing q with
  | nil =>
      have hsame : q' = q := h
      rw [← hsame]
      exact h'
  | cons d rest ih => exact ⟨h.1, ih h.2⟩

/-!
## Entries in line
-/

theorem Decision.Accords.in_order {d : Decision} (h : d.Accords) :
    d.before.entries ++ d.inserted = d.departures.map Departure.entry ++ d.after.entries := by
  rcases d with ⟨thread, call, answer, before, after⟩
  cases call with
  | push e =>
      cases answer with
      | pushed outcome =>
          cases outcome with
          | queued | dropped | rejected =>
              have hafter : after.entries = _ := h
              simp [inserted, pushed?, departures, hafter]
          | displacedOldest =>
              rcases h with ⟨oldest, rest, hbefore, hafter⟩
              dsimp only at hbefore hafter
              simp [inserted, pushed?, departures, hbefore, hafter, Departure.entry]
      | _ => cases h
  | take mode =>
      cases answer with
      | took entries =>
          have hbefore : before.entries = entries ++ after.entries := h
          simp [inserted, pushed?, departures, hbefore, Function.comp_def]
      | _ => cases h
  | awaitEntries =>
      cases answer with
      | awaited timedOut =>
          have hafter : after.entries = before.entries := h
          simp [inserted, pushed?, departures, hafter]
      | _ => cases h
  | close =>
      cases answer with
      | closed =>
          have hafter : after.entries = before.entries := h
          simp [inserted, pushed?, departures, hafter]
      | _ => cases h

theorem in_order_of_linked {q q' : Queue} {ds : List Decision} (hlinked : q.Linked ds q')
    (haccords : forall d, d ∈ ds -> d.Accords) :
    q.entries ++ ds.flatMap Decision.inserted =
      (ds.flatMap Decision.departures).map Departure.entry ++ q'.entries := by
  induction ds generalizing q with
  | nil =>
      have hsame : q' = q := hlinked
      simp [hsame]
  | cons d rest ih =>
      have hfirst := (haccords d List.mem_cons_self).in_order
      have hrest := ih hlinked.2 fun d hd => haccords d (List.mem_cons_of_mem _ hd)
      rw [hlinked.1] at hfirst
      rw [List.flatMap_cons, List.flatMap_cons, List.map_append, ← List.append_assoc, hfirst,
        List.append_assoc, hrest, List.append_assoc]

theorem remaining_append (departures : List Departure) (rest : List Entry) :
    remaining departures (departures.map Departure.entry ++ rest) =
      departures.filterMap Departure.detached? ++ rest := by
  induction departures with
  | nil => cases rest <;> rfl
  | cons departure departures ih =>
      cases departure with
      | displaced e => exact ih
      | detached e => exact congrArg (List.cons e) ih

theorem mem_of_mem_remaining {departures : List Departure} {inserted : List Entry} {e : Entry}
    (h : e ∈ remaining departures inserted) : e ∈ inserted := by
  induction departures generalizing inserted with
  | nil =>
      cases inserted <;> exact h
  | cons departure departures ih =>
      cases inserted with
      | nil => cases departure <;> exact h
      | cons first inserted =>
          cases departure with
          | displaced _ => exact List.mem_cons_of_mem _ (ih h)
          | detached _ =>
              rcases List.mem_cons.mp h with hfirst | hrest
              · exact hfirst ▸ List.mem_cons_self
              · exact List.mem_cons_of_mem _ (ih hrest)

theorem detached_departures (d : Decision) :
    d.departures.filterMap Departure.detached? = d.taken := by
  rcases d with ⟨thread, call, answer, before, after⟩
  cases answer with
  | pushed outcome =>
      cases outcome with
      | displacedOldest =>
          cases hhead : before.entries.head? <;> simp [Decision.departures, Decision.taken, hhead]
      | _ => rfl
  | took entries =>
      simp [Decision.departures, Decision.taken, List.filterMap_map, Function.comp_def]
  | _ => rfl

theorem detached_flatMap_departures (ds : List Decision) :
    (ds.flatMap Decision.departures).filterMap Departure.detached? =
      ds.flatMap Decision.taken := by
  rw [List.filterMap_flatMap]
  exact congrArg ds.flatMap (funext detached_departures)

theorem accepted_of_mem_inserted {ds : List Decision} {e : Entry}
    (h : e ∈ ds.flatMap Decision.inserted) :
    exists d outcome, d ∈ ds ∧ d.pushed? = some (e, outcome) ∧ outcome.isAccepted = true := by
  rcases List.mem_flatMap.mp h with ⟨d, hd, hmem⟩
  unfold Decision.inserted at hmem
  cases hpushed : d.pushed? with
  | none => simp [hpushed] at hmem
  | some pushed =>
      cases haccepted : pushed.2.isAccepted with
      | false => simp [hpushed, haccepted] at hmem
      | true =>
          have he : e = pushed.1 := by simpa [hpushed, haccepted] using hmem
          exact ⟨d, pushed.2, hd, by rw [hpushed, he], haccepted⟩

/-!
## Calls and their answers
-/

def Phase.undecided : Phase -> List Call
  | .locking call | .deciding call | .asleep call | .relocking call _ | .redeciding call _ => [call]
  | .idle | .notifying _ _ | .returned _ => []

def Phase.answer? : Phase -> Option Answer
  | .notifying _ answer | .returned answer => some answer
  | _ => none

theorem Phase.undecided_woken (phase : Phase) : phase.woken.undecided = phase.undecided := by
  cases phase <;> rfl

theorem Phase.answer?_woken (phase : Phase) : phase.woken.answer? = phase.answer? := by
  cases phase <;> rfl

namespace Monitor

def Step.callsOf (thread : Nat) : Step -> List Call
  | .call caller made => if caller = thread then [made] else []
  | _ => []

def decisionsOf (thread : Nat) (ds : List Decision) : List Decision :=
  ds.filter fun d => d.thread = thread

theorem decisionsOf_append (thread : Nat) (ds ds' : List Decision) :
    decisionsOf thread (ds ++ ds') = decisionsOf thread ds ++ decisionsOf thread ds' :=
  List.filter_append ds ds'

variable {m m' : Monitor}

/-- The calls that a thread makes are decided one after the other, and it keeps the last
answer. -/
structure Turn (m m' : Monitor) (thread : Nat) (made : List Call) (ds : List Decision) : Prop where
  calls : (m.phase thread).undecided ++ made =
    (decisionsOf thread ds).map Decision.call ++ (m'.phase thread).undecided
  answer : forall answer, (m'.phase thread).answer? = some answer ->
    ((decisionsOf thread ds).getLast?.map Decision.answer).or (m.phase thread).answer? = some answer

namespace Turn

variable {thread : Nat}

theorem of_eq (hundecided : (m'.phase thread).undecided = (m.phase thread).undecided)
    (hanswer : (m'.phase thread).answer? = (m.phase thread).answer?) : Turn m m' thread [] [] where
  calls := by simp [decisionsOf, hundecided]
  answer := fun answer hsome => hanswer ▸ hsome

theorem trans {m'' : Monitor} {made made' : List Call} {ds ds' : List Decision}
    (h : Turn m m' thread made ds) (h' : Turn m' m'' thread made' ds') :
    Turn m m'' thread (made ++ made') (ds ++ ds') where
  calls := by
    rw [← List.append_assoc, h.calls, List.append_assoc, h'.calls, decisionsOf_append,
      List.map_append, List.append_assoc]
  answer := by
    intro answer hsome
    have hlater := h'.answer answer hsome
    rw [decisionsOf_append, List.getLast?_append]
    cases hlast : (decisionsOf thread ds').getLast? with
    | some d =>
        rw [hlast] at hlater
        exact hlater
    | none =>
        rw [hlast] at hlater
        exact h.answer answer hlater

end Turn

theorem Shift.turn {thread : Nat} {phase' : Phase} (h : Shift m m' thread phase') {s : Step}
    (hcalls : forall other, thread ≠ other -> s.callsOf other = [])
    (hdecisions : forall d, m.decision? s = some d -> d.thread = thread)
    (hself : Turn m m' thread (s.callsOf thread) (m.decision? s).toList) (other : Nat) :
    Turn m m' other (s.callsOf other) (m.decision? s).toList := by
  by_cases hother : thread = other
  · exact hother ▸ hself
  · have hkept : Turn m m' other [] [] := by
      rcases h.others other hother with hsame | hwoken
      · exact .of_eq (by rw [hsame]) (by rw [hsame])
      · exact .of_eq (by rw [hwoken, Phase.undecided_woken]) (by rw [hwoken, Phase.answer?_woken])
    have hnone : decisionsOf other (m.decision? s).toList = [] := by
      rw [decisionsOf, List.filter_eq_nil_iff]
      intro d hd
      simpa [hdecisions d (Option.mem_toList.mp hd)] using hother
    rw [hcalls other hother]
    constructor
    · rw [hnone]
      exact hkept.calls
    · rw [hnone]
      exact hkept.answer

theorem Shift.turn_on {thread : Nat} {phase phase' : Phase} (h : Shift m m' thread phase')
    {s : Step} (hphase : m.phase thread = phase) (hcalls : forall other, s.callsOf other = [])
    (hdecision : m.decision? s = none) (hundecided : phase'.undecided = phase.undecided)
    (hanswer : phase'.answer? = phase.answer?) (other : Nat) :
    Turn m m' other (s.callsOf other) (m.decision? s).toList := by
  refine h.turn (fun other _ => hcalls other) (fun d hd => ?_) ?_ other
  · rw [hdecision] at hd
    cases hd
  · rw [hcalls, hdecision]
    apply Turn.of_eq
    · rw [h.self, hphase, hundecided]
    · rw [h.self, hphase, hanswer]

theorem turn_of_move {s : Step} (hmove : Move m s m') (other : Nat) :
    Turn m m' other (s.callsOf other) (m.decision? s).toList := by
  cases hmove with
  | @call thread made hlt hout =>
      have hshift := shift_setPhase m.queue m.holder (.locking made) hlt
      refine hshift.turn ?_ (fun _ hd => by cases hd) ?_ other
      · intro other hother
        simp [Step.callsOf, hother]
      · constructor
        · have hnone : (m.phase thread).undecided = [] := by
            rcases hout with hidle | ⟨answer, hreturned⟩
            · rw [hidle]
              rfl
            · rw [hreturned]
              rfl
          rw [hshift.self, hnone]
          simp [Step.callsOf, decision?, decisionsOf, Phase.undecided]
        · intro answer hsome
          rw [hshift.self] at hsome
          cases hsome
  | @lock thread made _ hphase =>
      have hlt : thread < m.threads.length := lt_length_of_phase (by simp [hphase])
      have hshift := shift_setPhase m.queue (some thread) (.deciding made) hlt
      exact hshift.turn_on hphase (fun _ => rfl) rfl rfl rfl other
  | @relock thread made timedOut _ hphase =>
      have hlt : thread < m.threads.length := lt_length_of_phase (by simp [hphase])
      have hshift := shift_setPhase m.queue (some thread) (.redeciding made timedOut) hlt
      exact hshift.turn_on hphase (fun _ => rfl) rfl rfl rfl other
  | @sleep thread made waited hdecides hnone =>
      have hshift := shift_setPhase m.queue none (.asleep made) hdecides.lt_length
      cases hdecides with
      | first hphase => exact hshift.turn_on hphase (fun _ => rfl) hnone rfl rfl other
      | again hphase => exact hshift.turn_on hphase (fun _ => rfl) hnone rfl rfl other
  | answer d hd =>
      rcases of_decision? hd with ⟨_, _, waited, hdecides, _⟩
      have hshift := shift_setPhase d.after none (.notifying d.answer.signals d.answer)
        hdecides.lt_length
      refine hshift.turn (fun _ _ => rfl) ?_ ?_ other
      · intro d' hd'
        rw [hd, Option.some.injEq] at hd'
        rw [← hd']
      · have hundecided : (m.phase d.thread).undecided = [d.call] := by
          cases hdecides with
          | first hphase => rw [hphase]; rfl
          | again hphase => rw [hphase]; rfl
        constructor
        · rw [hshift.self, hundecided, hd]
          simp [Step.callsOf, decisionsOf, Phase.undecided]
        · intro answer hsome
          rw [hshift.self] at hsome
          rw [hd]
          simpa [decisionsOf, Phase.answer?] using hsome
  | @notify thread reached signal rest answer next hphase hdeliver =>
      have hlt : thread < m.threads.length := lt_length_of_phase (by simp [hphase])
      have hshift := (wakes_of_deliver hdeliver).shift (.notifying rest answer) hlt
      exact hshift.turn_on hphase (fun _ => rfl) rfl rfl rfl other
  | @finish thread answer reached hphase =>
      have hlt : thread < m.threads.length := lt_length_of_phase (by simp [hphase])
      have hshift := shift_setPhase m.queue m.holder (.returned answer) hlt
      exact hshift.turn_on hphase (fun _ => rfl) rfl rfl rfl other
  | @timeout thread made hphase =>
      have hlt : thread < m.threads.length := by
        apply lt_length_of_phase
        rcases hphase with hphase | hphase <;> simp [hphase]
      have hshift := shift_setPhase m.queue m.holder (.relocking made true) hlt
      rcases hphase with hphase | hphase
      · exact hshift.turn_on hphase (fun _ => rfl) rfl rfl rfl other
      · exact hshift.turn_on hphase (fun _ => rfl) rfl rfl rfl other
  | @wakeUp thread made hphase =>
      have hlt : thread < m.threads.length := lt_length_of_phase (by simp [hphase])
      have hshift := shift_setPhase m.queue m.holder (.relocking made false) hlt
      exact hshift.turn_on hphase (fun _ => rfl) rfl rfl rfl other

/-!
## Runs
-/

theorem linked_of_move {s : Step} (hmove : Move m s m') :
    m.queue.Linked (m.decision? s).toList m'.queue := by
  cases hmove with
  | answer d hd =>
      rw [hd]
      exact ⟨(of_decision? hd).2.1, rfl⟩
  | sleep _ hnone =>
      rw [hnone]
      rfl
  | notify _ hdeliver => exact (wakes_of_deliver hdeliver).queue
  | _ => rfl

theorem capacity_of_move {s : Step} (hmove : Move m s m') :
    m'.queue.capacity = m.queue.capacity := by
  cases hmove with
  | answer d hd =>
      rcases of_decision? hd with ⟨_, _, _, _, hrules⟩
      exact hrules.capacity
  | notify _ hdeliver => exact congrArg Queue.capacity (wakes_of_deliver hdeliver).queue
  | _ => rfl

theorem accords_of_decision? {s : Step} {d : Decision} (hcapacity : m.queue.capacity ≠ some 0)
    (h : m.decision? s = some d) : d.Accords := by
  rcases of_decision? h with ⟨_, hbefore, _, _, hrules⟩
  have haccords := hrules.accords hcapacity d.thread
  rw [← hbefore] at haccords
  exact haccords

theorem exists_of_run_cons {s : Step} {rest : List Step} (h : m.run (s :: rest) = some m') :
    exists next, Move m s next ∧ next.run rest = some m' ∧
      m.history (s :: rest) = (m.decision? s).toList ++ next.history rest := by
  rw [run_cons, Option.bind_eq_some_iff] at h
  rcases h with ⟨next, hstep, hrest⟩
  exact ⟨next, move_of_step hstep, hrest, by simp only [history, hstep]⟩

theorem linked_of_run {steps : List Step} (h : m.run steps = some m') :
    m.queue.Linked (m.history steps) m'.queue := by
  induction steps generalizing m with
  | nil =>
      cases h
      rfl
  | cons s rest ih =>
      rcases exists_of_run_cons h with ⟨next, hmove, hrest, hhistory⟩
      rw [hhistory]
      exact (linked_of_move hmove).append (ih hrest)

theorem decisions_of_run {P : Monitor -> Prop} {Q : Decision -> Prop}
    (hmove : forall {m m' : Monitor} {s : Step}, P m -> Move m s m' -> P m')
    (hdecision : forall {m : Monitor} {s : Step} {d : Decision}, P m ->
      m.decision? s = some d -> Q d) {steps : List Step} (h : P m)
    (hrun : m.run steps = some m') : forall d, d ∈ m.history steps -> Q d := by
  induction steps generalizing m with
  | nil =>
      intro d hd
      cases hd
  | cons s rest ih =>
      intro d hd
      rcases exists_of_run_cons hrun with ⟨next, hstep, hrest, hhistory⟩
      rw [hhistory, List.mem_append, Option.mem_toList] at hd
      rcases hd with hfirst | hlater
      · exact hdecision h hfirst
      · exact ih (hmove h hstep) hrest d hlater

theorem accords_of_run {steps : List Step} (hcapacity : m.queue.capacity ≠ some 0)
    (h : m.run steps = some m') : forall d, d ∈ m.history steps -> d.Accords :=
  decisions_of_run (P := fun m => m.queue.capacity ≠ some 0)
    (fun hcapacity hmove => capacity_of_move hmove ▸ hcapacity) accords_of_decision? hcapacity h

theorem turn_of_run {steps : List Step} (h : m.run steps = some m') (thread : Nat) :
    Turn m m' thread (steps.flatMap (Step.callsOf thread)) (m.history steps) := by
  induction steps generalizing m with
  | nil =>
      cases h
      exact .of_eq rfl rfl
  | cons s rest ih =>
      rcases exists_of_run_cons h with ⟨next, hmove, hrest, hhistory⟩
      rw [hhistory, List.flatMap_cons]
      exact (turn_of_move hmove thread).trans (ih hrest)

theorem phase_start (queue : Queue) (threads thread : Nat) :
    (start queue threads).phase thread = .idle := by
  rw [Monitor.phase, start, List.getD_eq_getElem?_getD, List.getElem?_replicate]
  split <;> rfl

/-- At every moment the entries taken so far and the queued ones are, in the order of their
insertion, the inserted entries without the displaced ones.  The decisions that say so
follow one another, each does to the queue what its answer says, and they are what the
threads called for and what they were answered. -/
theorem entries_conserved (capacity : Option Nat) (overflow : OverflowPolicy) (threads : Nat)
    (steps : List Step) (m : Monitor) (hcapacity : capacity ≠ some 0)
    (hrun : (start { capacity, overflow } threads).run steps = some m) :
    let ds := (start { capacity, overflow } threads).history steps
    ds.flatMap Decision.taken ++ m.queue.entries =
        remaining (ds.flatMap Decision.departures) (ds.flatMap Decision.inserted) ∧
      ds.flatMap Decision.inserted =
        (ds.flatMap Decision.departures).map Departure.entry ++ m.queue.entries ∧
      Linked { capacity, overflow } ds m.queue ∧
      (forall d, d ∈ ds -> d.Accords) ∧
      (forall e, (forall d outcome, d ∈ ds -> d.pushed? = some (e, outcome) ->
          outcome = .dropped ∨ outcome = .rejected) ->
        e ∉ ds.flatMap Decision.taken ++ m.queue.entries) ∧
      forall thread,
        steps.flatMap (Step.callsOf thread) =
            (decisionsOf thread ds).map Decision.call ++ (m.phase thread).undecided ∧
          forall answer, (m.phase thread).answer? = some answer ->
            (decisionsOf thread ds).getLast?.map Decision.answer = some answer := by
  intro ds
  have hlinked : Linked { capacity, overflow } ds m.queue := linked_of_run hrun
  have haccords : forall d, d ∈ ds -> d.Accords := accords_of_run hcapacity hrun
  have hinserted : ds.flatMap Decision.inserted =
      (ds.flatMap Decision.departures).map Departure.entry ++ m.queue.entries :=
    in_order_of_linked hlinked haccords
  have hremaining : ds.flatMap Decision.taken ++ m.queue.entries =
      remaining (ds.flatMap Decision.departures) (ds.flatMap Decision.inserted) := by
    rw [hinserted, remaining_append, detached_flatMap_departures]
  refine ⟨hremaining, hinserted, hlinked, haccords, ?_, ?_⟩
  · intro e hrefused hmem
    rw [hremaining] at hmem
    rcases accepted_of_mem_inserted (mem_of_mem_remaining hmem) with
      ⟨d, outcome, hd, hpushed, haccepted⟩
    rcases hrefused d outcome hd hpushed with hdropped | hrejected
    · simp [hdropped] at haccepted
    · simp [hrejected] at haccepted
  · intro thread
    have hturn := turn_of_run hrun thread
    have hidle := phase_start { capacity, overflow } threads thread
    constructor
    · have hcalls := hturn.calls
      rwa [hidle] at hcalls
    · intro answer hanswer
      have hlast := hturn.answer answer hanswer
      rw [hidle] at hlast
      simpa [Phase.answer?] using hlast

def crowdedSteps : List Step :=
  [.call 0 (.push "a"), .acquire 0, .decide 0, .notify 0 none, .notify 0 none,
    .call 1 (.push "b"), .acquire 1, .decide 1, .wakeUp 1, .acquire 1, .decide 1,
    .call 2 (.take .batch), .acquire 2, .decide 2, .notify 2 none, .notify 2 none,
    .acquire 1, .decide 1,
    .call 2 .close, .acquire 2, .decide 2,
    .call 0 (.push "c"), .acquire 0, .decide 0]

theorem entries_conserved_crowded :
    let first := start { capacity := some 1, overflow := .block OverflowPolicy.defaultLimit } 3
    exists m, first.run crowdedSteps = some m ∧
      (first.history crowdedSteps).flatMap Decision.taken = ["a"] ∧ m.queue.entries = ["b"] ∧
      remaining ((first.history crowdedSteps).flatMap Decision.departures)
        ((first.history crowdedSteps).flatMap Decision.inserted) = ["a", "b"] ∧
      "c" ∉ (first.history crowdedSteps).flatMap Decision.taken ++ m.queue.entries := by
  intro first
  let last := (first.run crowdedSteps).get (by decide)
  have hrun : first.run crowdedSteps = some last := (Option.some_get _).symm
  have htaken : (first.history crowdedSteps).flatMap Decision.taken = ["a"] := by decide
  have hqueued : last.queue.entries = ["b"] := by decide
  have hconserved := entries_conserved (some 1) (.block OverflowPolicy.defaultLimit) 3
    crowdedSteps last (by decide) hrun
  have hrefused : forall d outcome, d ∈ first.history crowdedSteps ->
      d.pushed? = some ("c", outcome) -> outcome = .dropped ∨ outcome = .rejected := by
    intro d outcome hd hpushed
    have hall : forall d, d ∈ first.history crowdedSteps ->
        d.pushed?.all (fun p => p.1 = "c" -> p.2 = .rejected) := by decide
    have hrejected := hall d hd
    rw [hpushed] at hrejected
    exact Or.inr (by simpa using hrejected)
  have hline : (first.history crowdedSteps).flatMap Decision.taken ++ last.queue.entries =
      ["a", "b"] := by
    rw [htaken, hqueued]
    rfl
  exact ⟨last, hrun, htaken, hqueued, hconserved.1.symm.trans hline,
    hconserved.2.2.2.2.1 "c" hrefused⟩

end Monitor

end AsyncLog.Queue
