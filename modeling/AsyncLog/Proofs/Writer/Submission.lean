import AsyncLog.Proofs.Writer.Line
/-!
# From the call to the answer

An entry that is handed over is answered once, and its thread hands over nothing
else before that.  So what a producer handed over is what it was answered for
and the entry of the push it is inside of, in this order.
-/

namespace AsyncLog

namespace Writer

def phaseOf (w : Writer) : Source -> PushPhase
  | .producer producer => w.producers[producer]?.getD .idle
  | .listener => w.owner.push

structure Advance (w w' : Writer) (source : Source) (phase phase' : PushPhase) : Prop where
  before : w.phaseOf source = phase
  after : w'.phaseOf source = phase'
  others : forall other, other ≠ source -> w'.phaseOf other = w.phaseOf other
  pushes : exists front back,
    w.pushes = front ++ phase :: back ∧ w'.pushes = front ++ phase' :: back

structure Aside (source : Source) (w w' : Writer) : Prop where
  lines : exists lines : List Entry,
    w'.handed = w.handed ++ lines.map (fun line => (source, line)) ∧
    w'.answers = w.answers ++ lines.map (fun line => ⟨source, line, .rejected⟩) ∧
    w'.refusals = w.refusals ++ lines.map (fun line => (source, line)) ∧
    w'.stats.rejected = w.stats.rejected + UInt64.ofNat lines.length
  appended : w'.stats.appended = w.stats.appended
  dropped : w'.stats.dropped = w.stats.dropped
  displaced : w'.displacedEntries = w.displacedEntries

/-- Entries are handed over that are not answered yet. -/
structure Handing (new : List (Source × Entry)) (w w' : Writer) : Prop where
  handed : w'.handed = w.handed ++ new
  answers : w'.answers = w.answers
  refusals : w'.refusals = w.refusals
  appended : w'.stats.appended = w.stats.appended
  dropped : w'.stats.dropped = w.stats.dropped
  rejected : w'.stats.rejected = w.stats.rejected
  displaced : w'.displacedEntries = w.displacedEntries

/-- What a move means for pushes.  A producer that is refused at once is not inside
a push. -/
inductive PushEvent (w w' : Writer) : Prop where
  | aside {source : Source} : Aside source w w' -> w'.phaseOf = w.phaseOf ->
      w'.pushes = w.pushes -> (source ≠ .listener -> w.phaseOf source = .idle) -> PushEvent w w'
  | begin {source : Source} {e : Entry} : Handing [(source, e)] w w' ->
      Advance w w' source .idle (.offering e) -> PushEvent w w'
  | go {source : Source} {phase phase' : PushPhase} {next : Writer} :
      PushMove w source phase next phase' -> w'.trace = next.trace ->
      w'.counters = next.counters -> Advance w w' source phase phase' -> PushEvent w w'

variable {w w' : Writer}

theorem phaseOf_congr (hproducers : w'.producers = w.producers)
    (hpush : w'.owner.push = w.owner.push) : w'.phaseOf = w.phaseOf := by
  funext source
  cases source <;> simp only [phaseOf, hproducers, hpush]

theorem pushes_congr (hproducers : w'.producers = w.producers)
    (hpush : w'.owner.push = w.owner.push) : w'.pushes = w.pushes := by
  simp only [pushes, hproducers, hpush]

theorem advance_producer {producer : Nat} {phase : PushPhase} (phase' : PushPhase)
    (hphase : w.producers[producer]? = some phase)
    (hproducers : w'.producers = w.producers.set producer phase')
    (hpush : w'.owner.push = w.owner.push) :
    Advance w w' (.producer producer) phase phase' := by
  rcases List.getElem?_eq_some_iff.mp hphase with ⟨hlt, hget⟩
  constructor
  · simp [phaseOf, hphase]
  · simp [phaseOf, hproducers, hlt]
  · intro other hother
    cases other with
    | listener => exact hpush
    | producer number =>
        have hne : producer ≠ number := fun heq => hother (by rw [heq])
        simp [phaseOf, hproducers, hne]
  · exists w.producers.take producer, w.producers.drop (producer + 1) ++ [w.owner.push]
    constructor
    · rw [pushes, ← List.cons_append, ← hget, ← List.drop_eq_getElem_cons hlt, ← List.append_assoc,
        List.take_append_drop]
    · rw [pushes, hproducers, hpush, List.set_eq_take_append_cons_drop, if_pos hlt]
      simp

theorem advance_owner {phase phase' : PushPhase} (hproducers : w'.producers = w.producers)
    (hphase : w.owner.push = phase) (hphase' : w'.owner.push = phase') :
    Advance w w' .listener phase phase' := by
  refine ⟨hphase, hphase', ?_, w.producers, [], ?_, ?_⟩
  · intro other hother
    cases other with
    | listener => exact absurd rfl hother
    | producer number => simp only [phaseOf, hproducers]
  · rw [pushes, hphase]
  · rw [pushes, hproducers, hphase']

theorem Telling.aside {source : Source} (h : Telling source w w') : Aside source w w' := by
  rcases h.lines with ⟨lines, hhanded, hanswers, hrefusals, hcounters⟩
  constructor
  · exists lines
    refine ⟨hhanded, hanswers, hrefusals, ?_⟩
    rw [stats, hcounters]
    rfl
  · rw [stats, hcounters]
    rfl
  · rw [stats, hcounters]
    rfl
  · rw [displacedEntries, h.departures]
    rfl

theorem Aside.congr {source : Source} {next : Writer} (h : Aside source w next)
    (htrace : w'.trace = next.trace) (hcounters : w'.counters = next.counters) :
    Aside source w w' := by
  rcases h with ⟨hlines, happended, hdropped, hdisplaced⟩
  constructor
  · simpa only [handed, answers, refusals, chronicle, htrace, stats, hcounters] using hlines
  · simpa only [stats, hcounters] using happended
  · simpa only [stats, hcounters] using hdropped
  · exact (displacedEntries_of_trace htrace).trans hdisplaced

theorem Handing.aside {source : Source} (h : Handing [] w w') : Aside source w w' := by
  refine ⟨⟨[], ?_, ?_, ?_, ?_⟩, h.appended, h.dropped, h.displaced⟩
  · exact h.handed
  · rw [h.answers, List.map_nil, List.append_nil]
  · rw [h.refusals, List.map_nil, List.append_nil]
  · rw [h.rejected]
    exact (UInt64.add_zero _).symm

theorem Handing.aside_trans {source : Source} {next : Writer} (h : Handing [] w next)
    (h' : Telling source next w') : Aside source w w' := by
  rcases h'.aside with ⟨hlines, happended, hdropped, hdisplaced⟩
  have hhanded := h.handed
  rw [List.append_nil] at hhanded
  constructor
  · rw [← hhanded, ← h.answers, ← h.refusals, ← h.rejected]
    exact hlines
  · rw [happended, h.appended]
  · rw [hdropped, h.dropped]
  · rw [hdisplaced, h.displaced]

theorem StageMove.aside {stage stage' : Stage} (h : StageMove w stage w' stage') :
    Aside .listener w w' := by
  cases h with
  | talk hchatter => exact hchatter.toTelling.aside
  | detach =>
      apply Handing.aside
      constructor <;> simp [stats, displacedEntries, List.filterMap_map]
  | announce batch | settle e error left =>
      apply Handing.aside
      constructor <;> simp [stats, Counters.countDetached, Counters.countSettled, displacedEntries]
  | succeed e left =>
      apply Handing.aside
      constructor <;> simp [stats, displacedEntries, Counters.countWritten]
  | fail e x left hchatter =>
      refine Handing.aside_trans ?_ hchatter.toTelling
      constructor <;> simp [stats, displacedEntries, Counters.countFailed]
  | failFlush x hchatter =>
      refine Handing.aside_trans ?_ hchatter.toTelling
      constructor <;> simp [stats, Counters.countFlushFailure, displacedEntries]

theorem pushEvent_announce {next : Writer} {d : Diagnostic} (h : Handing [] w next)
    (howner : w.owner.push = .idle) (htrace : w'.trace = (next.announce d).1.trace)
    (hcounters : w'.counters = next.counters) (hproducers : w'.producers = w.producers)
    (hpush : w'.owner.push = (next.announce d).2) : PushEvent w w' := by
  have hnew : Handing ((next.announce d).2.unanswered.map fun line => (.listener, line)) w w' := by
    constructor
    · rw [← List.append_nil w.handed, ← h.handed, ← handed_announce]
      exact chronicle_of_trace htrace _
    · rw [← h.answers, ← answers_announce next d]
      exact chronicle_of_trace htrace _
    · rw [← h.refusals, ← refusals_announce next d]
      exact chronicle_of_trace htrace _
    · rw [← h.appended, stats, hcounters, stats]
    · rw [← h.dropped, stats, hcounters, stats]
    · rw [← h.rejected, stats, hcounters, stats]
    · rw [← h.displaced, displacedEntries_of_trace htrace, displacedEntries, departures_announce,
        displacedEntries]
  rcases announce_cases next d with hannounce | ⟨line, hannounce⟩
  · rw [hannounce] at hpush hnew
    have hsame : w'.owner.push = w.owner.push := by rw [hpush, howner]
    refine .aside (hnew.aside : Aside .listener w w') (phaseOf_congr hproducers hsame)
      (pushes_congr hproducers hsame) ?_
    intro hne
    exact absurd rfl hne
  · rw [hannounce] at hpush hnew
    exact .begin hnew (advance_owner hproducers howner hpush)

theorem pushEvent_of_move (h : Move w w') : PushEvent w w' := by
  cases h with
  | hand e hidle =>
      refine .begin ?_ (advance_producer (.offering e) hidle rfl rfl)
      constructor <;> simp [stats, displacedEntries]
  | refuse e hidle =>
      refine .aside (telling_refuseEntry w _ e).aside rfl rfl ?_
      intro _
      simp [phaseOf, hidle]
  | push hphase hpush =>
      refine .go hpush rfl rfl (advance_producer _ hphase ?_ ?_)
      · rw [hpush.producers]
      · rw [hpush.owner]
  | @report phase' next hpush =>
      refine .go hpush rfl rfl (advance_owner hpush.producers rfl ?_)
      cases hphase : w.owner with
      | reportingLoss push | reportingEnd stats push => rw [hpush.owner, hphase]; rfl
      | _ =>
          rw [hphase] at hpush
          cases hpush
  | @work stage hdrain =>
      have hmove := stageMove_stageStep w stage
      have howner : (w.stageStep stage).1.owner.push = w.owner.push := by rw [hmove.owner]
      refine .aside (hmove.aside.congr rfl rfl) (phaseOf_congr hmove.producers howner)
        (pushes_congr hmove.producers howner) ?_
      intro hne
      exact absurd rfl hne
  | @finish stage howner =>
      have hmove := stageMove_stageStep w stage
      have hpush : (OwnerPhase.after (w.stageStep stage).2).push = w.owner.push := by
        rw [OwnerPhase.push_after, howner]
        rfl
      refine .aside (hmove.aside.congr rfl rfl) (phaseOf_congr hmove.producers hpush)
        (pushes_congr hmove.producers hpush) ?_
      intro hne
      exact absurd rfl hne
  | abandon howner =>
      have hsame : Handing [] w w.abandon := by
        constructor <;> simp [Writer.abandon, stats, displacedEntries, List.filterMap_map]
      have hpush : w.abandon.owner.push = w.owner.push := by
        rw [howner]
        rfl
      refine .aside (hsame.aside : Aside .listener w _) (phaseOf_congr rfl hpush)
        (pushes_congr rfl hpush) ?_
      intro hne
      exact absurd rfl hne
  | @recover queued howner =>
      have hsame : Handing [] w (w.giveUp queued) := by
        constructor <;> simp [giveUp, stats, displacedEntries, Counters.countFailed,
          Counters.abandonInFlight]
      refine pushEvent_announce hsame (by rw [howner]; rfl) (w.recover_eq queued ▸ rfl) ?_ ?_ rfl
      · simp [recover_eq]
      · simp [recover_eq, giveUp]
  | sum howner =>
      have hsame : Handing [] w w := by
        constructor <;> simp
      refine pushEvent_announce hsame (by rw [howner]; rfl) rfl ?_ ?_ rfl
      · simp [Writer.sum]
      · simp [Writer.sum]
  | pass hpass =>
      refine .aside hpass.telling.aside (phaseOf_congr hpass.producers hpass.owner_hands.2.2)
        hpass.pushes ?_
      intro hne
      exact absurd rfl hne

/-!
## Everything handed over is answered in turn
-/

/-- A step of a push answers its entry or leaves it unanswered; only a closed queue
rejects it. -/
theorem PushMove.answers {source : Source} {phase phase' : PushPhase} {next : Writer}
    (h : PushMove w source phase next phase') (htrace : w'.trace = next.trace) :
    w'.handed = w.handed ∧ w'.refusals = w.refusals ∧ exists new : List Answer,
      w'.answers = w.answers ++ new ∧ phase.unanswered = new.map Answer.entry ++ phase'.unanswered ∧
      forall a, a ∈ new ->
        a.source = source ∧ (a.outcome = .rejected -> w.queue.closed = true) := by
  have hhanded : w'.handed = next.handed := chronicle_of_trace htrace _
  have hrefusals : w'.refusals = next.refusals := chronicle_of_trace htrace _
  have hanswers : w'.answers = next.answers := chronicle_of_trace htrace _
  rw [hhanded, hrefusals, hanswers]
  cases h with
  | wait _ => exact ⟨rfl, rfl, [], by simp [PushPhase.unanswered]⟩
  | @offer e outcome queue hdecides | @reoffer e outcome queue hdecides =>
      refine ⟨by simp [answer], by simp [answer],
        [⟨source, e, outcome⟩], answers_answer source e outcome queue,
        by simp [PushPhase.unanswered], ?_⟩
      intro a ha
      rw [List.mem_singleton.mp ha]
      refine ⟨rfl, ?_⟩
      intro hrejected
      subst hrejected
      exact hdecides.closed_of_rejected
  | count outcome =>
      refine ⟨rfl, rfl, [], ?_⟩
      cases outcome <;> simp [PushPhase.unanswered, PushPhase.afterCount]

def handedBy (w : Writer) (source : Source) : List Entry :=
  (w.handed.filter fun handover => handover.1 = source).map Prod.snd

def answersTo (w : Writer) (source : Source) : List Answer :=
  w.answers.filter fun a => a.source = source

/-- What a producer handed over is what it was answered for, in this order, and the
entry of the push that it is inside of. -/
def InTurn (w : Writer) (producer : Nat) : Prop :=
  w.handedBy (.producer producer) = (w.answersTo (.producer producer)).map Answer.entry ++
    (w.phaseOf (.producer producer)).unanswered

theorem filter_source_map (source other : Source) (lines : List Entry) :
    ((lines.map fun line => (source, line)).filter fun handover => handover.1 = other) =
      if source = other then lines.map fun line => (source, line) else [] := by
  by_cases heq : source = other
  · simp [heq]
  · simp [heq]

theorem filter_rejected_map (source other : Source) (lines : List Entry) :
    ((lines.map fun line => (⟨source, line, .rejected⟩ : Answer)).filter
      fun a => a.source = other) =
      if source = other then lines.map fun line => ⟨source, line, .rejected⟩ else [] := by
  by_cases heq : source = other
  · simp [heq]
  · simp [heq]

theorem InTurn.event {producer : Nat} (h : w.InTurn producer) (hevent : PushEvent w w') :
    w'.InTurn producer := by
  unfold InTurn handedBy answersTo at h ⊢
  cases hevent with
  | @aside source haside hphase _ hidle =>
      rcases haside.lines with ⟨lines, hhanded, hanswers, _, _⟩
      rw [hhanded, hanswers, hphase, List.filter_append, List.filter_append, List.map_append,
        List.map_append, filter_source_map, filter_rejected_map, h]
      by_cases hsource : source = .producer producer
      · have hnone : (w.phaseOf (.producer producer)).unanswered = [] := by
          rw [← hsource, hidle (by simp [hsource])]
          rfl
        simp [hsource, hnone, Function.comp_def]
      · simp [hsource]
  | @begin source e hnew hadvance =>
      rw [hnew.handed, hnew.answers, List.filter_append, List.map_append, h]
      by_cases hsource : source = .producer producer
      · rw [← hsource, hadvance.before, hadvance.after]
        simp [PushPhase.unanswered]
      · rw [hadvance.others _ (Ne.symm hsource)]
        simp [hsource]
  | @go source phase phase' next hpush htrace _ hadvance =>
      rcases hpush.answers htrace with ⟨hhanded, _, new, hanswers, hunanswered, hsources⟩
      rw [hhanded, hanswers, h, List.filter_append, List.map_append]
      by_cases hsource : source = .producer producer
      · have hall : new.filter (fun a => a.source = .producer producer) = new := by
          rw [List.filter_eq_self]
          intro a ha
          simp [(hsources a ha).1, hsource]
        rw [← hsource, hadvance.before, hadvance.after, hunanswered, hsource, hall,
          List.append_assoc]
      · have hnone : new.filter (fun a => a.source = .producer producer) = [] := by
          rw [List.filter_eq_nil_iff]
          intro a ha
          simp [(hsources a ha).1, hsource]
        rw [hadvance.others _ (Ne.symm hsource), hnone, List.map_nil, List.append_nil]

def Answered (w : Writer) : Prop :=
  (w.handed.map Prod.snd).Perm
    (w.answers.map Answer.entry ++ w.pushes.flatMap PushPhase.unanswered)

theorem Advance.unanswered {source : Source} {phase phase' : PushPhase}
    (h : Advance w w' source phase phase') : exists rest : List Entry,
      (w.pushes.flatMap PushPhase.unanswered).Perm (phase.unanswered ++ rest) ∧
      (w'.pushes.flatMap PushPhase.unanswered).Perm (phase'.unanswered ++ rest) := by
  rcases h.pushes with ⟨front, back, hpushes, hpushes'⟩
  exists front.flatMap PushPhase.unanswered ++ back.flatMap PushPhase.unanswered
  rw [hpushes, hpushes', List.flatMap_append, List.flatMap_append, List.flatMap_cons,
    List.flatMap_cons]
  exact ⟨List.perm_append_comm_assoc _ _ _, List.perm_append_comm_assoc _ _ _⟩

theorem Answered.event (h : w.Answered) (hevent : PushEvent w w') : w'.Answered := by
  unfold Answered at h ⊢
  cases hevent with
  | @aside source haside _ hpushes _ =>
      rcases haside.lines with ⟨lines, hhanded, hanswers, _, _⟩
      rw [hhanded, hanswers, hpushes, List.map_append, List.map_append, List.append_assoc]
      have hlines : (lines.map fun line => (source, line)).map Prod.snd = lines := by
        simp [Function.comp_def]
      have hlines' : (lines.map fun line => (⟨source, line, .rejected⟩ : Answer)).map
          Answer.entry = lines := by
        simp [Function.comp_def]
      rw [hlines, hlines']
      refine (h.append_right lines).trans ?_
      rw [List.append_assoc]
      exact List.perm_append_comm.append_left _
  | @begin source e hnew hadvance =>
      rcases hadvance.unanswered with ⟨rest, hbefore, hafter⟩
      rw [hnew.handed, hnew.answers, List.map_append]
      calc w.handed.map Prod.snd ++ [e]
        List.Perm _ ((w.answers.map Answer.entry ++ rest) ++ [e]) :=
            (h.trans (hbefore.append_left _)).append_right _
        List.Perm _ (w.answers.map Answer.entry ++ ([e] ++ rest)) := by
            rw [List.append_assoc]
            exact List.perm_append_comm.append_left _
        List.Perm _ (w.answers.map Answer.entry ++ w'.pushes.flatMap PushPhase.unanswered) :=
            hafter.symm.append_left _
  | @go source phase phase' next hpush htrace _ hadvance =>
      -- What is answered moves from the pushes to the answers.
      rcases hpush.answers htrace with ⟨hhanded, _, new, hanswers, hunanswered, _⟩
      rcases hadvance.unanswered with ⟨rest, hbefore, hafter⟩
      rw [hhanded, hanswers, List.map_append]
      rw [hunanswered, List.append_assoc] at hbefore
      calc w.handed.map Prod.snd
        List.Perm _ (w.answers.map Answer.entry ++
            (new.map Answer.entry ++ (phase'.unanswered ++ rest))) :=
            h.trans (hbefore.append_left _)
        List.Perm _ ((w.answers.map Answer.entry ++ new.map Answer.entry) ++
            (phase'.unanswered ++ rest)) := by
            rw [List.append_assoc]
        List.Perm _ ((w.answers.map Answer.entry ++ new.map Answer.entry) ++
            w'.pushes.flatMap PushPhase.unanswered) :=
            hafter.symm.append_left _

/-!
## While the queue is open
-/

theorem PushEvent.answers_extend (h : PushEvent w w') : w.answers <+: w'.answers := by
  cases h with
  | aside haside _ _ _ =>
      rcases haside.lines with ⟨lines, _, hanswers, _, _⟩
      exact ⟨_, hanswers.symm⟩
  | begin hnew _ => exact ⟨[], by rw [hnew.answers, List.append_nil]⟩
  | go hpush htrace _ _ =>
      rcases hpush.answers htrace with ⟨_, _, new, hanswers, _, _⟩
      exact ⟨new, hanswers.symm⟩

def Welcoming (w : Writer) : Prop :=
  w.queue.closed = false -> forall a, a ∈ w.answers -> a.outcome = .rejected ->
    (a.source, a.entry) ∈ w.refusals

theorem Move.closed (h : Move w w') (hopen : w'.queue.closed = false) :
    w.queue.closed = false := by
  cases h with
  | push _ hpush | report hpush =>
      rw [← (Discipline.settings_of_pushMove hpush).2.2]
      exact hopen
  | work _ | finish _ =>
      rw [← (Discipline.settings_of_stageMove (stageMove_stageStep w _)).2.2]
      exact hopen
  | recover _ => simpa [recover_eq, giveUp] using hopen
  | sum _ => simpa [Writer.sum] using hopen
  | pass hpass =>
      cases hpass with
      | start _ | stop _ =>
          exact (congrArg Queue.closed (chatter_happen w _).queue).symm.trans hopen
      | close _ => cases hopen
      | _ => exact hopen
  | _ => exact hopen

theorem Welcoming.event (h : w.Welcoming)
    (hclosed : w'.queue.closed = false -> w.queue.closed = false) (hevent : PushEvent w w') :
    w'.Welcoming := by
  intro hopen a ha hrejected
  have hopen' := hclosed hopen
  cases hevent with
  | aside haside _ _ _ =>
      rcases haside.lines with ⟨lines, _, hanswers, hrefusals, _⟩
      rw [hanswers, List.mem_append] at ha
      rw [hrefusals, List.mem_append]
      rcases ha with hold | hnew
      · exact Or.inl (h hopen' a hold hrejected)
      · rcases List.mem_map.mp hnew with ⟨line, hline, rfl⟩
        exact Or.inr (List.mem_map.mpr ⟨line, hline, rfl⟩)
  | begin hnew _ =>
      rw [hnew.answers] at ha
      rw [hnew.refusals]
      exact h hopen' a ha hrejected
  | go hpush htrace _ _ =>
      rcases hpush.answers htrace with ⟨_, hrefusals, new, hanswers, _, hnew⟩
      rw [hanswers, List.mem_append] at ha
      rw [hrefusals]
      rcases ha with hold | hlast
      · exact h hopen' a hold hrejected
      · rw [(hnew a hlast).2 hrejected] at hopen'
        cases hopen'

/-!
## Runs
-/

theorem answers_extend_of_run {actions : List Action} (h : w.run actions = some w') :
    w.answers <+: w'.answers :=
  run_induction (P := fun next => w.answers <+: next.answers)
    (fun hextends hmove => hextends.trans (pushEvent_of_move hmove).answers_extend)
    (List.prefix_rfl) h

theorem Welcoming.of_run {config : Config} {script : Script} {producers : Nat}
    {actions : List Action} (h : (start config script producers).run actions = some w) :
    w.Welcoming := by
  refine run_induction (P := Welcoming)
    (fun hwelcoming hmove => hwelcoming.event hmove.closed (pushEvent_of_move hmove)) ?_ h
  intro _ a ha
  cases ha

theorem InTurn.of_run {config : Config} {script : Script} {producers : Nat}
    {actions : List Action} (h : (start config script producers).run actions = some w)
    (producer : Nat) : w.InTurn producer := by
  refine run_induction (P := fun w => w.InTurn producer)
    (fun hturn hmove => hturn.event (pushEvent_of_move hmove)) ?_ h
  have hidle : (start config script producers).phaseOf (.producer producer) = .idle := by
    simp only [phaseOf, start, List.getElem?_replicate]
    split <;> rfl
  rw [InTurn, hidle]
  rfl

theorem unanswered_of_quiet (h : w.IsQuiet) : w.pushes.flatMap PushPhase.unanswered = [] := by
  rw [List.flatMap_eq_nil_iff]
  intro phase hphase
  rw [h phase hphase]
  rfl

theorem isQuiet_start (config : Config) (script : Script) (producers : Nat) :
    (start config script producers).IsQuiet := by
  intro phase hphase
  rw [pushes, List.mem_append] at hphase
  rcases hphase with hproducer | howner
  · exact List.eq_of_mem_replicate hproducer
  · exact List.mem_singleton.mp howner

theorem Answered.of_run {config : Config} {script : Script} {producers : Nat}
    {actions : List Action} (h : (start config script producers).run actions = some w) :
    w.Answered := by
  refine run_induction (P := Answered)
    (fun hanswered hmove => hanswered.event (pushEvent_of_move hmove)) ?_ h
  rw [Answered, unanswered_of_quiet (isQuiet_start config script producers)]
  exact List.Perm.nil

theorem Answered.of_quiet (h : w.Answered) (hquiet : w.IsQuiet) :
    (w.handed.map Prod.snd).Perm (w.answers.map Answer.entry) := by
  have hperm := h
  rw [Answered, unanswered_of_quiet hquiet, List.append_nil] at hperm
  exact hperm

end Writer

end AsyncLog
