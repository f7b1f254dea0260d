import AsyncLog.Proofs.Writer.Submission
/-!
# The overflow policy in a run

Which entries are dropped is up to the policy: under one of them the oldest
entries give way, under the others only new ones are turned away.
-/

namespace AsyncLog

namespace Writer

/-- What the policy rules out. -/
structure Policed (w : Writer) : Prop where
  drops : w.config.overflow = .dropOldest -> forall a, a ∈ w.answers -> a.outcome ≠ .dropped
  waits : w.config.overflow = .dropOldest -> forall phase, phase ∈ w.pushes ->
    forall e, phase ≠ .blocked e
  displaces : w.config.overflow ≠ .dropOldest -> w.displacedEntries = []

variable {w w' : Writer}

theorem Advance.not_blocked {source : Source} {phase phase' : PushPhase}
    (h : Advance w w' source phase phase')
    (hwaits : forall phase, phase ∈ w.pushes -> forall e, phase ≠ .blocked e)
    (hphase : forall e, phase' ≠ .blocked e) :
    forall phase, phase ∈ w'.pushes -> forall e, phase ≠ .blocked e := by
  rcases h.pushes with ⟨front, back, hpushes, hpushes'⟩
  intro other hother
  rw [hpushes', List.mem_append, List.mem_cons] at hother
  rcases hother with hfront | hsame | hback
  · exact hwaits other (by rw [hpushes]; exact List.mem_append_left _ hfront)
  · rw [hsame]
    exact hphase
  · refine hwaits other ?_
    rw [hpushes]
    exact List.mem_append_right _ (List.mem_cons_of_mem _ hback)

theorem Advance.mem_before {source : Source} {phase phase' : PushPhase}
    (h : Advance w w' source phase phase') : phase ∈ w.pushes := by
  rcases h.pushes with ⟨front, back, hpushes, _⟩
  rw [hpushes]
  exact List.mem_append_right _ List.mem_cons_self

namespace Policed

theorem answer {source : Source} {phase : PushPhase} {e : Entry} {waited : Bool} {outcome : Push}
    {queue : Queue} (h : Policed w) (hdiscipline : Discipline w) (hconfig : w'.config = w.config)
    (hdecides : w.queue.Decides e waited outcome queue)
    (hwaited : w.config.overflow = .dropOldest -> waited = false)
    (htrace : w'.trace = (w.answer source e outcome queue).trace)
    (hadvance : Advance w w' source phase (.counting outcome)) : Policed w' := by
  have hanswers : w'.answers = w.answers ++ [⟨source, e, outcome⟩] := by
    rw [← answers_answer source e outcome queue]
    exact chronicle_of_trace htrace _
  have hdisplaced := displacedEntries_of_trace htrace
  rw [displacedEntries_answer] at hdisplaced
  rw [← hdiscipline.overflow] at hwaited
  constructor
  · rw [hconfig]
    intro hpolicy a ha
    rw [hanswers, List.mem_append, List.mem_singleton] at ha
    rcases ha with hold | hnew
    · exact h.drops hpolicy a hold
    · rw [hnew]
      rw [← hdiscipline.overflow] at hpolicy
      cases hdecides with
      | drop _ _ hreason =>
          rcases hreason with hwaits | hnewest
          · simp [hwaited hpolicy] at hwaits
          · simp [hpolicy] at hnewest
      | _ => simp
  · rw [hconfig]
    intro hpolicy
    exact hadvance.not_blocked (h.waits hpolicy) (by simp)
  · rw [hconfig]
    intro hpolicy
    rw [hdisplaced, h.displaces hpolicy]
    rw [← hdiscipline.overflow] at hpolicy
    cases hdecides with
    | displace _ _ hoverflow => exact absurd hoverflow hpolicy
    | _ => rfl

theorem unanswered (h : Policed w) (hconfig : w'.config = w.config)
    (hanswers : forall a, a ∈ w'.answers -> a ∈ w.answers ∨ a.outcome = .rejected)
    (hdisplaced : w'.displacedEntries = w.displacedEntries)
    (hwaits : w.config.overflow = .dropOldest -> forall phase, phase ∈ w'.pushes ->
      forall e, phase ≠ .blocked e) : Policed w' := by
  constructor
  · rw [hconfig]
    intro hpolicy a ha
    rcases hanswers a ha with hold | hrejected
    · exact h.drops hpolicy a hold
    · simp [hrejected]
  · rw [hconfig]
    exact hwaits
  · rw [hconfig, hdisplaced]
    exact h.displaces

theorem silent (h : Policed w) (hconfig : w'.config = w.config)
    (hanswers : w'.answers = w.answers) (hdisplaced : w'.displacedEntries = w.displacedEntries)
    (hwaits : w.config.overflow = .dropOldest -> forall phase, phase ∈ w'.pushes ->
      forall e, phase ≠ .blocked e) : Policed w' := by
  refine h.unanswered hconfig ?_ hdisplaced hwaits
  intro a ha
  rw [hanswers] at ha
  exact Or.inl ha

theorem event (h : Policed w) (hdiscipline : Discipline w) (hconfig : w'.config = w.config)
    (hevent : PushEvent w w') : Policed w' := by
  cases hevent with
  | aside haside _ hpushes _ =>
      rcases haside.lines with ⟨lines, _, hanswers, _, _⟩
      refine h.unanswered hconfig ?_ haside.displaced (by rw [hpushes]; exact h.waits)
      intro a ha
      rw [hanswers, List.mem_append, List.mem_map] at ha
      rcases ha with hold | ⟨line, _, rfl⟩
      · exact Or.inl hold
      · exact Or.inr rfl
  | begin hnew hadvance =>
      refine h.silent hconfig hnew.answers hnew.displaced ?_
      intro hpolicy
      exact hadvance.not_blocked (h.waits hpolicy) (by simp)
  | go hpush htrace hcounters hadvance =>
      cases hpush with
      | @wait e limit hoffer =>
          refine h.silent hconfig (chronicle_of_trace htrace _)
            (displacedEntries_of_trace htrace) ?_
          intro hpolicy
          have hblock := (Queue.offer_blocked hoffer).2.2
          rw [hdiscipline.overflow, hpolicy] at hblock
          cases hblock
      | offer hdecides =>
          exact h.answer hdiscipline hconfig hdecides (fun _ => rfl) htrace hadvance
      | @reoffer e outcome queue hdecides =>
          refine h.answer hdiscipline hconfig hdecides ?_ htrace hadvance
          -- Under this policy nobody waits, so nobody decides after a wait.
          intro hpolicy
          exact absurd rfl (h.waits hpolicy _ hadvance.mem_before e)
      | count outcome =>
          refine h.silent hconfig (chronicle_of_trace htrace _)
            (displacedEntries_of_trace htrace) ?_
          intro hpolicy
          refine hadvance.not_blocked (h.waits hpolicy) ?_
          cases outcome <;> simp [PushPhase.afterCount]

theorem start (config : Config) (script : Script) (producers : Nat) :
    Policed (start config script producers) := by
  constructor
  · intro _ a ha
    cases ha
  · intro _ phase hphase e
    rw [isQuiet_start config script producers phase hphase]
    simp
  · intro _
    rfl

theorem of_run {config : Config} {script : Script} {producers : Nat} {actions : List Action}
    (h : (Writer.start config script producers).run actions = some w) : Policed w := by
  refine (Discipline.run ?_ (.start _ _ _) (start config script producers) h).2
  intro w w' hdiscipline hpoliced hmove
  exact hpoliced.event hdiscipline hmove.config (pushEvent_of_move hmove)

end Policed

end Writer

end AsyncLog
