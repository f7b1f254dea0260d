import AsyncLog.Proofs.Writer.Accounting
import AsyncLog.Proofs.Writer.Progress
/-!
# The drain thread of an active writer

Only the shutdown makes a writer inactive, and nobody watches the drain thread.  So it runs
as long as the writer is active and no call on the output has panicked.  A panic ends it,
and then nothing is taken out of the queue until the writer is shut down.
-/

namespace AsyncLog

namespace Writer

variable {w w' : Writer}

/-- What the drain thread has come to: only a panic ends it while the writer is active, and
it has made all calls that have panicked so far if it has not ended. -/
structure Fate (w : Writer) : Prop where
  running : w.drain.hasEnded = false -> w.hasPanicked = false
  panicked : forall left, w.drain = .panicked left -> w.hasPanicked = true
  unwound : forall left, w.drain ≠ .draining (.panicked left)
  stopped : w.drain = .stopping ∨ w.drain = .stopped -> w.active = false

namespace Fate

theorem of_calls (h : Fate w) (hdrain : w'.drain = w.drain) (hcalls : w'.calls = w.calls)
    (hactive : w.active = false -> w'.active = false) : Fate w' := by
  have hpanicked := hasPanicked_of_calls hcalls
  constructor
  · rw [hdrain, hpanicked]
    exact h.running
  · rw [hdrain, hpanicked]
    exact h.panicked
  · rw [hdrain]
    exact h.unwound
  · rw [hdrain]
    intro hstopped
    exact hactive (h.stopped hstopped)

theorem onward {drain : DrainPhase} (h : Fate w) (hcalls : w'.calls = w.calls)
    (hrunning : w.drain.hasEnded = false) (hdrain : w'.drain = drain)
    (hplace : drain = .checking ∨ drain = .waiting ∨ drain = .draining .taking ∨
      ((drain = .stopping ∨ drain = .stopped) ∧ w'.active = false)) : Fate w' := by
  have hpanicked := (hasPanicked_of_calls hcalls).trans (h.running hrunning)
  subst hdrain
  constructor
  · intro _
    exact hpanicked
  · intro left hleft
    rw [hleft] at hplace
    simp at hplace
  · intro left hleft
    rw [hleft] at hplace
    simp at hplace
  · intro hstopped
    rcases hplace with hplace | hplace | hplace | ⟨_, hactive⟩
    · simp [hplace] at hstopped
    · simp [hplace] at hstopped
    · simp [hplace] at hstopped
    · exact hactive

theorem work {stage : Stage} (h : Fate w) (hdrain : w.drain = .draining stage) :
    Fate { (w.stageStep stage).1 with drain := .after (w.stageStep stage).2 } := by
  have hstage : stage.isPanicked = false := by
    cases stage with
    | panicked left => exact absurd hdrain (h.unwound left)
    | _ => rfl
  have hbefore := h.running (by rw [hdrain]; rfl)
  have hpanicked : (w.stageStep stage).1.hasPanicked = (w.stageStep stage).2.isPanicked := by
    rw [hasPanicked_stageStep hstage, hbefore, Bool.false_or]
  rcases hstep : w.stageStep stage with ⟨next, stage'⟩
  rw [hstep] at hpanicked
  change next.hasPanicked = stage'.isPanicked at hpanicked
  have hsame : ({ next with drain := .after stage' } : Writer).hasPanicked = next.hasPanicked := rfl
  constructor
  · intro hrunning
    rw [hsame, hpanicked]
    cases stage' with
    | panicked left => cases hrunning
    | _ => rfl
  · intro left hleft
    rw [hsame, hpanicked]
    cases stage' <;> simp [DrainPhase.after] at hleft
    rfl
  · intro left hleft
    cases stage' <;> simp [DrainPhase.after] at hleft
  · intro hstopped
    cases stage' <;> simp [DrainPhase.after] at hstopped

theorem of_finishing {stage : Stage} (hdiscipline : Discipline w)
    (howner : w.owner = .finishing stage) :
    Fate { (w.stageStep stage).1 with owner := .after (w.stageStep stage).2 } := by
  have hmove := stageMove_stageStep w stage
  have hstopped : (w.stageStep stage).1.drain = .stopped :=
    hmove.drain.trans (hdiscipline.knows howner).1
  have hactive : (w.stageStep stage).1.active = false :=
    hmove.active.trans (hdiscipline.inactive (by simp [howner]))
  constructor
  · intro hrunning
    simp [hstopped, DrainPhase.hasEnded] at hrunning
  · intro left hleft
    simp [hstopped] at hleft
  · intro left hleft
    simp [hstopped] at hleft
  · intro _
    exact hactive

theorem recover {queued : List Entry} (h : Fate w) (hdiscipline : Discipline w)
    (howner : w.owner = .abandoning queued) : Fate (w.recover queued) := by
  rcases (hdiscipline.knows howner).1 with ⟨left, hleft⟩
  have hdrain : (w.recover queued).drain = .panicked [] := drain_announce _ _
  have hcalls : (w.recover queued).calls = w.calls :=
    (calls_announce _ _).trans (calls_record _ rfl)
  have hpanicked := (hasPanicked_of_calls hcalls).trans (h.panicked left hleft)
  constructor
  · intro hrunning
    simp [hdrain, DrainPhase.hasEnded] at hrunning
  · intro _ _
    exact hpanicked
  · simp [hdrain]
  · simp [hdrain]

theorem pass (h : Fate w) (hpass : Pass w w') : Fate w' := by
  have hcalls := hpass.calls
  cases hpass with
  | start hdrain => exact h.onward hcalls (by rw [hdrain]; rfl) rfl (by simp)
  | wake hdrain => exact h.onward hcalls (by rw [hdrain]; rfl) rfl (by simp)
  | stop hdrain =>
      have hactive := (chatter_happen w (.reported .threadStopping)).active
      have hinactive := hactive.trans (h.stopped (Or.inl hdrain))
      exact h.onward hcalls (by rw [hdrain]; rfl) rfl (by simp [hinactive])
  | check hdrain =>
      refine h.onward hcalls (by rw [hdrain]; rfl) rfl ?_
      cases w.active <;> simp
  | request _ => exact h.of_calls rfl hcalls (fun _ => rfl)
  | _ => exact h.of_calls rfl hcalls id

theorem move (hdiscipline : Discipline w) (h : Fate w) (hmove : Move w w') : Fate w' := by
  cases hmove with
  | hand e _ | refuse e _ => exact h.of_calls rfl (calls_record _ rfl) id
  | push _ hpush | report hpush =>
      refine h.of_calls hpush.drain hpush.calls ?_
      intro hactive
      exact hpush.active.trans hactive
  | work hdrain => exact h.work hdrain
  | finish howner => exact of_finishing hdiscipline howner
  | abandon _ => exact h.of_calls rfl (calls_record _ rfl) id
  | recover howner => exact h.recover hdiscipline howner
  | sum _ =>
      refine h.of_calls (drain_announce _ _) (calls_announce _ _) ?_
      intro hactive
      exact (active_announce _ _).trans hactive
  | pass hpass => exact h.pass hpass

theorem start (config : Config) (script : Script) (producers : Nat) :
    Fate (start config script producers) := by
  constructor
  · intro _
    rfl
  · intro left hleft
    cases hleft
  · intro left hleft
    cases hleft
  · rintro (hstopping | hstopped)
    · cases hstopping
    · cases hstopped

theorem of_run {config : Config} {script : Script} {producers : Nat} {actions : List Action}
    (h : (Writer.start config script producers).run actions = some w) : Fate w :=
  (Discipline.run move (.start config script producers) (start config script producers) h).2

/-- While the writer is active its drain thread has ended exactly if a call has panicked. -/
theorem running_iff (h : Fate w) (hactive : w.active = true) :
    w.drain.hasEnded = false ↔ w.hasPanicked = false := by
  constructor
  · exact h.running
  · intro hcalm
    cases hdrain : w.drain with
    | stopped =>
        have hinactive := h.stopped (Or.inr hdrain)
        rw [hactive] at hinactive
        cases hinactive
    | panicked left =>
        have hpanicked := h.panicked left hdrain
        rw [hcalm] at hpanicked
        cases hpanicked
    | _ => rfl

end Fate

/-!
## After the drain thread has ended
-/

theorem active_of_move (hmove : Move w w') (hactive : w'.active = true) : w.active = true := by
  cases hmove with
  | hand _ _ | refuse _ _ | abandon _ => exact hactive
  | push _ hpush | report hpush => exact hpush.active.symm.trans hactive
  | work _ | finish _ => exact (stageMove_stageStep w _).active.symm.trans hactive
  | @recover queued _ => exact (active_announce (w.giveUp queued) _).symm.trans hactive
  | sum _ => exact (active_announce _ _).symm.trans hactive
  | pass hpass =>
      cases hpass with
      | request _ => cases hactive
      | start _ | stop _ => exact (chatter_happen w _).active.symm.trans hactive
      | _ => exact hactive

theorem idle_of_move (hdiscipline : Discipline w) (hmove : Move w w') (hactive : w.active = true)
    (hended : w.drain.hasEnded = true) :
    w'.drain = w.drain ∧ w'.detachedEntries = w.detachedEntries := by
  have hinUse := hdiscipline.active.mp hactive
  cases hmove with
  | hand e _ => exact ⟨rfl, (Offstage.of_hand w _ _ e).detached⟩
  | refuse e _ => exact ⟨rfl, (Offstage.of_refuse w _ e).detached⟩
  | push _ hpush | report hpush => exact ⟨hpush.drain, (Offstage.of_push hpush).detached⟩
  | work hdrain =>
      rw [hdrain] at hended
      cases hended
  | finish howner | abandon howner | recover howner | sum howner =>
      rw [hinUse] at howner
      cases howner
  | pass hpass =>
      refine ⟨?_, (Offstage.of_pass hpass).detached⟩
      cases hpass with
      | start hdrain | check hdrain | wake hdrain | stop hdrain =>
          rw [hdrain] at hended
          cases hended
      | _ => rfl

theorem idle_of_run {later : List Action} (hdiscipline : Discipline w)
    (hended : w.drain.hasEnded = true) (hrun : w.run later = some w')
    (hactive : w'.active = true) :
    w'.drain = w.drain ∧ w'.detachedEntries = w.detachedEntries := by
  refine (Discipline.run (P := fun next => next.active = true ->
    next.drain = w.drain ∧ next.detachedEntries = w.detachedEntries) ?_ hdiscipline
    (fun _ => ⟨rfl, rfl⟩) hrun).2 hactive
  intro next next' hnext hkept hmove hactive'
  have hactiveNext := active_of_move hmove hactive'
  rcases hkept hactiveNext with ⟨hdrain, hdetached⟩
  rcases idle_of_move hnext hmove hactiveNext (by rw [hdrain]; exact hended) with
    ⟨hdrain', hdetached'⟩
  exact ⟨hdrain'.trans hdrain, hdetached'.trans hdetached⟩

/-- The drain thread of an active writer runs exactly as long as no call on the output has
panicked.  While it runs it can still take all that is queued, unless the output panics on
the way; once it has ended nothing more is taken as long as the writer is active. -/
theorem active_running_iff {config : Config} {script : Script} {producers : Nat}
    {actions : List Action} (hrun : (start config script producers).run actions = some w)
    (hactive : w.active = true) :
    (w.drain.hasEnded = false ↔ w.hasPanicked = false) ∧
    (w.drain.hasEnded = false -> exists n w', w.run (List.replicate n .drain) = some w' ∧
      (w'.hasPanicked = true ∨
        (w'.queue.entries = [] ∧ w'.detachedEntries = w.detachedEntries ++ w.queue.entries))) ∧
    (w.drain.hasEnded = true -> forall later w', w.run later = some w' -> w'.active = true ->
      w'.drain = w.drain ∧ w'.detachedEntries = w.detachedEntries) := by
  have hfate := Fate.of_run hrun
  refine ⟨hfate.running_iff hactive, ?_, ?_⟩
  · intro hrunning
    have hstopping : w.drain ≠ .stopping := by
      intro hstopping
      rw [hfate.stopped (Or.inl hstopping)] at hactive
      cases hactive
    rcases exists_detached w.config.retryRule w rfl hactive hrunning hstopping with
      ⟨n, w', hlater, hactive', hend⟩
    refine ⟨n, w', hlater, ?_⟩
    rcases hend with hended | hdetached
    · left
      have hall : (start config script producers).run (actions ++ List.replicate n .drain) =
          some w' := by
        rw [run_append, hrun]
        exact hlater
      cases hpanicked : w'.hasPanicked with
      | true => rfl
      | false =>
          have hnot := ((Fate.of_run hall).running_iff hactive').mpr hpanicked
          rw [hended] at hnot
          cases hnot
    · exact Or.inr hdetached
  · intro hended later w' hlater hactive'
    exact idle_of_run (Discipline.of_run hrun) hended hlater hactive'

def unnoticed : List Action :=
  [.hand 0 "a", .push 0 false, .push 0 false] ++ List.replicate 11 .drain ++
    [.hand 0 "boom", .push 0 false, .push 0 false] ++ List.replicate 6 .drain ++
    [.hand 0 "late", .push 0 false, .push 0 false]

/-- The writer is active and an entry is queued, and nobody is there to take it. -/
theorem active_ended_unnoticed :
    exists w, (start Config.default tripwire 1).run unnoticed = some w ∧ w.active = true ∧
      w.drain.hasEnded = true ∧ w.pending = 1 ∧ w.stats = { appended := 3, written := 1 } := by
  let ended := ((start Config.default tripwire 1).run unnoticed).get (by decide)
  exact ⟨ended, (Option.some_get _).symm, by decide, by decide, by decide, by decide⟩

theorem active_running_unnoticed :
    exists early w : Writer,
      (start Config.default tripwire 1).run (unnoticed.take 22) = some early ∧
      early.active = true ∧ early.drain.hasEnded = false ∧
      (start Config.default tripwire 1).run unnoticed = some w ∧ w.active = true ∧
      w.drain.hasEnded = true ∧
      forall later w', w.run later = some w' -> w'.active = true ->
        w'.drain = w.drain ∧ w'.detachedEntries = w.detachedEntries := by
  let early := ((start Config.default tripwire 1).run (unnoticed.take 22)).get (by decide)
  let ended := ((start Config.default tripwire 1).run unnoticed).get (by decide)
  have hearly : (start Config.default tripwire 1).run (unnoticed.take 22) = some early :=
    (Option.some_get _).symm
  have hrun : (start Config.default tripwire 1).run unnoticed = some ended :=
    (Option.some_get _).symm
  have hactive : early.active = true := by decide
  have hactive' : ended.active = true := by decide
  have hended : ended.drain.hasEnded = true := by decide
  have hrunning := (active_running_iff hearly hactive).1.mpr (by decide)
  have hidle := (active_running_iff hrun hactive').2.2 hended
  exact ⟨early, ended, hearly, hactive, hrunning, hrun, hactive', hended, hidle⟩

end Writer

end AsyncLog
