import AsyncLog.Proofs.Writer.Closing
import AsyncLog.Proofs.Writer.FinalPass
/-!
# Shutting down again

The second call to shut down gives back the counters as they are, while the first
one gave back a reading of them.  After that reading the end of the shutdown is
still to be reported, and a listener that hears the report makes an entry of it,
which the closed queue rejects.
-/

namespace AsyncLog

def OwnerPhase.reading? : OwnerPhase -> Option Stats
  | .reportingEnd stats _ | .finished stats => some stats
  | _ => none

/-- The rejections that a push at a closed queue has still to count. -/
def PushPhase.owed : PushPhase -> Nat
  | .idle => 0
  | .offering _ | .blocked _ | .counting _ => 1

def Writer.Action.isOfProducer : Action -> Bool
  | .hand _ _ | .refuse _ _ | .push _ _ => true
  | .drain | .shutDown | .owner _ | .listen _ => false

namespace Writer

variable {w w' : Writer}

/-!
## The reading of the counters
-/

theorem Move.reading (h : Move w w') {stats : Stats} (hstats : w'.owner.reading? = some stats) :
    w.owner.reading? = some stats ∨ (w.owner = .summing ∧ w' = w.sum ∧ stats = w.stats) := by
  cases h with
  | hand e _ | refuse e _ => exact Or.inl hstats
  | push _ hpush => exact Or.inl (hpush.owner ▸ hstats)
  | @report phase' next hpush =>
      left
      rw [← hpush.owner]
      cases howner : next.owner <;>
        simp [howner, OwnerPhase.withPush, OwnerPhase.reading?] at hstats
      · simp [OwnerPhase.reading?, hstats]
      · simp [OwnerPhase.reading?, hstats]
  | work _ => exact Or.inl ((stageMove_stageStep w _).owner ▸ hstats)
  | @finish stage _ =>
      cases hstage : (w.stageStep stage).2 <;>
        simp [hstage, OwnerPhase.after, OwnerPhase.reading?] at hstats
  | abandon _ | recover _ => cases hstats
  | sum howner =>
      refine Or.inr ⟨howner, rfl, ?_⟩
      cases hstats
      rfl
  | pass hpass =>
      cases hpass with
      | start _ => exact Or.inl ((chatter_happen w _).owner ▸ hstats)
      | stop _ => exact Or.inl ((chatter_happen w _).owner ▸ hstats)
      | endReported howner =>
          rw [howner]
          exact Or.inl hstats
      | request _ | close _ | join _ _ | joinPanicked _ _ | lossReported _ => cases hstats
      | _ => exact Or.inl hstats

theorem Move.reading_kept (h : Move w w') {stats : Stats} (hstats : w.owner.reading? = some stats) :
    w'.owner.reading? = some stats := by
  cases h with
  | hand e _ | refuse e _ => exact hstats
  | push _ hpush => exact hpush.owner.symm ▸ hstats
  | @report phase' next hpush =>
      rw [← hpush.owner] at hstats
      cases howner : next.owner <;> simp [howner, OwnerPhase.reading?] at hstats
      · simp [OwnerPhase.withPush, OwnerPhase.reading?, hstats]
      · simp [OwnerPhase.withPush, OwnerPhase.reading?, hstats]
  | work _ => exact (stageMove_stageStep w _).owner.symm ▸ hstats
  | finish howner | abandon howner | recover howner | sum howner =>
      simp [howner, OwnerPhase.reading?] at hstats
  | pass hpass =>
      cases hpass with
      | start _ => exact (chatter_happen w _).owner.symm ▸ hstats
      | stop _ => exact (chatter_happen w _).owner.symm ▸ hstats
      | endReported howner =>
          rw [howner] at hstats
          exact hstats
      | request howner | close howner | join howner _ | joinPanicked howner _
      | lossReported howner => simp [howner, OwnerPhase.reading?] at hstats
      | _ => exact hstats

/-- The counters are read in the step of a run that lies between two parts of it. -/
structure SumsBetween (first : Writer) (actions before after : List Action) (w₀ : Writer) :
    Prop where
  split : exists a, actions = before ++ a :: after ∧ w₀.step a = some w₀.sum
  run : first.run before = some w₀
  owner : w₀.owner = .summing

theorem exists_sumsBetween {actions : List Action} {stats : Stats}
    (hrun : w.run actions = some w') (hstats : w'.owner.reading? = some stats) :
    w.owner.reading? = some stats ∨
      exists before after w₀, SumsBetween w actions before after w₀ := by
  induction actions generalizing w with
  | nil =>
      cases hrun
      exact Or.inl hstats
  | cons a rest ih =>
      rw [run_cons, Option.bind_eq_some_iff] at hrun
      rcases hrun with ⟨next, hstep, hrest⟩
      rcases ih hrest with hread | ⟨before, after, w₀, ⟨b, hsplit, hsum⟩, hbefore, howner⟩
      · rcases (move_of_step hstep).reading hread with hearlier | ⟨howner, hnext, _⟩
        · exact Or.inl hearlier
        · exact Or.inr ⟨[], rest, w, ⟨a, rfl, hnext ▸ hstep⟩, rfl, howner⟩
      · refine Or.inr ⟨a :: before, after, w₀, ⟨b, by rw [hsplit]; rfl, hsum⟩, ?_, howner⟩
        rw [run_cons, hstep]
        exact hbefore

/-!
## After the reading
-/

/-- What is still to be counted, together with what has been counted since the counters
were read. -/
structure Reading (stats : Stats) (counters : Counters) (w : Writer) : Prop where
  reading : w.owner.reading? = some stats
  owed : w.counters.countRejections w.owner.push.owed = counters
  rejects : forall outcome, w.owner.push = .counting outcome -> outcome = .rejected

namespace Reading

variable {stats : Stats} {counters : Counters}

theorem past_output (h : Reading stats counters w) : w.owner.isPastOutput = true := by
  have hreading := h.reading
  cases howner : w.owner with
  | reportingEnd stats push | finished stats => rfl
  | _ => simp [howner, OwnerPhase.reading?] at hreading

theorem pushed {push push' : PushPhase} (h : Reading stats counters w)
    (hclosed : w.queue.closed = true) (howner : w.owner = .reportingEnd stats push)
    (hmove : PushMove w .listener push w' push') :
    Reading stats counters { w' with owner := .reportingEnd stats push' } := by
  rcases h with ⟨_, howed, hrejects⟩
  rw [howner] at howed hrejects
  cases hmove with
  | wait _ => exact ⟨rfl, howed, fun _ himpossible => by cases himpossible⟩
  | offer hdecides | reoffer hdecides =>
      refine ⟨rfl, howed, ?_⟩
      intro outcome houtcome
      cases houtcome
      exact (hdecides.of_closed hclosed).1
  | count outcome =>
      cases hrejects outcome rfl
      refine ⟨rfl, ?_, fun _ himpossible => by cases himpossible⟩
      rw [← howed]
      exact Counters.countRejections_zero _

theorem step {a : Action} (h : Reading stats counters w) (hdiscipline : Discipline w)
    (ha : a.isOfProducer = false) (hstep : w.step a = some w') : Reading stats counters w' := by
  rcases hdiscipline.past_output h.past_output with ⟨hended, _, hclosed⟩
  have hreading := h.reading
  cases a with
  | hand producer e | refuse producer e | push producer timedOut => cases ha
  | drain =>
      cases hdrain : w.drain with
      | stopped | panicked left => simp [Writer.step, drainStep, hdrain] at hstep
      | _ => simp [hdrain, DrainPhase.hasEnded] at hended
  | shutDown =>
      cases howner : w.owner with
      | finished _ =>
          simp only [Writer.step, beginShutdown, howner, Option.some.injEq] at hstep
          exact hstep ▸ h
      | reportingEnd _ push => simp [Writer.step, beginShutdown, howner] at hstep
      | _ => simp [howner, OwnerPhase.reading?] at hreading
  | listen listener =>
      cases hstep
      exact ⟨h.reading, h.owed, h.rejects⟩
  | owner timedOut =>
      cases howner : w.owner with
      | finished _ => simp [Writer.step, ownerStep, howner] at hstep
      | reportingEnd read push =>
          have hread : read = stats := by simpa [howner, OwnerPhase.reading?] using hreading
          rw [hread] at howner
          cases push with
          | idle =>
              simp only [Writer.step, ownerStep, howner, Option.some.injEq] at hstep
              have howed := h.owed
              rw [howner] at howed
              rw [← hstep]
              exact ⟨rfl, howed, fun _ himpossible => by cases himpossible⟩
          | offering e | blocked e | counting outcome =>
              simp only [Writer.step, ownerStep, howner, Option.map_eq_some_iff] at hstep
              rcases hstep with ⟨⟨next, push'⟩, hpush, rfl⟩
              exact h.pushed hclosed howner (pushMove_of_pushStep hpush)
      | _ => simp [howner, OwnerPhase.reading?] at hreading

theorem run {actions : List Action} (h : Reading stats counters w) (hdiscipline : Discipline w)
    (hquiet : forall a, a ∈ actions -> a.isOfProducer = false)
    (hrun : w.run actions = some w') : Reading stats counters w' := by
  induction actions generalizing w with
  | nil =>
      cases hrun
      exact h
  | cons a rest ih =>
      rw [run_cons, Option.bind_eq_some_iff] at hrun
      rcases hrun with ⟨next, hstep, hrest⟩
      have hnext := h.step hdiscipline (hquiet a List.mem_cons_self) hstep
      have hquiet' : forall b, b ∈ rest -> b.isOfProducer = false :=
        fun b hb => hquiet b (List.mem_cons_of_mem _ hb)
      exact ih hnext (hdiscipline.move (move_of_step hstep)) hquiet' hrest

theorem of_sum (w : Writer) : Reading w.stats
    (w.counters.countRejections (w.announce (.shutDown w.stats)).2.owed) w.sum where
  reading := rfl
  owed := by
    rw [sum_eq, counters_announce]
    rfl
  rejects := by
    intro outcome houtcome
    rcases announce_cases w (.shutDown w.stats) with hsilent | ⟨line, hheard⟩
    · simp [sum_eq, OwnerPhase.push, hsilent] at houtcome
    · simp [sum_eq, OwnerPhase.push, hheard] at houtcome

end Reading

/-- The report of the end is the least of all reports. -/
theorem owed_shutDown (w : Writer) (stats : Stats) :
    (w.announce (.shutDown stats)).2.owed = if w.listener.any (·.level = .trace) then 1 else 0 := by
  unfold announce lineOf?
  dsimp only [listener_record]
  cases w.listener with
  | none => rfl
  | some l => rcases l with ⟨level, stamp⟩; cases level <;> rfl

theorem SumsBetween.run_after {first w₀ : Writer} {actions before after : List Action}
    (h : SumsBetween first actions before after w₀) (hrun : first.run actions = some w) :
    w₀.sum.run after = some w := by
  rcases h.split with ⟨a, hsplit, hsum⟩
  rw [hsplit, run_append, h.run, Option.bind_some, run_cons, hsum] at hrun
  exact hrun

/-- Shutting down again calls nothing and gives back the counters as they are.  After a
shutdown that returned they are those that it read and gave back, but for what pushes
counted since then: without any act of a producer they are the same, unless the report of
the end was heard and its entry rejected. -/
theorem shutDown_again_iff {config : Config} {script : Script} {producers : Nat}
    {actions : List Action} (hrun : (start config script producers).run actions = some w)
    (hended : w.owner.hasEnded = true) :
    w.shutDown = (.counted w.stats, w) ∧
    forall stats, w.owner = .finished stats ->
      (exists before after w₀,
        SumsBetween (start config script producers) actions before after w₀) ∧
      forall before after w₀, SumsBetween (start config script producers) actions before after w₀ ->
        w₀.stats = stats ∧ AtRest w₀ w ∧
        ((forall a, a ∈ after -> a.isOfProducer = false) ->
          w.stats = { stats with
            rejected := stats.rejected + if w₀.listener.any (·.level = .trace) then 1 else 0 } ∧
          (w.stats = stats ↔ forall l, w₀.listener = some l -> l.level ≠ .trace)) := by
  refine ⟨shutDown_of_ended hended, ?_⟩
  intro stats howner
  have hread : w.owner.reading? = some stats := by
    rw [howner]
    rfl
  constructor
  · rcases exists_sumsBetween hrun hread with hstart | hsums
    · cases hstart
    · exact hsums
  · intro before after w₀ hsums
    have hafter := hsums.run_after hrun
    have hdiscipline₀ : Discipline w₀ := .of_run hsums.run
    have hdiscipline : Discipline w₀.sum := hdiscipline₀.sum hsums.owner
    have hstats : w₀.stats = stats := by
      have hkept : w.owner.reading? = some w₀.stats :=
        run_induction (P := fun next => next.owner.reading? = some w₀.stats)
          (fun hnext hmove => hmove.reading_kept hnext) rfl hafter
      rw [hread] at hkept
      exact (Option.some.inj hkept).symm
    refine ⟨hstats, ?_, ?_⟩
    · have hpast : w₀.owner.isPastOutput = true := by
        rw [hsums.owner]
        rfl
      exact (AtRest.of_move hdiscipline₀ hpast (.sum hsums.owner)).1.trans
        (.of_run hdiscipline rfl hafter)
    · intro hquiet
      have howed := ((Reading.of_sum w₀).run hdiscipline hquiet hafter).owed
      rw [howner, owed_shutDown] at howed
      have hcount : w.stats = { stats with
          rejected := stats.rejected + if w₀.listener.any (·.level = .trace) then 1 else 0 } := by
        have hcounters : w.counters = _ := (Counters.countRejections_zero _).symm.trans howed
        rw [Writer.stats, hcounters, ← hstats]
        cases w₀.listener.any (·.level = .trace) <;> rfl
      refine ⟨hcount, ?_⟩
      rw [hcount]
      cases hlistener : w₀.listener with
      | none => simp
      | some l =>
          by_cases htrace : l.level = .trace
          · have hmore : stats.rejected + 1 ≠ stats.rejected := by simp
            simp only [Option.any_some, htrace, decide_true, if_true, Option.some.injEq]
            constructor
            · intro hsame
              exact absurd (congrArg Stats.rejected hsame) hmore
            · intro hquieter
              exact absurd htrace (hquieter l rfl)
          · simp [htrace]

/-- A listener that hears every report makes two calls in a row give back different
counters, although nobody else uses the writer. -/
theorem shutDown_again_overheard :
    let first := ((start Config.default .obliging 0).settle false).listen ⟨.trace, "now"⟩
    first.shutDown.1 = .counted { rejected := 1 } ∧
      first.shutDown.2.shutDown.1 = .counted { rejected := 2 } := by
  decide

def idleShutDown (level : Level) : List Action :=
  [.listen ⟨level, "now"⟩, .shutDown, .owner false] ++ List.replicate 3 .drain ++
    List.replicate 2 (.owner false)

theorem shutDown_again_debug :
    exists w : Writer, (start Config.default .obliging 0).run
        (idleShutDown .debug ++ List.replicate 2 (.owner false)) = some w ∧
      w.owner = .finished {} ∧ w.shutDown = (.counted {}, w) := by
  let summing := ((start Config.default .obliging 0).run (idleShutDown .debug)).get (by decide)
  let ended := ((start Config.default .obliging 0).run
    (idleShutDown .debug ++ List.replicate 2 (.owner false))).get (by decide)
  have hbefore : (start Config.default .obliging 0).run (idleShutDown .debug) = some summing :=
    (Option.some_get _).symm
  have hrun : (start Config.default .obliging 0).run
      (idleShutDown .debug ++ List.replicate 2 (.owner false)) = some ended :=
    (Option.some_get _).symm
  have howner : ended.owner = .finished {} := by decide
  have hsums : SumsBetween (start Config.default .obliging 0)
      (idleShutDown .debug ++ List.replicate 2 (.owner false)) (idleShutDown .debug)
      [.owner false] summing := ⟨⟨.owner false, rfl, rfl⟩, hbefore, by decide⟩
  have hagain := shutDown_again_iff hrun (by rw [howner]; rfl)
  have hsame := (hagain.2 {} howner).2 _ _ _ hsums
  have hstats : ended.stats = {} := (hsame.2.2 (by decide)).2.mpr (by decide)
  refine ⟨ended, hrun, howner, ?_⟩
  rw [← hstats]
  exact hagain.1

end Writer

end AsyncLog
