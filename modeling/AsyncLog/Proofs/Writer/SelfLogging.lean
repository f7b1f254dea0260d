import AsyncLog.Proofs.Writer.Echo
import AsyncLog.Proofs.Writer.Submission
/-!
# A writer that hears its own reports

A writer whose listener hands the reports of the writer to the writer itself does
what it does without a listener: it calls the output in the same way and queues
the same entries.  Every report that is heard is rejected, on a thread that is
writing because it is refused at once, and on the owner's thread because the
queue is closed before the owner has anything to report.
-/

namespace AsyncLog

/-- The push of a report of the owner that a listener heard: the queue is closed, so
that it will be rejected. -/
inductive PushPhase.OnWay : PushPhase -> Prop where
  | idle : OnWay .idle
  | offering (line : Entry) : OnWay (.offering line)
  | rejected : OnWay (.counting .rejected)

def PushPhase.stepsLeft : PushPhase -> Nat
  | .idle => 0
  | .counting _ => 1
  | .offering _ | .blocked _ => 2

namespace OwnerPhase

def onWay (owner : OwnerPhase) : Nat :=
  if owner.push = .idle then 0 else 1

def hasReport : OwnerPhase -> Bool
  | .reportingLoss _ | .reportingEnd _ _ | .finished _ => true
  | _ => false

inductive Echo : OwnerPhase -> OwnerPhase -> Prop where
  | same {owner : OwnerPhase} : owner.hasReport = false -> Echo owner owner
  | loss {push : PushPhase} : push.OnWay -> Echo (.reportingLoss .idle) (.reportingLoss push)
  | ending {stats stats' : Stats} {push : PushPhase} : push.OnWay ->
      Echo (.reportingEnd stats .idle) (.reportingEnd stats' push)
  | finished {stats stats' : Stats} : Echo (.finished stats) (.finished stats')

theorem hasReport_after (stage : Stage) : (after stage).hasReport = false := by
  cases stage <;> rfl

theorem onWay_after (stage : Stage) : (after stage).onWay = 0 := by
  rw [onWay, if_pos (push_after stage)]

end OwnerPhase

namespace Writer

variable {l : Listener} {onWay : Nat} {plain loud : Writer}

/-- The writers agree, and so do the places of their owners. -/
structure Shadow (l : Listener) (plain loud : Writer) : Prop where
  echo : Echo l loud.owner.onWay plain loud
  owner : OwnerPhase.Echo plain.owner loud.owner

/-!
## Pushes
-/

namespace Echo

theorem answer (h : Echo l onWay plain loud) (source : Source) (e : Entry) (outcome : Push)
    (queue : Queue) :
    Echo l onWay (plain.answer source e outcome queue) (loud.answer source e outcome queue) := by
  have hqueue : Echo l onWay { plain with queue } { loud with queue } := { h with queue := rfl }
  simp only [Writer.answer, h.queue]
  exact hqueue.record _ rfl

structure Pushed (l : Listener) (onWay : Nat) (plain loud : Writer)
    (a b : Writer × PushPhase) : Prop where
  phase : b.2 = a.2
  echo : Echo l onWay a.1 b.1
  plain : a.1.owner = plain.owner
  loud : b.1.owner = loud.owner

theorem pushStep (h : Echo l onWay plain loud) (source : Source) (timedOut : Bool)
    (phase : PushPhase) :
    Option.Rel (Pushed l onWay plain loud)
      (plain.pushStep source timedOut phase) (loud.pushStep source timedOut phase) := by
  cases phase with
  | idle => exact .none
  | offering e =>
      simp only [Writer.pushStep, h.queue]
      cases plain.queue.offer e with
      | settled outcome queue => exact .some ⟨rfl, h.answer source e outcome queue, rfl, rfl⟩
      | blocked limit => exact .some ⟨rfl, h, rfl, rfl⟩
  | blocked e =>
      simp only [Writer.pushStep, h.queue]
      split
      · exact .none
      · exact .some ⟨rfl, h.answer source e _ _, rfl, rfl⟩
  | counting outcome =>
      have hcounted := h.count (·.countPush outcome)
        fun c n => c.countPush_countRejections n outcome
      exact .some ⟨rfl, hcounted, rfl, rfl⟩

end Echo

theorem rel_map {α β γ δ : Type} {r : α -> β -> Prop} {s : γ -> δ -> Prop} {x : Option α}
    {y : Option β} (h : Option.Rel r x y) (f : α -> γ) (g : β -> δ)
    (hmap : forall a b, r a b -> s (f a) (g b)) : Option.Rel s (x.map f) (y.map g) := by
  cases h with
  | none => exact .none
  | some hab => exact .some (hmap _ _ hab)

theorem exists_of_rel_left {α β : Type} {r : α -> β -> Prop} {a : α} {y : Option β}
    (h : Option.Rel r (some a) y) : exists b, y = some b ∧ r a b := by
  cases h with
  | some hab => exact ⟨_, rfl, hab⟩

theorem exists_of_rel_right {α β : Type} {r : α -> β -> Prop} {x : Option α} {b : β}
    (h : Option.Rel r x (some b)) : exists a, x = some a ∧ r a b := by
  cases h with
  | some hab => exact ⟨_, rfl, hab⟩

namespace Shadow

theorem of_echo {plain' loud' : Writer} (h : Shadow l plain loud)
    (hecho : Echo l loud.owner.onWay plain' loud') (hplain : plain'.owner = plain.owner)
    (hloud : loud'.owner = loud.owner) : Shadow l plain' loud' := by
  constructor
  · rw [hloud]
    exact hecho
  · rw [hplain, hloud]
    exact h.owner

theorem producerStep (h : Shadow l plain loud) (producer : Nat) (timedOut : Bool) :
    Option.Rel (Shadow l) (plain.producerStep producer timedOut)
      (loud.producerStep producer timedOut) := by
  unfold Writer.producerStep
  rw [h.echo.producers]
  cases plain.producers[producer]? with
  | none => exact .none
  | some phase =>
      refine rel_map (h.echo.pushStep (.producer producer) timedOut phase) _ _ ?_
      rintro ⟨plain', phase'⟩ ⟨loud', phase''⟩ ⟨hphase, hecho, hplain, hloud⟩
      dsimp only at hphase
      refine h.of_echo ?_ hplain hloud
      exact { hecho with producers := by dsimp only; rw [hphase, hecho.producers] }

theorem hand (h : Shadow l plain loud) (producer : Nat) (e : Entry) :
    Option.Rel (Shadow l) (plain.hand producer e) (loud.hand producer e) := by
  unfold Writer.hand
  rw [h.echo.producers]
  split
  · refine .some (h.of_echo ?_ rfl rfl)
    have hproducers : Echo l loud.owner.onWay
        { plain with producers := plain.producers.set producer (.offering e) }
        { loud with producers := plain.producers.set producer (.offering e) } :=
      { h.echo with producers := rfl }
    exact hproducers.record _ rfl
  · exact .none

theorem handRefused (h : Shadow l plain loud) (producer : Nat) (e : Entry) :
    Option.Rel (Shadow l) (plain.handRefused producer e) (loud.handRefused producer e) := by
  unfold Writer.handRefused
  rw [h.echo.producers]
  split
  · refine .some (h.of_echo ?_ rfl rfl)
    exact (h.echo.count Counters.countRejected Counters.countRejected_countRejections).record _ rfl
  · exact .none

/-!
## The drain thread
-/

theorem drainStep (h : Shadow l plain loud) :
    Option.Rel (Shadow l) plain.drainStep loud.drainStep := by
  unfold Writer.drainStep
  rw [h.echo.drain]
  cases plain.drain with
  | starting =>
      have hecho := h.echo.happen (.reported .threadStarted)
      refine .some (h.of_echo { hecho with drain := rfl } ?_ ?_)
      · exact (chatter_happen plain _).owner
      · exact (chatter_happen loud _).owner
  | checking =>
      dsimp only
      rw [h.echo.active]
      exact .some (h.of_echo { h.echo with active := rfl, drain := rfl } rfl rfl)
  | waiting => exact .some (h.of_echo { h.echo with drain := rfl } rfl rfl)
  | draining stage =>
      rcases h.echo.stageStep stage with ⟨hstage, hecho⟩
      dsimp only
      rw [hstage]
      refine .some (h.of_echo { hecho with drain := rfl } ?_ ?_)
      · exact (stageMove_stageStep plain stage).owner
      · exact (stageMove_stageStep loud stage).owner
  | stopping =>
      have hecho := h.echo.happen (.reported .threadStopping)
      refine .some (h.of_echo { hecho with drain := rfl } ?_ ?_)
      · exact (chatter_happen plain _).owner
      · exact (chatter_happen loud _).owner
  | stopped | panicked left => exact .none

end Shadow

/-!
## The owner
-/

namespace Echo

theorem set_owner (h : Echo l onWay plain loud) (owner owner' : OwnerPhase) :
    Echo l onWay { plain with owner } { loud with owner := owner' } :=
  { h with drain := h.drain }

theorem giveUp (h : Echo l onWay plain loud) (queued : List Entry) :
    Echo l onWay (plain.giveUp queued) (loud.giveUp queued) := by
  have hcounted := h.count (fun c => c.abandonInFlight.2.countFailed
    (UInt64.ofNat queued.length + c.abandonInFlight.1)) fun _ _ => rfl
  have hended : Echo l onWay
      { plain with
        counters := plain.counters.abandonInFlight.2.countFailed
          (UInt64.ofNat queued.length + plain.counters.abandonInFlight.1)
        drain := .panicked [] }
      { loud with
        counters := loud.counters.abandonInFlight.2.countFailed
          (UInt64.ofNat queued.length + loud.counters.abandonInFlight.1)
        drain := .panicked [] } := { hcounted with drain := rfl }
  rw [Writer.giveUp, Writer.giveUp, h.drain]
  exact hended.record _ rfl

theorem announce (h : Echo l 0 plain loud) (d d' : Diagnostic) (hlevel : d'.level = d.level) :
    (plain.announce d).2 = .idle ∧ (loud.announce d').2.OnWay ∧
      Echo l (if (loud.announce d').2 = .idle then 0 else 1) (plain.announce d).1
        (loud.announce d').1 := by
  have hplain : (plain.record (.output (.reported d))).lineOf? d = none :=
    lineOf_silent h.silent d
  have hloud := lineOf_listener (w := loud.record (.output (.reported d'))) h.listener d'
  have hpush : (loud.announce d').2.OnWay := by
    rcases announce_cases loud d' with heq | ⟨line, heq⟩
    · rw [heq]
      exact .idle
    · rw [heq]
      exact .offering line
  refine ⟨by simp only [Writer.announce, hplain], hpush, ?_⟩
  rcases h.counters with ⟨ahead, hcounters, hheard⟩
  constructor
  · rw [config_announce, config_announce, h.config]
  · rw [queue_announce, queue_announce, h.queue]
  · rw [active_announce, active_announce, h.active]
  · rw [output_announce, output_announce, h.output]
  · rw [producers_announce, producers_announce, h.producers]
  · rw [drain_announce, drain_announce, h.drain]
  · rw [listener_announce, h.listener]
  · rw [listener_announce, h.silent]
  · rw [calls_announce, calls_announce, h.calls]
  · rw [reports_announce, reports_announce, List.map_append, List.map_append, h.levels]
    simp only [List.map_cons, List.map_nil, hlevel]
  · refine ⟨ahead, by rw [counters_announce, counters_announce, hcounters], ?_⟩
    rw [heardBy, reports_announce, List.countP_append, ← heardBy, ← hheard]
    simp only [Writer.announce, hloud]
    cases hheard' : l.level.admits d'.level with
    | false => simp [hheard']
    | true => simp [hheard']

theorem pushOnWay (h : Echo l 1 plain loud) (hclosed : loud.queue.closed = true)
    {push : PushPhase} (honWay : push.OnWay) (hpush : push ≠ .idle) (timedOut : Bool) :
    exists loud' push', loud.pushStep .listener timedOut push = some (loud', push') ∧
      push'.OnWay ∧ Echo l (if push' = .idle then 0 else 1) plain loud' ∧
      push'.stepsLeft < push.stepsLeft := by
  rcases h.counters with ⟨ahead, hcounters, hheard⟩
  cases honWay with
  | idle => exact absurd rfl hpush
  | offering line =>
      have hoffer := Queue.offer_of_closed hclosed line
      refine ⟨loud.answer .listener line .rejected loud.queue, .counting .rejected, ?_, .rejected,
        ?_, by simp [PushPhase.stepsLeft]⟩
      · simp only [Writer.pushStep, hoffer]
      · have hreports := reports_record { loud with queue := loud.queue }
          (i := .answered .listener line .rejected none) rfl
        refine { h with calls := ?_, levels := ?_, counters := ⟨ahead, hcounters, ?_⟩ }
        · exact (calls_record _ rfl).trans h.calls
        · exact (congrArg (List.map Diagnostic.level) hreports).trans h.levels
        · exact hheard.trans (congrArg (List.countP _) hreports).symm
  | rejected =>
      refine ⟨{ loud with counters := loud.counters.countPush .rejected }, .idle, rfl, .idle, ?_,
        by simp [PushPhase.stepsLeft]⟩
      refine { h with counters := ⟨ahead + 1, ?_, hheard⟩ }
      rw [hcounters, ← Counters.countRejections_add]
      rfl

end Echo

namespace Shadow

theorem ownerStep (h : Shadow l plain loud) (hpush : loud.owner.push = .idle) (timedOut : Bool) :
    Option.Rel (Shadow l) (plain.ownerStep timedOut) (loud.ownerStep timedOut) := by
  have hecho := h.echo
  have howner := h.owner
  rw [OwnerPhase.onWay, if_pos hpush] at hecho
  unfold Writer.ownerStep
  generalize hplace : plain.owner = place at howner
  generalize hplace' : loud.owner = place' at howner hpush
  cases howner with
  | finished => exact .none
  | @loss push _ =>
      cases hpush
      exact .some ⟨hecho.set_owner _ _, .same rfl⟩
  | @ending stats stats' push _ =>
      cases hpush
      exact .some ⟨hecho.set_owner _ _, .finished⟩
  | same hreport =>
      cases place with
      | inUse | unwound left => exact .none
      | closing =>
          have hclosed : Echo l 0 { plain with queue := plain.queue.close }
              { loud with queue := loud.queue.close } := { hecho with queue := by rw [hecho.queue] }
          exact .some ⟨hclosed.set_owner _ _, .same rfl⟩
      | joining =>
          have hdrain := hecho.drain
          dsimp only
          cases hended : plain.drain with
          | stopped =>
              rw [hended] at hdrain
              rw [hdrain]
              exact .some ⟨{ hecho with drain := rfl }, .same rfl⟩
          | panicked left =>
              rw [hended] at hdrain
              rw [hdrain]
              exact .some ⟨{ hecho with drain := rfl }, .same rfl⟩
          | _ =>
              rw [hended] at hdrain
              rw [hdrain]
              exact .none
      | finishing stage =>
          rcases hecho.stageStep stage with ⟨hstage, hecho'⟩
          dsimp only
          rw [hstage]
          refine .some ⟨?_, .same (OwnerPhase.hasReport_after _)⟩
          rw [OwnerPhase.onWay_after]
          exact hecho'.set_owner _ _
      | recovering =>
          dsimp only [Writer.abandon]
          rw [hecho.queue]
          refine .some ⟨?_, .same rfl⟩
          have hqueue : Echo l 0 { plain with queue := (plain.queue.take .batch).2 }
              { loud with queue := (plain.queue.take .batch).2 } := { hecho with queue := rfl }
          exact (hqueue.record (.detached (plain.queue.take .batch).1) rfl).set_owner _ _
      | abandoning queued =>
          have hgivenUp := hecho.giveUp queued
          rcases hgivenUp.announce
            (.threadPanicked (UInt64.ofNat queued.length + plain.counters.abandonInFlight.1))
            (.threadPanicked (UInt64.ofNat queued.length + loud.counters.abandonInFlight.1))
            rfl with ⟨hidle, honWay, hecho'⟩
          dsimp only
          rw [recover_eq, recover_eq, hidle]
          exact .some ⟨hecho'.set_owner _ _, .loss honWay⟩
      | summing =>
          rcases hecho.announce (.shutDown plain.stats) (.shutDown loud.stats) rfl with
            ⟨hidle, honWay, hecho'⟩
          dsimp only
          rw [sum_eq, sum_eq, hidle]
          exact .some ⟨hecho'.set_owner _ _, .ending honWay⟩
      | reportingLoss push => cases hreport
      | reportingEnd stats push => cases hreport
      | finished stats => cases hreport

theorem beginShutdown (h : Shadow l plain loud) :
    Option.Rel (Shadow l) plain.beginShutdown loud.beginShutdown := by
  have hecho := h.echo
  have howner := h.owner
  unfold Writer.beginShutdown
  generalize hplace : plain.owner = place at howner
  generalize hplace' : loud.owner = place' at howner hecho
  cases howner with
  | finished => exact .some h
  | loss _ => exact .none
  | ending _ => exact .none
  | same hreport =>
      cases place with
      | inUse => exact .some ⟨{ hecho with active := rfl }, .same rfl⟩
      | unwound left => exact .some h
      | finished stats => exact .some h
      | _ => exact .none

theorem report (h : Shadow l plain loud) (hclosed : loud.queue.closed = true)
    (hpush : loud.owner.push ≠ .idle) (timedOut : Bool) :
    exists loud', loud.ownerStep timedOut = some loud' ∧ Shadow l plain loud' ∧
      loud'.owner.push.stepsLeft < loud.owner.push.stepsLeft := by
  have hecho := h.echo
  have howner := h.owner
  rw [OwnerPhase.onWay, if_neg hpush] at hecho
  generalize hplace : plain.owner = place at howner
  generalize hplace' : loud.owner = place' at howner hpush
  cases howner with
  | same hreport => cases place <;> simp [OwnerPhase.push, OwnerPhase.hasReport] at hpush hreport
  | finished => exact absurd rfl hpush
  | loss honWay =>
      rcases hecho.pushOnWay hclosed honWay hpush timedOut with
        ⟨loud', push', hstep, honWay', hecho', hless⟩
      refine ⟨{ loud' with owner := .reportingLoss push' }, ?_, ⟨?_, ?_⟩, hless⟩
      · cases honWay with
        | idle => exact absurd rfl hpush
        | _ => simp only [Writer.ownerStep, hplace', hstep, Option.map_some]
      · exact { hecho' with drain := hecho'.drain }
      · rw [hplace]
        exact .loss honWay'
  | @ending stats stats' push honWay =>
      rcases hecho.pushOnWay hclosed honWay hpush timedOut with
        ⟨loud', push', hstep, honWay', hecho', hless⟩
      refine ⟨{ loud' with owner := .reportingEnd stats' push' }, ?_, ⟨?_, ?_⟩, hless⟩
      · cases honWay with
        | idle => exact absurd rfl hpush
        | _ => simp only [Writer.ownerStep, hplace', hstep, Option.map_some]
      · exact { hecho' with drain := hecho'.drain }
      · rw [hplace]
        exact .ending honWay'

end Shadow

/-!
## Runs
-/

def isReport (w : Writer) : Action -> Bool
  | .owner _ => w.owner.push != .idle
  | _ => false

def withoutReports (w : Writer) : List Action -> List Action
  | [] => []
  | a :: rest =>
      match w.step a with
      | none => []
      | some w' => if w.isReport a then w'.withoutReports rest else a :: w'.withoutReports rest

theorem Shadow.step (h : Shadow l plain loud) {a : Action}
    (hlisten : forall other, a ≠ .listen other) (hreport : loud.isReport a = false) :
    Option.Rel (Shadow l) (plain.step a) (loud.step a) := by
  cases a with
  | hand producer e => exact h.hand producer e
  | refuse producer e => exact h.handRefused producer e
  | push producer timedOut => exact h.producerStep producer timedOut
  | drain => exact h.drainStep
  | shutDown => exact h.beginShutdown
  | owner timedOut =>
      have hpush : loud.owner.push = .idle := by simpa [isReport] using hreport
      exact h.ownerStep hpush timedOut
  | listen other => exact absurd rfl (hlisten other)

theorem withoutReports_append {w w' : Writer} {first : List Action} (h : w.run first = some w')
    (second : List Action) :
    w.withoutReports (first ++ second) = w.withoutReports first ++ w'.withoutReports second := by
  induction first generalizing w with
  | nil =>
      simp only [run_nil, Option.some.injEq] at h
      rw [h]
      rfl
  | cons a rest ih =>
      simp only [run_cons, Option.bind_eq_some_iff] at h
      rcases h with ⟨next, hstep, hrest⟩
      simp only [List.cons_append, withoutReports, hstep, ih hrest]
      split <;> rfl

/-- A run with a listener is a run without one, once the pushes of the owner's reports are
left out. -/
theorem Shadow.run (h : Shadow l plain loud) (hdiscipline : Discipline loud)
    {actions : List Action} (hlisten : forall other, .listen other ∉ actions) {loud' : Writer}
    (hrun : loud.run actions = some loud') :
    exists plain', plain.run (loud.withoutReports actions) = some plain' ∧
      Shadow l plain' loud' := by
  induction actions generalizing plain loud with
  | nil =>
      simp only [run_nil, Option.some.injEq] at hrun
      exact ⟨plain, rfl, hrun ▸ h⟩
  | cons a rest ih =>
      simp only [run_cons, Option.bind_eq_some_iff] at hrun
      rcases hrun with ⟨next, hstep, hrest⟩
      have hnext := hdiscipline.move (move_of_step hstep)
      have hlisten' : forall other, .listen other ∉ rest := fun other hmem =>
        hlisten other (List.mem_cons_of_mem a hmem)
      simp only [withoutReports, hstep]
      cases hreport : loud.isReport a with
      | true =>
          -- The step is left out, and `plain` stays where it is.
          cases a with
          | owner timedOut =>
              have hpush : loud.owner.push ≠ .idle := by simpa [isReport] using hreport
              rcases h.report (hdiscipline.closed_of_push hpush) hpush timedOut with
                ⟨next', hstep', hshadow, _⟩
              have hsame : next' = next := Option.some.inj (hstep'.symm.trans hstep)
              exact ih (hsame ▸ hshadow) hnext hlisten' hrest
          | _ => cases hreport
      | false =>
          have hrel := h.step (fun other heq => hlisten other (heq ▸ List.mem_cons_self)) hreport
          rw [hstep] at hrel
          rcases exists_of_rel_right hrel with ⟨plain', hplain, hshadow⟩
          rcases ih hshadow hnext hlisten' hrest with ⟨last, hlast, hshadow'⟩
          refine ⟨last, ?_, hshadow'⟩
          simp only [Bool.false_eq_true, if_false, run_cons, hplain, Option.bind_some]
          exact hlast

theorem Shadow.catch_up (h : Shadow l plain loud) (hdiscipline : Discipline loud) :
    exists reports loud', loud.run reports = some loud' ∧ loud.withoutReports reports = [] ∧
      Shadow l plain loud' ∧ loud'.owner.push = .idle := by
  -- Every step of the push brings it nearer to its rejection, and the writers stay in step.
  induction hsteps : loud.owner.push.stepsLeft using Nat.strongRecOn generalizing loud with
  | ind steps ih =>
      by_cases hpush : loud.owner.push = .idle
      · exact ⟨[], loud, rfl, rfl, h, hpush⟩
      · rcases h.report (hdiscipline.closed_of_push hpush) hpush false with
          ⟨next, hstep, hshadow, hless⟩
        have hstep' : loud.step (.owner false) = some next := hstep
        have hnext := hdiscipline.move (move_of_step hstep')
        rcases ih _ (hsteps ▸ hless) hshadow hnext rfl with
          ⟨reports, last, hrun, hnone, hlast, hidle⟩
        refine ⟨.owner false :: reports, last, ?_, ?_, hlast, hidle⟩
        · rw [run_cons, hstep']
          exact hrun
        · have hreport : loud.isReport (.owner false) = true := by simpa [isReport] using hpush
          simp only [withoutReports, hstep', hreport, if_true]
          exact hnone

/-- A run without a listener is one with a listener, once the pushes of the owner's
reports are put in. -/
theorem Shadow.run_of_plain (h : Shadow l plain loud) (hdiscipline : Discipline loud)
    (hidle : loud.owner.push = .idle) {actions : List Action}
    (hlisten : forall other, .listen other ∉ actions) {plain' : Writer}
    (hrun : plain.run actions = some plain') :
    exists actions' loud', loud.withoutReports actions' = actions ∧
      loud.run actions' = some loud' ∧ Shadow l plain' loud' ∧ loud'.owner.push = .idle := by
  induction actions generalizing plain loud with
  | nil =>
      simp only [run_nil, Option.some.injEq] at hrun
      exact ⟨[], loud, rfl, rfl, hrun ▸ h, hidle⟩
  | cons a rest ih =>
      simp only [run_cons, Option.bind_eq_some_iff] at hrun
      rcases hrun with ⟨next, hstep, hrest⟩
      have hreport : loud.isReport a = false := by cases a <;> simp [isReport, hidle]
      have hrel := h.step (fun other heq => hlisten other (heq ▸ List.mem_cons_self)) hreport
      rw [hstep] at hrel
      rcases exists_of_rel_left hrel with ⟨loud₁, hloud, hshadow⟩
      have hdiscipline₁ := hdiscipline.move (move_of_step hloud)
      rcases hshadow.catch_up hdiscipline₁ with ⟨reports, loud₂, hreports, hnone, hshadow₂, hidle₂⟩
      have hdiscipline₂ : Discipline loud₂ := run_induction Discipline.move hdiscipline₁ hreports
      have hlisten' : forall other, .listen other ∉ rest := fun other hmem =>
        hlisten other (List.mem_cons_of_mem a hmem)
      rcases ih hshadow₂ hdiscipline₂ hidle₂ hlisten' hrest with
        ⟨actions', last, hactions, hlast, hshadow₃, hidle₃⟩
      refine ⟨a :: (reports ++ actions'), last, ?_, ?_, hshadow₃, hidle₃⟩
      · simp only [withoutReports, hloud, hreport, Bool.false_eq_true, if_false,
          withoutReports_append hreports, hnone, List.nil_append, hactions]
      · rw [run_cons, hloud, Option.bind_some, run_append, hreports]
        exact hlast

theorem shadow_start (config : Config) (script : Script) (producers : Nat) (l : Listener) :
    Shadow l (start config script producers) ((start config script producers).listen l) where
  echo := {
    config := rfl, queue := rfl, active := rfl, output := rfl, producers := rfl, drain := rfl
    listener := rfl, silent := rfl, calls := rfl, levels := rfl
    counters := ⟨0, rfl, rfl⟩ }
  owner := .same rfl

/-!
## What a listener changes
-/

def LinesRejected (w : Writer) : Prop :=
  forall a, a ∈ w.answers -> a.source = .listener -> a.outcome = .rejected

theorem LinesRejected.event {w w' : Writer} (h : w.LinesRejected) (hdiscipline : Discipline w)
    (hevent : PushEvent w w') : w'.LinesRejected := by
  intro a ha hsource
  cases hevent with
  | aside haside _ _ _ =>
      rcases haside.lines with ⟨lines, _, hanswers, _, _⟩
      rw [hanswers, List.mem_append] at ha
      rcases ha with hold | hnew
      · exact h a hold hsource
      · rcases List.mem_map.mp hnew with ⟨line, _, rfl⟩
        rfl
  | begin hnew _ =>
      rw [hnew.answers] at ha
      exact h a ha hsource
  | @go source phase phase' next hpush htrace _ hadvance =>
      -- The listener is only inside a push while the owner reports.
      have hclosed : source = .listener -> w.queue.closed = true := by
        intro hlistener
        refine hdiscipline.closed_of_push ?_
        have hphase : w.owner.push = phase := by
          rw [hlistener] at hadvance
          exact hadvance.before
        rw [hphase]
        cases hpush <;> simp
      have hanswers : w'.answers = next.answers := chronicle_of_trace htrace _
      rw [hanswers] at ha
      cases hpush with
      | wait _ => exact h a ha hsource
      | count _ => exact h a ha hsource
      | offer hdecides | reoffer hdecides =>
          rw [answers_answer, List.mem_append, List.mem_singleton] at ha
          rcases ha with hold | rfl
          · exact h a hold hsource
          · exact (hdecides.of_closed (hclosed hsource)).1

theorem LinesRejected.of_run {w w' : Writer} {actions : List Action} (h : w.LinesRejected)
    (hdiscipline : Discipline w) (hrun : w.run actions = some w') : w'.LinesRejected := by
  refine (Discipline.run ?_ hdiscipline h hrun).2
  intro w w' hdiscipline hlines hmove
  exact hlines.event hdiscipline (pushEvent_of_move hmove)

/-- A writer with a listener does what the same writer does without one.  Only its count
of rejected entries is ahead, by the reports that the listener has heard; one of them
may be on its way, and none of them ever is in the queue. -/
structure Undisturbed (l : Listener) (plain loud : Writer) : Prop where
  calls : loud.calls = plain.calls
  queue : loud.queue = plain.queue
  appended : loud.stats.appended = plain.stats.appended
  written : loud.stats.written = plain.stats.written
  dropped : loud.stats.dropped = plain.stats.dropped
  failed : loud.stats.failed = plain.stats.failed
  flushFailures : loud.stats.flushFailures = plain.stats.flushFailures
  levels : loud.reports.map Diagnostic.level = plain.reports.map Diagnostic.level
  rejected : loud.stats.rejected + UInt64.ofNat loud.owner.onWay =
    plain.stats.rejected + UInt64.ofNat (loud.heardBy l)
  lines : loud.LinesRejected

theorem Shadow.undisturbed (h : Shadow l plain loud) (hlines : loud.LinesRejected) :
    Undisturbed l plain loud := by
  rcases h.echo.counters with ⟨ahead, hcounters, hheard⟩
  constructor
  · exact h.echo.calls
  · exact h.echo.queue
  · rw [stats, hcounters]
    rfl
  · rw [stats, hcounters]
    rfl
  · rw [stats, hcounters]
    rfl
  · rw [stats, hcounters]
    rfl
  · rw [stats, hcounters]
    rfl
  · exact h.echo.levels
  · rw [← hheard, UInt64.ofNat_add, ← UInt64.add_assoc, stats, hcounters]
    rfl
  · exact hlines

theorem withoutReports_extend {w w' : Writer} {first second : List Action}
    (h : w.run first = some w') :
    w.withoutReports first <+: w.withoutReports (first ++ second) :=
  ⟨_, (withoutReports_append h second).symm⟩

/-- Whatever the output does and however the threads take turns, a writer that hears its
own reports is undisturbed by them at every step: its runs are those of the writer
without a listener, once the steps that push reports of the owner are left out. -/
theorem self_logging_undisturbed (config : Config) (script : Script) (producers : Nat)
    (l : Listener) (actions : List Action) (hlisten : forall other, .listen other ∉ actions) :
    (forall loud, ((start config script producers).listen l).run actions = some loud ->
      forall before after, actions = before ++ after -> exists plain₀ loud₀,
        ((start config script producers).listen l).run before = some loud₀ ∧
        (start config script producers).run
          (((start config script producers).listen l).withoutReports before) = some plain₀ ∧
        ((start config script producers).listen l).withoutReports before <+:
          ((start config script producers).listen l).withoutReports actions ∧
        Undisturbed l plain₀ loud₀) ∧
    forall plain, (start config script producers).run actions = some plain ->
      exists actions' loud,
        ((start config script producers).listen l).withoutReports actions' = actions ∧
        ((start config script producers).listen l).run actions' = some loud ∧
        loud.owner.push = .idle ∧ Undisturbed l plain loud := by
  have hshadow := shadow_start config script producers l
  have hdiscipline : Discipline ((start config script producers).listen l) :=
    (Discipline.start config script producers).pass (.listen l)
  have hlines : ((start config script producers).listen l).LinesRejected := by
    intro a ha
    cases ha
  constructor
  · intro loud hrun before after hactions
    rw [hactions, run_append, Option.bind_eq_some_iff] at hrun
    rcases hrun with ⟨loud₀, hbefore, _⟩
    have hlisten' : forall other, .listen other ∉ before := fun other hmem =>
      hlisten other (hactions ▸ List.mem_append_left after hmem)
    rcases hshadow.run hdiscipline hlisten' hbefore with ⟨plain₀, hplain, hlast⟩
    rw [hactions]
    exact ⟨plain₀, loud₀, hbefore, hplain, withoutReports_extend hbefore,
      hlast.undisturbed (hlines.of_run hdiscipline hbefore)⟩
  · intro plain hrun
    rcases hshadow.run_of_plain hdiscipline rfl hlisten hrun with
      ⟨actions', loud, hactions, hloud, hlast, hidle⟩
    exact ⟨actions', loud, hactions, hloud, hidle,
      hlast.undisturbed (hlines.of_run hdiscipline hloud)⟩

def bursting : Script where
  write := fun _ => .panics
  flush := fun _ => .done

def burstRun : List Action :=
  [.hand 0 "a", .push 0 false, .push 0 false] ++ List.replicate 7 .drain ++ [.shutDown] ++
    List.replicate 11 (.owner false)

theorem self_logging_undisturbed_burst :
    exists plain loud,
      ((start Config.default bursting 1).listen ⟨.trace, "now"⟩).run burstRun = some loud ∧
      loud.owner.hasEnded = true ∧ loud.stats.rejected = 3 ∧ plain.stats.rejected = 0 ∧
      Undisturbed ⟨.trace, "now"⟩ plain loud := by
  let loud := (((start Config.default bursting 1).listen ⟨.trace, "now"⟩).run burstRun).get
    (by decide)
  have hlisten : forall other, .listen other ∉ burstRun := by
    intro other
    simp [burstRun]
  have hrun : ((start Config.default bursting 1).listen ⟨.trace, "now"⟩).run burstRun =
      some loud := (Option.some_get _).symm
  rcases (self_logging_undisturbed Config.default bursting 1 ⟨.trace, "now"⟩ burstRun hlisten).1
    loud hrun burstRun [] (List.append_nil _).symm with
      ⟨plain, loud₀, hloud₀, hplain, _, hundisturbed⟩
  have hsame : loud₀ = loud := Option.some.inj (hloud₀.symm.trans hrun)
  rw [hsame] at hundisturbed
  refine ⟨plain, loud, hrun, by decide, by decide, ?_, hundisturbed⟩
  have hrejected : ((start Config.default bursting 1).run
      (((start Config.default bursting 1).listen ⟨.trace, "now"⟩).withoutReports burstRun)).map
        (fun w => w.stats.rejected) = some 0 := by decide
  rw [hplain] at hrejected
  exact Option.some.inj hrejected

end Writer

end AsyncLog
