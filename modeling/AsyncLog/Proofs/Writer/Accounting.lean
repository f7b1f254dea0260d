import AsyncLog.Proofs.Writer.Policy
import AsyncLog.Proofs.Writer.Tally
/-!
# Every entry is accounted for

Outside of pushes every entry that was handed over is in one place: it was
written, failed, dropped or rejected, or it is still queued or in the hands of
the thread that moves entries.  The first four places are what the counters
count.
-/

namespace AsyncLog

namespace Writer

variable {w : Writer}

/-!
## Classes of entries
-/

theorem departures_perm (departures : List Departure) :
    (departures.map Departure.entry).Perm
      (departures.filterMap Departure.detached? ++ departures.filterMap Departure.displaced?) := by
  induction departures with
  | nil => exact List.Perm.nil
  | cons departure rest ih =>
      cases departure with
      | detached e => exact ih.cons e
      | displaced e => exact (ih.cons e).trans List.perm_middle.symm

theorem answers_perm (w : Writer) :
    (w.answers.map Answer.entry).Perm
      (w.accepted.map Answer.entry ++ ((w.answers.filter fun a => a.outcome == .dropped).map
        Answer.entry ++ w.rejectedEntries)) := by
  unfold accepted rejectedEntries
  induction w.answers with
  | nil => exact List.Perm.nil
  | cons a rest ih =>
      rcases a with ⟨source, e, outcome⟩
      rw [List.perm_iff_count] at ih ⊢
      intro other
      have hrest := ih other
      cases outcome <;>
        simp [List.count_append, List.count_cons, List.filter_cons] at hrest ⊢ <;> omega

theorem results_perm (w : Writer) :
    (w.results.map Result.entry).Perm (w.writtenEntries ++ w.failedEntries) := by
  rw [writtenEntries, failedEntries, ← List.map_append]
  exact (List.filter_append_perm (fun r => r.ending.isWritten) w.results).symm.map _

theorem handed_perm (hanswered : w.Answered) (hline : InLine w) (hquiet : w.IsQuiet) :
    (w.handed.map Prod.snd).Perm
      (w.writtenEntries ++ w.failedEntries ++ w.droppedEntries ++ w.rejectedEntries ++
        w.queue.entries ++ w.inHand) := by
  -- Every equation is about lists, so each entry is counted on both sides of all of them.
  rw [List.perm_iff_count]
  intro e
  have hhanded := (hanswered.of_quiet hquiet).count_eq e
  have hanswers := (answers_perm w).count_eq e
  have horder := congrArg (List.count e) hline.order
  have hdepartures := (departures_perm w.departures).count_eq e
  have hwork := congrArg (List.count e) hline.work
  have hresults := (results_perm w).count_eq e
  simp only [detachedEntries, droppedEntries, displacedEntries, List.count_append] at *
  omega

theorem accepted_length_eq (hline : InLine w) :
    w.accepted.length = w.writtenEntries.length + w.failedEntries.length +
      w.displacedEntries.length + w.queue.entries.length + w.inHand.length := by
  have horder := congrArg List.length hline.order
  have hdepartures := (departures_perm w.departures).length_eq
  have hwork := congrArg List.length hline.work
  have hresults := (results_perm w).length_eq
  simp only [detachedEntries, displacedEntries, List.length_append, List.length_map] at *
  omega

theorem empty_of_finished {stats : Stats} (h : Discipline w) (howner : w.owner = .finished stats) :
    w.queue.entries = [] ∧ w.inHand = [] := by
  rcases h.knows howner with ⟨hdrain, hqueue⟩
  refine ⟨hqueue, ?_⟩
  rw [inHand, howner]
  rcases hdrain with hdrain | hdrain <;> rw [hdrain] <;> rfl

/-!
## The counters
-/

/-- The counters of the four classes are the numbers of their entries. -/
structure Counted (w : Writer) : Prop where
  written : w.stats.written = UInt64.ofNat w.writtenEntries.length
  failed : w.stats.failed = UInt64.ofNat w.failedEntries.length
  dropped : w.stats.dropped = UInt64.ofNat w.droppedEntries.length
  rejected : w.stats.rejected = UInt64.ofNat w.rejectedEntries.length

theorem counted_of_quiet {hand : List Entry} (hpush : PushTally w) (hstage : StageTally w hand)
    (hquiet : w.IsQuiet) : Counted w where
  written := hstage.written
  failed := hstage.failed
  dropped := hpush.dropped.of_quiet hquiet
  rejected := hpush.rejected.of_quiet hquiet

theorem handed_count {queued hand : List Entry} (hcounted : Counted w)
    (hplaces : (w.handed.map Prod.snd).Perm
      (w.writtenEntries ++ w.failedEntries ++ w.droppedEntries ++ w.rejectedEntries ++
        queued ++ hand)) :
    UInt64.ofNat w.handed.length =
      w.stats.written + w.stats.failed + w.stats.dropped + w.stats.rejected +
        UInt64.ofNat queued.length + UInt64.ofNat hand.length := by
  have hlength := hplaces.length_eq
  simp only [List.length_map, List.length_append] at hlength
  rw [hlength, hcounted.written, hcounted.failed, hcounted.dropped, hcounted.rejected]
  simp only [UInt64.ofNat_add]

/-- Under a policy that discards the oldest entries no other entry is dropped, and under
the other policies none of the accepted entries is. -/
theorem appended_count (hpush : PushTally w) (hcounted : Counted w) (hpoliced : Policed w)
    (hline : InLine w) (hquiet : w.IsQuiet) (hqueue : w.queue.entries = [])
    (hhand : w.inHand = []) :
    (w.config.overflow = .dropOldest ->
      w.stats.appended = w.stats.written + w.stats.failed + w.stats.dropped) ∧
    (w.config.overflow ≠ .dropOldest ->
      w.stats.appended = w.stats.written + w.stats.failed) := by
  have hlength := accepted_length_eq hline
  rw [hqueue, hhand] at hlength
  simp only [List.length_nil, Nat.add_zero] at hlength
  rw [hpush.appended.of_quiet hquiet, hcounted.written, hcounted.failed, hcounted.dropped, hlength]
  constructor
  · intro hpolicy
    have hnone : (w.answers.filter fun a => a.outcome == .dropped) = [] := by
      rw [List.filter_eq_nil_iff]
      intro a ha
      simpa using hpoliced.drops hpolicy a ha
    rw [droppedEntries, hnone, List.map_nil, List.nil_append, UInt64.ofNat_add, UInt64.ofNat_add]
  · intro hpolicy
    rw [hpoliced.displaces hpolicy, List.length_nil, Nat.add_zero, UInt64.ofNat_add]

/-- Whatever the output does and however the threads take turns: outside of pushes
every entry handed over is in one of four classes, queued, or in hand, and the
counters say how many there are in each class.  After a shutdown that returned
only the four classes are left. -/
theorem handed_accounted {config : Config} {script : Script} {producers : Nat}
    {actions : List Action} (hrun : (start config script producers).run actions = some w)
    (hquiet : w.IsQuiet) :
    (w.handed.map Prod.snd).Perm
      (w.writtenEntries ++ w.failedEntries ++ w.droppedEntries ++ w.rejectedEntries ++
        w.queue.entries ++ w.inHand) ∧
    w.detachedEntries = w.results.map Result.entry ++ w.inHand ∧
    Counted w ∧
    UInt64.ofNat w.handed.length =
      w.stats.written + w.stats.failed + w.stats.dropped + w.stats.rejected +
        UInt64.ofNat w.pending + UInt64.ofNat w.inHand.length ∧
    forall stats, w.owner = .finished stats ->
      (w.handed.map Prod.snd).Perm
        (w.writtenEntries ++ w.failedEntries ++ w.droppedEntries ++ w.rejectedEntries) ∧
      UInt64.ofNat w.handed.length =
        w.stats.written + w.stats.dropped + w.stats.failed + w.stats.rejected ∧
      (config.overflow = .dropOldest ->
        w.stats.appended = w.stats.written + w.stats.failed + w.stats.dropped) ∧
      (config.overflow ≠ .dropOldest ->
        w.stats.appended = w.stats.written + w.stats.failed) := by
  have hline := InLine.of_run hrun
  have hpush := PushTally.of_run hrun
  have hcounted := counted_of_quiet hpush (StageTally.of_run hrun) hquiet
  have hplaces := handed_perm (Answered.of_run hrun) hline hquiet
  have hcount := handed_count hcounted hplaces
  refine ⟨hplaces, hline.work, hcounted, hcount, ?_⟩
  intro stats howner
  rcases empty_of_finished (Discipline.of_run hrun) howner with ⟨hqueue, hhand⟩
  have hpolicy := appended_count hpush hcounted (Policed.of_run hrun) hline hquiet hqueue hhand
  have hconfig : w.config = config := config_of_run hrun
  rw [hconfig] at hpolicy
  rw [hqueue, hhand, List.append_nil, List.append_nil] at hplaces
  refine ⟨hplaces, ?_, hpolicy.1, hpolicy.2⟩
  have hzero : UInt64.ofNat (List.length ([] : List Entry)) = 0 := rfl
  rw [hcount, hqueue, hhand, hzero, UInt64.add_zero, UInt64.add_zero,
    UInt64.add_assoc w.stats.written, UInt64.add_comm w.stats.failed, ← UInt64.add_assoc]

def tripwire : Script where
  write := fun call => if call = 1 then .panics else .all
  flush := fun _ => .done

def brokenOffRun : List Action :=
  [.hand 0 "a", .push 0 false, .push 0 false, .hand 1 "boom", .push 1 false, .hand 0 "c",
    .push 1 false, .push 0 false, .push 0 false] ++ List.replicate 10 .drain ++
  [.hand 1 "d", .push 1 false, .push 1 false, .shutDown, .owner false, .drain] ++
  List.replicate 6 (.owner false)

theorem handed_accounted_brokenOff :
    exists w, (start Config.default tripwire 2).run brokenOffRun = some w ∧ w.IsQuiet ∧
      w.owner = .finished w.stats ∧ w.stats.written = 1 ∧ w.stats.failed = 3 ∧
      UInt64.ofNat w.handed.length =
        w.stats.written + w.stats.dropped + w.stats.failed + w.stats.rejected := by
  let ended := ((start Config.default tripwire 2).run brokenOffRun).get (by decide)
  have hrun : (start Config.default tripwire 2).run brokenOffRun = some ended :=
    (Option.some_get _).symm
  have hquiet : ended.IsQuiet := by decide
  have howner : ended.owner = .finished ended.stats := by decide
  have hcount := ((handed_accounted hrun hquiet).2.2.2.2 _ howner).2.1
  exact ⟨ended, hrun, hquiet, howner, by decide, by decide, hcount⟩

end Writer

end AsyncLog
