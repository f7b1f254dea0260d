import AsyncLog.Proofs.Writer.Submission
/-!
# Counters and the entries they are about

Every counter is kept after the thing it counts: a push counts its answer one
step later, or two steps later for the entry it displaced, and the counter of
detached entries lags behind the backlog it is about.  Taken together with what
is still to be counted, each of them is the number of entries in a class.
-/

namespace AsyncLog

def Push.drops : Push -> Bool
  | .displacedOldest | .dropped => true
  | .queued | .rejected => false

def Push.isRejected : Push -> Bool
  | .rejected => true
  | .queued | .displacedOldest | .dropped => false

def PushPhase.awaits (counts : Push -> Bool) : PushPhase -> Bool
  | .counting outcome => counts outcome
  | .idle | .offering _ | .blocked _ => false

namespace Writer

def awaiting (w : Writer) (counts : Push -> Bool) : Nat :=
  w.pushes.countP (PushPhase.awaits counts)

/-- A count together with the answers still to be counted makes up a number of entries. -/
def Tallies (w : Writer) (counts : Push -> Bool) (count : UInt64) (entries : Nat) : Prop :=
  exists counted : Nat, count = UInt64.ofNat counted ∧ counted + w.awaiting counts = entries

structure PushTally (w : Writer) : Prop where
  appended : w.Tallies Push.isAccepted w.stats.appended w.accepted.length
  dropped : w.Tallies Push.drops w.stats.dropped w.droppedEntries.length
  rejected : w.Tallies Push.isRejected w.stats.rejected w.rejectedEntries.length

variable {w w' : Writer}

theorem Advance.awaiting {source : Source} {phase phase' : PushPhase}
    (h : Advance w w' source phase phase') (counts : Push -> Bool) : exists rest : Nat,
      w.awaiting counts = (phase.awaits counts).toNat + rest ∧
      w'.awaiting counts = (phase'.awaits counts).toNat + rest := by
  rcases h.pushes with ⟨front, back, hpushes, hpushes'⟩
  exists front.countP (PushPhase.awaits counts) + back.countP (PushPhase.awaits counts)
  rw [Writer.awaiting, Writer.awaiting, hpushes, hpushes', List.countP_append, List.countP_append,
    List.countP_cons, List.countP_cons]
  constructor <;> cases PushPhase.awaits counts _ <;> simp <;> omega

/-- From one state to another a counter counts answers that waited for it and new ones;
the others of them still wait. -/
def Counts (w w' : Writer) (counts : Push -> Bool) (count count' : UInt64) (new : Nat) : Prop :=
  exists counted : Nat, count' = count + UInt64.ofNat counted ∧
    counted + w'.awaiting counts = w.awaiting counts + new

namespace Counts

variable {counts : Push -> Bool} {count count' : UInt64}

theorem aside {n : Nat} (hpushes : w'.pushes = w.pushes)
    (hcount : count' = count + UInt64.ofNat n) : Counts w w' counts count count' n := by
  refine ⟨n, hcount, ?_⟩
  rw [awaiting, hpushes, awaiting]
  omega

theorem advance {source : Source} {phase phase' : PushPhase} {n m : Nat}
    (hadvance : Advance w w' source phase phase') (hcount : count' = count + UInt64.ofNat n)
    (hbalance : n + (phase'.awaits counts).toNat = (phase.awaits counts).toNat + m) :
    Counts w w' counts count count' m := by
  rcases hadvance.awaiting counts with ⟨rest, hbefore, hafter⟩
  refine ⟨n, hcount, ?_⟩
  omega

theorem trans {w'' : Writer} {count'' : UInt64} {m n : Nat} (h : Counts w w' counts count count' m)
    (h' : Counts w' w'' counts count' count'' n) : Counts w w'' counts count count'' (m + n) := by
  rcases h with ⟨counted, hcount, hsum⟩
  rcases h' with ⟨counted', hcount', hsum'⟩
  refine ⟨counted + counted', ?_, ?_⟩
  · rw [hcount', hcount, UInt64.ofNat_add, UInt64.add_assoc]
  · omega

theorem tallies {entries entries' n : Nat} (h : Counts w w' counts count count' n)
    (htallies : w.Tallies counts count entries) (hentries : entries' = entries + n) :
    w'.Tallies counts count' entries' := by
  rcases h with ⟨counted, hcount, hsum⟩
  rcases htallies with ⟨total, htotal, htotalsum⟩
  refine ⟨total + counted, ?_, ?_⟩
  · rw [hcount, htotal, UInt64.ofNat_add]
  · omega

end Counts

theorem awaiting_of_quiet (h : w.IsQuiet) (counts : Push -> Bool) : w.awaiting counts = 0 := by
  rw [awaiting, List.countP_eq_zero]
  intro phase hphase
  rw [h phase hphase]
  simp [PushPhase.awaits]

/-!
## Pushes
-/

theorem rejectedEntries_length (w : Writer) :
    w.rejectedEntries.length = w.answers.countP fun a => a.outcome == .rejected := by
  rw [rejectedEntries, List.length_map, List.countP_eq_length_filter]

theorem droppedEntries_length (w : Writer) :
    w.droppedEntries.length =
      (w.answers.countP fun a => a.outcome == .dropped) + w.displacedEntries.length := by
  rw [droppedEntries, List.length_append, List.length_map, List.countP_eq_length_filter]

theorem accepted_length (w : Writer) :
    w.accepted.length = w.answers.countP fun a => a.outcome.isAccepted := by
  rw [accepted, List.countP_eq_length_filter]

theorem length_displacedEntries_answer {source : Source} {e : Entry} {waited : Bool}
    {outcome : Push} {queue : Queue} (hcapacity : w.queue.capacity ≠ some 0)
    (h : w.queue.Decides e waited outcome queue) :
    (w.answer source e outcome queue).displacedEntries.length =
      w.displacedEntries.length + if outcome = .displacedOldest then 1 else 0 := by
  rw [displacedEntries_answer, List.length_append]
  cases h with
  | reject _ => rfl
  | drop _ _ _ => rfl
  | queue _ _ => rfl
  | displace _ hfull _ =>
      cases hentries : w.queue.entries with
      | nil => exact absurd hentries (Queue.entries_ne_nil_of_full hcapacity hfull)
      | cons oldest rest => rfl

structure PushCount (w w' : Writer) : Prop where
  appended : exists new, w'.accepted.length = w.accepted.length + new ∧
    Counts w w' Push.isAccepted w.stats.appended w'.stats.appended new
  dropped : exists new, w'.droppedEntries.length = w.droppedEntries.length + new ∧
    Counts w w' Push.drops w.stats.dropped w'.stats.dropped new
  rejected : exists new, w'.rejectedEntries.length = w.rejectedEntries.length + new ∧
    Counts w w' Push.isRejected w.stats.rejected w'.stats.rejected new

namespace PushCount

theorem answer {source : Source} {phase : PushPhase} {e : Entry} {waited : Bool} {outcome : Push}
    {queue : Queue} (hcapacity : w.queue.capacity ≠ some 0)
    (hdecides : w.queue.Decides e waited outcome queue)
    (hphase : forall counts, phase.awaits counts = false)
    (htrace : w'.trace = (w.answer source e outcome queue).trace)
    (hcounters : w'.counters = w.counters)
    (hadvance : Advance w w' source phase (.counting outcome)) : PushCount w w' := by
  have hanswers : w'.answers = w.answers ++ [⟨source, e, outcome⟩] := by
    rw [← answers_answer source e outcome queue]
    exact chronicle_of_trace htrace _
  have hdisplaced : w'.displacedEntries.length =
      w.displacedEntries.length + if outcome = .displacedOldest then 1 else 0 := by
    rw [displacedEntries_of_trace htrace]
    exact length_displacedEntries_answer hcapacity hdecides
  constructor
  · refine ⟨outcome.isAccepted.toNat, ?_, .advance hadvance (n := 0) ?_ ?_⟩
    · rw [accepted_length, accepted_length, hanswers]
      cases outcome <;> simp [List.countP_append]
    · simp [stats, hcounters]
    · rw [hphase]
      simp [PushPhase.awaits]
  · refine ⟨outcome.drops.toNat, ?_, .advance hadvance (n := 0) ?_ ?_⟩
    · rw [droppedEntries_length, droppedEntries_length, hanswers, hdisplaced]
      cases outcome <;> simp [List.countP_append, Push.drops] <;> omega
    · simp [stats, hcounters]
    · rw [hphase]
      simp [PushPhase.awaits]
  · refine ⟨outcome.isRejected.toNat, ?_, .advance hadvance (n := 0) ?_ ?_⟩
    · rw [rejectedEntries_length, rejectedEntries_length, hanswers]
      cases outcome <;> simp [List.countP_append, Push.isRejected]
    · simp [stats, hcounters]
    · rw [hphase]
      simp [PushPhase.awaits]

theorem count {source : Source} {outcome : Push} (htrace : w'.trace = w.trace)
    (hcounters : w'.counters = w.counters.countPush outcome)
    (hadvance : Advance w w' source (.counting outcome) (.afterCount outcome)) :
    PushCount w w' := by
  have hanswers : w'.answers = w.answers := chronicle_of_trace htrace _
  have hdisplaced := displacedEntries_of_trace htrace
  constructor
  · refine ⟨0, ?_, .advance hadvance (n := outcome.isAccepted.toNat) ?_ ?_⟩
    · rw [accepted_length, accepted_length, hanswers, Nat.add_zero]
    · rw [stats, hcounters]
      cases outcome <;> simp [stats, Counters.countPush, Counters.countAppended,
        Counters.countDropped, Counters.countRejected]
    · cases outcome <;> rfl
  · refine ⟨0, ?_, .advance hadvance (n := if outcome = .dropped then 1 else 0) ?_ ?_⟩
    · rw [droppedEntries_length, droppedEntries_length, hanswers, hdisplaced, Nat.add_zero]
    · rw [stats, hcounters]
      cases outcome <;> simp [stats, Counters.countPush, Counters.countAppended,
        Counters.countDropped, Counters.countRejected]
    · cases outcome <;> rfl
  · refine ⟨0, ?_, .advance hadvance (n := outcome.isRejected.toNat) ?_ ?_⟩
    · rw [rejectedEntries_length, rejectedEntries_length, hanswers, Nat.add_zero]
    · rw [stats, hcounters]
      cases outcome <;> simp [stats, Counters.countPush, Counters.countAppended,
        Counters.countDropped, Counters.countRejected, Push.isRejected]
    · cases outcome <;> rfl

theorem unanswered {source : Source} {phase phase' : PushPhase}
    (hanswers : w'.answers = w.answers) (hdisplaced : w'.displacedEntries = w.displacedEntries)
    (happended : w'.stats.appended = w.stats.appended)
    (hdropped : w'.stats.dropped = w.stats.dropped)
    (hrejected : w'.stats.rejected = w.stats.rejected)
    (hadvance : Advance w w' source phase phase')
    (hphase : forall counts, phase.awaits counts = false)
    (hphase' : forall counts, phase'.awaits counts = false) : PushCount w w' := by
  constructor
  · refine ⟨0, ?_, .advance hadvance (n := 0) ?_ ?_⟩
    · rw [accepted_length, accepted_length, hanswers, Nat.add_zero]
    · simp [happended]
    · rw [hphase, hphase']
      rfl
  · refine ⟨0, ?_, .advance hadvance (n := 0) ?_ ?_⟩
    · rw [droppedEntries_length, droppedEntries_length, hanswers, hdisplaced, Nat.add_zero]
    · simp [hdropped]
    · rw [hphase, hphase']
      rfl
  · refine ⟨0, ?_, .advance hadvance (n := 0) ?_ ?_⟩
    · rw [rejectedEntries_length, rejectedEntries_length, hanswers, Nat.add_zero]
    · simp [hrejected]
    · rw [hphase, hphase']
      rfl

theorem event (hcapacity : w.queue.capacity ≠ some 0) (hevent : PushEvent w w') :
    PushCount w w' := by
  cases hevent with
  | aside haside _ hpushes _ =>
      rcases haside.lines with ⟨lines, _, hanswers, _, hrejected⟩
      constructor
      · refine ⟨0, ?_, .aside hpushes ?_⟩
        · rw [accepted_length, accepted_length, hanswers, List.countP_append, List.countP_map]
          simp [Function.comp_def]
        · simp [haside.appended]
      · refine ⟨0, ?_, .aside hpushes ?_⟩
        · rw [droppedEntries_length, droppedEntries_length, hanswers, List.countP_append,
            List.countP_map, haside.displaced]
          simp [Function.comp_def]
        · simp [haside.dropped]
      · refine ⟨lines.length, ?_, .aside hpushes hrejected⟩
        rw [rejectedEntries_length, rejectedEntries_length, hanswers, List.countP_append,
          List.countP_map]
        simp [Function.comp_def]
  | begin hnew hadvance =>
      exact unanswered hnew.answers hnew.displaced hnew.appended hnew.dropped hnew.rejected
        hadvance (fun _ => rfl) (fun _ => rfl)
  | go hpush htrace hcounters hadvance =>
      cases hpush with
      | wait _ =>
          have hstats : w'.stats = w.stats := by rw [stats, hcounters, stats]
          refine unanswered (chronicle_of_trace htrace _) (displacedEntries_of_trace htrace)
            ?_ ?_ ?_ hadvance (fun _ => rfl) (fun _ => rfl)
          all_goals rw [hstats]
      | offer hdecides => exact answer hcapacity hdecides (fun _ => rfl) htrace hcounters hadvance
      | reoffer hdecides => exact answer hcapacity hdecides (fun _ => rfl) htrace hcounters hadvance
      | count outcome => exact count htrace hcounters hadvance

theorem refl (w : Writer) : PushCount w w where
  appended := ⟨0, rfl, .aside rfl (UInt64.add_zero _).symm⟩
  dropped := ⟨0, rfl, .aside rfl (UInt64.add_zero _).symm⟩
  rejected := ⟨0, rfl, .aside rfl (UInt64.add_zero _).symm⟩

theorem trans {w'' : Writer} (h : PushCount w w') (h' : PushCount w' w'') : PushCount w w'' := by
  rcases h with ⟨⟨_, haccepted, happended⟩, ⟨_, hdropped, hdrops⟩, ⟨_, hrejected, hrejects⟩⟩
  rcases h' with ⟨⟨_, haccepted', happended'⟩, ⟨_, hdropped', hdrops'⟩, ⟨_, hrejected', hrejects'⟩⟩
  constructor
  · exact ⟨_, by rw [haccepted', haccepted, Nat.add_assoc], happended.trans happended'⟩
  · exact ⟨_, by rw [hdropped', hdropped, Nat.add_assoc], hdrops.trans hdrops'⟩
  · exact ⟨_, by rw [hrejected', hrejected, Nat.add_assoc], hrejects.trans hrejects'⟩

theorem of_move (hdiscipline : Discipline w) (hmove : Move w w') : PushCount w w' := by
  have hcapacity : w.queue.capacity ≠ some 0 := by
    rw [hdiscipline.capacity]
    exact w.config.capacity_ne_zero
  exact event hcapacity (pushEvent_of_move hmove)

theorem of_run {actions : List Action} (hdiscipline : Discipline w)
    (hrun : w.run actions = some w') : PushCount w w' :=
  (Discipline.run (P := PushCount w)
    (fun hdiscipline h hmove => h.trans (of_move hdiscipline hmove)) hdiscipline (refl w) hrun).2

end PushCount

namespace PushTally

theorem start (config : Config) (script : Script) (producers : Nat) :
    PushTally (start config script producers) := by
  have hawaiting := awaiting_of_quiet (isQuiet_start config script producers)
  constructor
  · exact ⟨0, rfl, by rw [hawaiting]; rfl⟩
  · exact ⟨0, rfl, by rw [hawaiting]; rfl⟩
  · exact ⟨0, rfl, by rw [hawaiting]; rfl⟩

theorem of_count (h : PushTally w) (hcount : PushCount w w') : PushTally w' := by
  rcases hcount with ⟨⟨_, haccepted, happended⟩, ⟨_, hdropped, hdrops⟩, ⟨_, hrejected, hrejects⟩⟩
  constructor
  · exact happended.tallies h.appended haccepted
  · exact hdrops.tallies h.dropped hdropped
  · exact hrejects.tallies h.rejected hrejected

theorem of_run {config : Config} {script : Script} {producers : Nat} {actions : List Action}
    (h : (Writer.start config script producers).run actions = some w) : PushTally w :=
  (start config script producers).of_count (.of_run (.start config script producers) h)

end PushTally

theorem Tallies.of_quiet {counts : Push -> Bool} {count : UInt64} {entries : Nat}
    (h : w.Tallies counts count entries) (hquiet : w.IsQuiet) : count = UInt64.ofNat entries := by
  rcases h with ⟨counted, hcounted, hsum⟩
  rw [awaiting_of_quiet hquiet, Nat.add_zero] at hsum
  rw [hcounted, hsum]

/-!
## Moving entries
-/

def unsettled (w : Writer) : List Entry :=
  w.drain.stage.unsettled ++ w.owner.stage.unsettled

/-- What the counters that are kept at the output are about; `hand` is what the one
thread that moves entries has not settled. -/
structure StageTally (w : Writer) (hand : List Entry) : Prop where
  written : w.stats.written = UInt64.ofNat w.writtenEntries.length
  failed : w.stats.failed = UInt64.ofNat w.failedEntries.length
  inFlight : w.counters.inFlight = UInt64.ofNat hand.length

theorem writtenEntries_giveUp (w : Writer) (queued : List Entry) :
    (w.giveUp queued).writtenEntries = w.writtenEntries := by
  have hnone (entries : List Entry) : (entries.map fun e => (⟨e, .abandoned⟩ : Result)).filter
      (fun r => r.ending.isWritten) = [] := by
    simp [List.filter_eq_nil_iff, Ending.isWritten]
  simp only [writtenEntries, giveUp, results_record, Incident.results, List.filter_append, hnone,
    List.append_nil]
  rfl

theorem failedEntries_giveUp (w : Writer) (queued : List Entry) :
    (w.giveUp queued).failedEntries =
      w.failedEntries ++ (w.drain.stage.uncounted ++ queued) := by
  have hall (entries : List Entry) : (entries.map fun e => (⟨e, .abandoned⟩ : Result)).filter
      (fun r => !r.ending.isWritten) = entries.map fun e => ⟨e, .abandoned⟩ := by
    simp [List.filter_eq_self, Ending.isWritten]
  have hentries (entries : List Entry) :
      (entries.map fun e => (⟨e, .abandoned⟩ : Result)).map Result.entry = entries := by
    simp [Function.comp_def]
  simp only [failedEntries, giveUp, results_record, Incident.results, List.filter_append, hall,
    List.map_append, hentries]
  rfl

namespace StageTally

theorem of_telling {source : Source} {hand : List Entry} (h : StageTally w hand)
    (htelling : Telling source w w') : StageTally w' hand := by
  rcases htelling.lines with ⟨lines, _, _, _, hcounters⟩
  constructor
  · rw [stats, hcounters, writtenEntries, htelling.results]
    exact h.written
  · rw [stats, hcounters, failedEntries, htelling.results]
    exact h.failed
  · rw [hcounters]
    exact h.inFlight

theorem of_eq {hand : List Entry} (h : StageTally w hand) (hresults : w'.results = w.results)
    (hwritten : w'.stats.written = w.stats.written) (hfailed : w'.stats.failed = w.stats.failed)
    (hinFlight : w'.counters.inFlight = w.counters.inFlight) : StageTally w' hand := by
  constructor
  · rw [hwritten, writtenEntries, hresults]
    exact h.written
  · rw [hfailed, failedEntries, hresults]
    exact h.failed
  · rw [hinFlight]
    exact h.inFlight

theorem stage {stage stage' : Stage} (h : StageTally w stage.unsettled)
    (hmove : StageMove w stage w' stage') : StageTally w' stage'.unsettled := by
  cases hmove with
  | talk hchatter _ hunsettled => exact hunsettled ▸ h.of_telling hchatter.toTelling
  | detach =>
      apply h.of_eq
      · simp
      · rfl
      · rfl
      · rfl
  | announce batch => exact ⟨h.written, h.failed, rfl⟩
  | settle e error left =>
      refine ⟨h.written, h.failed, ?_⟩
      have hinFlight := h.inFlight
      simp only [Stage.unsettled, List.length_cons] at hinFlight
      simp [Counters.countSettled, hinFlight, Stage.unsettled, UInt64.ofNat_add]
  | succeed e left =>
      have hwritten := h.written
      have hfailed := h.failed
      simp only [stats, writtenEntries, failedEntries] at hwritten hfailed
      constructor
      · simp [stats, Counters.countWritten, writtenEntries, Ending.ofError?, Ending.isWritten,
          UInt64.ofNat_add, hwritten]
      · simp [stats, Counters.countWritten, failedEntries, Ending.ofError?, Ending.isWritten,
          hfailed]
      · exact h.inFlight
  | fail e x left hchatter =>
      refine of_telling ?_ hchatter.toTelling
      have hwritten := h.written
      have hfailed := h.failed
      simp only [stats, writtenEntries, failedEntries] at hwritten hfailed
      constructor
      · simp [stats, Counters.countFailed, writtenEntries, Ending.ofError?, Ending.isWritten,
          hwritten]
      · simp [stats, Counters.countFailed, failedEntries, Ending.ofError?, Ending.isWritten,
          UInt64.ofNat_add, hfailed]
      · exact h.inFlight
  | failFlush x hchatter _ hunsettled =>
      rw [hunsettled]
      refine of_telling ?_ hchatter.toTelling
      exact ⟨h.written, h.failed, h.inFlight⟩

theorem work {stage : Stage} (h : StageTally w w.unsettled) (hdiscipline : Discipline w)
    (hdrain : w.drain = .draining stage) :
    StageTally { (w.stageStep stage).1 with drain := .after (w.stageStep stage).2 }
      (unsettled { (w.stageStep stage).1 with drain := .after (w.stageStep stage).2 }) := by
  have hmove := stageMove_stageStep w stage
  have hnone : w.owner.stage.unsettled = [] := by
    rw [(hdiscipline.owner_hands (by rw [hdrain]; rfl)).2]
    rfl
  rw [unsettled, hdrain, hnone, List.append_nil] at h
  rw [unsettled, DrainPhase.unsettled_after, hmove.owner, hnone, List.append_nil]
  exact (h.stage hmove).of_eq rfl rfl rfl rfl

theorem finish {stage : Stage} (h : StageTally w w.unsettled) (hdiscipline : Discipline w)
    (howner : w.owner = .finishing stage) :
    StageTally { (w.stageStep stage).1 with owner := .after (w.stageStep stage).2 }
      (unsettled { (w.stageStep stage).1 with owner := .after (w.stageStep stage).2 }) := by
  have hmove := stageMove_stageStep w stage
  have hdrain := (hdiscipline.knows howner).1
  rw [unsettled, hdrain, howner] at h
  rw [unsettled, OwnerPhase.unsettled_after, hmove.drain, hdrain]
  exact (h.stage hmove).of_eq rfl rfl rfl rfl

/-- After a panic of the drain thread its counter of unsettled entries is right, so what
it left behind is counted as failed, and so is what was queued. -/
theorem giveUp {queued left : List Entry} (h : StageTally w left)
    (hdrain : w.drain = .panicked left) : StageTally (w.giveUp queued) [] := by
  have hcount : (w.giveUp queued).stats.failed =
      w.stats.failed + (UInt64.ofNat queued.length + w.counters.inFlight) := rfl
  constructor
  · rw [writtenEntries_giveUp]
    exact h.written
  · rw [hcount, failedEntries_giveUp, h.failed, h.inFlight, hdrain, List.length_append,
      List.length_append, UInt64.ofNat_add, UInt64.ofNat_add,
      UInt64.add_comm (.ofNat queued.length)]
    rfl
  · rfl

theorem pushed {source : Source} {phase phase' : PushPhase} {hand : List Entry}
    (h : StageTally w hand) (hmove : PushMove w source phase w' phase') : StageTally w' hand := by
  cases hmove with
  | wait _ => exact h
  | offer _ | reoffer _ => exact h.of_eq (by simp [Writer.answer]) rfl rfl rfl
  | count outcome =>
      refine h.of_eq rfl ?_ ?_ ?_
      · cases outcome <;> rfl
      · cases outcome <;> rfl
      · cases outcome <;> rfl

theorem move (hdiscipline : Discipline w) (h : StageTally w w.unsettled) (hmove : Move w w') :
    StageTally w' w'.unsettled := by
  cases hmove with
  | hand e _ => exact h.of_eq (by simp) rfl rfl rfl
  | refuse e _ => exact h.of_telling (telling_refuseEntry w _ e)
  | push _ hpush =>
      rw [unsettled, ← hpush.drain, ← hpush.owner] at h
      exact (h.pushed hpush).of_eq rfl rfl rfl rfl
  | @report phase' next hpush =>
      have hsame : (next.owner.withPush phase').stage.unsettled = w.owner.stage.unsettled := by
        rw [hpush.owner]
        cases w.owner <;> rfl
      rw [unsettled, ← hsame, ← hpush.drain] at h
      exact (h.pushed hpush).of_eq rfl rfl rfl rfl
  | work hdrain => exact h.work hdiscipline hdrain
  | finish howner => exact h.finish hdiscipline howner
  | abandon howner =>
      have hsame : w.abandon.unsettled = w.unsettled := by
        rw [unsettled, unsettled, howner]
        rfl
      rw [hsame]
      exact h.of_eq (by simp [Writer.abandon]) rfl rfl rfl
  | @recover queued howner =>
      rcases (hdiscipline.knows howner).1 with ⟨left, hdrain⟩
      rw [unsettled, howner, hdrain] at h
      have hleft : StageTally w left := by
        simpa [DrainPhase.stage, OwnerPhase.stage, Stage.unsettled] using h
      have hgivenUp : StageTally (w.giveUp queued) [] := hleft.giveUp hdrain
      have hnone : (w.recover queued).unsettled = [] := by
        rw [recover_eq, unsettled, drain_announce]
        rfl
      rw [hnone]
      refine hgivenUp.of_eq ?_ ?_ ?_ ?_
      all_goals simp [recover_eq, stats]
  | sum howner =>
      rw [unsettled, howner] at h
      have hsame : w.sum.unsettled =
          w.drain.stage.unsettled ++ OwnerPhase.summing.stage.unsettled := by
        rw [Writer.sum, unsettled, drain_announce]
        rfl
      rw [hsame]
      refine h.of_eq ?_ ?_ ?_ ?_
      all_goals simp [Writer.sum, stats]
  | pass hpass =>
      rw [unsettled, hpass.drain_stage.2, hpass.owner_hands.2.1]
      exact h.of_telling hpass.telling

theorem start (config : Config) (script : Script) (producers : Nat) :
    StageTally (start config script producers) (start config script producers).unsettled :=
  ⟨rfl, rfl, rfl⟩

theorem of_run {config : Config} {script : Script} {producers : Nat} {actions : List Action}
    (h : (Writer.start config script producers).run actions = some w) :
    StageTally w w.unsettled :=
  (Discipline.run (P := fun w => StageTally w w.unsettled) move (.start config script producers)
    (start config script producers) h).2

end StageTally

end Writer

end AsyncLog
