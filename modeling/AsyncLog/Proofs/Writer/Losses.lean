import AsyncLog.Proofs.Writer.Operations
/-!
# Losses and their reports

The entries that are lost at the output are counted, and so are the flushes that were given up.
The reports of a run agree with both counts: a warning for each entry that could not be written
and for each flush, and at most one report of a panic with the number of entries it left
behind.
-/

namespace AsyncLog

namespace Diagnostic

def isDrop : Diagnostic -> Bool
  | .entryFailed _ _ => true
  | _ => false

def isFlushFailure : Diagnostic -> Bool
  | .flushFailed _ => true
  | _ => false

theorem failures_eq {d : Diagnostic} (h : d.lost? = none) :
    d.failures = UInt64.ofNat ([d].countP isDrop) := by
  cases d with
  | threadPanicked lost => cases h
  | _ => rfl

theorem flushFailures_eq (d : Diagnostic) :
    d.flushFailures = UInt64.ofNat ([d].countP isFlushFailure) := by
  cases d <;> rfl

theorem isDrop_of_attempt {d : Diagnostic} (h : d.attempt? ≠ none) : ¬ d.isDrop = true := by
  cases d with
  | retrying attempt e => exact Bool.false_ne_true
  | _ => exact absurd rfl h

theorem isFlushFailure_of_attempt {d : Diagnostic} (h : d.attempt? ≠ none) :
    ¬ d.isFlushFailure = true := by
  cases d with
  | retrying attempt e => exact Bool.false_ne_true
  | _ => exact absurd rfl h

theorem lost_of_attempt {d : Diagnostic} (h : d.attempt? ≠ none) : d.lost? = none := by
  cases d with
  | retrying attempt e => rfl
  | _ => exact absurd rfl h

/-!
## Reports as events
-/

theorem isDrop_iff (d : Diagnostic) :
    d.isDrop = true ↔
      d.event.level = .warn ∧ d.event.message = "dropping log entry after failed write" := by
  cases d with
  | valueIgnored value =>
      constructor
      · intro himpossible
        cases himpossible
      · rintro ⟨_, hmessage⟩
        -- The two messages begin with different letters.
        have hletters := congrArg String.toList hmessage
        simp [event, message] at hletters
  | _ => simp [isDrop, event, level, message]

theorem isFlushFailure_iff (d : Diagnostic) :
    d.isFlushFailure = true ↔
      d.event.level = .warn ∧ d.event.message = "log sink flush failed" := by
  cases d with
  | valueIgnored value =>
      constructor
      · intro himpossible
        cases himpossible
      · rintro ⟨_, hmessage⟩
        have hletters := congrArg String.toList hmessage
        simp [event, message] at hletters
  | _ => simp [isFlushFailure, event, level, message]

end Diagnostic

namespace Writer

variable {w w' : Writer}

def events (w : Writer) (level : Level) (message : String) : List Event :=
  (w.reports.map Diagnostic.event).filter fun e => e.level = level ∧ e.message = message

def losses (w : Writer) : List UInt64 :=
  w.reports.filterMap Diagnostic.lost?

theorem length_events (w : Writer) {level : Level} {message : String} {p : Diagnostic -> Bool}
    (hp : forall d, p d = true ↔ d.event.level = level ∧ d.event.message = message) :
    (w.events level message).length = w.reports.countP p := by
  rw [events, ← List.countP_eq_length_filter, List.countP_map]
  apply List.countP_congr
  intro d _
  rw [hp d, Function.comp_apply, decide_eq_true_eq]

theorem fields_panics (w : Writer) :
    (w.events .error "log writer thread panicked, queued entries lost").map Event.fields =
      w.losses.map fun lost => [⟨"lost", .int lost.toNat⟩] := by
  rw [events, losses]
  induction w.reports with
  | nil => rfl
  | cons d rest ih =>
      cases d with
      | threadPanicked lost => exact congrArg _ ih
      | _ => exact ih

/-!
## The counts of a run
-/

/-- The counts of what was lost agree with the reports. -/
structure Matched (w : Writer) : Prop where
  failed : (w.losses = [] ∧ w.stats.failed = UInt64.ofNat (w.reports.countP Diagnostic.isDrop)) ∨
    (w.owner.isPastOutput = true ∧ exists lost, w.losses = [lost] ∧
      w.stats.failed = UInt64.ofNat (w.reports.countP Diagnostic.isDrop) + lost)
  flushFailures : w.stats.flushFailures =
    UInt64.ofNat (w.reports.countP Diagnostic.isFlushFailure)

namespace Matched

theorem start (config : Config) (script : Script) (producers : Nat) :
    Matched (start config script producers) :=
  ⟨Or.inl ⟨rfl, rfl⟩, rfl⟩

theorem extend {told : List Diagnostic} (h : Matched w)
    (hreports : w'.reports = w.reports ++ told)
    (hlost : told.filterMap Diagnostic.lost? = [])
    (hfailed : w'.stats.failed = w.stats.failed + UInt64.ofNat (told.countP Diagnostic.isDrop))
    (hflush : w'.stats.flushFailures =
      w.stats.flushFailures + UInt64.ofNat (told.countP Diagnostic.isFlushFailure))
    (hpast : w.owner.isPastOutput = true -> w'.owner.isPastOutput = true) : Matched w' := by
  have hlosses : w'.losses = w.losses := by
    rw [losses, hreports, List.filterMap_append, hlost, List.append_nil, losses]
  constructor
  · rw [hlosses, hreports, List.countP_append, UInt64.ofNat_add, hfailed]
    rcases h.failed with ⟨hnone, hcount⟩ | ⟨hpassed, lost, hone, hcount⟩
    · exact Or.inl ⟨hnone, by rw [hcount]⟩
    · right
      constructor
      · exact hpast hpassed
      · exists lost
        constructor
        · exact hone
        · rw [hcount, UInt64.add_assoc, UInt64.add_comm lost, ← UInt64.add_assoc]
  · rw [hreports, List.countP_append, UInt64.ofNat_add, hflush, h.flushFailures]

theorem panic {lost : UInt64} (h : Matched w) (hremark : Remark w w' (.threadPanicked lost))
    (hpast : w.owner.isPastOutput = false) (hpast' : w'.owner.isPastOutput = true) :
    Matched w' := by
  have hreports : w'.reports = w.reports ++ [.threadPanicked lost] :=
    reports_of_happenings hremark.happenings
  rcases h.failed with ⟨hnone, hcount⟩ | ⟨hpassed, _⟩
  · constructor
    · right
      constructor
      · exact hpast'
      · exists lost
        constructor
        · rw [losses] at hnone
          rw [losses, hreports, List.filterMap_append, hnone]
          rfl
        · rw [hremark.failed, hcount, hreports, List.countP_append]
          rfl
    · rw [hremark.flushFailures, h.flushFailures, hreports, List.countP_append]
      exact UInt64.add_zero _
  · rw [hpast] at hpassed
    cases hpassed

theorem tell (h : Matched w) (htells : Tells w w')
    (hpast : w.owner.isPastOutput = true -> w'.owner.isPastOutput = true) : Matched w' := by
  cases htells with
  | nothing hsilent =>
      have hreports : w'.reports = w.reports ++ [] := by
        rw [reports, hsilent.happenings, List.append_nil, reports]
      apply h.extend hreports rfl _ _ hpast
      · exact hsilent.failed.trans (UInt64.add_zero _).symm
      · exact hsilent.flushFailures.trans (UInt64.add_zero _).symm
  | @remark d _ hremark hlost =>
      have hreports : w'.reports = w.reports ++ [d] := reports_of_happenings hremark.happenings
      apply h.extend hreports _ _ _ hpast
      · exact List.filterMap_cons_none hlost
      · rw [hremark.failed, Diagnostic.failures_eq hlost]
      · rw [hremark.flushFailures, Diagnostic.flushFailures_eq]
  | panic _ hremark hpast hpast' => exact h.panic hremark hpast hpast'

theorem call {stage : Stage} (h : Matched w) (hcalls : stage.callsNext = true)
    (htrace : w'.trace = (w.stageStep stage).1.trace) (hoff : Offstage (w.stageStep stage).1 w')
    (hpast : w.owner.isPastOutput = true -> w'.owner.isPastOutput = true) : Matched w' := by
  rcases attempts_of_stageStep (w := w) hcalls with
    ⟨hfailed, hflush, attempts, hreports, hattempts⟩
  have hsame : w'.reports = (w.stageStep stage).1.reports := by
    rw [reports, happenings, htrace, reports, happenings]
  have hdrops : attempts.countP Diagnostic.isDrop = 0 :=
    List.countP_eq_zero.mpr fun d hd => Diagnostic.isDrop_of_attempt (hattempts d hd)
  have hfailures : attempts.countP Diagnostic.isFlushFailure = 0 :=
    List.countP_eq_zero.mpr fun d hd => Diagnostic.isFlushFailure_of_attempt (hattempts d hd)
  apply h.extend (hsame.trans hreports) _ _ _ hpast
  · exact List.filterMap_eq_nil_iff.mpr fun d hd => Diagnostic.lost_of_attempt (hattempts d hd)
  · rw [hoff.failed, hfailed, hdrops]
    exact (UInt64.add_zero _).symm
  · rw [hoff.flushFailures, hflush, hfailures]
    exact (UInt64.add_zero _).symm

theorem move (hdiscipline : Discipline w) (h : Matched w) (hmove : Move w w') : Matched w' := by
  have hpast (hpassed : w.owner.isPastOutput = true) : w'.owner.isPastOutput = true :=
    (AtRest.of_move hdiscipline hpassed hmove).2
  cases hcalls : w.workStage.callsNext with
  | false =>
      have hsame := calls_of_silent hdiscipline hmove hcalls
      exact h.tell (tells_of_move hdiscipline hmove hsame) hpast
  | true =>
      cases stageEvent_of_move hdiscipline hmove with
      | onward htrace hoff _ => exact h.call hcalls htrace hoff hpast
      | begin hoff _ _ | aside hoff _ =>
          exact h.tell (tells_of_move hdiscipline hmove hoff.calls) hpast
      | recovery hleft _ =>
          rw [hleft] at hcalls
          cases hcalls

theorem of_run {config : Config} {script : Script} {producers : Nat} {actions : List Action}
    (hrun : (Writer.start config script producers).run actions = some w) : Matched w :=
  (Discipline.run move (.start config script producers) (start config script producers) hrun).2

end Matched

/-- Whatever happens, nothing is lost at the output in silence.  The entries counted as failed
are as many as the warnings of dropped ones, plus what a panic left behind if one is reported,
and the flush failures are as many as the warnings of those.  What happened at the output
falls into operations and remarks, up to an operation that is not over, and in every operation
the attempts are reported in order, as many as there are pauses, each with the error of the
call before it. -/
theorem losses_reported (config : Config) (script : Script) (producers : Nat)
    (actions : List Action) (w : Writer)
    (hrun : (start config script producers).run actions = some w) :
    let dropped := UInt64.ofNat (w.events .warn "dropping log entry after failed write").length
    let panics := w.events .error "log writer thread panicked, queued entries lost"
    (panics = [] ∧ w.stats.failed = dropped ∨
      exists lost : UInt64, panics.map Event.fields = [[⟨"lost", .int lost.toNat⟩]] ∧
        w.stats.failed = dropped + lost) ∧
    w.stats.flushFailures = UInt64.ofNat (w.events .warn "log sink flush failed").length ∧
    (exists (parts : List (List Happening)) (current : List Happening),
      w.happenings = parts.flatten ++ current ∧
      (forall part, part ∈ parts -> Operates config.retryRule part ∨
        exists d, part = [.reported d] ∧ d.attempt? = none) ∧
      (exists o, Operates config.retryRule o ∧ current <+: o) ∧
      (w.workStage.callsNext = false -> current = [])) ∧
    forall o, Operates config.retryRule o ->
      (o.filterMap Happening.report?).map Diagnostic.attempt? =
        ((List.range (retriesIn o)).map fun k => some (k + 1)) ∧
      (o.filterMap Happening.pause?).length = retriesIn o ∧
      ReportsOwnErrors o := by
  intro dropped panics
  have hmatched := Matched.of_run hrun
  have hconfig : w.config = config := config_of_run hrun
  have hdropped : dropped = UInt64.ofNat (w.reports.countP Diagnostic.isDrop) :=
    congrArg UInt64.ofNat (w.length_events Diagnostic.isDrop_iff)
  have hpanics : panics.map Event.fields = _ := w.fields_panics
  constructor
  · rw [hdropped, hpanics]
    rcases hmatched.failed with ⟨hnone, hcount⟩ | ⟨_, lost, hone, hcount⟩
    · left
      rw [hnone] at hpanics
      exact ⟨List.map_eq_nil_iff.mp hpanics, hcount⟩
    · right
      exists lost
      rw [hone]
      exact ⟨rfl, hcount⟩
  constructor
  · rw [w.length_events Diagnostic.isFlushFailure_iff]
    exact hmatched.flushFailures
  constructor
  · rcases Divided.of_run hrun with ⟨parts, current, hhappened, hparts, hcurrent⟩
    rw [hconfig] at hparts hcurrent
    exists parts, current
    constructor
    · exact hhappened
    constructor
    · exact hparts
    constructor
    · exact hcurrent.extends
    · intro hsilent
      exact (Stage.performs_of_silent hsilent).mp hcurrent
  · intro o hoperates
    exact ⟨hoperates.attempts, hoperates.length_pauses, hoperates.reportsOwnErrors⟩

def collapsing : Script where
  write := fun call => if call < 2 then .fails (.plain .brokenPipe) else .panics
  flush := fun call => if call < 2 then .fails (.plain .other) else .done

def withOneRetry : Config :=
  { Config.default with writeRetries := 1 }

def collapsingRun : List Action :=
  [.hand 0 "a", .push 0 false, .push 0 false] ++ List.replicate 15 .drain ++
    [.hand 0 "boom", .push 0 false, .push 0 false] ++ List.replicate 5 .drain ++
    [.hand 0 "c", .push 0 false, .push 0 false, .shutDown] ++ List.replicate 7 (.owner false)

theorem losses_reported_collapsing :
    exists w : Writer, (start withOneRetry collapsing 1).run collapsingRun = some w ∧
      w.owner = .finished w.stats ∧ w.stats.failed = 3 ∧ w.stats.flushFailures = 1 ∧
      w.stats.flushFailures = UInt64.ofNat (w.events .warn "log sink flush failed").length ∧
      exists lost : UInt64,
        (w.events .error "log writer thread panicked, queued entries lost").map Event.fields =
          [[⟨"lost", .int lost.toNat⟩]] ∧ lost = 2 := by
  let ended := ((start withOneRetry collapsing 1).run collapsingRun).get (by decide)
  have hrun : (start withOneRetry collapsing 1).run collapsingRun = some ended :=
    (Option.some_get _).symm
  have howner : ended.owner = .finished ended.stats := by decide
  have hfailed : ended.stats.failed = 3 := by decide
  have hone : UInt64.ofNat
      (ended.events .warn "dropping log entry after failed write").length = 1 := by decide
  rcases losses_reported _ _ _ _ _ hrun with ⟨hpanics, hflush, _⟩
  rw [hone, hfailed] at hpanics
  rcases hpanics with ⟨_, himpossible⟩ | ⟨lost, hreported, hcount⟩
  · cases himpossible
  · have hlost : lost = 2 := by
      have hless : 3 - 1 = lost := by rw [hcount, UInt64.add_comm, UInt64.add_sub_cancel]
      exact hless.symm
    exact ⟨ended, hrun, howner, hfailed, by decide, hflush, lost, hreported, hlost⟩

end Writer

end AsyncLog
