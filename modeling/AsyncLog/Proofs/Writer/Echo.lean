import AsyncLog.Proofs.Writer.Calls
import AsyncLog.Proofs.Writer.Discipline
/-!
# A writer and the same writer with a listener

A listener makes an entry of every report it hears.  On a thread that writes to
the output such a line is refused at once, so that a writer with a listener does
what the same writer does without one, and its count of rejected entries is
ahead by the reports that were heard.
-/

namespace AsyncLog

namespace Counters

variable (c : Counters) (n : Nat)

/-!
## Rejections on top of other counts
-/

theorem countPush_countRejections (outcome : Push) :
    (c.countRejections n).countPush outcome = (c.countPush outcome).countRejections n := by
  cases outcome with
  | rejected =>
      simp only [countPush, countRejected_eq, countRejections_add, Nat.add_comm]
  | _ => rfl

theorem countRejected_countRejections :
    (c.countRejections n).countRejected = c.countRejected.countRejections n :=
  countPush_countRejections c n .rejected

end Counters

namespace Writer

def heardBy (w : Writer) (l : Listener) : Nat :=
  w.reports.countP fun d => l.level.admits d.level

/-- The writer `loud` has a listener and the writer `plain` has none.  Apart from the
place of the owner they agree, and the counts of `loud` are ahead by the reports
that the listener has heard, of which some may still be on their way. -/
structure Echo (l : Listener) (onWay : Nat) (plain loud : Writer) : Prop where
  config : loud.config = plain.config
  queue : loud.queue = plain.queue
  active : loud.active = plain.active
  output : loud.output = plain.output
  producers : loud.producers = plain.producers
  drain : loud.drain = plain.drain
  listener : loud.listener = some l
  silent : plain.listener = none
  calls : loud.calls = plain.calls
  levels : loud.reports.map Diagnostic.level = plain.reports.map Diagnostic.level
  counters : exists ahead : Nat,
    loud.counters = plain.counters.countRejections ahead ∧ ahead + onWay = loud.heardBy l

variable {l : Listener} {onWay : Nat} {plain loud : Writer}

theorem reports_happen (w : Writer) (h : Happening) :
    (w.happen h).reports = w.reports ++ h.report?.toList := by
  rw [reports, happenings_happen, List.filterMap_append, reports]
  cases h <;> rfl

theorem reports_announce (w : Writer) (d : Diagnostic) :
    (w.announce d).1.reports = w.reports ++ [d] := by
  rw [reports, happenings_announce, List.filterMap_append]
  rfl

theorem reports_record (w : Writer) {i : Incident} (h : i.happening? = none) :
    (w.record i).reports = w.reports := by
  rw [reports, happenings_record_silent w h, reports]

theorem lineOf_listener {w : Writer} (h : w.listener = some l) (d : Diagnostic) :
    w.lineOf? d = if l.level.admits d.level then some (d.event.line l.stamp) else none := by
  rw [lineOf?, h]

theorem lineOf_silent {w : Writer} (h : w.listener = none) (d : Diagnostic) :
    w.lineOf? d = none := by
  rw [lineOf?, h]

theorem counters_happen_silent {w : Writer} (hsilent : w.listener = none) (h : Happening) :
    (w.happen h).counters = w.counters := by
  cases h with
  | reported d =>
      have hline : (w.record (.output (.reported d))).lineOf? d = none := lineOf_silent hsilent d
      simp only [happen, refuse, hline]
      rfl
  | _ => rfl

theorem counters_happen_listener {w : Writer} (hlistener : w.listener = some l) (h : Happening) :
    (w.happen h).counters = w.counters.countRejections
      (h.report?.toList.countP fun d => l.level.admits d.level) := by
  cases h with
  | reported d =>
      have hline := lineOf_listener (w := w.record (.output (.reported d))) hlistener d
      simp only [happen, refuse, hline]
      cases hheard : l.level.admits d.level with
      | false => simp [Happening.report?, hheard]
      | true => simp [Happening.report?, hheard, refuseEntry, Counters.countRejected_eq]
  | _ => simp [happen, Happening.report?]

theorem heardBy_happen (w : Writer) (l : Listener) (h : Happening) :
    (w.happen h).heardBy l =
      w.heardBy l + h.report?.toList.countP fun d => l.level.admits d.level := by
  rw [heardBy, reports_happen, List.countP_append, heardBy]

namespace Echo

theorem count (h : Echo l onWay plain loud) (f : Counters -> Counters)
    (hf : forall c n, f (c.countRejections n) = (f c).countRejections n) :
    Echo l onWay { plain with counters := f plain.counters }
      { loud with counters := f loud.counters } := by
  rcases h.counters with ⟨ahead, hcounters, hheard⟩
  refine { h with counters := ⟨ahead, ?_, hheard⟩ }
  rw [hcounters, hf]

theorem record (h : Echo l onWay plain loud) (i : Incident) (hi : i.happening? = none) :
    Echo l onWay (plain.record i) (loud.record i) := by
  have hreports := reports_record loud hi
  refine { h with calls := ?_, levels := ?_, counters := ?_ }
  · rw [calls_record _ hi, calls_record _ hi, h.calls]
  · rw [hreports, reports_record _ hi, h.levels]
  · rw [heardBy, hreports]
    exact h.counters

theorem happen (h : Echo l onWay plain loud) (happening : Happening) :
    Echo l onWay (plain.happen happening) (loud.happen happening) := by
  have hplain := chatter_happen plain happening
  have hloud := chatter_happen loud happening
  rcases h.counters with ⟨ahead, hcounters, hheard⟩
  constructor
  · rw [hloud.config, hplain.config, h.config]
  · rw [hloud.queue, hplain.queue, h.queue]
  · rw [hloud.active, hplain.active, h.active]
  · rw [output_happen, output_happen, h.output]
  · rw [hloud.producers, hplain.producers, h.producers]
  · rw [hloud.drain, hplain.drain, h.drain]
  · rw [hloud.listener, h.listener]
  · rw [hplain.listener, h.silent]
  · rw [calls_happen, calls_happen, h.calls]
  · rw [reports_happen, reports_happen, List.map_append, List.map_append, h.levels]
  · rw [counters_happen_listener h.listener, counters_happen_silent h.silent, hcounters,
      Counters.countRejections_add, heardBy_happen]
    exact ⟨_, rfl, by omega⟩

theorem happenAll (h : Echo l onWay plain loud) (happenings : List Happening) :
    Echo l onWay (plain.happenAll happenings) (loud.happenAll happenings) := by
  induction happenings generalizing plain loud with
  | nil => exact h
  | cons happening rest ih => exact ih (h.happen happening)

/-!
## Moving entries
-/

theorem afterFlush (h : Echo l onWay plain loud) : loud.afterFlush = plain.afterFlush := by
  rw [Writer.afterFlush, h.config, Writer.afterFlush]

theorem called (h : Echo l onWay plain loud) (output : Output) (call : Call) :
    Echo l onWay ({ plain with output }.happen (.called call))
      ({ loud with output }.happen (.called call)) := by
  have hsame : Echo l onWay { plain with output } { loud with output } := { h with output := rfl }
  exact hsame.happen _

theorem writeStep (h : Echo l onWay plain loud) (e : Entry) (rest : List UInt8) (effort : Effort)
    (left : List Entry) :
    (loud.writeStep e rest effort left).2 = (plain.writeStep e rest effort left).2 ∧
      Echo l onWay (plain.writeStep e rest effort left).1
        (loud.writeStep e rest effort left).1 := by
  simp only [Writer.writeStep, h.output]
  rcases Output.write rest plain.output with ⟨reply, call, output⟩
  have hcalled := h.called output call
  cases reply with
  | panic => exact ⟨rfl, hcalled⟩
  | ok taken =>
      dsimp only
      cases rest.drop taken.val with
      | nil => exact ⟨rfl, hcalled⟩
      | cons b more => exact ⟨by rw [hcalled.config], hcalled⟩
  | error x =>
      dsimp only
      rw [hcalled.config]
      cases effort.afterError _ x with
      | none => exact ⟨rfl, hcalled⟩
      | some more => exact ⟨rfl, hcalled.happenAll _⟩

theorem flushStep (h : Echo l onWay plain loud) (effort : Effort) :
    (loud.flushStep effort).2 = (plain.flushStep effort).2 ∧
      Echo l onWay (plain.flushStep effort).1 (loud.flushStep effort).1 := by
  simp only [Writer.flushStep, h.output]
  rcases plain.output.flush with ⟨reply, call, output⟩
  have hcalled := h.called output call
  cases reply with
  | panic => exact ⟨rfl, hcalled⟩
  | ok done => exact ⟨hcalled.afterFlush, hcalled⟩
  | error x =>
      dsimp only
      rw [hcalled.config]
      cases effort.afterError _ x with
      | none => exact ⟨rfl, hcalled⟩
      | some more => exact ⟨rfl, hcalled.happenAll _⟩

theorem countResult (h : Echo l onWay plain loud) (e : Entry) (error : Option IoError) :
    Echo l onWay (plain.countResult e error) (loud.countResult e error) := by
  cases error with
  | none => exact (h.count Counters.countWritten fun _ _ => rfl).record (.counted e none) rfl
  | some x =>
      have hfailed := h.count (·.countFailed 1) fun _ _ => rfl
      exact (hfailed.record (.counted e (some x)) rfl).happen
        (.reported (.entryFailed x e.bytes.length))

/-- The reports of a thread that moves entries do not lead it elsewhere. -/
theorem stageStep (h : Echo l onWay plain loud) (stage : Stage) :
    (loud.stageStep stage).2 = (plain.stageStep stage).2 ∧
      Echo l onWay (plain.stageStep stage).1 (loud.stageStep stage).1 := by
  cases stage with
  | taking =>
      have htake : loud.queue.take loud.config.drainMode =
          plain.queue.take plain.config.drainMode := by rw [h.queue, h.config]
      simp only [Writer.stageStep, htake]
      rcases plain.queue.take plain.config.drainMode with ⟨batch, queue⟩
      cases batch with
      | nil => exact ⟨rfl, h⟩
      | cons e rest =>
          have hqueue : Echo l onWay { plain with queue } { loud with queue } :=
            { h with queue := rfl }
          dsimp only
          exact ⟨rfl, hqueue.record (.detached (e :: rest)) rfl⟩
  | detached batch =>
      exact ⟨rfl, h.count (·.countDetached (UInt64.ofNat batch.length)) fun _ _ => rfl⟩
  | between left =>
      cases left with
      | nil => exact ⟨by simp only [Writer.stageStep, h.config], h⟩
      | cons e left => exact ⟨by simp only [Writer.stageStep, beginEntry, h.config], h⟩
  | writing e rest effort left => exact h.writeStep e rest effort left
  | returned e error left => exact ⟨rfl, h.count Counters.countSettled fun _ _ => rfl⟩
  | settled e error left => exact ⟨rfl, h.countResult e error⟩
  | flushing effort => exact h.flushStep effort
  | flushGivenUp x =>
      have hcounted := h.count Counters.countFlushFailure fun _ _ => rfl
      exact ⟨h.afterFlush, hcounted.happen (.reported (.flushFailed x))⟩
  | done => exact ⟨rfl, h⟩
  | panicked left => exact ⟨rfl, h⟩

end Echo

end Writer

end AsyncLog
