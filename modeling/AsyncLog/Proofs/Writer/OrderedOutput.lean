import AsyncLog.Proofs.Writer.Accounting
import AsyncLog.Proofs.Writer.Delivery
/-!
# The order of the output

An honest output ends up with the accepted entries in the order in which the
queue accepted them, without those that gave way to newer ones, and with a part
only of those that failed.  The entries of one producer are accepted in the
order in which it handed them over.
-/

namespace AsyncLog

namespace Writer

variable {w w' : Writer}

theorem map_entry_of_none_displaced {departures : List Departure}
    (h : departures.filterMap Departure.displaced? = []) :
    departures.map Departure.entry = departures.filterMap Departure.detached? := by
  induction departures with
  | nil => rfl
  | cons departure rest ih =>
      cases departure with
      | displaced e => cases h
      | detached e => exact congrArg (List.cons e) (ih h)

theorem pieces_of_all_written {results : List Result} {pieces : List (List UInt8)}
    (h : List.Forall₂ Deposit results pieces)
    (hwritten : forall r, r ∈ results -> r.ending.isWritten = true) :
    pieces = results.map fun r => r.entry.bytes := by
  induction h with
  | nil => rfl
  | @cons r piece rest pieces hdeposit _ ih =>
      have hfirst : piece = r.entry.bytes := by
        have hending := hwritten r List.mem_cons_self
        rcases r with ⟨e, ending⟩
        cases ending with
        | written => exact hdeposit
        | failed x => cases hending
        | abandoned => cases hending
      have hrest := ih fun r hr => hwritten r (List.mem_cons_of_mem _ hr)
      rw [hfirst, hrest, List.map_cons]

theorem pieces_of_finished {stats : Stats} (h : w.Delivered) (hdiscipline : Discipline w)
    (howner : w.owner = .finished stats) :
    exists pieces : List (List UInt8),
      List.Forall₂ Deposit w.results pieces ∧ w.written = pieces.flatten := by
  have hdrain : w.drain = .stopped := by
    rcases (hdiscipline.knows howner).1 with hstopped | hpanicked
    · exact hstopped
    · exact absurd hpanicked (h.not_panicked [])
  rcases h with ⟨p, q, ⟨pieces, hpieces, hbytes⟩, hp, hq⟩
  rw [hdrain] at hp
  rw [howner] at hq
  have hnone : p ++ q = [] := List.append_eq_nil_iff.mpr ⟨hp, hq⟩
  rw [hnone, List.append_nil] at hbytes
  exact ⟨pieces, hpieces, hbytes⟩

theorem line_of_finished {stats : Stats} (hline : InLine w) (hdiscipline : Discipline w)
    (howner : w.owner = .finished stats) :
    w.accepted.map Answer.entry = w.departures.map Departure.entry ∧
      w.detachedEntries = w.results.map Result.entry := by
  rcases empty_of_finished hdiscipline howner with ⟨hqueue, hhand⟩
  have horder := hline.order
  have hwork := hline.work
  rw [InOrder, hqueue, List.append_nil] at horder
  rw [InWork, hhand, List.append_nil] at hwork
  exact ⟨horder, hwork⟩

theorem written_of_lossless {stats : Stats} (h : w.Delivered) (hdiscipline : Discipline w)
    (hline : InLine w) (howner : w.owner = .finished stats) (hdropped : w.droppedEntries = [])
    (hfailed : w.failedEntries = []) :
    w.written = (w.accepted.map fun a => a.entry.bytes).flatten := by
  rcases pieces_of_finished h hdiscipline howner with ⟨pieces, hpieces, hbytes⟩
  rcases line_of_finished hline hdiscipline howner with ⟨horder, hwork⟩
  have hall : forall r, r ∈ w.results -> r.ending.isWritten = true := by
    have hnone := List.filter_eq_nil_iff.mp (List.map_eq_nil_iff.mp hfailed)
    intro r hr
    simpa using hnone r hr
  have hentries : w.accepted.map Answer.entry = w.results.map Result.entry := by
    rw [horder, ← hwork]
    exact map_entry_of_none_displaced (List.append_eq_nil_iff.mp hdropped).2
  calc w.written
    _ = ((w.results.map Result.entry).map Entry.bytes).flatten := by
        rw [hbytes, pieces_of_all_written hpieces hall, List.map_map]
        rfl
    _ = ((w.accepted.map Answer.entry).map Entry.bytes).flatten := by rw [hentries]
    _ = (w.accepted.map fun a => a.entry.bytes).flatten := by
        rw [List.map_map]
        rfl

/-- What a producer was answered while the queue was open was accepted, if nothing was
dropped and the producer was not writing to an output itself. -/
theorem answersTo_accepted {producer : Nat} (hwelcoming : w.Welcoming)
    (hopen : w.queue.closed = false) (hextends : w.answers <+: w'.answers)
    (hdropped : w'.droppedEntries = [])
    (hrefusals : forall e, (.producer producer, e) ∉ w.refusals) :
    w.answersTo (.producer producer) <+:
      w'.accepted.filter fun a => a.source = .producer producer := by
  have haccepted : w.answersTo (.producer producer) =
      w.accepted.filter fun a => a.source = .producer producer := by
    rw [answersTo, accepted, List.filter_filter]
    apply List.filter_congr
    intro a ha
    by_cases hsource : a.source = .producer producer
    · have hnotDropped : a.outcome ≠ .dropped := by
        have hnone := List.filter_eq_nil_iff.mp
          (List.map_eq_nil_iff.mp (List.append_eq_nil_iff.mp hdropped).1)
        simpa using hnone a (hextends.mem ha)
      have hnotRejected : a.outcome ≠ .rejected := by
        intro hrejected
        exact hrefusals a.entry (hsource ▸ hwelcoming hopen a ha hrejected)
      have haccept : a.outcome.isAccepted = true := by
        cases houtcome : a.outcome with
        | queued | displacedOldest => rfl
        | dropped => exact absurd houtcome hnotDropped
        | rejected => exact absurd houtcome hnotRejected
      simp [hsource, haccept]
    · simp [hsource]
  rw [haccepted]
  exact (hextends.filter _).filter _

/-- An honest output ends up with the accepted entries that did not give way to newer
ones, in the order in which the queue accepted them: the whole of those counted as
written and a part of those counted as failed.  Each producer's entries are accepted in
its order, and those answered before the shutdown began are all there if nothing was
dropped and nothing failed. -/
theorem output_in_order {config : Config} {script : Script} {producers : Nat}
    {actions : List Action} {stats : Stats} (hhonest : script.IsHonest)
    (hrun : (start config script producers).run actions = some w)
    (howner : w.owner = .finished stats) :
    w.accepted.map Answer.entry = w.departures.map Departure.entry ∧
    w.detachedEntries = w.results.map Result.entry ∧
    (exists pieces : List (List UInt8),
      List.Forall₂ Deposit w.results pieces ∧ w.written = pieces.flatten) ∧
    w.stats.written = UInt64.ofNat w.writtenEntries.length ∧
    w.stats.failed = UInt64.ofNat w.failedEntries.length ∧
    (forall producer,
      w.handedBy (.producer producer) = (w.answersTo (.producer producer)).map Answer.entry ++
        (w.phaseOf (.producer producer)).unanswered ∧
      (w.accepted.filter fun a => a.source = .producer producer) =
        (w.answersTo (.producer producer)).filter fun a => a.outcome.isAccepted) ∧
    forall before after w₀, actions = before ++ after ->
      (start config script producers).run before = some w₀ -> w₀.owner = .inUse ->
      w.droppedEntries = [] -> w.failedEntries = [] ->
      w.written = (w.accepted.map fun a => a.entry.bytes).flatten ∧
      forall producer, (forall e, (.producer producer, e) ∉ w₀.refusals) ->
        w₀.answersTo (.producer producer) <+:
          w.accepted.filter fun a => a.source = .producer producer := by
  have hdiscipline := Discipline.of_run hrun
  have hline := InLine.of_run hrun
  have htally := StageTally.of_run hrun
  have hdelivered := Delivered.of_run hhonest hrun
  rcases line_of_finished hline hdiscipline howner with ⟨horder, hwork⟩
  refine ⟨horder, hwork, pieces_of_finished hdelivered hdiscipline howner, htally.written,
    htally.failed, ?_, ?_⟩
  · intro producer
    refine ⟨InTurn.of_run hrun producer, ?_⟩
    rw [accepted, answersTo, List.filter_filter, List.filter_filter]
    apply List.filter_congr
    intro a _
    exact Bool.and_comm _ _
  · intro before after w₀ hactions hbefore howner₀ hdropped hfailed
    refine ⟨written_of_lossless hdelivered hdiscipline hline howner hdropped hfailed, ?_⟩
    intro producer hrefusals
    have hafter : w₀.run after = some w := by
      rw [hactions, run_append, hbefore] at hrun
      exact hrun
    have hopen : w₀.queue.closed = false := by
      rw [(Discipline.of_run hbefore).closed, howner₀]
      rfl
    have hextends := answers_extend_of_run hafter
    exact answersTo_accepted (Welcoming.of_run hbefore) hopen hextends hdropped
      hrefusals

def sipping : Script where
  write := fun _ => .atMost 2
  flush := fun _ => .done

def sippedFirst : List Action :=
  [.hand 0 "abc", .push 0 false, .push 0 false] ++ List.replicate 12 .drain ++
    [.hand 1 "de", .push 1 false, .push 1 false]

def sippedLast : List Action :=
  [.shutDown, .owner false] ++ List.replicate 2 .drain ++ List.replicate 11 (.owner false)

theorem output_in_order_sipping :
    exists w, (start Config.default sipping 2).run (sippedFirst ++ sippedLast) = some w ∧
      w.owner = .finished w.stats ∧ w.stats.written = 2 ∧
      w.written = (w.accepted.map fun a => a.entry.bytes).flatten ∧
      w.accepted.map Answer.entry = ["abc", "de"] := by
  let first := ((start Config.default sipping 2).run sippedFirst).get (by decide)
  let ended := ((start Config.default sipping 2).run (sippedFirst ++ sippedLast)).get (by decide)
  have hhonest : sipping.IsHonest := ⟨fun _ => rfl, fun _ => by simp [sipping]⟩
  have hfirst : (start Config.default sipping 2).run sippedFirst = some first :=
    (Option.some_get _).symm
  have hrun : (start Config.default sipping 2).run (sippedFirst ++ sippedLast) = some ended :=
    (Option.some_get _).symm
  have howner : ended.owner = .finished ended.stats := by decide
  have hinUse : first.owner = .inUse := by decide
  have hwritten := (output_in_order hhonest hrun howner).2.2.2.2.2.2 sippedFirst sippedLast first
    rfl hfirst hinUse (by decide) (by decide)
  exact ⟨ended, hrun, howner, by decide, hwritten.1, by decide⟩

end Writer

end AsyncLog
