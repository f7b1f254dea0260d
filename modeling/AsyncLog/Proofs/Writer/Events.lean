import AsyncLog.Proofs.Text.Decoding
import AsyncLog.Proofs.Writer.Submission
import AsyncLog.Writer.Schedule
/-!
# One event, one entry

An event arrives at its writer in pieces of bytes, which may be cut anywhere.  When
the writer is done, the bytes of all pieces are handed over as one entry, or
nothing is if there are none.  So only the concatenation of the pieces matters.
-/

namespace AsyncLog

open Text

inductive EventCall where
  | write (piece : List UInt8)
  | flush
  deriving DecidableEq, Repr

def EventCall.bytes : EventCall -> List UInt8
  | .write piece => piece
  | .flush => []

namespace EntryBuffer

def call (b : EntryBuffer) : EventCall -> EntryBuffer
  | .write piece => b.write piece
  | .flush => b.flush

def callAll (b : EntryBuffer) (calls : List EventCall) : EntryBuffer :=
  calls.foldl call b

def ending (b : EntryBuffer) (producer : Nat) (draining : Bool) : List Writer.Action :=
  match b.finish with
  | none => []
  | some e => if draining then [.refuse producer e] else [.hand producer e]

theorem bytes_callAll (b : EntryBuffer) (calls : List EventCall) :
    (b.callAll calls).bytes = b.bytes ++ calls.flatMap EventCall.bytes := by
  induction calls generalizing b with
  | nil => exact (List.append_nil b.bytes).symm
  | cons c rest ih =>
      rw [callAll, List.foldl_cons, ← callAll, ih, List.flatMap_cons, ← List.append_assoc]
      cases c with
      | write piece => rfl
      | flush => exact congrArg (· ++ _) (List.append_nil b.bytes).symm

theorem callAll_eq (calls : List EventCall) :
    ({} : EntryBuffer).callAll calls = { bytes := calls.flatMap EventCall.bytes } :=
  congrArg EntryBuffer.mk (bytes_callAll {} calls)

theorem finish_of_nil : ({ bytes := [] } : EntryBuffer).finish = none := rfl

theorem finish_of_ne_nil {bytes : List UInt8} (h : bytes ≠ []) :
    ({ bytes } : EntryBuffer).finish = some (String.ofList (Utf8.decode bytes)) := by
  have hsome : bytes.isEmpty = false := List.isEmpty_eq_false_iff.mpr h
  rw [finish, hsome, if_neg Bool.false_ne_true, Entry.ofBytes_eq]

end EntryBuffer

namespace Writer

variable {w w' : Writer}

theorem pushOn_of_idle {producer : Nat} (hidle : w.producers[producer]? = some .idle)
    (timesOut : Bool) (fuel : Nat) : w.pushOn producer timesOut fuel = w := by
  cases fuel with
  | zero => rfl
  | succ fuel => simp only [pushOn, producerStep, hidle, pushStep, Option.map_none]

theorem step_hand {producer : Nat} (hidle : w.producers[producer]? = some .idle) (e : Entry) :
    w.step (.hand producer e) =
      some ({ w with producers := w.producers.set producer (.offering e) }.record
        (.handed (.producer producer) e)) := by
  simp only [step, hand, hidle]

theorem step_refuse {producer : Nat} (hidle : w.producers[producer]? = some .idle) (e : Entry) :
    w.step (.refuse producer e) = some (w.refuseEntry (.producer producer) e) := by
  simp only [step, handRefused, hidle]

theorem appendEvent_of_run {producer : Nat} {b : EntryBuffer} {draining : Bool}
    (hidle : w.producers[producer]? = some .idle)
    (hrun : w.run (b.ending producer draining) = some w') :
    w.appendEvent producer b draining = w'.pushOn producer true pushSteps := by
  unfold appendEvent
  unfold EntryBuffer.ending at hrun
  cases hfinish : b.finish with
  | none =>
      simp only [hfinish, run_nil, Option.some.injEq] at hrun ⊢
      rw [← hrun, pushOn_of_idle hidle]
  | some e =>
      cases draining with
      | true =>
          simp only [hfinish, if_true, run_cons, step_refuse hidle, run_nil, Option.bind_some,
            Option.some.injEq] at hrun ⊢
          rw [← hrun, pushOn_of_idle (w := w.refuseEntry _ e) hidle]
      | false =>
          simp only [hfinish, Bool.false_eq_true, if_false, run_cons, step, run_nil] at hrun ⊢
          rw [append]
          cases hhand : w.hand producer e with
          | none =>
              rw [hhand] at hrun
              cases hrun
          | some next =>
              rw [hhand] at hrun
              cases hrun
              rfl

/-- A producer whose only new entry is answered has got one answer, and it is about this entry. -/
theorem InTurn.answered_once {producer : Nat} {e : Entry} (h : w.InTurn producer)
    (h' : w'.InTurn producer) (hidle : w.phaseOf (.producer producer) = .idle)
    (hidle' : w'.phaseOf (.producer producer) = .idle) (hextends : w.answers <+: w'.answers)
    (hnew : w'.handedBy (.producer producer) = w.handedBy (.producer producer) ++ [e]) :
    exists outcome, w'.answersTo (.producer producer) =
      w.answersTo (.producer producer) ++ [⟨.producer producer, e, outcome⟩] := by
  rcases hextends with ⟨new, hanswers⟩
  unfold InTurn at h h'
  have hto : w'.answersTo (.producer producer) = w.answersTo (.producer producer) ++
      new.filter fun a => a.source = .producer producer := by
    rw [answersTo, ← hanswers, List.filter_append, answersTo]
  have hentries : (new.filter fun a => a.source = .producer producer).map Answer.entry = [e] := by
    rw [hnew, h, hidle, hidle', hto, List.map_append] at h'
    simpa [PushPhase.unanswered] using h'.symm
  rcases List.map_eq_singleton_iff.mp hentries with ⟨a, hlast, hentry⟩
  have hsource : a.source = .producer producer := by
    have hmem : a ∈ new.filter fun a => a.source = .producer producer := by
      rw [hlast]
      exact List.mem_singleton_self a
    simpa using (List.mem_filter.mp hmem).2
  exists a.outcome
  rw [hto, hlast, ← hsource, ← hentry]

/-- The bytes that the writer of an event got before it was done become one entry, their decoding,
which has these very bytes exactly if they are text.  On a thread that is writing to an output
the entry is refused, on any other it is offered to the queue and answered once; without
bytes nothing happens.  It makes no difference how the bytes were cut into pieces. -/
theorem event_handed_once {config : Config} {script : Script} {producers : Nat}
    {actions : List Action} (hrun : (start config script producers).run actions = some w)
    {producer : Nat} (hidle : w.producers[producer]? = some .idle) (calls : List EventCall) :
    let bytes := calls.flatMap EventCall.bytes
    let entry : Entry := String.ofList (Utf8.decode bytes)
    let ending := (({} : EntryBuffer).callAll calls).ending producer
    (entry.bytes = bytes ↔ Utf8.IsText bytes) ∧
    (bytes = [] -> forall draining, w.run (ending draining) = some w) ∧
    (bytes ≠ [] -> w.run (ending true) = some { w with
      counters := w.counters.countRejected
      trace := .refused (.producer producer) entry :: w.trace }) ∧
    (bytes ≠ [] -> w.run (ending false) = some { w with
      producers := w.producers.set producer (.offering entry)
      trace := .handed (.producer producer) entry :: w.trace }) ∧
    (bytes ≠ [] -> forall draining later w', w.run (ending draining ++ later) = some w' ->
      w'.handedBy (.producer producer) = w.handedBy (.producer producer) ++ [entry] ->
      w'.phaseOf (.producer producer) = .idle ->
      exists outcome, w'.answersTo (.producer producer) =
        w.answersTo (.producer producer) ++ [⟨.producer producer, entry, outcome⟩]) ∧
    (forall draining w', w.run (ending draining) = some w' ->
      w.appendEvent producer (({} : EntryBuffer).callAll calls) draining =
        w'.pushOn producer true pushSteps) ∧
    (forall calls' : List EventCall, calls'.flatMap EventCall.bytes = bytes ->
      forall draining later,
        w.run ((({} : EntryBuffer).callAll calls').ending producer draining ++ later) =
          w.run (ending draining ++ later)) := by
  intro bytes entry ending
  have hending : ending = ({ bytes } : EntryBuffer).ending producer := by
    unfold ending
    rw [EntryBuffer.callAll_eq]
  refine ⟨?_, ?_, ?_, ?_, ?_, ?_, ?_⟩
  · have hentry : entry = Entry.ofBytes bytes := (Entry.ofBytes_eq bytes).symm
    rw [hentry]
    exact Entry.bytes_ofBytes_iff bytes
  · intro hnone draining
    rw [hending, EntryBuffer.ending, hnone, EntryBuffer.finish_of_nil, run_nil]
  · intro hsome
    rw [hending, EntryBuffer.ending, EntryBuffer.finish_of_ne_nil hsome]
    exact congrArg (Option.bind · _) (step_refuse hidle entry)
  · intro hsome
    rw [hending, EntryBuffer.ending, EntryBuffer.finish_of_ne_nil hsome]
    exact congrArg (Option.bind · _) (step_hand hidle entry)
  · intro _ draining later w' hlater hnew hidle'
    have hphase : w.phaseOf (.producer producer) = .idle := by
      rw [phaseOf, hidle, Option.getD_some]
    have hwhole : (start config script producers).run (actions ++ (ending draining ++ later)) =
        some w' := by
      rw [run_append, hrun]
      exact hlater
    exact (InTurn.of_run hrun producer).answered_once (InTurn.of_run hwhole producer) hphase hidle'
      (answers_extend_of_run hlater) hnew
  · intro draining w' hended
    exact appendEvent_of_run hidle hended
  · intro calls' hbytes draining later
    unfold ending
    rw [EntryBuffer.callAll_eq, EntryBuffer.callAll_eq, hbytes]

def cutLetter : List EventCall :=
  [.write [0xC3], .flush, .write [0xA9, 0x0A]]

def willing : Script where
  write := fun _ => .all
  flush := fun _ => .done

theorem event_handed_once_cut :
    let ending := (({} : EntryBuffer).callAll cutLetter).ending 0 false
    ending = [.hand 0 "é\n"] ∧
      exists w, (start Config.default willing 1).run (ending ++ [.push 0 false, .push 0 false]) =
          some w ∧ w.stats.appended = 1 ∧
        exists outcome, w.answersTo (.producer 0) = [⟨.producer 0, "é\n", outcome⟩] := by
  intro ending
  let rest : List Action := [.push 0 false, .push 0 false]
  let ended := ((start Config.default willing 1).run (.hand 0 "é\n" :: rest)).get (by decide)
  have hending : ending = [.hand 0 "é\n"] := by decide +kernel
  have hrun : (start Config.default willing 1).run (ending ++ rest) = some ended := by
    rw [hending]
    exact (Option.some_get _).symm
  have hstart : (start Config.default willing 1).run [] = some (start Config.default willing 1) :=
    rfl
  have honce := (event_handed_once hstart rfl cutLetter).2.2.2.2.1 (by decide) false rest
    ended hrun (by decide) (by decide)
  exact ⟨hending, ended, hrun, by decide, honce⟩

end Writer

end AsyncLog
