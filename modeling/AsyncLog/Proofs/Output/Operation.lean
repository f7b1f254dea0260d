import AsyncLog.Proofs.Output.Honest
/-!
# The course of an operation

An operation on an output is a row of calls: all of them fail but the last one, which succeeds,
panics, or fails for good.  A write of bytes is a row of operations, each of which
offers what the one before it has left.  Both are read off the definitions once, as
relations, and what is said about them later is an induction on these relations.
-/

namespace AsyncLog

def Reply.error? : Reply α -> Option IoError
  | .error e => some e
  | .ok _ | .panic => none

def Call.error? : Call -> Option IoError
  | .write offered response => (Output.replyTo offered response).error?
  | .flush (.fails e) => some e
  | .flush .done | .flush .panics => none

/-!
## After a failed call
-/

inductive Effort.Consequence (retries : UInt32) (f : Effort) (e : IoError) :
    Option (Effort × List Happening) -> Prop where
  | atOnce : e.isInterrupted = true -> f.interrupts < interruptAllowance ->
      Consequence retries f e (some ({ f with interrupts := f.interrupts + 1 }, []))
  | paused : (e.isInterrupted = true -> interruptAllowance ≤ f.interrupts) ->
      f.attempts < retries ->
      Consequence retries f e
        (some ({ f with attempts := f.attempts + 1, delay := f.delay.double },
          [.reported (.retrying (f.attempts + 1) e), .paused f.delay]))
  | givenUp : (e.isInterrupted = true -> interruptAllowance ≤ f.interrupts) ->
      retries ≤ f.attempts -> Consequence retries f e none

theorem Effort.consequence_of_afterError {retries : UInt32} {f : Effort} {e : IoError}
    {result : Option (Effort × List Happening)} (h : f.afterError retries e = result) :
    Effort.Consequence retries f e result := by
  rw [← h]
  unfold Effort.afterError
  split
  · rename_i hatOnce
    rw [Bool.and_eq_true, decide_eq_true_eq] at hatOnce
    exact .atOnce hatOnce.1 hatOnce.2
  · rename_i hcounted
    have hallowance : e.isInterrupted = true -> interruptAllowance ≤ f.interrupts := by
      intro hinterrupted
      apply UInt32.not_lt.mp
      intro hless
      exact hcounted (by rw [Bool.and_eq_true, decide_eq_true_eq]; exact ⟨hinterrupted, hless⟩)
    split
    · rename_i hretries
      exact .givenUp hallowance hretries
    · rename_i hretries
      exact .paused hallowance (UInt32.not_le.mp hretries)

/-!
## One operation
-/

section Operation

variable {retries : UInt32} {call : σ -> Reply α × Call × σ} {effort : Effort} {s s' : σ}
  {made : Call}

theorem persist_of_ok {a : α} (h : call s = (.ok a, made, s')) :
    persist retries call effort s = (.ok a, s', [.called made]) := by
  rw [persist]
  simp only [h]

theorem persist_of_panic (h : call s = (.panic, made, s')) :
    persist retries call effort s = (.panic, s', [.called made]) := by
  rw [persist]
  simp only [h]

theorem persist_of_givenUp {x : IoError} (h : call s = (.error x, made, s'))
    (heffort : effort.afterError retries x = none) :
    persist retries call effort s = (.error x, s', [.called made]) := by
  rw [persist]
  simp only [h]
  split
  · rfl
  · rename_i hagain
    rw [heffort] at hagain
    cases hagain

theorem persist_of_repeated {x : IoError} {effort' : Effort} {between : List Happening}
    (h : call s = (.error x, made, s'))
    (heffort : effort.afterError retries x = some (effort', between)) :
    persist retries call effort s =
      ((persist retries call effort' s').1, (persist retries call effort' s').2.1,
        .called made :: between ++ (persist retries call effort' s').2.2) := by
  rw [persist]
  simp only [h]
  split
  · rename_i hnone
    rw [heffort] at hnone
    cases hnone
  · rename_i hagain
    rw [heffort, Option.some.injEq, Prod.mk.injEq] at hagain
    rw [hagain.1, hagain.2]

/-- How an operation goes on after so much effort: its reply, the state after it, and what
happens in it. -/
inductive Course (retries : UInt32) (call : σ -> Reply α × Call × σ) :
    Effort -> σ -> Reply α -> σ -> List Happening -> Prop where
  | ended {effort : Effort} {s s' : σ} {reply : Reply α} {made : Call} :
      call s = (reply, made, s') -> reply.error? = none ->
      Course retries call effort s reply s' [.called made]
  | givenUp {effort : Effort} {s s' : σ} {e : IoError} {made : Call} :
      call s = (.error e, made, s') -> effort.afterError retries e = none ->
      Course retries call effort s (.error e) s' [.called made]
  | again {effort effort' : Effort} {s s' s'' : σ} {reply : Reply α} {e : IoError} {made : Call}
      {between later : List Happening} :
      call s = (.error e, made, s') -> effort.afterError retries e = some (effort', between) ->
      Course retries call effort' s' reply s'' later ->
      Course retries call effort s reply s'' (.called made :: between ++ later)

theorem course_persist (retries : UInt32) (call : σ -> Reply α × Call × σ) (effort : Effort)
    (s : σ) :
    Course retries call effort s (persist retries call effort s).1
      (persist retries call effort s).2.1 (persist retries call effort s).2.2 := by
  rcases hcall : call s with ⟨reply, made, s'⟩
  cases reply with
  | ok a =>
      rw [persist_of_ok hcall]
      exact .ended hcall rfl
  | panic =>
      rw [persist_of_panic hcall]
      exact .ended hcall rfl
  | error e =>
      cases heffort : effort.afterError retries e with
      | none =>
          rw [persist_of_givenUp hcall heffort]
          exact .givenUp hcall heffort
      | some more =>
          rcases more with ⟨effort', between⟩
          have hless := Effort.budget_afterError heffort
          rw [persist_of_repeated hcall heffort]
          exact .again hcall heffort (course_persist retries call effort' s')
termination_by effort.budget retries

theorem course_of_persist {reply : Reply α} {happened : List Happening}
    (h : persist retries call effort s = (reply, s', happened)) :
    Course retries call effort s reply s' happened := by
  have hcourse := course_persist retries call effort s
  rw [h] at hcourse
  exact hcourse

theorem nil_of_singleton_split {a b : α} {before after : List α}
    (h : [a] = before ++ b :: after) : before = [] ∧ a = b ∧ after = [] := by
  cases before with
  | nil =>
      cases h
      exact ⟨rfl, rfl, rfl⟩
  | cons first before => cases before <;> cases h

theorem calls_again {between : List Happening} {e : IoError} {effort' : Effort}
    (heffort : effort.afterError retries e = some (effort', between)) (made : Call)
    (later : List Happening) :
    (.called made :: between ++ later).filterMap Happening.call? =
      made :: later.filterMap Happening.call? := by
  show made :: (between ++ later).filterMap Happening.call? = _
  rw [List.filterMap_append, Effort.calls_afterError heffort, List.nil_append]

theorem Course.calls {reply : Reply α} {happened : List Happening}
    (h : Course retries call effort s reply s' happened) (kind : Call -> Prop)
    (hkind : forall s, kind (call s).2.1) :
    happened.filterMap Happening.call? ≠ [] ∧
      forall c, c ∈ happened.filterMap Happening.call? -> kind c := by
  induction h with
  | @ended _ s _ _ made hcall _ | @givenUp _ s _ _ made hcall _ =>
      have hmade := hkind s
      rw [hcall] at hmade
      simpa [Happening.call?] using hmade
  | @again _ _ s _ _ _ _ made _ later hcall heffort _ ih =>
      have hmade := hkind s
      rw [hcall] at hmade
      rw [calls_again heffort]
      constructor
      · exact List.cons_ne_nil _ _
      · intro c hc
        cases hc with
        | head => exact hmade
        | tail _ hlater => exact ih.2 c hlater

end Operation

/-!
## Operations on an output
-/

def Recorded (call : Output -> Reply α × Call × Output) : Prop :=
  forall output, (call output).2.1.error? = (call output).1.error?

theorem recorded_write (rest : List UInt8) : Recorded (Output.write rest) := by
  intro output
  rfl

theorem recorded_flush : Recorded Output.flush := by
  intro output
  unfold Output.flush
  cases output.script.flush output.flushes <;> rfl

/-- What happens in one operation on an output: bytes are offered to it or it is flushed,
with all the retries of the rule ahead. -/
inductive Operates (rule : RetryRule) : List Happening -> Prop where
  | write (rest : List UInt8) (output : Output) :
      Operates rule (persist rule.retries (Output.write rest) (.fresh rule) output).2.2
  | flush (output : Output) :
      Operates rule (persist rule.retries Output.flush (.fresh rule) output).2.2

theorem Operates.of_write {rule : RetryRule} {rest : List UInt8} {output output' : Output}
    {reply : Reply { n : Nat // 0 < n }} {happened : List Happening}
    (h : persist rule.retries (Output.write rest) (.fresh rule) output =
      (reply, output', happened)) : Operates rule happened := by
  have hoperates : Operates rule _ := Operates.write rest output
  rw [h] at hoperates
  exact hoperates

theorem Operates.of_flush {rule : RetryRule} {output output' : Output} {reply : Reply Unit}
    {happened : List Happening}
    (h : persist rule.retries Output.flush (.fresh rule) output = (reply, output', happened)) :
    Operates rule happened := by
  have hoperates : Operates rule _ := Operates.flush output
  rw [h] at hoperates
  exact hoperates

/-- Whatever follows from the course of the operation holds of all operations. -/
theorem Operates.induction {rule : RetryRule} {P : List Happening -> Prop}
    (step : forall {α : Type} {call : Output -> Reply α × Call × Output} {output output' : Output}
      {reply : Reply α} {happened : List Happening}, Recorded call ->
      Course rule.retries call (.fresh rule) output reply output' happened -> P happened)
    {happened : List Happening} (h : Operates rule happened) : P happened := by
  cases h with
  | write rest output => exact step (recorded_write rest) (course_persist _ _ _ _)
  | flush output => exact step recorded_flush (course_persist _ _ _ _)

/-!
## Write calls
-/

section Write

variable {rest : List UInt8} {output output' : Output} {reply : Reply { n : Nat // 0 < n }}
  {made : Call}

theorem output_of_write (h : Output.write rest output = (reply, made, output')) :
    output' = { output with writes := output.writes + 1 } := by
  cases h
  rfl

theorem write_of_write (h : Output.write rest output = (reply, made, output')) :
    exists response, made = .write rest response ∧ Output.replyTo rest response = reply := by
  cases h
  exists output.script.write output.writes

theorem Course.outputAfter {retries : UInt32} {effort : Effort} {happened : List Happening}
    (h : Course retries (Output.write rest) effort output reply output' happened) :
    output' = { output with
      writes := output.writes + (happened.filterMap Happening.call?).length } := by
  induction h with
  | ended hcall _ | givenUp hcall _ => exact output_of_write hcall
  | again hcall heffort _ ih =>
      rw [ih, output_of_write hcall, calls_again heffort, List.length_cons]
      simp only [Nat.add_comm, Nat.add_left_comm]

end Write

/-!
## A write of bytes
-/

/-- How bytes are written: nothing is called for if there are none, and what an operation has
left is written next. -/
inductive Writing (rule : RetryRule) :
    List UInt8 -> Output -> Reply Unit -> Output -> List Happening -> Prop where
  | nothing (output : Output) : Writing rule [] output (.ok ()) output []
  | took {bytes : List UInt8} {output output' output'' : Output} {taken : { n : Nat // 0 < n }}
      {reply : Reply Unit} {happened later : List Happening} : bytes ≠ [] ->
      persist rule.retries (Output.write bytes) (.fresh rule) output =
        (.ok taken, output', happened) ->
      Writing rule (bytes.drop taken.val) output' reply output'' later ->
      Writing rule bytes output reply output'' (happened ++ later)
  | failed {bytes : List UInt8} {output output' : Output} {e : IoError}
      {happened : List Happening} : bytes ≠ [] ->
      persist rule.retries (Output.write bytes) (.fresh rule) output =
        (.error e, output', happened) ->
      Writing rule bytes output (.error e) output' happened
  | panicked {bytes : List UInt8} {output output' : Output} {happened : List Happening} :
      bytes ≠ [] ->
      persist rule.retries (Output.write bytes) (.fresh rule) output =
        (.panic, output', happened) ->
      Writing rule bytes output .panic output' happened

theorem Writing.outputAfter {rule : RetryRule} {bytes : List UInt8} {output output' : Output}
    {reply : Reply Unit} {happened : List Happening}
    (h : Writing rule bytes output reply output' happened) :
    output' = { output with
      writes := output.writes + (happened.filterMap Happening.call?).length } := by
  induction h with
  | nothing output => rfl
  | took _ hpersist _ ih =>
      have hcourse := course_of_persist hpersist
      rw [ih, hcourse.outputAfter, List.filterMap_append, List.length_append]
      simp only [Nat.add_assoc]
  | failed _ hpersist | panicked _ hpersist => exact (course_of_persist hpersist).outputAfter

namespace Sink

theorem writeBytes_nil (rule : RetryRule) (output : Output) :
    writeBytes rule [] output = (.ok (), output, []) := by
  rw [writeBytes, dif_pos rfl]

theorem writing_writeBytes (rule : RetryRule) (bytes : List UInt8) (output : Output) :
    Writing rule bytes output (writeBytes rule bytes output).1 (writeBytes rule bytes output).2.1
      (writeBytes rule bytes output).2.2 := by
  by_cases hbytes : bytes = []
  · rw [hbytes, writeBytes_nil]
    exact .nothing output
  · rw [writeBytes, dif_neg hbytes]
    rcases hpersist : persist rule.retries (Output.write bytes) (.fresh rule) output with
      ⟨reply, output', happened⟩
    cases reply with
    | error e => exact .failed hbytes hpersist
    | panic => exact .panicked hbytes hpersist
    | ok taken =>
        have hshorter : (bytes.drop taken.val).length < bytes.length := by
          rw [List.length_drop]
          exact Nat.sub_lt (List.length_pos_iff.mpr hbytes) taken.property
        exact .took hbytes hpersist (writing_writeBytes rule (bytes.drop taken.val) output')
termination_by bytes.length

end Sink

end AsyncLog
