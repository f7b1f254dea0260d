import AsyncLog.Proofs.Writer.Sequence
/-!
# Blocks of calls

A block is what one backlog comes to at the output: the calls that write its entries in turn
and those of one flush.  A block under way is known by what is still to come of it.
-/

namespace AsyncLog

open Sink (writeBytes)

/-!
## The calls of one backlog
-/

def Reply.isGivenUp : Reply α -> Bool
  | .error _ => true
  | .ok _ | .panic => false

/-- What a backlog comes to at the output: the calls that write its entries, the calls of
the flush after them, and how the flush ended. -/
structure Block where
  batch : List Entry
  writes : List Call
  flushes : List Call
  flushed : Reply Unit

namespace Block

def calls (b : Block) : List Call :=
  b.writes ++ b.flushes

def gaveUp (b : Block) : Bool :=
  b.flushed.isGivenUp

end Block

def moveBlock (rule : RetryRule) (batch : List Entry) (output : Output) : Block × Output :=
  let t := writeEach rule batch output
  let (reply, sink, happened) := Sink.flush { rule, output := t.output }
  ({ batch, writes := t.calls, flushes := happened.filterMap Happening.call?, flushed := reply },
    sink.output)

def moveBlocks (rule : RetryRule) : List (List Entry) -> Output -> List Block × Output
  | [], output => ([], output)
  | batch :: later, output =>
      let (block, output') := moveBlock rule batch output
      let (blocks, last) := moveBlocks rule later output'
      (block :: blocks, last)

theorem moveBlocks_concat (rule : RetryRule) (earlier : List (List Entry)) (batch : List Entry)
    (output : Output) :
    moveBlocks rule (earlier ++ [batch]) output =
      ((moveBlocks rule earlier output).1 ++
          [(moveBlock rule batch (moveBlocks rule earlier output).2).1],
        (moveBlock rule batch (moveBlocks rule earlier output).2).2) := by
  induction earlier generalizing output with
  | nil => rfl
  | cons first earlier ih =>
      simp only [List.cons_append, moveBlocks, ih]

theorem batch_moveBlocks (rule : RetryRule) (batches : List (List Entry)) (output : Output) :
    (moveBlocks rule batches output).1.map Block.batch = batches := by
  induction batches generalizing output with
  | nil => rfl
  | cons batch later ih =>
      simp only [moveBlocks, List.map_cons, ih]
      rfl

theorem exists_of_mem_moveBlocks {rule : RetryRule} {batches : List (List Entry)}
    {output : Output} {block : Block} (h : block ∈ (moveBlocks rule batches output).1) :
    exists batch output', batch ∈ batches ∧ block = (moveBlock rule batch output').1 := by
  induction batches generalizing output with
  | nil => cases h
  | cons batch later ih =>
      simp only [moveBlocks, List.mem_cons] at h
      rcases h with hfirst | hlater
      · exact ⟨batch, output, List.mem_cons_self, hfirst⟩
      · rcases ih hlater with ⟨batch', output', hbatch, hblock⟩
        exact ⟨batch', output', List.mem_cons_of_mem _ hbatch, hblock⟩

/-!
## Operations and their calls
-/

theorem isWrite_of_mem_persist {rule : RetryRule} {bytes : List UInt8} {output output' : Output}
    {reply : Reply { n : Nat // 0 < n }} {happened : List Happening}
    (h : persist rule.retries (Output.write bytes) (.fresh rule) output =
      (reply, output', happened)) :
    forall c, c ∈ happened.filterMap Happening.call? -> c.isWrite = true :=
  ((course_of_persist h).calls (fun c => c.isWrite = true) (fun _ => rfl)).2

theorem isWrite_of_mem_writing {rule : RetryRule} {bytes : List UInt8} {output output' : Output}
    {reply : Reply Unit} {happened : List Happening}
    (h : Writing rule bytes output reply output' happened) :
    forall c, c ∈ happened.filterMap Happening.call? -> c.isWrite = true := by
  induction h with
  | nothing output =>
      intro c hc
      cases hc
  | took _ hpersist _ ih =>
      intro c hc
      rw [List.filterMap_append] at hc
      rcases List.mem_append.mp hc with hfirst | hlater
      · exact isWrite_of_mem_persist hpersist c hfirst
      · exact ih c hlater
  | failed _ hpersist | panicked _ hpersist => exact isWrite_of_mem_persist hpersist

theorem isWrite_of_mem_writeBytes (rule : RetryRule) (bytes : List UInt8) (output : Output) :
    forall c, c ∈ (writeBytes rule bytes output).2.2.filterMap Happening.call? ->
      c.isWrite = true :=
  isWrite_of_mem_writing (Sink.writing_writeBytes rule bytes output)

theorem isWrite_of_mem_writeEach (rule : RetryRule) (entries : List Entry) (output : Output) :
    forall c, c ∈ (writeEach rule entries output).calls -> c.isWrite = true := by
  induction entries generalizing output with
  | nil =>
      intro c hc
      cases hc
  | cons e entries ih =>
      intro c hc
      simp only [writeEach, Transcript.after] at hc
      rcases List.mem_append.mp hc with hfirst | hlater
      · exact isWrite_of_mem_writeBytes rule e.bytes output c hfirst
      · exact ih _ c hlater

theorem flushes_moveBlock (rule : RetryRule) (batch : List Entry) (output : Output) :
    (moveBlock rule batch output).1.flushes ≠ [] ∧
      forall c, c ∈ (moveBlock rule batch output).1.flushes -> c.isWrite = false :=
  (course_persist _ _ _ _).calls (fun c => c.isWrite = false) (fun _ => rfl)

/-!
## A block under way
-/

/-- What is still to come of a block: its calls, whether its flush is given up, and the
output after it. -/
structure Remainder where
  calls : List Call
  gaveUp : Bool
  output : Output

namespace Remainder

def after (made : List Call) (r : Remainder) : Remainder :=
  { r with calls := made ++ r.calls }

theorem after_after (made made' : List Call) (r : Remainder) :
    (r.after made').after made = r.after (made ++ made') := by
  simp [after]

@[simp] theorem after_nil (r : Remainder) : r.after [] = r := rfl

end Remainder

def flushFrom (rule : RetryRule) (effort : Effort) (output : Output) : Remainder :=
  let (reply, output', happened) := persist rule.retries Output.flush effort output
  { calls := happened.filterMap Happening.call?, gaveUp := reply.isGivenUp, output := output' }

namespace Stage

def inBlock : Stage -> Bool
  | .taking | .done | .panicked _ => false
  | .detached _ | .between _ | .writing _ _ _ _ | .returned _ _ _ | .settled _ _ _ | .flushing _
  | .flushGivenUp _ => true

def beforeFlush : Stage -> Bool
  | .flushing _ | .flushGivenUp _ => false
  | _ => true

def remainder (rule : RetryRule) (output : Output) : Stage -> Remainder
  | .flushing effort => flushFrom rule effort output
  | .flushGivenUp _ => { calls := [], gaveUp := true, output }
  | stage =>
      (flushFrom rule (.fresh rule) (stage.toCome rule output).output).after
        (stage.toCome rule output).calls

theorem remainder_of_beforeFlush {stage : Stage} (h : stage.beforeFlush = true)
    (rule : RetryRule) (output : Output) :
    stage.remainder rule output =
      (flushFrom rule (.fresh rule) (stage.toCome rule output).output).after
        (stage.toCome rule output).calls := by
  cases stage with
  | flushing _ | flushGivenUp _ => cases h
  | _ => rfl

end Stage

section Remainders

variable {rule : RetryRule} {output output' : Output} {stage stage' : Stage}

theorem remainder_of_toCome {results : List Result} {made : List Call}
    (h : stage.beforeFlush = true) (h' : stage'.beforeFlush = true)
    (htocome : stage.toCome rule output = (stage'.toCome rule output').after results made) :
    stage.remainder rule output = (stage'.remainder rule output').after made := by
  rw [Stage.remainder_of_beforeFlush h, Stage.remainder_of_beforeFlush h', htocome,
    Remainder.after_after]
  rfl

theorem flushFrom_of_ok {effort : Effort} {made : Call}
    (h : output.flush = (.ok (), made, output')) :
    flushFrom rule effort output = { calls := [made], gaveUp := false, output := output' } := by
  rw [flushFrom, persist_of_ok h]
  rfl

theorem flushFrom_of_givenUp {effort : Effort} {made : Call} {x : IoError}
    (h : output.flush = (.error x, made, output'))
    (heffort : effort.afterError rule.retries x = none) :
    flushFrom rule effort output =
      ((Stage.flushGivenUp x).remainder rule output').after [made] := by
  rw [flushFrom, persist_of_givenUp h heffort]
  rfl

theorem flushFrom_of_repeated {effort effort' : Effort} {between : List Happening} {made : Call}
    {x : IoError} (h : output.flush = (.error x, made, output'))
    (heffort : effort.afterError rule.retries x = some (effort', between)) :
    flushFrom rule effort output =
      ((Stage.flushing effort').remainder rule output').after [made] := by
  have hbetween := Effort.calls_afterError heffort
  rw [flushFrom, persist_of_repeated h heffort]
  simp [Stage.remainder, flushFrom, Remainder.after, Happening.call?, hbetween]

theorem remainder_between (rule : RetryRule) (batch : List Entry) (output : Output) :
    (Stage.between batch).remainder rule output =
      { calls := (moveBlock rule batch output).1.calls
        gaveUp := (moveBlock rule batch output).1.gaveUp
        output := (moveBlock rule batch output).2 } := rfl

end Remainders

end AsyncLog
