import Mathlib.Data.List.Induction
import AsyncLog.Proofs.Output.Doubling
import AsyncLog.Proofs.Output.Extent
/-!
# Pauses between calls

What happens in an operation can be told from its calls alone: an error that is no free
interrupt is reported with the number of the attempt and followed by a pause, and each
pause is twice as long as the one before it until it is as long as a pause can be.  The next
operation begins with the shortest pause again.
-/

namespace AsyncLog

def errorsOf (calls : List Call) : List IoError :=
  calls.filterMap Call.error?

theorem errorsOf_cons_of_error {c : Call} {e : IoError} (calls : List Call)
    (h : c.error? = some e) : errorsOf (c :: calls) = e :: errorsOf calls :=
  List.filterMap_cons_some h

theorem errorsOf_cons_of_none {c : Call} (calls : List Call) (h : c.error? = none) :
    errorsOf (c :: calls) = errorsOf calls :=
  List.filterMap_cons_none h

theorem errorsOf_append (first second : List Call) :
    errorsOf (first ++ second) = errorsOf first ++ errorsOf second :=
  List.filterMap_append

theorem errorsOf_concat {c : Call} {e : IoError} (calls : List Call) (h : c.error? = some e) :
    errorsOf (calls ++ [c]) = errorsOf calls ++ [e] := by
  rw [errorsOf_append, errorsOf_cons_of_error _ h]
  rfl

namespace RetryRule

/-- The pause after so many others: the first one doubled as often, as far as that fits. -/
def pauseAfter (rule : RetryRule) (pauses : Nat) : Duration :=
  Duration.clamp (rule.backoff.toNanos * Nat.pow 2 pauses)

def between (rule : RetryRule) (errors : List IoError) (e : IoError) : List Happening :=
  if attemptsIn (errors ++ [e]) = attemptsIn errors then []
  else
    [.reported (.retrying (UInt32.ofNat (attemptsIn (errors ++ [e]))) e),
      .paused (rule.pauseAfter (attemptsIn errors))]

/-- What happens in an operation up to the repetition of its latest failed call, as told from
its calls; some errors came before. -/
def told (rule : RetryRule) (errors : List IoError) : List Call -> List Happening
  | [] => []
  | c :: calls =>
      match c.error? with
      | none => .called c :: rule.told errors calls
      | some e => .called c :: (rule.between errors e ++ rule.told (errors ++ [e]) calls)

variable {rule : RetryRule} {errors : List IoError} {e : IoError} {c : Call}

theorem told_cons_of_error (calls : List Call) (h : c.error? = some e) :
    rule.told errors (c :: calls) =
      .called c :: (rule.between errors e ++ rule.told (errors ++ [e]) calls) := by
  rw [told, h]

theorem told_cons_of_none (calls : List Call) (h : c.error? = none) :
    rule.told errors (c :: calls) = .called c :: rule.told errors calls := by
  rw [told, h]

theorem told_append (rule : RetryRule) (errors : List IoError) (calls more : List Call) :
    rule.told errors (calls ++ more) =
      rule.told errors calls ++ rule.told (errors ++ errorsOf calls) more := by
  induction calls generalizing errors with
  | nil => exact congrArg (fun errors => rule.told errors more) (List.append_nil errors).symm
  | cons c calls ih =>
      cases herror : c.error? with
      | none =>
          rw [List.cons_append, told_cons_of_none _ herror, told_cons_of_none _ herror, ih,
            errorsOf_cons_of_none _ herror, List.cons_append]
      | some e =>
          rw [List.cons_append, told_cons_of_error _ herror, told_cons_of_error _ herror, ih,
            errorsOf_cons_of_error _ herror]
          simp only [List.cons_append, List.append_assoc, List.nil_append]

theorem told_concat (rule : RetryRule) (calls : List Call) (h : c.error? = some e) :
    rule.told [] (calls ++ [c]) =
      rule.told [] calls ++ .called c :: rule.between (errorsOf calls) e := by
  rw [told_append, List.nil_append, told_cons_of_error _ h, told, List.append_nil]

theorem between_of_free (h : attemptsIn (errors ++ [e]) = attemptsIn errors) :
    rule.between errors e = [] :=
  if_pos h

theorem between_of_counted (h : attemptsIn (errors ++ [e]) = attemptsIn errors + 1) :
    rule.between errors e =
      [.reported (.retrying (UInt32.ofNat (attemptsIn errors + 1)) e),
        .paused (rule.pauseAfter (attemptsIn errors))] := by
  rw [between, if_neg (by omega), h]

theorem attemptsIn_concat (errors : List IoError) (e : IoError) :
    attemptsIn (errors ++ [e]) = attemptsIn errors ∨
      attemptsIn (errors ++ [e]) = attemptsIn errors + 1 := by
  by_cases hcounted : e.isInterrupted = true -> 16 ≤ errors.countP IoError.isInterrupted
  · exact Or.inr (attemptsIn_concat_of_counted hcounted)
  · rw [Classical.not_imp, Nat.not_le] at hcounted
    exact Or.inl (attemptsIn_concat_of_free hcounted.1 hcounted.2)

theorem calls_between (rule : RetryRule) (errors : List IoError) (e : IoError) :
    (rule.between errors e).filterMap Happening.call? = [] := by
  unfold between
  split <;> rfl

theorem calls_told (rule : RetryRule) (errors : List IoError) (calls : List Call) :
    (rule.told errors calls).filterMap Happening.call? = calls := by
  induction calls generalizing errors with
  | nil => rfl
  | cons c calls ih =>
      cases herror : c.error? with
      | none =>
          rw [told_cons_of_none _ herror]
          exact congrArg (List.cons c) (ih errors)
      | some e =>
          rw [told_cons_of_error _ herror]
          show c :: (rule.between errors e ++ rule.told (errors ++ [e]) calls).filterMap _ = _
          rw [List.filterMap_append, calls_between, List.nil_append, ih]

/-- There are as many pauses as delayed retries, each of them twice as long as the one before. -/
theorem pauses_told (rule : RetryRule) (calls : List Call) :
    (rule.told [] calls).filterMap Happening.pause? =
      (List.range (attemptsIn (errorsOf calls))).map rule.pauseAfter := by
  induction calls using List.reverseRecOn with
  | nil => rfl
  | append_singleton calls c ih =>
      cases herror : c.error? with
      | none =>
          have herrors : errorsOf (calls ++ [c]) = errorsOf calls := by
            rw [errorsOf_append, errorsOf_cons_of_none _ herror]
            exact List.append_nil _
          rw [told_append, told_cons_of_none _ herror, herrors, ← ih, List.filterMap_append]
          exact List.append_nil _
      | some e =>
          rw [told_concat _ _ herror, List.filterMap_append, ih, errorsOf_concat _ herror]
          rcases attemptsIn_concat (errorsOf calls) e with hfree | hcounted
          · rw [between_of_free hfree, hfree]
            exact List.append_nil _
          · rw [between_of_counted hcounted, hcounted, List.range_succ, List.map_append]
            rfl

theorem toNanos_pauseAfter (rule : RetryRule) (pauses : Nat) :
    (rule.pauseAfter pauses).toNanos =
      min (rule.backoff.toNanos * Nat.pow 2 pauses) Duration.max.toNanos :=
  Duration.toNanos_clamp _

theorem pauseAfter_zero (rule : RetryRule) : rule.pauseAfter 0 = rule.backoff := by
  have hfirst : rule.backoff.toNanos * Nat.pow 2 0 = rule.backoff.toNanos := Nat.mul_one _
  rw [pauseAfter, hfirst, Duration.clamp_toNanos]

theorem pauseAfter_succ (rule : RetryRule) (pauses : Nat) :
    rule.pauseAfter (pauses + 1) = (rule.pauseAfter pauses).double := by
  have htwice : rule.backoff.toNanos * Nat.pow 2 (pauses + 1) =
      2 * (rule.backoff.toNanos * Nat.pow 2 pauses) := by
    show rule.backoff.toNanos * (Nat.pow 2 pauses * 2) = _
    rw [← Nat.mul_assoc, Nat.mul_comm]
  rw [pauseAfter, pauseAfter, Duration.double_clamp, htwice]

end RetryRule

/-!
## The pause ahead
-/

/-- An effort after some errors: its counters say how many they were, the retries were enough
for them, and the next pause is the one after so many others. -/
structure Effort.Paced (rule : RetryRule) (errors : List IoError) (f : Effort) : Prop where
  counts : f.Counts errors
  within : attemptsIn errors ≤ rule.retries.toNat
  delay : f.delay = rule.pauseAfter (attemptsIn errors)

namespace Effort.Paced

variable {rule : RetryRule} {errors : List IoError} {e : IoError} {f f' : Effort}
  {between : List Happening}

theorem fresh (rule : RetryRule) : (Effort.fresh rule).Paced rule [] where
  counts := .fresh rule
  within := Nat.zero_le _
  delay := rule.pauseAfter_zero.symm

theorem again (h : f.Paced rule errors) (hagain : f.afterError rule.retries e = some (f', between)) :
    f'.Paced rule (errors ++ [e]) ∧ between = rule.between errors e := by
  rcases h.counts.again h.within hagain with ⟨hcounts, hwithin⟩
  cases consequence_of_afterError hagain with
  | atOnce hinterrupted hfree =>
      have hless := h.counts.free_iff.mp hfree
      have hsame := attemptsIn_concat_of_free hinterrupted hless
      constructor
      · constructor
        · exact hcounts
        · exact hwithin
        · show f.delay = _
          rw [h.delay, hsame]
      · rw [RetryRule.between_of_free hsame]
  | paused hcounted hretries =>
      have hmore := attemptsIn_concat_of_counted fun hinterrupted =>
        h.counts.counted_iff.mp (hcounted hinterrupted)
      have hattempts : f.attempts + 1 = UInt32.ofNat (attemptsIn errors + 1) := by
        rw [← hmore, ← hcounts.attempts]
        exact UInt32.ofNat_toNat.symm
      constructor
      · constructor
        · exact hcounts
        · exact hwithin
        · show f.delay.double = _
          rw [h.delay, hmore, rule.pauseAfter_succ]
      · rw [RetryRule.between_of_counted hmore, hattempts, h.delay]

end Effort.Paced

/-- All calls of an operation but the last one failed, and what happens in between is told from
their errors. -/
theorem Course.told {rule : RetryRule} {call : Output -> Reply α × Call × Output} {f : Effort}
    {output output' : Output} {reply : Reply α} {happened : List Happening}
    {errors : List IoError} (h : Course rule.retries call f output reply output' happened)
    (hrecorded : Recorded call) (hpaced : f.Paced rule errors) :
    exists failed last, happened = rule.told errors failed ++ [.called last] ∧
      (forall c, c ∈ failed -> c.error? ≠ none) ∧
      attemptsIn (errors ++ errorsOf failed) ≤ rule.retries.toNat := by
  induction h generalizing errors with
  | @ended _ _ _ _ made _ _ | @givenUp _ _ _ _ made _ _ =>
      exists []
      exists made
      constructor
      · rfl
      constructor
      · intro c hc
        cases hc
      · show attemptsIn (errors ++ []) ≤ _
        rw [List.append_nil]
        exact hpaced.within
  | @again _ _ output _ _ _ e made between later hcall hagain _ ih =>
      rcases hpaced.again hagain with ⟨hpaced', hbetween⟩
      rcases ih hpaced' with ⟨failed, last, hlater, hfailed, hwithin⟩
      have herror : made.error? = some e := by
        have hmade := hrecorded output
        rw [hcall] at hmade
        exact hmade
      exists made :: failed
      exists last
      constructor
      · rw [RetryRule.told_cons_of_error _ herror, hlater, hbetween, List.cons_append,
          List.cons_append, List.append_assoc]
      constructor
      · intro c hc
        cases hc with
        | head =>
            rw [herror]
            exact Option.some_ne_none e
        | tail _ hc => exact hfailed c hc
      · rw [errorsOf_cons_of_error _ herror, ← List.singleton_append, ← List.append_assoc]
        exact hwithin

/-!
## Schedules
-/

def pauseLengths (happened : List Happening) : List Nat :=
  (happened.filterMap Happening.pause?).map Duration.toNanos

def retriesIn (happened : List Happening) : Nat :=
  attemptsIn (errorsOf (happened.filterMap Happening.call?).dropLast)

/-- The lengths of so many pauses, each twice as long as the one before, none longer than a
duration can be. -/
def RetryRule.schedule (rule : RetryRule) (count : Nat) : List Nat :=
  (List.range count).map fun k =>
    min (rule.backoff.toNanos * Nat.pow 2 k) Duration.max.toNanos

/-- As long as no pause is cut short, the pauses add up to one less than the next power. -/
theorem RetryRule.sum_schedule (rule : RetryRule) (count : Nat)
    (hfits : rule.backoff.toNanos * Nat.pow 2 (count - 1) ≤ Duration.max.toNanos) :
    (rule.schedule count).sum = rule.backoff.toNanos * (Nat.pow 2 count - 1) := by
  induction count with
  | zero => rfl
  | succ count ih =>
      have hpositive : 1 ≤ Nat.pow 2 count := Nat.one_le_two_pow
      have hlast : rule.backoff.toNanos * Nat.pow 2 count ≤ Duration.max.toNanos := hfits
      have hshorter : Nat.pow 2 (count - 1) ≤ Nat.pow 2 count :=
        Nat.pow_le_pow_right (by decide) (Nat.sub_le count 1)
      have hbefore := ih (Nat.le_trans (Nat.mul_le_mul_left _ hshorter) hlast)
      have hnext : Nat.pow 2 (count + 1) - 1 = (Nat.pow 2 count - 1) + Nat.pow 2 count := by
        show Nat.pow 2 count * 2 - 1 = _
        omega
      rw [schedule] at hbefore
      rw [schedule, List.range_succ, List.map_append, List.sum_append, hbefore, List.map_singleton,
        List.sum_singleton, Nat.min_eq_left hlast, hnext, Nat.mul_add]

theorem pauseLengths_append (first second : List Happening) :
    pauseLengths (first ++ second) = pauseLengths first ++ pauseLengths second := by
  rw [pauseLengths, List.filterMap_append, List.map_append, pauseLengths, pauseLengths]

theorem pauseLengths_flatten (operations : List (List Happening)) :
    pauseLengths operations.flatten = operations.flatMap pauseLengths := by
  induction operations with
  | nil => rfl
  | cons o rest ih => rw [List.flatten_cons, pauseLengths_append, ih, List.flatMap_cons]

theorem Operates.told {rule : RetryRule} {happened : List Happening}
    (h : Operates rule happened) :
    exists failed last, happened = rule.told [] failed ++ [.called last] ∧
      (forall c, c ∈ failed -> c.error? ≠ none) ∧
      attemptsIn (errorsOf failed) ≤ rule.retries.toNat := by
  apply Operates.induction (P := fun happened => exists failed last,
    happened = rule.told [] failed ++ [Happening.called last] ∧ (forall c, c ∈ failed -> c.error? ≠ none) ∧
      attemptsIn (errorsOf failed) ≤ rule.retries.toNat) _ h
  intro α call output output' reply happened hrecorded hcourse
  exact hcourse.told hrecorded (.fresh rule)

theorem retriesIn_told (rule : RetryRule) (failed : List Call) (last : Call) :
    retriesIn (rule.told [] failed ++ [Happening.called last]) = attemptsIn (errorsOf failed) := by
  have hcalls : (rule.told [] failed ++ [Happening.called last]).filterMap Happening.call? =
      failed ++ [last] := by
    rw [List.filterMap_append, rule.calls_told]
    rfl
  rw [retriesIn, hcalls, List.dropLast_concat]

theorem Operates.pauseLengths {rule : RetryRule} {happened : List Happening}
    (h : Operates rule happened) :
    pauseLengths happened = rule.schedule (retriesIn happened) := by
  rcases h.told with ⟨failed, last, htold, _, _⟩
  have hpauses : (rule.told [] failed ++ [Happening.called last]).filterMap Happening.pause? =
      (List.range (attemptsIn (errorsOf failed))).map rule.pauseAfter := by
    rw [List.filterMap_append, rule.pauses_told]
    exact List.append_nil _
  have hlengths : ((List.range (attemptsIn (errorsOf failed))).map rule.pauseAfter).map
      Duration.toNanos = rule.schedule (attemptsIn (errorsOf failed)) := by
    rw [List.map_map, RetryRule.schedule]
    apply List.map_congr_left
    intro k _
    rw [Function.comp_apply, rule.toNanos_pauseAfter]
  rw [htold, retriesIn_told, AsyncLog.pauseLengths, hpauses, hlengths]

/-!
## Reports
-/

def Diagnostic.attempt? : Diagnostic -> Option Nat
  | .retrying attempt _ => some attempt.toNat
  | _ => none

/-- Whatever is reported stands between a call and a pause, and tells the error of that call. -/
def ReportsOwnErrors (happened : List Happening) : Prop :=
  forall before d after, happened = before ++ .reported d :: after ->
    exists earlier c attempt e pause later,
      before = earlier ++ [.called c] ∧ c.error? = some e ∧ d = .retrying attempt e ∧
        after = .paused pause :: later

namespace ReportsOwnErrors

variable {happened more : List Happening} {c : Call}

theorem append (h : ReportsOwnErrors happened) (h' : ReportsOwnErrors more) :
    ReportsOwnErrors (happened ++ more) := by
  intro before d after hsplit
  rcases List.append_eq_append_iff.mp hsplit with
    ⟨inner, hbefore, hmore⟩ | ⟨inner, hhappened, hafter⟩
  · rcases h' inner d after hmore with
      ⟨earlier, c, attempt, e, pause, later, hcall, herror, hreport, hpause⟩
    exists happened ++ earlier
    exists c, attempt, e, pause, later
    rw [hbefore, hcall, List.append_assoc]
    exact ⟨rfl, herror, hreport, hpause⟩
  · cases inner with
    | nil =>
        rcases h' [] d after hafter.symm with ⟨earlier, c, _, _, _, _, hcall, _⟩
        cases earlier <;> cases hcall
    | cons next inner =>
        cases hafter
        rcases h before d inner hhappened with
          ⟨earlier, c, attempt, e, pause, later, hcall, herror, hreport, hpause⟩
        exists earlier, c, attempt, e, pause, later ++ more
        rw [hpause]
        exact ⟨hcall, herror, hreport, rfl⟩

theorem of_call (c : Call) : ReportsOwnErrors [.called c] := by
  intro before d after hsplit
  rcases nil_of_singleton_split hsplit with ⟨_, himpossible, _⟩
  cases himpossible

theorem of_report {e : IoError} (herror : c.error? = some e) (attempt : UInt32)
    (pause : Duration) :
    ReportsOwnErrors [.called c, .reported (.retrying attempt e), .paused pause] := by
  intro before d after hsplit
  cases before with
  | nil => cases hsplit
  | cons first before =>
      cases before with
      | nil =>
          cases hsplit
          exists [], c, attempt, e, pause, []
      | cons second before =>
          cases before with
          | nil => cases hsplit
          | cons third before => cases before <;> cases hsplit

end ReportsOwnErrors

namespace RetryRule

theorem reportsOwnErrors_told (rule : RetryRule) (calls : List Call) :
    ReportsOwnErrors (rule.told [] calls) := by
  induction calls using List.reverseRecOn with
  | nil =>
      intro before d after hsplit
      cases before <;> cases hsplit
  | append_singleton calls c ih =>
      cases herror : c.error? with
      | none =>
          rw [told_append, told_cons_of_none _ herror]
          exact ih.append (.of_call c)
      | some e =>
          rw [told_concat _ _ herror]
          apply ih.append
          rcases attemptsIn_concat (errorsOf calls) e with hfree | hcounted
          · rw [between_of_free hfree]
            exact .of_call c
          · rw [between_of_counted hcounted]
            exact .of_report herror _ _

theorem attempts_told (rule : RetryRule) (calls : List Call)
    (hwithin : attemptsIn (errorsOf calls) ≤ rule.retries.toNat) :
    ((rule.told [] calls).filterMap Happening.report?).map Diagnostic.attempt? =
      (List.range (attemptsIn (errorsOf calls))).map fun k => some (k + 1) := by
  induction calls using List.reverseRecOn with
  | nil => rfl
  | append_singleton calls c ih =>
      cases herror : c.error? with
      | none =>
          have herrors : errorsOf (calls ++ [c]) = errorsOf calls := by
            rw [errorsOf_append, errorsOf_cons_of_none _ herror]
            exact List.append_nil _
          rw [herrors] at hwithin
          rw [told_append, told_cons_of_none _ herror, herrors, ← ih hwithin,
            List.filterMap_append]
          exact congrArg _ (List.append_nil _)
      | some e =>
          rw [errorsOf_concat _ herror] at hwithin
          rw [told_concat _ _ herror, List.filterMap_append, List.map_append,
            errorsOf_concat _ herror]
          rcases attemptsIn_concat (errorsOf calls) e with hfree | hcounted
          · rw [hfree] at hwithin
            rw [between_of_free hfree, hfree, ih hwithin]
            exact List.append_nil _
          · rw [hcounted] at hwithin
            have hfits : (UInt32.ofNat (attemptsIn (errorsOf calls) + 1)).toNat =
                attemptsIn (errorsOf calls) + 1 :=
              UInt32.toNat_ofNat_of_lt' (Nat.lt_of_le_of_lt hwithin rule.retries.toNat_lt)
            rw [between_of_counted hcounted, hcounted, ih (Nat.le_of_succ_le hwithin),
              List.range_succ, List.map_append]
            show _ ++ [some _] = _
            rw [hfits]
            rfl

end RetryRule

theorem Operates.reportsOwnErrors {rule : RetryRule} {happened : List Happening}
    (h : Operates rule happened) : ReportsOwnErrors happened := by
  rcases h.told with ⟨failed, last, htold, _, _⟩
  rw [htold]
  exact (rule.reportsOwnErrors_told failed).append (.of_call last)

theorem Operates.attempts {rule : RetryRule} {happened : List Happening}
    (h : Operates rule happened) :
    (happened.filterMap Happening.report?).map Diagnostic.attempt? =
      (List.range (retriesIn happened)).map fun k => some (k + 1) := by
  rcases h.told with ⟨failed, last, htold, _, hwithin⟩
  rw [htold, retriesIn_told, List.filterMap_append, ← rule.attempts_told failed hwithin]
  exact congrArg _ (List.append_nil _)

theorem Operates.length_pauses {rule : RetryRule} {happened : List Happening}
    (h : Operates rule happened) :
    (happened.filterMap Happening.pause?).length = retriesIn happened := by
  have hlengths := congrArg List.length h.pauseLengths
  rw [AsyncLog.pauseLengths, List.length_map, RetryRule.schedule, List.length_map,
    List.length_range] at hlengths
  exact hlengths

/-!
## The operations of a write
-/

theorem Writes.claimed {rule : RetryRule} {bytes : List UInt8} {output output' : Output}
    {operations : List (List Happening)} (h : Writes rule bytes output operations output') :
    forall o, o ∈ operations.dropLast -> 0 < claimedIn (o.filterMap Happening.call?) := by
  induction h with
  | nothing _ | stopped _ _ _ => exact nofun
  | @took _ _ _ _ taken _ operations _ hpersist _ ih =>
      cases operations with
      | nil => exact nofun
      | cons next operations =>
          rw [List.dropLast_cons_cons]
          refine List.forall_mem_cons.mpr ⟨?_, ih⟩
          rw [(course_of_persist hpersist).claimed]
          exact taken.property

/-- Doubling a duration overflows nowhere.  In one operation only a failed call that counts is
followed by a pause, none follows the last call, and the pauses are a schedule: the first pause
doubled each time, as far as a duration can be that long.  The pauses of a write are the schedules
of its operations one after the other, and all of these but the last one took some bytes. -/
theorem pauses_double (rule : RetryRule) :
    (forall d : Duration, d.doubleInWords? = some d.double) ∧
    (forall o, Operates rule o ->
      (exists failed last, o = rule.told [] failed ++ [.called last] ∧
        (forall c, c ∈ failed -> c.error? ≠ none) ∧
        retriesIn o = attemptsIn (errorsOf failed)) ∧
      retriesIn o ≤ rule.retries.toNat ∧
      pauseLengths o = rule.schedule (retriesIn o) ∧
      (rule.backoff.toNanos * Nat.pow 2 (retriesIn o - 1) ≤ Duration.max.toNanos ->
        (pauseLengths o).sum = rule.backoff.toNanos * (Nat.pow 2 (retriesIn o) - 1))) ∧
    forall (bytes : List UInt8) (output : Output),
      exists operations : List (List Happening),
        (Sink.writeBytes rule bytes output).2.2 = operations.flatten ∧
        (forall o, o ∈ operations -> Operates rule o) ∧
        (forall o, o ∈ operations.dropLast -> 0 < claimedIn (o.filterMap Happening.call?)) ∧
        pauseLengths (Sink.writeBytes rule bytes output).2.2 =
          operations.flatMap fun o => rule.schedule (retriesIn o) := by
  constructor
  · exact Duration.doubleInWords?_eq
  constructor
  · intro o hoperates
    rcases hoperates.told with ⟨failed, last, htold, hfailed, hwithin⟩
    have hretries : retriesIn o = attemptsIn (errorsOf failed) := by
      rw [htold, retriesIn_told]
    constructor
    · exact ⟨failed, last, htold, hfailed, hretries⟩
    constructor
    · rw [hretries]
      exact hwithin
    constructor
    · exact hoperates.pauseLengths
    · intro hfits
      rw [hoperates.pauseLengths]
      exact rule.sum_schedule _ hfits
  · intro bytes output
    rcases (Sink.writing_writeBytes rule bytes output).writes with
      ⟨operations, hflatten, hwrites⟩
    have hoperates := hwrites.operates
    exists operations
    constructor
    · exact hflatten
    constructor
    · exact hoperates
    constructor
    · exact hwrites.claimed
    · rw [hflatten, pauseLengths_flatten, List.flatMap_def, List.flatMap_def]
      apply congrArg
      apply List.map_congr_left
      intro o ho
      exact (hoperates o ho).pauseLengths

def halting : Script where
  write := fun call =>
    if call = 0 then .fails (.plain .interrupted)
    else if call < 4 then .fails (.plain .brokenPipe)
    else if call = 4 then .atMost 2
    else if call = 5 then .fails (.plain .timedOut)
    else .all
  flush := fun _ => .done

theorem pauses_double_halting :
    let rule : RetryRule :=
      { retries := 3, backoff := { secs := 0x4000000000000000, nanos := 750000000 } }
    let happened := (Sink.writeBytes rule [1, 2, 3] { script := halting }).2.2
    (exists operations : List (List Happening), happened = operations.flatten ∧
      pauseLengths happened = operations.flatMap fun o => rule.schedule (retriesIn o)) ∧
    pauseLengths happened =
      [4611686018427387904750000000, 9223372036854775809500000000,
        18446744073709551615999999999, 4611686018427387904750000000] := by
  intro rule happened
  rcases (pauses_double rule).2.2 [1, 2, 3] { script := halting } with
    ⟨operations, hflatten, _, _, hlengths⟩
  constructor
  · exact ⟨operations, hflatten, hlengths⟩
  · decide +kernel

end AsyncLog
