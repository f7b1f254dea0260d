import AsyncLog.Proofs.Output.Operation
/-!
# The retries of an operation

An operation ends with its first call that does not fail, or with the first error that goes
beyond its retries.  Interrupts beyond the allowance count towards the retries like all other
errors, and each operation of a sink counts its own errors only.
-/

namespace AsyncLog

/-- The failed attempts among some errors: those that are no interrupts, and the interrupts
after the first sixteen. -/
def attemptsIn (errors : List IoError) : Nat :=
  errors.countP (fun e => !e.isInterrupted) + (errors.countP IoError.isInterrupted - 16)

/-- The outcomes of all calls of an operation: errors whose failed attempts are within the
retries, and one more outcome, which is no error or goes beyond the retries. -/
def Complete (retries : UInt32) (outcomes : List (Option IoError)) : Prop :=
  exists errors last, outcomes = errors.map some ++ [last] ∧
    attemptsIn errors ≤ retries.toNat ∧
    forall e, last = some e -> attemptsIn (errors ++ [e]) = retries.toNat + 1

theorem attemptsIn_concat_of_free {errors : List IoError} {e : IoError}
    (hinterrupted : e.isInterrupted = true) (hfree : errors.countP IoError.isInterrupted < 16) :
    attemptsIn (errors ++ [e]) = attemptsIn errors := by
  simp only [attemptsIn, List.countP_append, List.countP_singleton, hinterrupted]
  simp only [Bool.not_true, if_true, Bool.false_eq_true, if_false]
  omega

theorem attemptsIn_concat_of_counted {errors : List IoError} {e : IoError}
    (hcounted : e.isInterrupted = true -> 16 ≤ errors.countP IoError.isInterrupted) :
    attemptsIn (errors ++ [e]) = attemptsIn errors + 1 := by
  simp only [attemptsIn, List.countP_append, List.countP_singleton]
  cases hinterrupted : e.isInterrupted with
  | true =>
      have hallowance := hcounted hinterrupted
      simp only [Bool.not_true, if_true, Bool.false_eq_true, if_false]
      omega
  | false =>
      simp only [Bool.not_false, if_true, Bool.false_eq_true, if_false]
      omega

theorem length_le_attemptsIn (errors : List IoError) : errors.length ≤ attemptsIn errors + 16 := by
  have hlength := List.length_eq_countP_add_countP (l := errors) IoError.isInterrupted
  unfold attemptsIn
  simp only [Bool.not_eq_true, Bool.decide_eq_false] at hlength
  omega

theorem Complete.length_le {retries : UInt32} {outcomes : List (Option IoError)}
    (h : Complete retries outcomes) : outcomes.length ≤ retries.toNat + 17 := by
  rcases h with ⟨errors, last, houtcomes, hwithin, _⟩
  have hlength := length_le_attemptsIn errors
  rw [houtcomes, List.length_append, List.length_map, List.length_singleton]
  omega

theorem attemptsIn_le_of_isPrefix {errors errors' : List IoError} (h : errors <+: errors') :
    attemptsIn errors ≤ attemptsIn errors' := by
  rcases h with ⟨more, hmore⟩
  rw [← hmore]
  simp only [attemptsIn, List.countP_append]
  omega

/-- An operation that has come to its end does not go on. -/
theorem Complete.eq_of_isPrefix {retries : UInt32} {outcomes outcomes' : List (Option IoError)}
    (h : Complete retries outcomes) (h' : Complete retries outcomes')
    (hextends : outcomes <+: outcomes') : outcomes = outcomes' := by
  rcases h with ⟨errors, last, houtcomes, _, hlast⟩
  rcases h' with ⟨errors', last', houtcomes', hwithin, _⟩
  rw [houtcomes'] at hextends
  cases List.prefix_concat_iff.mp hextends with
  | inl hsame => rw [hsame, houtcomes']
  | inr hbefore =>
      -- all its outcomes, the last one too, would be errors within the retries
      exfalso
      rcases hbefore with ⟨more, hmore⟩
      rcases List.append_eq_map_iff.mp hmore with ⟨first, rest, hsplit, hfirst, _⟩
      rw [houtcomes] at hfirst
      rcases List.map_eq_append_iff.mp hfirst with ⟨front, back, hfront, hmap, hback⟩
      rcases List.map_eq_singleton_iff.mp hback with ⟨e, he, hsome⟩
      have herrors : front = errors := (List.map_inj_right fun _ _ => Option.some.inj).mp hmap
      have hspent := hlast e hsome.symm
      have hle : attemptsIn first ≤ attemptsIn errors' :=
        attemptsIn_le_of_isPrefix ⟨rest, hsplit.symm⟩
      rw [hfront, he, herrors, hspent] at hle
      omega

/-!
## The counters of an effort
-/

structure Effort.Counts (errors : List IoError) (f : Effort) : Prop where
  attempts : f.attempts.toNat = attemptsIn errors
  interrupts : f.interrupts.toNat = min (errors.countP IoError.isInterrupted) 16

namespace Effort.Counts

variable {retries : UInt32} {errors : List IoError} {f f' : Effort} {e : IoError}
  {between : List Happening}

theorem fresh (rule : RetryRule) : (Effort.fresh rule).Counts [] := ⟨rfl, rfl⟩

theorem free_iff (h : f.Counts errors) :
    f.interrupts < interruptAllowance ↔ errors.countP IoError.isInterrupted < 16 := by
  have hallowance : interruptAllowance.toNat = 16 := rfl
  rw [UInt32.lt_iff_toNat_lt, h.interrupts, hallowance]
  omega

theorem counted_iff (h : f.Counts errors) :
    interruptAllowance ≤ f.interrupts ↔ 16 ≤ errors.countP IoError.isInterrupted := by
  rw [← UInt32.not_lt, h.free_iff, Nat.not_lt]

theorem again (h : f.Counts errors) (hwithin : attemptsIn errors ≤ retries.toNat)
    (hagain : f.afterError retries e = some (f', between)) :
    f'.Counts (errors ++ [e]) ∧ attemptsIn (errors ++ [e]) ≤ retries.toNat := by
  cases consequence_of_afterError hagain with
  | atOnce hinterrupted hfree =>
      have hless := h.free_iff.mp hfree
      rw [attemptsIn_concat_of_free hinterrupted hless]
      constructor
      · constructor
        · rw [attemptsIn_concat_of_free hinterrupted hless]
          exact h.attempts
        · show (f.interrupts + 1).toNat = _
          rw [toNat_succ_of_lt hfree, h.interrupts, List.countP_append, List.countP_singleton,
            if_pos hinterrupted]
          omega
      · exact hwithin
  | paused hcounted hretries =>
      have hallowance := fun hinterrupted => h.counted_iff.mp (hcounted hinterrupted)
      have hless : f.attempts.toNat < retries.toNat := UInt32.lt_iff_toNat_lt.mp hretries
      rw [attemptsIn_concat_of_counted hallowance]
      constructor
      · constructor
        · show (f.attempts + 1).toNat = _
          rw [toNat_succ_of_lt hretries, h.attempts, attemptsIn_concat_of_counted hallowance]
        · show f.interrupts.toNat = _
          rw [h.interrupts, List.countP_append, List.countP_singleton]
          split
          · rename_i hinterrupted
            have := hallowance hinterrupted
            omega
          · rfl
      · rw [← h.attempts]
        exact hless

theorem givenUp (h : f.Counts errors) (hwithin : attemptsIn errors ≤ retries.toNat)
    (hnone : f.afterError retries e = none) :
    attemptsIn (errors ++ [e]) = retries.toNat + 1 := by
  cases consequence_of_afterError hnone with
  | givenUp hcounted hretries =>
      have hspent : retries.toNat ≤ f.attempts.toNat := UInt32.le_iff_toNat_le.mp hretries
      rw [attemptsIn_concat_of_counted fun hinterrupted => h.counted_iff.mp (hcounted hinterrupted)]
      rw [h.attempts] at hspent
      omega

end Effort.Counts

/-!
## Operations
-/

def replies (call : σ -> Reply α × Call × σ) : Nat -> σ -> List (Reply α)
  | 0, _ => []
  | n + 1, s => (call s).1 :: replies call n (call s).2.2

theorem length_replies (call : σ -> Reply α × Call × σ) (n : Nat) (s : σ) :
    (replies call n s).length = n := by
  induction n generalizing s with
  | zero => rfl
  | succ n ih => exact congrArg Nat.succ (ih _)

theorem replies_isPrefix (call : σ -> Reply α × Call × σ) {n m : Nat} (h : n ≤ m) (s : σ) :
    replies call n s <+: replies call m s := by
  induction n generalizing m s with
  | zero => exact List.nil_prefix
  | succ n ih =>
      cases m with
      | zero => cases h
      | succ m => exact (List.prefix_cons_inj _).mpr (ih (Nat.le_of_succ_le_succ h) _)

def afterCalls (call : σ -> Reply α × Call × σ) : Nat -> σ -> σ
  | 0, s => s
  | n + 1, s => afterCalls call n (call s).2.2

section Operation

variable {retries : UInt32} {call : σ -> Reply α × Call × σ} {effort : Effort} {s s' : σ}
  {reply : Reply α} {happened : List Happening}

theorem Course.errors {before : List IoError} (h : Course retries call effort s reply s' happened)
    (hcounts : effort.Counts before) (hwithin : attemptsIn before ≤ retries.toNat) :
    exists errors : List IoError,
      replies call (happened.filterMap Happening.call?).length s =
        errors.map Reply.error ++ [reply] ∧
      afterCalls call (happened.filterMap Happening.call?).length s = s' ∧
      attemptsIn (before ++ errors) ≤ retries.toNat ∧
      forall e, reply.error? = some e ->
        attemptsIn (before ++ errors ++ [e]) = retries.toNat + 1 := by
  induction h generalizing before with
  | ended hcall hreply =>
      exists []
      constructor
      · show [_] = [_]
        rw [hcall]
      constructor
      · show (call _).2.2 = _
        rw [hcall]
      constructor
      · rw [List.append_nil]
        exact hwithin
      · intro e he
        rw [hreply] at he
        cases he
  | @givenUp _ _ _ e _ hcall heffort =>
      exists []
      constructor
      · show [_] = [_]
        rw [hcall]
      constructor
      · show (call _).2.2 = _
        rw [hcall]
      constructor
      · rw [List.append_nil]
        exact hwithin
      · intro e' he'
        cases he'
        rw [List.append_nil]
        exact hcounts.givenUp hwithin heffort
  | @again _ _ _ _ _ _ e _ _ later hcall heffort _ ih =>
      rcases hcounts.again hwithin heffort with ⟨hcounts', hwithin'⟩
      rcases ih hcounts' hwithin' with ⟨errors, hreplies, hstate, hspent, hlast⟩
      rw [calls_again heffort, List.length_cons]
      exists e :: errors
      constructor
      · show (call _).1 :: _ = _
        rw [hcall, hreplies]
        rfl
      constructor
      · show afterCalls call _ (call _).2.2 = _
        rw [hcall]
        exact hstate
      · rw [← List.singleton_append, ← List.append_assoc]
        exact ⟨hspent, hlast⟩

theorem Course.complete {rule : RetryRule}
    (h : Course rule.retries call (.fresh rule) s reply s' happened) :
    Complete rule.retries
      ((replies call (happened.filterMap Happening.call?).length s).map Reply.error?) := by
  rcases h.errors (.fresh rule) (Nat.zero_le _) with ⟨errors, hreplies, _, hwithin, hlast⟩
  exists errors
  exists reply.error?
  constructor
  · rw [hreplies, List.map_append, List.map_map]
    rfl
  · exact ⟨hwithin, hlast⟩

/-- No other number of calls makes a complete operation. -/
theorem Course.complete_iff {rule : RetryRule}
    (h : Course rule.retries call (.fresh rule) s reply s' happened) (n : Nat) :
    Complete rule.retries ((replies call n s).map Reply.error?) ↔
      n = (happened.filterMap Happening.call?).length := by
  constructor
  · intro hcomplete
    have hsame : (replies call n s).map Reply.error? =
        (replies call (happened.filterMap Happening.call?).length s).map Reply.error? := by
      cases Nat.le_total n (happened.filterMap Happening.call?).length with
      | inl hle => exact hcomplete.eq_of_isPrefix h.complete ((replies_isPrefix call hle s).map _)
      | inr hge =>
          have hextends := (replies_isPrefix call hge s).map Reply.error?
          exact (h.complete.eq_of_isPrefix hcomplete hextends).symm
    have hlength := congrArg List.length hsame
    rw [List.length_map, List.length_map, length_replies, length_replies] at hlength
    exact hlength
  · intro hn
    rw [hn]
    exact h.complete

theorem Course.length_calls_le {rule : RetryRule}
    (h : Course rule.retries call (.fresh rule) s reply s' happened) :
    (happened.filterMap Happening.call?).length ≤ rule.retries.toNat + 17 := by
  have hlength := h.complete.length_le
  rw [List.length_map, length_replies] at hlength
  exact hlength

theorem Course.reported (h : Course retries call effort s reply s' happened) (i : Nat)
    (d : Diagnostic) (hd : (happened.filterMap Happening.report?)[i]? = some d) :
    exists attempt e, d = .retrying attempt e ∧
      attempt.toNat = effort.attempts.toNat + i + 1 ∧ attempt.toNat ≤ retries.toNat := by
  induction h generalizing i with
  | ended _ _ | givenUp _ _ => cases hd
  | @again f f' _ _ _ _ e made between later _ heffort _ ih =>
      cases Effort.consequence_of_afterError heffort with
      | atOnce _ _ => exact ih i hd
      | paused _ hretries =>
          have hsucc := Effort.toNat_succ_of_lt hretries
          have hless := UInt32.lt_iff_toNat_lt.mp hretries
          cases i with
          | zero =>
              cases hd
              exists f.attempts + 1
              exists e
              constructor
              · rfl
              · omega
          | succ i =>
              rcases ih i hd with ⟨attempt, error, hreport, hnumber, hbound⟩
              have hnumber' : attempt.toNat = (f.attempts + 1).toNat + i + 1 := hnumber
              exists attempt
              exists error
              constructor
              · exact hreport
              · omega

theorem Course.recorded {call : Output -> Reply α × Call × Output} {output output' : Output}
    (hrecorded : Recorded call) (h : Course retries call effort output reply output' happened) :
    (happened.filterMap Happening.call?).map Call.error? =
      (replies call (happened.filterMap Happening.call?).length output).map Reply.error? := by
  induction h with
  | @ended _ output _ _ _ hcall _ | @givenUp _ output _ _ _ hcall _ =>
      have herror := hrecorded output
      rw [hcall] at herror
      show [_] = [_]
      rw [hcall]
      exact congrArg (fun e => [e]) herror
  | @again _ _ output _ _ _ _ _ _ _ hcall heffort _ ih =>
      have herror := hrecorded output
      rw [hcall] at herror
      rw [calls_again heffort, List.map_cons, ih, List.length_cons]
      show _ = (call output).1.error? :: _
      rw [hcall]
      exact congrArg (fun e => e :: _) herror

end Operation

theorem Operates.complete {rule : RetryRule} {happened : List Happening}
    (h : Operates rule happened) :
    Complete rule.retries ((happened.filterMap Happening.call?).map Call.error?) := by
  apply Operates.induction (P := fun happened => Complete rule.retries
    ((happened.filterMap Happening.call?).map Call.error?)) _ h
  intro α call output output' reply happened hrecorded hcourse
  rw [hcourse.recorded hrecorded]
  exact hcourse.complete

/-!
## The operations of a sink
-/

inductive Request where
  | write (bytes : List UInt8)
  | flush

namespace Sink

def serve (s : Sink) : Request -> Reply Unit × Sink × List Happening
  | .write bytes => s.write bytes
  | .flush => s.flush

def serveAll (s : Sink) : List Request -> Sink × List Happening
  | [] => (s, [])
  | request :: later =>
      let (_, s', happened) := s.serve request
      let (s'', happened') := s'.serveAll later
      (s'', happened ++ happened')

end Sink

/-- The operations of a write, from the output before it to the output after it.  Each one offers
all that is not taken yet, and none follows one that took nothing. -/
inductive Writes (rule : RetryRule) :
    List UInt8 -> Output -> List (List Happening) -> Output -> Prop where
  | nothing (output : Output) : Writes rule [] output [] output
  | took {bytes : List UInt8} {output output' output'' : Output} {taken : { n : Nat // 0 < n }}
      {happened : List Happening} {operations : List (List Happening)} : bytes ≠ [] ->
      persist rule.retries (Output.write bytes) (.fresh rule) output =
        (.ok taken, output', happened) ->
      Writes rule (bytes.drop taken.val) output' operations output'' ->
      Writes rule bytes output (happened :: operations) output''
  | stopped {bytes : List UInt8} {output output' : Output}
      {reply : Reply { n : Nat // 0 < n }} {happened : List Happening} : bytes ≠ [] ->
      persist rule.retries (Output.write bytes) (.fresh rule) output =
        (reply, output', happened) ->
      (forall taken, reply ≠ .ok taken) ->
      Writes rule bytes output [happened] output'

/-- The operations of one request after the other: those of its write, or one flush. -/
inductive Serves (rule : RetryRule) :
    List Request -> Output -> List (List (List Happening)) -> Output -> Prop where
  | nothing (output : Output) : Serves rule [] output [] output
  | write {bytes : List UInt8} {later : List Request} {output output' output'' : Output}
      {operations : List (List Happening)} {more : List (List (List Happening))} :
      Writes rule bytes output operations output' ->
      Serves rule later output' more output'' ->
      Serves rule (.write bytes :: later) output (operations :: more) output''
  | flush {later : List Request} {output output' output'' : Output} {reply : Reply Unit}
      {happened : List Happening} {more : List (List (List Happening))} :
      persist rule.retries Output.flush (.fresh rule) output = (reply, output', happened) ->
      Serves rule later output' more output'' ->
      Serves rule (.flush :: later) output ([happened] :: more) output''

section Requests

variable {rule : RetryRule} {bytes : List UInt8} {requests : List Request}
  {output output' : Output}

theorem Writing.writes {reply : Reply Unit} {happened : List Happening}
    (h : Writing rule bytes output reply output' happened) :
    exists operations, happened = operations.flatten ∧
      Writes rule bytes output operations output' := by
  induction h with
  | nothing output => exact ⟨[], rfl, .nothing output⟩
  | @took _ _ _ _ _ _ happened _ hbytes hpersist _ ih =>
      rcases ih with ⟨operations, hflatten, hwrites⟩
      exists happened :: operations
      constructor
      · rw [hflatten, List.flatten_cons]
      · exact .took hbytes hpersist hwrites
  | @failed _ _ _ _ happened hbytes hpersist | @panicked _ _ _ happened hbytes hpersist =>
      exact ⟨[happened], List.flatten_singleton.symm, .stopped hbytes hpersist nofun⟩

theorem Writes.operates {operations : List (List Happening)}
    (h : Writes rule bytes output operations output') :
    forall o, o ∈ operations -> Operates rule o := by
  induction h with
  | nothing _ => exact nofun
  | took _ hpersist _ ih => exact List.forall_mem_cons.mpr ⟨.of_write hpersist, ih⟩
  | stopped _ hpersist _ => exact List.forall_mem_cons.mpr ⟨.of_write hpersist, nofun⟩

theorem Serves.operates {operations : List (List (List Happening))}
    (h : Serves rule requests output operations output') :
    forall o, o ∈ operations.flatten -> Operates rule o := by
  induction h with
  | nothing _ => exact nofun
  | write hwrites _ ih =>
      rw [List.flatten_cons]
      exact List.forall_mem_append.mpr ⟨hwrites.operates, ih⟩
  | flush hpersist _ ih =>
      rw [List.flatten_cons]
      exact List.forall_mem_append.mpr ⟨List.forall_mem_cons.mpr ⟨.of_flush hpersist, nofun⟩, ih⟩

theorem serves_serveAll (rule : RetryRule) (output : Output) (requests : List Request) :
    exists operations : List (List (List Happening)),
      (Sink.serveAll { rule, output } requests).2 = operations.flatten.flatten ∧
      Serves rule requests output operations
        (Sink.serveAll { rule, output } requests).1.output := by
  induction requests generalizing output with
  | nil => exact ⟨[], rfl, .nothing output⟩
  | cons request later ih =>
      cases request with
      | write bytes =>
          rcases (Sink.writing_writeBytes rule bytes output).writes with
            ⟨operations, hflatten, hwrites⟩
          rcases ih (Sink.writeBytes rule bytes output).2.1 with ⟨more, hmore, hserves⟩
          exists operations :: more
          constructor
          · rw [List.flatten_cons, List.flatten_append, ← hflatten, ← hmore]
            rfl
          · exact .write hwrites hserves
      | flush =>
          rcases hpersist : persist rule.retries Output.flush (.fresh rule) output with
            ⟨reply, output', happened⟩
          rcases ih output' with ⟨more, hmore, hserves⟩
          have hserve : Sink.serveAll { rule, output } (.flush :: later) =
              ((Sink.serveAll { rule, output := output' } later).1,
                happened ++ (Sink.serveAll { rule, output := output' } later).2) := by
            simp only [Sink.serveAll, Sink.serve, Sink.flush, hpersist]
          exists [happened] :: more
          constructor
          · rw [hserve, hmore, List.flatten_cons, List.flatten_append, List.flatten_singleton]
          · rw [hserve]
            exact .flush hpersist hserves

end Requests

/-- An operation calls until a call does not fail, or until the failed attempts are one more
than the retries, and neither less nor more often; it gives back the outcome of its last call,
and the attempts it reports are numbered one after the other.  Whatever is asked of a sink, all
its calls are those of the operations of each request, and every one of these is complete by its
own errors alone. -/
theorem retries_exact (rule : RetryRule) :
    (forall {σ α : Type} (call : σ -> Reply α × Call × σ) (s : σ),
      let (reply, s', happened) := persist rule.retries call (.fresh rule) s
      let count := (happened.filterMap Happening.call?).length
      (forall n, Complete rule.retries ((replies call n s).map Reply.error?) ↔ n = count) ∧
      (replies call count s).getLast? = some reply ∧ afterCalls call count s = s' ∧
      count ≤ rule.retries.toNat + 17 ∧
      forall i d, (happened.filterMap Happening.report?)[i]? = some d ->
        exists attempt e, d = .retrying attempt e ∧ attempt.toNat = i + 1 ∧
          i + 1 ≤ rule.retries.toNat) ∧
    forall (output : Output) (requests : List Request),
      exists operations : List (List (List Happening)),
        (Sink.serveAll { rule, output } requests).2 = operations.flatten.flatten ∧
        Serves rule requests output operations
          (Sink.serveAll { rule, output } requests).1.output ∧
        forall o, o ∈ operations.flatten -> Operates rule o ∧
          Complete rule.retries ((o.filterMap Happening.call?).map Call.error?) := by
  constructor
  · intro σ α call s
    rcases hpersist : persist rule.retries call (.fresh rule) s with ⟨reply, s', happened⟩
    have hcourse := course_of_persist hpersist
    rcases hcourse.errors (.fresh rule) (Nat.zero_le _) with ⟨errors, hreplies, hstate, _, _⟩
    constructor
    · exact hcourse.complete_iff
    constructor
    · rw [hreplies, List.getLast?_concat]
    constructor
    · exact hstate
    constructor
    · exact hcourse.length_calls_le
    · intro i d hd
      rcases hcourse.reported i d hd with ⟨attempt, e, hreport, hnumber, hbound⟩
      have hfresh : (Effort.fresh rule).attempts.toNat = 0 := rfl
      exists attempt
      exists e
      constructor
      · exact hreport
      · omega
  · intro output requests
    rcases serves_serveAll rule output requests with ⟨operations, hflat, hserves⟩
    exists operations
    constructor
    · exact hflat
    constructor
    · exact hserves
    · intro o ho
      have hoperates := hserves.operates o ho
      exact ⟨hoperates, hoperates.complete⟩

end AsyncLog
