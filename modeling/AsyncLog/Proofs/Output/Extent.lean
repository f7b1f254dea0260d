import Mathlib.Algebra.GroupWithZero.Nat
import AsyncLog.Proofs.Output.Budget
/-!
# The extent of a write

Whatever an output answers, a write comes to an end.  Every operation that succeeds leaves
fewer bytes, and no operation calls more often than its retries allow.  An output may say that it
took more than it was offered; a write that keeps an offset into its bytes still never
slices from beyond their end, because it looks at the offset before each slice.
-/

namespace AsyncLog

/-!
## Claims
-/

def Call.claimed : Call -> Nat
  | .write offered response => (response.claimed? offered).getD 0
  | .flush _ => 0

def claimedIn (calls : List Call) : Nat :=
  (calls.map Call.claimed).sum

theorem claimedIn_append (first second : List Call) :
    claimedIn (first ++ second) = claimedIn first + claimedIn second := by
  rw [claimedIn, List.map_append, List.sum_append, claimedIn, claimedIn]

def Reply.advance : Reply { n : Nat // 0 < n } -> Nat
  | .ok taken => taken.val
  | .error _ | .panic => 0

theorem advance_replyTo (offered : List UInt8) (response : WriteResponse) :
    (Output.replyTo offered response).advance = (response.claimed? offered).getD 0 := by
  cases response with
  | fails x => rfl
  | panics => rfl
  | all | beyond extra | atMost limit =>
      simp only [Output.replyTo]
      split
      · rfl
      · rename_i hnone
        exact (Nat.eq_zero_of_not_pos hnone).symm

section Operation

variable {retries : UInt32} {rest : List UInt8} {effort : Effort} {output output' : Output}
  {reply : Reply { n : Nat // 0 < n }} {happened : List Happening}

theorem claimed_of_write {made : Call} (h : Output.write rest output = (reply, made, output')) :
    made.claimed = reply.advance := by
  rcases write_of_write h with ⟨response, hmade, hreply⟩
  rw [hmade, ← hreply, advance_replyTo]
  rfl

/-- Only the last call of an operation can claim any bytes. -/
theorem Course.claimed
    (h : Course retries (Output.write rest) effort output reply output' happened) :
    claimedIn (happened.filterMap Happening.call?) = reply.advance := by
  induction h with
  | ended hcall _ | givenUp hcall _ =>
      exact (Nat.add_zero _).trans (claimed_of_write hcall)
  | again hcall heffort _ ih =>
      have hnone := claimed_of_write hcall
      rw [calls_again heffort, claimedIn, List.map_cons, List.sum_cons, hnone, ← claimedIn, ih]
      exact Nat.zero_add _

theorem Course.not_panicked
    (h : Course retries (Output.write rest) effort output reply output' happened)
    (hanswers : forall call, output.script.write call ≠ .panics) : reply ≠ .panic := by
  induction h with
  | @ended _ output _ _ _ hcall _ =>
      intro hpanic
      rw [hpanic] at hcall
      exact hanswers output.writes (response_of_panic (congrArg Prod.fst hcall))
  | givenUp _ _ =>
      intro hpanic
      cases hpanic
  | again hcall _ _ ih =>
      apply ih
      rw [output_of_write hcall]
      exact hanswers

end Operation

/-!
## Writes by offset
-/

/-- How a write that keeps an offset into its bytes may break down: it slices from beyond
their end, or the offset is too large for its word. -/
inductive OffsetFault where
  | beyondEnd
  | overflow

def sliceFrom? (bytes : List UInt8) (offset : Nat) : Option (List UInt8) :=
  if offset ≤ bytes.length then some (bytes.drop offset) else none

/-- Write bytes from an offset on, which is kept in a word with a largest value. -/
def Sink.writeFrom (largest : Nat) (rule : RetryRule) (bytes : List UInt8) (offset : Nat)
    (output : Output) : Except OffsetFault (Reply Unit × Output × List Happening) :=
  if _hinside : offset < bytes.length then
    match sliceFrom? bytes offset with
    | none => .error .beyondEnd
    | some rest =>
        match persist rule.retries (Output.write rest) (.fresh rule) output with
        | (.ok taken, output', happened) =>
            if offset + taken.val ≤ largest then
              match writeFrom largest rule bytes (offset + taken.val) output' with
              | .ok (reply, output'', later) => .ok (reply, output'', happened ++ later)
              | .error fault => .error fault
            else .error .overflow
        | (.error e, output', happened) => .ok (.error e, output', happened)
        | (.panic, output', happened) => .ok (.panic, output', happened)
  else .ok (.ok (), output, [])
termination_by bytes.length - offset
decreasing_by
  exact Nat.sub_lt_sub_left _hinside (Nat.lt_add_of_pos_right taken.property)

theorem sliceFrom?_of_lt {bytes : List UInt8} {offset : Nat} (h : offset < bytes.length) :
    sliceFrom? bytes offset = some (bytes.drop offset) :=
  if_pos (Nat.le_of_lt h)

section Write

variable {rule : RetryRule} {bytes : List UInt8} {output output' : Output} {reply : Reply Unit}
  {happened : List Happening}

/-- As long as the offset fits into its word, a write by offset is a write of the bytes left. -/
theorem Writing.writeFrom {rest : List UInt8} (h : Writing rule rest output reply output' happened)
    {offset largest : Nat} (hrest : rest = bytes.drop offset)
    (hfits : offset + claimedIn (happened.filterMap Happening.call?) ≤ largest) :
    Sink.writeFrom largest rule bytes offset output = .ok (reply, output', happened) := by
  induction h generalizing offset with
  | nothing output =>
      have hend : ¬ offset < bytes.length :=
        Nat.not_lt.mpr (List.drop_eq_nil_iff.mp hrest.symm)
      rw [Sink.writeFrom, dif_neg hend]
  | @took _ _ _ _ taken _ _ _ hne hpersist _ ih =>
      rw [hrest] at hne hpersist
      have hinside : offset < bytes.length := Nat.lt_of_not_le fun hend =>
        hne (List.drop_eq_nil_iff.mpr hend)
      have hclaimed := (course_of_persist hpersist).claimed
      rw [List.filterMap_append, claimedIn_append, hclaimed] at hfits
      have hadvance : (Reply.ok taken).advance = taken.val := rfl
      have hlater := ih (by rw [hrest, List.drop_drop]) (by omega)
      rw [Sink.writeFrom, dif_pos hinside, sliceFrom?_of_lt hinside]
      simp only [hpersist, hlater]
      exact if_pos (by omega)
  | failed hne hpersist | panicked hne hpersist =>
      rw [hrest] at hne hpersist
      have hinside : offset < bytes.length := Nat.lt_of_not_le fun hend =>
        hne (List.drop_eq_nil_iff.mpr hend)
      rw [Sink.writeFrom, dif_pos hinside, sliceFrom?_of_lt hinside]
      simp only [hpersist]

/-!
## Every output
-/

theorem Writing.length_calls_le (h : Writing rule bytes output reply output' happened) :
    (happened.filterMap Happening.call?).length ≤ bytes.length * (rule.retries.toNat + 17) := by
  have hsingle {bytes : List UInt8} {count : Nat} (hbytes : bytes ≠ [])
      (hcount : count ≤ rule.retries.toNat + 17) :
      count ≤ bytes.length * (rule.retries.toNat + 17) :=
    Nat.le_trans hcount (Nat.le_mul_of_pos_left _ (List.length_pos_iff.mpr hbytes))
  induction h with
  | nothing output => exact Nat.zero_le _
  | @took bytes _ _ _ taken _ _ _ hbytes hpersist _ ih =>
      have hcount := (course_of_persist hpersist).length_calls_le
      have hshorter : bytes.length - taken.val + 1 ≤ bytes.length := by
        have hpositive := taken.property
        have hlength := List.length_pos_iff.mpr hbytes
        omega
      rw [List.length_drop] at ih
      rw [List.filterMap_append, List.length_append]
      calc _ ≤ (rule.retries.toNat + 17) +
            (bytes.length - taken.val) * (rule.retries.toNat + 17) := Nat.add_le_add hcount ih
        _ = (bytes.length - taken.val + 1) * (rule.retries.toNat + 17) := by
            rw [Nat.add_mul, Nat.one_mul, Nat.add_comm]
        _ ≤ bytes.length * (rule.retries.toNat + 17) := Nat.mul_le_mul_right _ hshorter
  | failed hbytes hpersist | panicked hbytes hpersist =>
      exact hsingle hbytes (course_of_persist hpersist).length_calls_le

theorem Writing.offers (h : Writing rule bytes output reply output' happened) :
    forall c, c ∈ happened.filterMap Happening.call? ->
      exists offered response, c = .write offered response ∧ offered ≠ [] ∧ offered <:+ bytes := by
  have hoperation {bytes : List UInt8} {output output' : Output}
      {reply : Reply { n : Nat // 0 < n }} {happened : List Happening} (hbytes : bytes ≠ [])
      (hpersist : persist rule.retries (Output.write bytes) (.fresh rule) output =
        (reply, output', happened)) :
      forall c, c ∈ happened.filterMap Happening.call? ->
        exists offered response, c = .write offered response ∧ offered ≠ [] ∧
          offered <:+ bytes :=
    ((course_of_persist hpersist).calls _ fun _ =>
      ⟨bytes, _, rfl, hbytes, List.suffix_refl bytes⟩).2
  induction h with
  | nothing output =>
      intro c hc
      cases hc
  | @took bytes _ _ _ taken _ _ _ hbytes hpersist _ ih =>
      intro c hc
      rw [List.filterMap_append] at hc
      cases List.mem_append.mp hc with
      | inl hfirst => exact hoperation hbytes hpersist c hfirst
      | inr hlater =>
          rcases ih c hlater with ⟨offered, response, hcall, hsome, hsuffix⟩
          exists offered
          exists response
          constructor
          · exact hcall
          constructor
          · exact hsome
          · exact hsuffix.trans (List.drop_suffix taken.val bytes)
  | failed hbytes hpersist | panicked hbytes hpersist => exact hoperation hbytes hpersist

theorem Writing.not_panicked (h : Writing rule bytes output reply output' happened)
    (hanswers : forall call, output.script.write call ≠ .panics) : reply ≠ .panic := by
  induction h with
  | nothing output =>
      intro hpanic
      cases hpanic
  | took _ hpersist _ ih =>
      apply ih
      rw [(course_of_persist hpersist).outputAfter]
      exact hanswers
  | failed _ _ =>
      intro hpanic
      cases hpanic
  | panicked _ hpersist =>
      exact absurd rfl ((course_of_persist hpersist).not_panicked hanswers)

end Write

/-- Whatever the output answers, a write ends within as many calls as its bytes have operations
with all their retries.  It does the same as a write that keeps an offset into the bytes, which
never slices from beyond their end as long as the offset fits into its word.  Each call offers
some bytes, and nothing is called for if there are none; and only a panic of the output ends
a write with a panic. -/
theorem write_bounded (s : Sink) (bytes : List UInt8) (largest : Nat)
    (hfits : claimedIn ((s.write bytes).2.2.filterMap Happening.call?) ≤ largest) :
    let (reply, s', happened) := s.write bytes
    let calls := happened.filterMap Happening.call?
    Sink.writeFrom largest s.rule bytes 0 s.output = .ok (reply, s'.output, happened) ∧
    calls.length ≤ bytes.length * (s.rule.retries.toNat + 17) ∧
    (forall c, c ∈ calls -> exists offered response, c = .write offered response ∧
      offered ≠ [] ∧ offered <:+ bytes) ∧
    (bytes = [] -> calls = [] ∧ reply = .ok ()) ∧
    ((forall call, s.output.script.write call ≠ .panics) -> reply ≠ .panic) := by
  have hwriting := Sink.writing_writeBytes s.rule bytes s.output
  constructor
  · apply hwriting.writeFrom List.drop_zero.symm
    rw [Nat.zero_add]
    exact hfits
  constructor
  · exact hwriting.length_calls_le
  constructor
  · exact hwriting.offers
  constructor
  · intro hbytes
    show (Sink.writeBytes s.rule bytes s.output).2.2.filterMap Happening.call? = [] ∧
      (Sink.writeBytes s.rule bytes s.output).1 = .ok ()
    rw [hbytes, Sink.writeBytes_nil]
    exact ⟨rfl, rfl⟩
  · exact hwriting.not_panicked

def boasting : Script where
  write := fun call =>
    if call = 0 then .atMost 2
    else if call = 1 then .fails (.plain .interrupted)
    else .beyond 100
  flush := fun _ => .done

theorem write_bounded_boasting :
    let s : Sink := { rule := Config.default.retryRule, output := { script := boasting } }
    let ended := s.write [1, 2, 3, 4, 5]
    let calls := ended.2.2.filterMap Happening.call?
    claimedIn calls = 105 ∧ 105 ≤ UInt64.size - 1 ∧
      Sink.writeFrom (UInt64.size - 1) s.rule [1, 2, 3, 4, 5] 0 s.output =
        .ok (.ok (), ended.2.1.output, ended.2.2) ∧
      calls.length = 3 ∧ calls.length ≤ 5 * (3 + 17) := by
  intro s ended calls
  have hclaimed : claimedIn calls = 105 := by decide +kernel
  have hword : 105 ≤ UInt64.size - 1 := by decide
  have hbounded := write_bounded s [1, 2, 3, 4, 5] (UInt64.size - 1)
    (Nat.le_trans (Nat.le_of_eq hclaimed) hword)
  have hreply : ended.1 = .ok () := by decide +kernel
  constructor
  · exact hclaimed
  constructor
  · exact hword
  constructor
  · rw [← hreply]
    exact hbounded.1
  constructor
  · decide +kernel
  · exact hbounded.2.1

end AsyncLog
