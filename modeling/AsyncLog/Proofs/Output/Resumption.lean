import AsyncLog.Proofs.Output.Operation
/-!
# Writes that are resumed

An entry is written in as many calls as it takes, and each of them offers what the output has not
taken yet.  On an honest output nothing is written twice, nothing is left out, and a write that is
given up has left the front of the entry behind.
-/

namespace AsyncLog

def Output.TakesHonestly (output : Output) : Prop :=
  forall call, (output.script.write call).isHonest = true

/-!
## Single calls
-/

section Call

variable {rest : List UInt8} {output output' : Output} {reply : Reply { n : Nat // 0 < n }}
  {made : Call}

theorem honestWrite_of_write (hhonest : output.TakesHonestly) (hrest : rest ≠ [])
    (h : Output.write rest output = (reply, made, output')) :
    HonestWrite rest reply made.taken := by
  cases h
  exact honestWrite_replyTo hrest (hhonest output.writes)

theorem taken_of_error {e : IoError} (hhonest : output.TakesHonestly) (hrest : rest ≠ [])
    (h : Output.write rest output = (.error e, made, output')) : made.taken = [] := by
  have hwrite := honestWrite_of_write hhonest hrest h
  generalize made.taken = piece at hwrite
  cases hwrite with
  | failed _ => rfl

theorem cause_of_error {response : WriteResponse} {e : IoError}
    (h : Output.replyTo rest response = .error e) :
    response = .fails e ∨ (response.claimed? rest = some 0 ∧ e = .plain .writeZero) := by
  cases response with
  | panics => cases h
  | fails x =>
      cases h
      exact Or.inl rfl
  | all | beyond extra | atMost limit =>
      simp only [Output.replyTo] at h
      split at h
      · cases h
      · rename_i hnone
        cases h
        apply Or.inr
        constructor
        · exact congrArg some (Nat.eq_zero_of_not_pos hnone)
        · rfl

end Call

/-!
## One operation
-/

section Operation

variable {retries : UInt32} {rest : List UInt8} {effort : Effort} {output output' : Output}
  {reply : Reply { n : Nat // 0 < n }} {happened : List Happening}

theorem Output.TakesHonestly.again {e : IoError} {made : Call} (hhonest : output.TakesHonestly)
    (h : Output.write rest output = (.error e, made, output')) : output'.TakesHonestly := by
  rw [output_of_write h]
  exact hhonest

theorem Output.TakesHonestly.after (hhonest : output.TakesHonestly)
    (h : Course retries (Output.write rest) effort output reply output' happened) :
    output'.TakesHonestly := by
  rw [h.outputAfter]
  exact hhonest

theorem Course.offers (h : Course retries (Output.write rest) effort output reply output' happened)
    (hhonest : output.TakesHonestly) (hrest : rest ≠ []) {before after : List Call} {c : Call}
    (hsplit : happened.filterMap Happening.call? = before ++ c :: after) :
    received before = [] ∧ exists response, c = .write rest response := by
  induction h generalizing before with
  | ended hcall _ | givenUp hcall _ =>
      rcases write_of_write hcall with ⟨response, hmade, _⟩
      rcases nil_of_singleton_split hsplit with ⟨rfl, rfl, rfl⟩
      exact ⟨rfl, response, hmade⟩
  | again hcall heffort _ ih =>
      rw [calls_again heffort] at hsplit
      rcases write_of_write hcall with ⟨response, hmade, _⟩
      cases before with
      | nil =>
          cases hsplit
          exact ⟨rfl, response, hmade⟩
      | cons first before =>
          injection hsplit with hfirst hlater
          have hbefore := ih (hhonest.again hcall) hlater
          rw [← hfirst, received_cons, taken_of_error hhonest hrest hcall]
          exact hbefore

theorem Course.last (h : Course retries (Output.write rest) effort output reply output' happened)
    (hhonest : output.TakesHonestly) (hrest : rest ≠ []) :
    exists before response,
      happened.filterMap Happening.call? = before ++ [.write rest response] ∧
      received before = [] ∧ Output.replyTo rest response = reply ∧
      HonestWrite rest reply (received (happened.filterMap Happening.call?)) := by
  induction h with
  | @ended _ _ _ _ made hcall _ | @givenUp _ _ _ _ made hcall _ =>
      rcases write_of_write hcall with ⟨response, hmade, hreply⟩
      have hwrite := honestWrite_of_write hhonest hrest hcall
      exists []
      exists response
      constructor
      · exact congrArg (fun c => [c]) hmade
      constructor
      · rfl
      constructor
      · exact hreply
      · show HonestWrite rest _ (received [made])
        rw [received_cons, received_nil, List.append_nil]
        exact hwrite
  | @again _ _ _ _ _ _ _ made _ _ hcall heffort _ ih =>
      have htaken := taken_of_error hhonest hrest hcall
      rcases ih (hhonest.again hcall) with
        ⟨before, response, hcalls, hnothing, hreply, hwrite⟩
      rw [calls_again heffort, received_cons, htaken]
      exists made :: before
      exists response
      constructor
      · rw [hcalls, List.cons_append]
      constructor
      · rw [received_cons, htaken, hnothing]
        rfl
      · exact ⟨hreply, hwrite⟩

end Operation

/-!
## Whole entries
-/

/-- Each call offers exactly what has not been taken yet. -/
def OffersRest (bytes : List UInt8) (calls : List Call) : Prop :=
  forall before c after, calls = before ++ c :: after ->
    exists rest response, c = .write rest response ∧ received before ++ rest = bytes

/-- How a write on an honest output ends: everything was taken, or the last call failed and
only the front was. -/
inductive WriteEnds (bytes : List UInt8) (calls : List Call) : Reply Unit -> Prop where
  | written : received calls = bytes -> WriteEnds bytes calls (.ok ())
  | failed {e : IoError} {before : List Call} {rest : List UInt8} {response : WriteResponse} :
      calls = before ++ [.write rest response] ->
      (response = .fails e ∨ (response.claimed? rest = some 0 ∧ e = .plain .writeZero)) ->
      received calls <+: bytes -> received calls ≠ bytes -> WriteEnds bytes calls (.error e)

section Write

variable {rule : RetryRule} {bytes : List UInt8} {output output' : Output}
  {happened : List Happening}

/-- What one operation has taken goes in front of what is offered and taken after it. -/
theorem OffersRest.append {first later : List Call} {taken : Nat}
    (hfirst : forall before c after, first = before ++ c :: after ->
      received before = [] ∧ exists response, c = .write bytes response)
    (htaken : received first = bytes.take taken) (h : OffersRest (bytes.drop taken) later) :
    OffersRest bytes (first ++ later) := by
  intro before c after hsplit
  rcases List.append_eq_append_iff.mp hsplit with ⟨more, hbefore, hlater⟩ | ⟨more, hinside, hrest⟩
  · rcases h more c after hlater with ⟨rest, response, hc, hbytes⟩
    exists rest
    exists response
    constructor
    · exact hc
    · rw [hbefore, received_append, htaken, List.append_assoc, hbytes, List.take_append_drop]
  · cases more with
    | nil =>
        -- the call is the first one after the operation
        have hlater : later = [] ++ c :: after := hrest.symm
        rcases h [] c after hlater with ⟨rest, response, hc, hbytes⟩
        rw [List.append_nil] at hinside
        exists rest
        exists response
        constructor
        · exact hc
        · rw [← hinside, htaken]
          rw [received_nil, List.nil_append] at hbytes
          rw [hbytes, List.take_append_drop]
    | cons b more =>
        injection hrest with hb _
        rw [← hb] at hinside
        rcases hfirst before c more hinside with ⟨hnothing, response, hc⟩
        exists bytes
        exists response
        constructor
        · exact hc
        · rw [hnothing, List.nil_append]

theorem WriteEnds.append {reply : Reply Unit} {first later : List Call} {taken : Nat}
    (htaken : received first = bytes.take taken) (h : WriteEnds (bytes.drop taken) later reply) :
    WriteEnds bytes (first ++ later) reply := by
  have hreceived : received (first ++ later) = bytes.take taken ++ received later := by
    rw [received_append, htaken]
  cases h with
  | written hall =>
      apply WriteEnds.written
      rw [hreceived, hall, List.take_append_drop]
  | failed hcalls hcause hfront hless =>
      rename_i before rest response
      apply WriteEnds.failed
      · rw [hcalls, ← List.append_assoc]
      · exact hcause
      · rw [hreceived]
        have hprefix := (List.prefix_append_right_inj (bytes.take taken)).mpr hfront
        rw [List.take_append_drop] at hprefix
        exact hprefix
      · intro hsame
        apply hless
        rw [hreceived] at hsame
        exact List.append_cancel_left (hsame.trans (List.take_append_drop _ _).symm)

theorem Writing.resumes {reply : Reply Unit}
    (h : Writing rule bytes output reply output' happened) (hhonest : output.TakesHonestly) :
    OffersRest bytes (happened.filterMap Happening.call?) ∧
      WriteEnds bytes (happened.filterMap Happening.call?) reply := by
  induction h with
  | nothing output =>
      constructor
      · intro before c after hsplit
        cases before <;> cases hsplit
      · exact .written rfl
  | @took bytes output _ _ taken _ happened later hbytes hpersist _ ih =>
      have hcourse := course_of_persist hpersist
      have hhonest' := hhonest.after hcourse
      rcases hcourse.last hhonest hbytes with ⟨_, _, _, _, _, hwrite⟩
      have htaken : received (happened.filterMap Happening.call?) = bytes.take taken.val := by
        generalize received (happened.filterMap Happening.call?) = piece at hwrite
        cases hwrite with
        | took _ => rfl
      rcases ih hhonest' with ⟨hoffers, hends⟩
      rw [List.filterMap_append]
      constructor
      · apply OffersRest.append _ htaken hoffers
        intro before c after hsplit
        exact hcourse.offers hhonest hbytes hsplit
      · exact hends.append htaken
  | @failed bytes output _ e happened hbytes hpersist =>
      have hcourse := course_of_persist hpersist
      rcases hcourse.last hhonest hbytes with ⟨before, response, hcalls, _, hreply, hwrite⟩
      have hnothing : received (happened.filterMap Happening.call?) = [] := by
        generalize received (happened.filterMap Happening.call?) = piece at hwrite
        cases hwrite with
        | failed _ => rfl
      constructor
      · intro before c after hsplit
        rcases hcourse.offers hhonest hbytes hsplit with ⟨hbefore, response, hc⟩
        exists bytes
        exists response
        constructor
        · exact hc
        · rw [hbefore, List.nil_append]
      · apply WriteEnds.failed hcalls (cause_of_error hreply)
        · rw [hnothing]
          exact List.nil_prefix
        · rw [hnothing]
          exact hbytes.symm
  | @panicked bytes output _ happened hbytes hpersist =>
      have hcourse := course_of_persist hpersist
      rcases hcourse.last hhonest hbytes with ⟨_, _, _, _, _, hwrite⟩
      cases hwrite

end Write

/-- On an honest output each call of a write offers exactly the bytes that were not taken yet.
If the write succeeds all bytes were taken, in order and once; if it fails, a part in front
was taken, and the error is that of the last call, which no other call follows. -/
theorem write_resumes (s : Sink) (bytes : List UInt8) (hhonest : s.output.TakesHonestly) :
    let (reply, s', happened) := s.write bytes
    let calls := happened.filterMap Happening.call?
    OffersRest bytes calls ∧ WriteEnds bytes calls reply ∧
      s'.output = { s.output with writes := s.output.writes + calls.length } := by
  have hwriting := Sink.writing_writeBytes s.rule bytes s.output
  rcases hwriting.resumes hhonest with ⟨hoffers, hends⟩
  exact ⟨hoffers, hends, hwriting.outputAfter⟩

def choking : Script where
  write := fun call =>
    if call = 0 then .atMost 2
    else if call = 1 then .fails (.plain .interrupted)
    else if call = 2 then .fails (.plain .other)
    else if call = 3 then .atMost 1
    else if call = 4 then .fails (.plain .brokenPipe)
    else .atMost 0
  flush := fun _ => .panics

theorem write_resumes_choking :
    let s : Sink := { rule := { retries := 1, backoff := .zero }, output := { script := choking } }
    let ended := s.write [1, 2, 3, 4, 5]
    s.output.TakesHonestly ∧ ended.1 = .error (.plain .writeZero) ∧
      received (ended.2.2.filterMap Happening.call?) = [1, 2, 3] ∧
      OffersRest [1, 2, 3, 4, 5] (ended.2.2.filterMap Happening.call?) ∧
      (ended.2.2.filterMap Happening.call?).length = 6 ∧ ended.2.1.output.writes = 6 := by
  intro s ended
  have hhonest : s.output.TakesHonestly := by
    intro call
    show (choking.write call).isHonest = true
    unfold choking
    dsimp only
    split
    · rfl
    split
    · rfl
    split
    · rfl
    split
    · rfl
    split <;> rfl
  have hresumes := write_resumes s [1, 2, 3, 4, 5] hhonest
  have hlength : (ended.2.2.filterMap Happening.call?).length = 6 := by decide +kernel
  constructor
  · exact hhonest
  constructor
  · decide +kernel
  constructor
  · decide +kernel
  constructor
  · exact hresumes.1
  constructor
  · exact hlength
  · have houtput : ended.2.1.output.writes = (ended.2.2.filterMap Happening.call?).length :=
      (congrArg Output.writes hresumes.2.2).trans (Nat.zero_add _)
    rw [houtput, hlength]

end AsyncLog
