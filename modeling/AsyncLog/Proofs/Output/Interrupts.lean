import AsyncLog.Proofs.Output.Budget
/-!
# Interrupts that count

An interrupt counts as a failed attempt once sixteen interrupts have come before it in the same
operation, whatever has come in between.  It makes no difference that only interrupts in an
unbroken row should count when the interrupts of the operation do come in one row, or are
no more than sixteen.
-/

namespace AsyncLog

/-!
## Elements in one row
-/

section Rows

variable {p : α -> Bool} {l : List α} {n : Nat}

def InOneRow (p : α -> Bool) (l : List α) : Prop :=
  exists front row back, l = front ++ row ++ back ∧ (forall a, a ∈ row -> p a = true) ∧
    forall a, a ∈ front ++ back -> p a = false

def EndsInRow (p : α -> Bool) (n : Nat) (l : List α) : Prop :=
  exists earlier row, l = earlier ++ row ∧ row.length = n ∧ forall a, a ∈ row -> p a = true

/-- An element that satisfies a test, with at least so many others before it, has so many
others right before it. -/
def Rowed (p : α -> Bool) (n : Nat) (l : List α) : Prop :=
  forall before a after, l = before ++ a :: after -> p a = true -> n ≤ before.countP p ->
    EndsInRow p n before

theorem endsInRow_append {row : List α} (earlier : List α)
    (hrow : forall a, a ∈ row -> p a = true) (hlong : n ≤ row.length) :
    EndsInRow p n (earlier ++ row) := by
  exists earlier ++ row.take (row.length - n)
  exists row.drop (row.length - n)
  constructor
  · rw [List.append_assoc, List.take_append_drop]
  constructor
  · rw [List.length_drop]
    omega
  · intro a ha
    exact hrow a (List.mem_of_mem_drop ha)

theorem exists_split_of_lt_countP (h : n < l.countP p) :
    exists before a after, l = before ++ a :: after ∧ p a = true ∧ before.countP p = n := by
  induction l generalizing n with
  | nil => cases h
  | cons b l ih =>
      cases hb : p b with
      | false =>
          rw [List.countP_cons_of_neg (by rw [hb]; exact Bool.false_ne_true)] at h
          rcases ih h with ⟨before, a, after, hl, ha, hcount⟩
          exists b :: before
          exists a
          exists after
          constructor
          · rw [hl, List.cons_append]
          constructor
          · exact ha
          · rw [List.countP_cons_of_neg (by rw [hb]; exact Bool.false_ne_true), hcount]
      | true =>
          rw [List.countP_cons_of_pos hb] at h
          cases n with
          | zero => exact ⟨[], b, l, rfl, hb, rfl⟩
          | succ n =>
              rcases ih (Nat.lt_of_succ_lt_succ h) with ⟨before, a, after, hl, ha, hcount⟩
              exists b :: before
              exists a
              exists after
              constructor
              · rw [hl, List.cons_append]
              constructor
              · exact ha
              · rw [List.countP_cons_of_pos hb, hcount]

theorem not_endsInRow_concat {before : List α} {a : α} (hn : 0 < n) (ha : p a = false) :
    ¬ EndsInRow p n (before ++ [a]) := by
  intro h
  rcases h with ⟨earlier, row, hsplit, hlength, hrow⟩
  rcases List.eq_nil_or_concat row with hnil | ⟨front, last, hlast⟩
  · rw [hnil] at hlength
    exact absurd hlength (Nat.ne_of_lt hn)
  · rw [List.concat_eq_append] at hlast
    rw [hlast, ← List.append_assoc] at hsplit
    have hsame : a = last := (List.append_singleton_inj.mp hsplit).2
    have hp := hrow last (by rw [hlast]; simp)
    rw [← hsame, ha] at hp
    cases hp

theorem Rowed.none_after (hn : 0 < n) (h : Rowed p n l) {before rest : List α} {a : α}
    (hl : l = before ++ [a] ++ rest) (ha : p a = false) (hcount : n ≤ before.countP p) :
    forall b, b ∈ rest -> p b = false := by
  induction rest generalizing before a with
  | nil =>
      intro b hb
      cases hb
  | cons c rest ih =>
      have hcount' : n ≤ (before ++ [a]).countP p := by
        rw [List.countP_append]
        exact Nat.le_add_right_of_le hcount
      have hc : p c = false := by
        cases hp : p c with
        | false => rfl
        | true => exact absurd (h _ c rest hl hp hcount') (not_endsInRow_concat hn ha)
      have hl' : l = before ++ [a] ++ [c] ++ rest := by
        rw [hl]
        simp
      have hrest := ih hl' hc hcount'
      intro b hb
      cases hb with
      | head => exact hc
      | tail _ hlater => exact hrest b hlater

theorem Rowed.inOneRow (hn : 0 < n) (h : Rowed p n l) {front row rest : List α}
    (hl : l = front ++ row ++ rest) (hfront : forall a, a ∈ front -> p a = false)
    (hrow : forall a, a ∈ row -> p a = true) (hlong : n ≤ row.length) : InOneRow p l := by
  induction rest generalizing row with
  | nil =>
      exists front
      exists row
      exists []
      constructor
      · exact hl
      constructor
      · exact hrow
      · rw [List.append_nil]
        exact hfront
  | cons c rest ih =>
      cases hc : p c with
      | true =>
          have hl' : l = front ++ (row ++ [c]) ++ rest := by
            rw [hl]
            simp
          apply ih hl'
          · intro a ha
            cases List.mem_append.mp ha with
            | inl hold => exact hrow a hold
            | inr hnew =>
                rw [List.mem_singleton.mp hnew]
                exact hc
          · rw [List.length_append]
            exact Nat.le_add_right_of_le hlong
      | false =>
          have hcount : n ≤ (front ++ row).countP p := by
            rw [List.countP_append, List.countP_eq_length.mpr hrow]
            exact Nat.le_add_left_of_le hlong
          have hl' : l = front ++ row ++ [c] ++ rest := by
            rw [hl]
            simp
          have hrest := h.none_after hn hl' hc hcount
          exists front
          exists row
          exists c :: rest
          constructor
          · exact hl
          constructor
          · exact hrow
          · intro a ha
            cases List.mem_append.mp ha with
            | inl hold => exact hfront a hold
            | inr hnew =>
                cases hnew with
                | head => exact hc
                | tail _ hlater => exact hrest a hlater

theorem InOneRow.rowed (hn : 0 < n) (h : InOneRow p l) : Rowed p n l := by
  rcases h with ⟨front, row, back, hl, hrow, hothers⟩
  intro before a after hsplit ha hcount
  have hnone (earlier : List α) (hsub : forall b, b ∈ earlier -> b ∈ front) :
      earlier.countP p = 0 := by
    apply List.countP_eq_zero.mpr
    intro b hb
    rw [hothers b (List.mem_append_left _ (hsub b hb))]
    exact Bool.false_ne_true
  rw [hl, List.append_assoc] at hsplit
  rcases List.append_eq_append_iff.mp hsplit with ⟨part, hbefore, hrest⟩ | ⟨part, hfront, _⟩
  · rcases List.append_eq_append_iff.mp hrest with ⟨tail, hpart, hback⟩ | ⟨tail, hrow', _⟩
    · -- the element would come after the row
      exfalso
      have hmem : a ∈ front ++ back := by
        apply List.mem_append_right
        rw [hback]
        simp
      rw [hothers a hmem] at ha
      cases ha
    · have hpartRow : forall b, b ∈ part -> p b = true := by
        intro b hb
        apply hrow
        rw [hrow']
        exact List.mem_append_left _ hb
      rw [hbefore, List.countP_append, hnone front (fun _ hb => hb),
        List.countP_eq_length.mpr hpartRow, Nat.zero_add] at hcount
      rw [hbefore]
      exact endsInRow_append front hpartRow hcount
  · -- the element would come before the row
    exfalso
    have hzero := hnone before fun b hb => by
      rw [hfront]
      exact List.mem_append_left _ hb
    omega

theorem rowed_iff (hn : 0 < n) : Rowed p n l ↔ l.countP p ≤ n ∨ InOneRow p l := by
  constructor
  · intro h
    by_cases hcount : l.countP p ≤ n
    · exact Or.inl hcount
    · rcases exists_split_of_lt_countP (Nat.lt_of_not_le hcount) with
        ⟨before, a, after, hl, ha, hbefore⟩
      rcases h before a after hl ha (Nat.le_of_eq hbefore.symm) with
        ⟨earlier, row, hsplit, hlength, hrow⟩
      have hearlier : earlier.countP p = 0 := by
        rw [hsplit, List.countP_append, List.countP_eq_length.mpr hrow, hlength] at hbefore
        omega
      have hl' : l = earlier ++ row ++ a :: after := by rw [hl, hsplit]
      apply Or.inr
      apply h.inOneRow hn hl'
      · intro b hb
        exact Bool.eq_false_iff.mpr (List.countP_eq_zero.mp hearlier b hb)
      · exact hrow
      · exact Nat.le_of_eq hlength.symm
  · intro h
    cases h with
    | inr hrow => exact hrow.rowed hn
    | inl hfew =>
        intro before a after hl ha hcount
        exfalso
        rw [hl, List.countP_append, List.countP_cons_of_pos ha] at hfew
        omega

end Rows

/-!
## Calls that count
-/

def Call.isInterrupted (c : Call) : Bool :=
  c.error?.any IoError.isInterrupted

/-- A failed call counts as an attempt: with it the operation ends, or it pauses after it. -/
def IsCounted (after : List Happening) : Prop :=
  after = [] ∨ exists attempt e pause later,
    after = .reported (.retrying attempt e) :: .paused pause :: later

/-- A failed call is free: another one follows at once. -/
def IsFree (after : List Happening) : Prop :=
  exists call later, after = .called call :: later

/-- So many interrupts decide what follows an interrupted call. -/
def DecidedBy (interrupts : Nat) (after : List Happening) : Prop :=
  (IsCounted after ↔ 16 ≤ interrupts) ∧ (IsFree after ↔ interrupts < 16)

theorem not_isCounted_of_isFree {after : List Happening} (h : IsFree after) :
    ¬ IsCounted after := by
  rcases h with ⟨call, later, hcall⟩
  rw [hcall]
  intro hcounted
  cases hcounted with
  | inl hnil => cases hnil
  | inr hpause =>
      rcases hpause with ⟨_, _, _, _, hsplit⟩
      cases hsplit

theorem decidedBy_of_isCounted {interrupts : Nat} {after : List Happening}
    (h : IsCounted after) (hmany : 16 ≤ interrupts) : DecidedBy interrupts after := by
  constructor
  · exact iff_of_true h hmany
  · exact iff_of_false (fun hfree => not_isCounted_of_isFree hfree h) (Nat.not_lt.mpr hmany)

theorem decidedBy_of_isFree {interrupts : Nat} {after : List Happening}
    (h : IsFree after) (hfew : interrupts < 16) : DecidedBy interrupts after := by
  constructor
  · exact iff_of_false (not_isCounted_of_isFree h) (Nat.not_le.mpr hfew)
  · exact iff_of_true h hfew

theorem Course.isFree {retries : UInt32} {call : σ -> Reply α × Call × σ} {effort : Effort}
    {s s' : σ} {reply : Reply α} {happened : List Happening}
    (h : Course retries call effort s reply s' happened) : IsFree happened := by
  cases h with
  | ended _ _ | givenUp _ _ => exact ⟨_, _, rfl⟩
  | again _ _ _ => exact ⟨_, _, rfl⟩

theorem Recorded.isInterrupted {call : Output -> Reply α × Call × Output}
    {output output' : Output} {reply : Reply α} {made : Call} (hrecorded : Recorded call)
    (hcall : call output = (reply, made, output')) :
    made.isInterrupted = reply.error?.any IoError.isInterrupted := by
  have herror := hrecorded output
  rw [hcall] at herror
  exact congrArg (fun e => e.any IoError.isInterrupted) herror

theorem later_of_split {retries : UInt32} {f f' : Effort} {e : IoError}
    {between later before after : List Happening} {c : Call}
    (h : f.afterError retries e = some (f', between))
    (hsplit : between ++ later = before ++ .called c :: after) :
    exists before', later = before' ++ .called c :: after ∧
      before'.filterMap Happening.call? = before.filterMap Happening.call? := by
  cases Effort.consequence_of_afterError h with
  | atOnce _ _ => exact ⟨before, hsplit, rfl⟩
  | paused _ _ =>
      cases before with
      | nil => cases hsplit
      | cons _ before =>
          cases before with
          | nil => cases hsplit
          | cons _ before =>
              cases hsplit
              exact ⟨before, rfl, rfl⟩

/-- What follows an interrupted call is decided by the number of interrupts before it, those
of the effort so far included. -/
theorem Course.decided {retries : UInt32} {call : Output -> Reply α × Call × Output}
    {effort : Effort} {output output' : Output} {reply : Reply α} {happened : List Happening}
    {errors : List IoError} (h : Course retries call effort output reply output' happened)
    (hrecorded : Recorded call) (hcounts : effort.Counts errors)
    (hwithin : attemptsIn errors ≤ retries.toNat) {before after : List Happening} {c : Call}
    (hsplit : happened = before ++ .called c :: after) (hc : c.isInterrupted = true) :
    DecidedBy (errors.countP IoError.isInterrupted +
      (before.filterMap Happening.call?).countP Call.isInterrupted) after := by
  induction h generalizing errors before with
  | ended hcall hreply =>
      rcases nil_of_singleton_split hsplit with ⟨rfl, hmade, rfl⟩
      cases hmade
      rw [hrecorded.isInterrupted hcall, hreply] at hc
      cases hc
  | givenUp hcall heffort =>
      rcases nil_of_singleton_split hsplit with ⟨rfl, hmade, rfl⟩
      cases hmade
      rw [hrecorded.isInterrupted hcall] at hc
      cases Effort.consequence_of_afterError heffort with
      | givenUp hallowance _ =>
          exact decidedBy_of_isCounted (Or.inl rfl) (hcounts.counted_iff.mp (hallowance hc))
  | @again f _ _ _ _ _ e made between later hcall heffort hcourse ih =>
      have hmade := hrecorded.isInterrupted hcall
      rcases hcounts.again hwithin heffort with ⟨hcounts', hwithin'⟩
      cases before with
      | nil =>
          cases hsplit
          rw [hmade] at hc
          cases Effort.consequence_of_afterError heffort with
          | atOnce _ hfree => exact decidedBy_of_isFree hcourse.isFree (hcounts.free_iff.mp hfree)
          | paused hallowance _ =>
              exact decidedBy_of_isCounted (Or.inr ⟨_, _, _, _, rfl⟩)
                (hcounts.counted_iff.mp (hallowance hc))
      | cons first before =>
          rw [List.cons_append, List.cons_append] at hsplit
          injection hsplit with hfirst hrest
          rcases later_of_split heffort hrest with ⟨before', hlater, hcalls⟩
          have hdecided := ih hcounts' hwithin' hlater
          have hcount : errors.countP IoError.isInterrupted +
              ((.called made :: before).filterMap Happening.call?).countP Call.isInterrupted =
              (errors ++ [e]).countP IoError.isInterrupted +
                (before'.filterMap Happening.call?).countP Call.isInterrupted := by
            have herror : made.isInterrupted = e.isInterrupted := hmade
            rw [hcalls, List.countP_append, List.countP_singleton]
            show _ + (made :: before.filterMap Happening.call?).countP Call.isInterrupted = _
            rw [List.countP_cons, herror]
            omega
          rw [← hfirst, hcount]
          exact hdecided

/-!
## Operations
-/

/-- An interrupt counts only if sixteen interrupts have come right before it. -/
def OnlyRowsCount (happened : List Happening) : Prop :=
  forall before c after, happened = before ++ .called c :: after -> c.isInterrupted = true ->
    IsCounted after -> EndsInRow Call.isInterrupted 16 (before.filterMap Happening.call?)

theorem Operates.decided {rule : RetryRule} {happened before after : List Happening} {c : Call}
    (h : Operates rule happened) (hsplit : happened = before ++ .called c :: after)
    (hc : c.isInterrupted = true) :
    DecidedBy ((before.filterMap Happening.call?).countP Call.isInterrupted) after := by
  apply Operates.induction (P := fun happened => happened = before ++ .called c :: after ->
    DecidedBy ((before.filterMap Happening.call?).countP Call.isInterrupted) after) _ h hsplit
  intro α call output output' reply happened hrecorded hcourse hsplit
  have hdecided := hcourse.decided hrecorded (.fresh rule) (Nat.zero_le _) hsplit hc
  rw [List.countP_nil, Nat.zero_add] at hdecided
  exact hdecided

theorem split_of_calls {happened : List Happening} {before after : List Call} {c : Call}
    (h : happened.filterMap Happening.call? = before ++ c :: after) :
    exists earlier later, happened = earlier ++ .called c :: later ∧
      earlier.filterMap Happening.call? = before := by
  rcases List.filterMap_eq_append_iff.mp h with ⟨first, second, hhappened, hbefore, hsecond⟩
  rcases List.filterMap_eq_cons_iff.mp hsecond with ⟨silent, x, later, hsplit, hsilent, hx, _⟩
  have hcalled : x = .called c := by
    cases x with
    | called call => exact congrArg Happening.called (Option.some.inj hx)
    | reported d => cases hx
    | paused d => cases hx
  exists first ++ silent
  exists later
  constructor
  · rw [hhappened, hsplit, hcalled, List.append_assoc]
  · rw [List.filterMap_append, hbefore, List.filterMap_eq_nil_iff.mpr hsilent, List.append_nil]

theorem Operates.rowed_iff {rule : RetryRule} {happened : List Happening}
    (h : Operates rule happened) :
    OnlyRowsCount happened ↔
      Rowed Call.isInterrupted 16 (happened.filterMap Happening.call?) := by
  constructor
  · intro honly before c after hcalls hc hmany
    rcases split_of_calls hcalls with ⟨earlier, later, hsplit, hearlier⟩
    rw [← hearlier] at hmany ⊢
    exact honly earlier c later hsplit hc ((h.decided hsplit hc).1.mpr hmany)
  · intro hrowed before c after hsplit hc hcounted
    have hcalls : happened.filterMap Happening.call? =
        before.filterMap Happening.call? ++ c :: after.filterMap Happening.call? := by
      rw [hsplit, List.filterMap_append]
      rfl
    exact hrowed _ c _ hcalls hc ((h.decided hsplit hc).1.mp hcounted)

/-- An interrupt counts as a failed attempt exactly if sixteen interrupts came before it in the
same operation, in a row or not, and otherwise the call is repeated at once.  Only interrupts
in an unbroken row count exactly if the operation has no more than sixteen of them, or all of
them come in one row. -/
theorem interrupts_counted_iff {rule : RetryRule} {happened : List Happening}
    (h : Operates rule happened) :
    (forall before c after, happened = before ++ .called c :: after -> c.isInterrupted = true ->
      DecidedBy ((before.filterMap Happening.call?).countP Call.isInterrupted) after) ∧
    (OnlyRowsCount happened ↔
      (happened.filterMap Happening.call?).countP Call.isInterrupted ≤ 16 ∨
        InOneRow Call.isInterrupted (happened.filterMap Happening.call?)) := by
  constructor
  · intro before c after hsplit hc
    exact h.decided hsplit hc
  · rw [h.rowed_iff]
    exact rowed_iff (Nat.zero_lt_succ _)

/-- An output that is interrupted sixteen times, fails in another way, and is interrupted once
more before it takes anything. -/
def stuttering : Script where
  write := fun call =>
    if call = 16 then .fails (.plain .other)
    else if call < 18 then .fails (.plain .interrupted)
    else .all
  flush := fun _ => .done

def oneRetry : RetryRule where
  retries := 1
  backoff := .zero

/-- A byte is offered to this output with one retry, which the other error uses up.  The interrupt
right after it ends the operation. -/
theorem interrupt_counted_alone :
    let ended := persist oneRetry.retries (Output.write [97]) (.fresh oneRetry)
      { script := stuttering }
    Operates oneRetry ended.2.2 ∧ ended.1 = .error (.plain .interrupted) ∧
      ¬ OnlyRowsCount ended.2.2 := by
  intro ended
  have hsplit : ended.2.2 = ended.2.2.dropLast ++
      .called (.write [97] (.fails (.plain .interrupted))) :: [] := by decide +kernel
  have hcalls : ended.2.2.dropLast.filterMap Happening.call? =
      List.replicate 16 (.write [97] (.fails (.plain .interrupted))) ++
        [.write [97] (.fails (.plain .other))] := by decide +kernel
  constructor
  · exact .write [97] { script := stuttering }
  constructor
  · decide +kernel
  · intro honly
    have hrow := honly _ _ _ hsplit rfl (Or.inl rfl)
    rw [hcalls] at hrow
    exact not_endsInRow_concat (Nat.zero_lt_succ _) rfl hrow

def restless : Script where
  write := fun call =>
    if call = 0 then .fails (.plain .other)
    else if call < 21 then .fails (.plain .interrupted)
    else .all
  flush := fun _ => .done

theorem interrupts_counted_iff_restless :
    let rule := Config.default.retryRule
    let patient := { rule with retries := 5 }
    let ended := persist patient.retries (Output.write [97]) (.fresh patient)
      { script := restless }
    Operates patient ended.2.2 ∧
      (ended.2.2.filterMap Happening.call?).countP Call.isInterrupted = 20 ∧
      (ended.2.2.filterMap Happening.report?).length = 5 ∧ OnlyRowsCount ended.2.2 := by
  intro rule patient ended
  have hoperates : Operates patient ended.2.2 := .write [97] { script := restless }
  have hcalls : ended.2.2.filterMap Happening.call? =
      [.write [97] (.fails (.plain .other))] ++
        List.replicate 20 (.write [97] (.fails (.plain .interrupted))) ++
        [.write [97] .all] := by decide +kernel
  have hrow : InOneRow Call.isInterrupted (ended.2.2.filterMap Happening.call?) :=
    ⟨_, _, _, hcalls, by decide, by decide⟩
  constructor
  · exact hoperates
  constructor
  · decide +kernel
  constructor
  · decide +kernel
  · exact (interrupts_counted_iff hoperates).2.mpr (Or.inr hrow)

end AsyncLog
