import AsyncLog.Proofs.Writer.Remarks
/-!
# A run as a row of operations

Whatever happens at the output in a run belongs to an operation, a piece of an entry or a
flush, or it is a report by itself.  An operation is not interrupted by anything else, because
only one thread moves entries and it reports nothing else before the operation is over.
-/

namespace AsyncLog

/-!
## An operation that is not over
-/

def Underway (rule : RetryRule) (call : Output -> Reply α × Call × Output) (effort : Effort)
    (output : Output) (happened : List Happening) : Prop :=
  exists first, (persist rule.retries call (.fresh rule) first).2.2 =
    happened ++ (persist rule.retries call effort output).2.2

def Effort.EndsWith (retries : UInt32) (f : Effort) (reply : Reply α) : Prop :=
  forall e, reply = .error e -> f.afterError retries e = none

section Effort

variable {retries : UInt32} {effort effort' : Effort} {e : IoError} {between : List Happening}

theorem Effort.endsWith_of_no_error {reply : Reply α} (h : reply.error? = none) :
    effort.EndsWith retries reply := by
  intro e herror
  rw [herror] at h
  cases h

theorem Effort.endsWith_of_givenUp (h : effort.afterError retries e = none) :
    effort.EndsWith retries (.error e : Reply α) := by
  intro e' herror
  cases herror
  exact h

theorem Effort.EndsWith.silent {reply : Reply α} (h : effort.EndsWith retries reply) :
    effort.between retries reply = [] := by
  cases reply with
  | error e => rw [Effort.between, h e rfl, Option.map_none, Option.getD_none]
  | ok _ | panic => rfl

theorem Effort.between_of_again (h : effort.afterError retries e = some (effort', between)) :
    effort.between retries (.error e : Reply α) = between := by
  rw [Effort.between, h, Option.map_some, Option.getD_some]

end Effort

namespace Underway

variable {rule : RetryRule} {call : Output -> Reply α × Call × Output} {effort effort' : Effort}
  {output output' : Output} {reply : Reply α} {made : Call} {e : IoError}
  {happened between : List Happening}

theorem fresh (rule : RetryRule) (call : Output -> Reply α × Call × Output) (output : Output) :
    Underway rule call (.fresh rule) output [] :=
  ⟨output, rfl⟩

theorem ended (h : Underway rule call effort output happened)
    (hcall : call output = (reply, made, output')) (hlast : effort.EndsWith rule.retries reply) :
    exists first, (persist rule.retries call (.fresh rule) first).2.2 =
      happened ++ [.called made] := by
  rcases h with ⟨first, hwhole⟩
  exists first
  rw [hwhole]
  cases reply with
  | ok a => rw [persist_of_ok hcall]
  | panic => rw [persist_of_panic hcall]
  | error e => rw [persist_of_givenUp hcall (hlast e rfl)]

theorem again (h : Underway rule call effort output happened)
    (hcall : call output = (.error e, made, output'))
    (heffort : effort.afterError rule.retries e = some (effort', between)) :
    Underway rule call effort' output' (happened ++ .called made :: between) := by
  rcases h with ⟨first, hwhole⟩
  exists first
  rw [hwhole, persist_of_repeated hcall heffort, List.append_assoc]

end Underway

/-- The part of an operation that a thread has behind it at a stage. -/
def Stage.Performs (rule : RetryRule) (output : Output) (happened : List Happening) :
    Stage -> Prop
  | .writing _ rest effort _ => Underway rule (Output.write rest) effort output happened
  | .flushing effort => Underway rule Output.flush effort output happened
  | _ => happened = []

namespace Stage

variable {rule : RetryRule} {output : Output} {happened : List Happening} {stage : Stage}

theorem performs_of_silent (hsilent : stage.callsNext = false) :
    stage.Performs rule output happened ↔ happened = [] := by
  cases stage with
  | writing _ _ _ _ | flushing _ => cases hsilent
  | _ => exact Iff.rfl

theorem Performs.extends (h : stage.Performs rule output happened) :
    exists o, Operates rule o ∧ happened <+: o := by
  cases stage with
  | writing e rest effort left =>
      rcases h with ⟨first, hwhole⟩
      exact ⟨_, .write rest first, hwhole ▸ List.prefix_append _ _⟩
  | flushing effort =>
      rcases h with ⟨first, hwhole⟩
      exact ⟨_, .flush first, hwhole ▸ List.prefix_append _ _⟩
  | _ =>
      rw [show happened = [] from h]
      exact ⟨_, .flush output, List.nil_prefix⟩

end Stage

namespace Writer

variable {w w' : Writer}

/-!
## Runs
-/

def IsRemark (happened : List Happening) : Prop :=
  exists d, happened = [.reported d] ∧ d.attempt? = none

/-- What happened in a run falls into whole operations and remarks, up to the operation that a
thread is at. -/
def Divided (w : Writer) (stage : Stage) : Prop :=
  exists (parts : List (List Happening)) (current : List Happening),
    w.happenings = parts.flatten ++ current ∧
    (forall part, part ∈ parts -> Operates w.config.retryRule part ∨ IsRemark part) ∧
    stage.Performs w.config.retryRule w.output current

namespace Divided

variable {stage : Stage}

theorem start (config : Config) (script : Script) (producers : Nat) :
    Divided (start config script producers) .done := by
  exists [], []
  exact ⟨rfl, nofun, rfl⟩

section Call

variable {call : Output -> Reply α × Call × Output} {effort effort' : Effort} {reply : Reply α}
  {made : Call} {e : IoError} {output : Output} {parts : List (List Happening)}
  {current between : List Happening}

theorem ended (hconfig : w'.config = w.config)
    (hhappened : w'.happenings = parts.flatten ++
      (current ++ .called made :: effort.between w.config.retryRule.retries reply))
    (hparts : forall part, part ∈ parts -> Operates w.config.retryRule part ∨ IsRemark part)
    (hoperates : forall first, Operates w.config.retryRule
      (persist w.config.retryRule.retries call (.fresh w.config.retryRule) first).2.2)
    (hcurrent : Underway w.config.retryRule call effort w.output current)
    (hcall : call w.output = (reply, made, output))
    (hlast : effort.EndsWith w.config.retryRule.retries reply)
    (hstage : stage.Performs w.config.retryRule w'.output []) : Divided w' stage := by
  rcases hcurrent.ended hcall hlast with ⟨first, hwhole⟩
  exists parts ++ [current ++ [.called made]], []
  constructor
  · rw [hhappened, hlast.silent, List.flatten_append, List.flatten_singleton, List.append_nil]
  constructor
  · intro part hpart
    rw [hconfig]
    rcases List.mem_append.mp hpart with hpart | hpart
    · exact hparts part hpart
    · rw [List.mem_singleton.mp hpart, ← hwhole]
      exact Or.inl (hoperates first)
  · rw [hconfig]
    exact hstage

theorem again (hconfig : w'.config = w.config)
    (hhappened : w'.happenings = parts.flatten ++
      (current ++ .called made :: effort.between w.config.retryRule.retries (.error e : Reply α)))
    (hparts : forall part, part ∈ parts -> Operates w.config.retryRule part ∨ IsRemark part)
    (hcurrent : Underway w.config.retryRule call effort w.output current)
    (hcall : call w.output = (.error e, made, output))
    (heffort : effort.afterError w.config.retryRule.retries e = some (effort', between))
    (hstage : forall current, Underway w.config.retryRule call effort' output current ->
      stage.Performs w.config.retryRule w'.output current) : Divided w' stage := by
  rw [Effort.between_of_again heffort] at hhappened
  exists parts, current ++ .called made :: between
  constructor
  · exact hhappened
  constructor
  · rw [hconfig]
    exact hparts
  · rw [hconfig]
    exact hstage _ (hcurrent.again hcall heffort)

end Call

theorem remark {stage' : Stage} {d : Diagnostic} (h : Divided w stage)
    (hconfig : w'.config = w.config) (hremark : Remark w w' d) (hsilent : stage.callsNext = false)
    (hstage : stage'.Performs w.config.retryRule w'.output []) : Divided w' stage' := by
  rcases h with ⟨parts, current, hhappened, hparts, hcurrent⟩
  rw [Stage.performs_of_silent hsilent] at hcurrent
  exists parts ++ [[.reported d]], []
  constructor
  · rw [hremark.happenings, hhappened, hcurrent, List.flatten_append, List.flatten_singleton,
      List.append_nil, List.append_nil]
  constructor
  · intro part hpart
    rw [hconfig]
    rcases List.mem_append.mp hpart with hpart | hpart
    · exact hparts part hpart
    · rw [List.mem_singleton.mp hpart]
      exact Or.inr ⟨d, rfl, hremark.plain⟩
  · rw [hconfig]
    exact hstage

theorem nothing {stage' : Stage} (h : Divided w stage) (hconfig : w'.config = w.config)
    (hsame : w'.happenings = w.happenings)
    (hstage : forall current, stage.Performs w.config.retryRule w.output current ->
      stage'.Performs w.config.retryRule w'.output current) : Divided w' stage' := by
  rcases h with ⟨parts, current, hhappened, hparts, hcurrent⟩
  exists parts, current
  rw [hsame, hconfig]
  exact ⟨hhappened, hparts, hstage current hcurrent⟩

theorem tell {stage' : Stage} (h : Divided w w.workStage) (hconfig : w'.config = w.config)
    (htells : Tells w w')
    (hstage : forall current, w.workStage.Performs w.config.retryRule w.output current ->
      stage'.Performs w.config.retryRule w'.output current) : Divided w' stage' := by
  cases htells with
  | nothing hsilent => exact h.nothing hconfig hsilent.happenings hstage
  | remark hsilent hremark _ | panic hsilent hremark _ _ =>
      exact h.remark hconfig hremark hsilent
        (hstage [] ((Stage.performs_of_silent hsilent).mpr rfl))

theorem performs_afterFlush (w : Writer) {rule : RetryRule} {output : Output} :
    w.afterFlush.Performs rule output [] := by
  unfold afterFlush
  cases w.config.drainMode <;> exact rfl

/-- Between two operations a thread has nothing behind it. -/
theorem performs_stageStep {stage : Stage} (hsilent : stage.callsNext = false) :
    (w.stageStep stage).2.Performs w.config.retryRule (w.stageStep stage).1.output [] := by
  cases stage with
  | taking =>
      simp only [stageStep]
      split <;> exact rfl
  | between left =>
      cases left with
      | nil => exact .fresh _ _ _
      | cons e left =>
          simp only [stageStep, beginEntry]
          split
          · exact rfl
          · exact .fresh _ _ _
  | writing _ _ _ _ | flushing _ => cases hsilent
  | flushGivenUp x => exact performs_afterFlush w
  | _ => exact rfl

theorem of_writeEvent {parts : List (List Happening)} {current : List Happening} {e : Entry}
    {rest : List UInt8} {effort : Effort} {left : List Entry}
    {reply : Reply { n : Nat // 0 < n }} {made : Call} {output : Output} {stage' : Stage}
    (hconfig : w'.config = w.config) (houtput : w'.output = output)
    (hhappened : w'.happenings = parts.flatten ++
      (current ++ .called made :: effort.between w.config.retryRule.retries reply))
    (hparts : forall part, part ∈ parts -> Operates w.config.retryRule part ∨ IsRemark part)
    (hcurrent : Underway w.config.retryRule (Output.write rest) effort w.output current)
    (hwrite : Output.write rest w.output = (reply, made, output))
    (hevent : WriteEvent w.config.retryRule e rest effort left reply stage') :
    Divided w' stage' := by
  have hended {next : Stage} (hlast : effort.EndsWith w.config.retryRule.retries reply)
      (hnext : next.Performs w.config.retryRule w'.output []) : Divided w' next :=
    ended hconfig hhappened hparts (.write rest) hcurrent hwrite hlast hnext
  cases hevent with
  | panicked | written _ => exact hended (Effort.endsWith_of_no_error rfl) rfl
  | partly _ => exact hended (Effort.endsWith_of_no_error rfl) (.fresh _ _ _)
  | givenUp heffort => exact hended (Effort.endsWith_of_givenUp heffort) rfl
  | again heffort =>
      apply again hconfig hhappened hparts hcurrent hwrite heffort
      intro current hcurrent
      rw [houtput]
      exact hcurrent

theorem of_flushEvent {parts : List (List Happening)} {current : List Happening}
    {effort : Effort} {reply : Reply Unit} {made : Call} {output : Output} {stage' : Stage}
    (hconfig : w'.config = w.config) (houtput : w'.output = output)
    (hhappened : w'.happenings = parts.flatten ++
      (current ++ .called made :: effort.between w.config.retryRule.retries reply))
    (hparts : forall part, part ∈ parts -> Operates w.config.retryRule part ∨ IsRemark part)
    (hcurrent : Underway w.config.retryRule Output.flush effort w.output current)
    (hflush : w.output.flush = (reply, made, output))
    (hevent : FlushEvent w.config.retryRule effort w.afterFlush reply stage') :
    Divided w' stage' := by
  have hended {next : Stage} (hlast : effort.EndsWith w.config.retryRule.retries reply)
      (hnext : next.Performs w.config.retryRule w'.output []) : Divided w' next :=
    ended hconfig hhappened hparts .flush hcurrent hflush hlast hnext
  cases hevent with
  | panicked => exact hended (Effort.endsWith_of_no_error rfl) rfl
  | flushed => exact hended (Effort.endsWith_of_no_error rfl) (performs_afterFlush w)
  | givenUp heffort => exact hended (Effort.endsWith_of_givenUp heffort) rfl
  | again heffort =>
      apply again hconfig hhappened hparts hcurrent hflush heffort
      intro current hcurrent
      rw [houtput]
      exact hcurrent

theorem stageStep (h : Divided w stage) :
    Divided (w.stageStep stage).1 (w.stageStep stage).2 := by
  have hconfig : (w.stageStep stage).1.config = w.config := (stageMove_stageStep w stage).config
  cases hsilent : stage.callsNext with
  | false =>
      have hperforms := performs_stageStep (w := w) hsilent
      rcases remark_stageStep (w := w) hsilent with hnothing | ⟨d, hremark, _⟩
      · apply h.nothing hconfig hnothing.happenings
        intro current hcurrent
        rw [(Stage.performs_of_silent hsilent).mp hcurrent]
        exact hperforms
      · exact h.remark hconfig hremark hsilent hperforms
  | true =>
      rcases h with ⟨parts, current, hhappened, hparts, hcurrent⟩
      cases stage with
      | writing e rest effort left =>
          rcases hwrite : Output.write rest w.output with ⟨reply, made, output⟩
          have hstep : (w.writeStep e rest effort left).1.happenings = _ :=
            happenings_writeStep hwrite
          rw [hhappened, List.append_assoc] at hstep
          exact of_writeEvent hconfig (calls_writeStep hwrite).2 hstep hparts hcurrent hwrite
            (writeEvent_writeStep hwrite)
      | flushing effort =>
          rcases hflush : w.output.flush with ⟨reply, made, output⟩
          have hstep : (w.flushStep effort).1.happenings = _ := happenings_flushStep hflush
          rw [hhappened, List.append_assoc] at hstep
          exact of_flushEvent hconfig (calls_flushStep hflush).2 hstep hparts hcurrent hflush
            (flushEvent_flushStep hflush)
      | _ => cases hsilent

theorem move (hdiscipline : Discipline w) (h : Divided w w.workStage) (hmove : Move w w') :
    Divided w' w'.workStage := by
  have hconfig := hmove.config
  cases stageEvent_of_move hdiscipline hmove with
  | onward htrace hoff hstage =>
      rw [hstage]
      apply h.stageStep.nothing hoff.config
      · rw [happenings, htrace, happenings]
      · intro current hcurrent
        rw [hoff.output]
        exact hcurrent
  | begin hoff hdone hstage =>
      apply h.tell hconfig (tells_of_move hdiscipline hmove hoff.calls)
      intro current hcurrent
      rw [hdone] at hcurrent
      rw [hstage]
      exact hcurrent
  | aside hoff hstage =>
      apply h.tell hconfig (tells_of_move hdiscipline hmove hoff.calls)
      intro current hcurrent
      rw [hoff.output, hstage]
      exact hcurrent
  | recovery hleft hleft' =>
      have hcalls := calls_of_silent hdiscipline hmove (by rw [hleft]; rfl)
      apply h.tell hconfig (tells_of_move hdiscipline hmove hcalls)
      intro current hcurrent
      rw [hleft] at hcurrent
      rw [hleft']
      exact hcurrent

theorem of_run {config : Config} {script : Script} {producers : Nat} {actions : List Action}
    (hrun : (Writer.start config script producers).run actions = some w) :
    Divided w w.workStage :=
  (Discipline.run (P := fun w => Divided w w.workStage) move (.start config script producers)
    (start config script producers) hrun).2

end Divided

end Writer

end AsyncLog
