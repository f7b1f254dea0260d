import Mathlib.Data.List.Forall2
import AsyncLog.Proofs.Output.Honest
import AsyncLog.Proofs.Writer.Stages
/-!
# What an honest output holds

The bytes in an honest output are those of the detached entries, one after the
other in the order in which the queue accepted them: the whole of an entry that
was written, and a part of one that failed.  While an entry is being written the
output also holds the bytes already taken of it.
-/

namespace AsyncLog

/-- What a detached entry leaves in an honest output. -/
def Deposit (r : Result) (piece : List UInt8) : Prop :=
  match r.ending with
  | .written => piece = r.entry.bytes
  | .failed _ => piece <+: r.entry.bytes ∧ piece ≠ r.entry.bytes
  | .abandoned => False

def Stage.Holds (piece : List UInt8) : Stage -> Prop
  | .writing e rest _ _ => e.bytes = piece ++ rest ∧ rest ≠ []
  | .returned e error _ | .settled e error _ => Deposit ⟨e, .ofError? error⟩ piece
  | .panicked _ => False
  | .taking | .detached _ | .between _ | .flushing _ | .flushGivenUp _ | .done => piece = []

namespace Writer

variable {w w' : Writer} {piece : List UInt8}

theorem written_of_calls (h : w'.calls = w.calls) : w'.written = w.written :=
  congrArg received h

def Deposited (w : Writer) (piece : List UInt8) : Prop :=
  exists pieces : List (List UInt8),
    List.Forall₂ Deposit w.results pieces ∧ w.written = pieces.flatten ++ piece

theorem Deposited.of_eq (h : w.Deposited piece) (hresults : w'.results = w.results)
    (hcalls : w'.calls = w.calls) : w'.Deposited piece := by
  rw [Deposited, hresults, written_of_calls hcalls]
  exact h

theorem Deposited.count {r : Result} (h : w.Deposited piece) (hdeposit : Deposit r piece)
    (hresults : w'.results = w.results ++ [r]) (hcalls : w'.calls = w.calls) :
    w'.Deposited [] := by
  rcases h with ⟨pieces, hpieces, hbytes⟩
  refine ⟨pieces ++ [piece], ?_, ?_⟩
  · rw [hresults]
    exact List.rel_append hpieces (.cons hdeposit .nil)
  · rw [written_of_calls hcalls, hbytes, List.flatten_append]
    simp

/-!
## Writing an entry
-/

def Delivers (w : Writer) (stage : Stage) : Prop :=
  exists piece, w.Deposited piece ∧ stage.Holds piece

theorem Deposited.call (h : w.Deposited piece) (output : Output) (call : Call) :
    ({ w with output }.happen (.called call)).Deposited (piece ++ call.taken) := by
  rcases h with ⟨pieces, hpieces, hbytes⟩
  have hcalls : ({ w with output }.happen (.called call)).calls = w.calls ++ [call] :=
    calls_happen _ _
  refine ⟨pieces, ?_, ?_⟩
  · rw [(chatter_happen { w with output } (.called call)).results]
    exact hpieces
  · rw [Writer.written, hcalls, received_append, ← List.append_assoc, ← hbytes]
    simp [Writer.written]

theorem Deposited.happenAll (h : w.Deposited piece) {between : List Happening}
    (hcalls : between.filterMap Happening.call? = []) : (w.happenAll between).Deposited piece := by
  apply h.of_eq (chatter_happenAll w between).results
  rw [calls_happenAll, hcalls]
  exact List.append_nil _

theorem holds_afterFlush (w : Writer) : w.afterFlush.Holds [] := by
  unfold afterFlush
  cases w.config.drainMode <;> rfl

theorem delivers_writeStep {e : Entry} {rest : List UInt8} {effort : Effort} {left : List Entry}
    (hhonest : w.output.script.IsHonest) (h : w.Delivers (.writing e rest effort left)) :
    (w.writeStep e rest effort left).1.Delivers (w.writeStep e rest effort left).2 := by
  rcases h with ⟨piece, hpiece, hbytes, hrest⟩
  have hwrite := honestWrite_replyTo hrest (hhonest.write w.output.writes)
  have hcalled := hpiece.call { w.output with writes := w.output.writes + 1 }
    (.write rest (w.output.script.write w.output.writes))
  simp only [writeStep, Output.write]
  rw [Call.taken] at hcalled
  generalize (w.output.script.write w.output.writes).taken rest = taken at hwrite hcalled
  generalize Output.replyTo rest (w.output.script.write w.output.writes) = reply at hwrite
  cases hwrite with
  | took n =>
      dsimp only
      -- What is taken and what is left make up the rest of the entry.
      have hsplit := List.take_append_drop n.val rest
      cases hleft : rest.drop n.val with
      | nil =>
          refine ⟨_, hcalled, ?_⟩
          rw [hleft, List.append_nil] at hsplit
          rw [hsplit]
          exact hbytes.symm
      | cons b more =>
          refine ⟨_, hcalled, ?_, by simp⟩
          rw [hbytes, ← hleft, List.append_assoc, hsplit]
  | failed x =>
      dsimp only
      rw [List.append_nil] at hcalled
      split
      · refine ⟨piece, hcalled, ?_, ?_⟩
        · exact ⟨rest, hbytes.symm⟩
        · intro heq
          exact hrest (List.self_eq_append_right.mp (heq.trans hbytes))
      · rename_i effort' between heffort
        exact ⟨piece, hcalled.happenAll (Effort.calls_afterError heffort), hbytes, hrest⟩

theorem delivers_flushStep {effort : Effort} (hhonest : w.output.script.IsHonest)
    (h : w.Delivers (.flushing effort)) :
    (w.flushStep effort).1.Delivers (w.flushStep effort).2 := by
  rcases h with ⟨piece, hpiece, hnone⟩
  have hcalled := hpiece.call { w.output with flushes := w.output.flushes + 1 }
    (.flush (w.output.script.flush w.output.flushes))
  rw [hnone] at hcalled
  simp only [flushStep, Output.flush]
  cases hresponse : w.output.script.flush w.output.flushes with
  | panics => exact absurd hresponse (hhonest.flush _)
  | done =>
      rw [hresponse] at hcalled
      exact ⟨[], hcalled, holds_afterFlush _⟩
  | fails x =>
      rw [hresponse] at hcalled
      dsimp only
      split
      · exact ⟨[], hcalled, rfl⟩
      · rename_i effort' between heffort
        exact ⟨[], hcalled.happenAll (Effort.calls_afterError heffort), rfl⟩

theorem delivers_stageStep {stage : Stage} (hhonest : w.output.script.IsHonest)
    (h : w.Delivers stage) : (w.stageStep stage).1.Delivers (w.stageStep stage).2 := by
  cases stage with
  | writing e rest effort left => exact delivers_writeStep hhonest h
  | flushing effort => exact delivers_flushStep hhonest h
  | taking =>
      rcases h with ⟨piece, hpiece, hnone⟩
      rcases htake : w.queue.take w.config.drainMode with ⟨batch, queue⟩
      simp only [stageStep, htake]
      cases batch with
      | nil => exact ⟨piece, hpiece, hnone⟩
      | cons e rest =>
          exact ⟨piece, hpiece.of_eq (by simp) (calls_record _ rfl), hnone⟩
  | detached batch =>
      rcases h with ⟨piece, hpiece, hnone⟩
      exact ⟨piece, hpiece.of_eq rfl rfl, hnone⟩
  | between left =>
      rcases h with ⟨piece, hpiece, hnone⟩
      cases left with
      | nil => exact ⟨piece, hpiece, hnone⟩
      | cons e left =>
          refine ⟨piece, hpiece, ?_⟩
          simp only [stageStep, beginEntry]
          split
          · rename_i hempty
            rw [hnone]
            exact hempty.symm
          · rename_i hbytes
            exact ⟨by rw [hnone]; rfl, hbytes⟩
  | returned e error left =>
      rcases h with ⟨piece, hpiece, hdeposit⟩
      exact ⟨piece, hpiece.of_eq rfl rfl, hdeposit⟩
  | settled e error left =>
      rcases h with ⟨piece, hpiece, hholds⟩
      have hdeposit : Deposit ⟨e, .ofError? error⟩ piece := hholds
      refine ⟨[], hpiece.count hdeposit ?_ (calls_stageStep rfl), rfl⟩
      cases error with
      | none => simp [stageStep, countResult]
      | some x =>
          simp only [stageStep, countResult]
          rw [(chatter_happen _ _).results]
          simp
  | flushGivenUp x =>
      rcases h with ⟨piece, hpiece, hnone⟩
      rw [hnone] at hpiece
      refine ⟨[], hpiece.of_eq ?_ (calls_stageStep rfl), holds_afterFlush w⟩
      simp only [stageStep]
      rw [(chatter_happen _ _).results]
      rfl
  | done => exact h
  | panicked left => exact h

/-!
## Runs
-/

/-- What an honest output holds in any state: pieces of the entries with a result, and
what was taken of the one that a thread is writing. -/
def Delivered (w : Writer) : Prop :=
  exists p q, w.Deposited (p ++ q) ∧ w.drain.stage.Holds p ∧ w.owner.stage.Holds q

theorem Delivered.not_panicked (h : w.Delivered) (left : List Entry) :
    w.drain ≠ .panicked left := by
  rcases h with ⟨p, q, _, hp, _⟩
  intro hdrain
  rw [hdrain] at hp
  exact hp

theorem Delivers.of_run {config : Config} {script : Script} {producers : Nat}
    {actions : List Action} (hhonest : script.IsHonest)
    (hrun : (start config script producers).run actions = some w) : w.Delivers w.workStage := by
  refine (stage_induction (P := fun w stage => w.output.script.IsHonest ∧ w.Delivers stage)
    ?_ (fun h => h) ?_ ?_ (.start config script producers) ?_ hrun).2
  · intro w stage h
    rw [(stageMove_stageStep w stage).script]
    exact ⟨h.1, delivers_stageStep h.1 h.2⟩
  · rintro w w' stage hoff ⟨hhonest, piece, hdeposited, hholds⟩
    rw [hoff.output]
    exact ⟨hhonest, piece, hdeposited.of_eq hoff.results hoff.calls, hholds⟩
  · rintro w left ⟨_, piece, _, hholds⟩
    exact hholds
  · exact ⟨hhonest, [], ⟨[], .nil, rfl⟩, rfl⟩

theorem Delivered.of_run {config : Config} {script : Script} {producers : Nat}
    {actions : List Action} (hhonest : script.IsHonest)
    (hrun : (start config script producers).run actions = some w) : w.Delivered := by
  rcases Delivers.of_run hhonest hrun with ⟨piece, hdeposited, hholds⟩
  by_cases hidle : w.owner.stage = .done
  · rw [workStage_of_idle hidle] at hholds
    refine ⟨piece, [], ?_, hholds, ?_⟩
    · rw [List.append_nil]
      exact hdeposited
    · rw [hidle]
      rfl
  · have hdrain := drain_of_working (Discipline.of_run hrun) hidle
    rw [workStage_of_stopped hdrain] at hholds
    refine ⟨[], piece, hdeposited, ?_, hholds⟩
    rw [hdrain]
    rfl

end Writer

end AsyncLog
