import AsyncLog.Proofs.Output.Honest
import AsyncLog.Proofs.Writer.Accounting
import AsyncLog.Proofs.Writer.Calls
import AsyncLog.Writer.Schedule
/-!
# Panics in the final pass

A panic of the drain thread is made up for: the owner takes what is queued and
counts it as failed with everything that was detached.  A panic in the final
pass is not.  What it leaves behind is in no class, and the call that panicked
tells whether anything was left behind.
-/

namespace AsyncLog

namespace Writer

variable {w w' : Writer}

/-- The call in which the final pass panicked: a write leaves an entry behind, and a
flush none. -/
inductive Struck (calls : List Call) : List Entry -> Prop where
  | write (offered : List UInt8) {left : List Entry} :
      calls.getLast? = some (.write offered .panics) -> left ≠ [] -> Struck calls left
  | flush : calls.getLast? = some (.flush .panics) -> Struck calls []

theorem struck_writeStep {e : Entry} {rest : List UInt8} {effort : Effort}
    {left left' : List Entry} (h : (w.writeStep e rest effort left).2 = .panicked left') :
    Struck (w.writeStep e rest effort left).1.calls left' := by
  simp only [writeStep, Output.write] at h ⊢
  cases hreply : Output.replyTo rest (w.output.script.write w.output.writes) with
  | panic =>
      simp only [hreply, Stage.panicked.injEq] at h ⊢
      refine .write rest ?_ (by rw [← h]; simp)
      rw [calls_happen, response_of_panic hreply]
      exact List.getLast?_concat
  | ok taken =>
      simp only [hreply] at h
      split at h <;> cases h
  | error x =>
      simp only [hreply] at h
      split at h <;> cases h

theorem struck_flushStep {effort : Effort} {left : List Entry}
    (h : (w.flushStep effort).2 = .panicked left) : Struck (w.flushStep effort).1.calls left := by
  simp only [flushStep, Output.flush] at h ⊢
  cases hresponse : w.output.script.flush w.output.flushes with
  | panics =>
      simp only [hresponse, Stage.panicked.injEq] at h ⊢
      rw [← h]
      refine .flush ?_
      rw [calls_happen]
      exact List.getLast?_concat
  | done =>
      simp only [hresponse, afterFlush] at h
      split at h <;> cases h
  | fails x =>
      simp only [hresponse] at h
      split at h <;> cases h

theorem struck_stageStep {stage : Stage} {left : List Entry}
    (hstage : forall left, stage ≠ .panicked left) (h : (w.stageStep stage).2 = .panicked left) :
    Struck (w.stageStep stage).1.calls left := by
  cases stage with
  | writing e rest effort left => exact struck_writeStep h
  | flushing effort => exact struck_flushStep h
  | panicked left => exact absurd rfl (hstage left)
  | taking =>
      simp only [stageStep] at h
      split at h <;> cases h
  | between rest =>
      cases rest with
      | nil => cases h
      | cons e rest =>
          simp only [stageStep, beginEntry] at h
          split at h <;> cases h
  | flushGivenUp x =>
      simp only [stageStep, afterFlush] at h
      split at h <;> cases h
  | _ => cases h

/-- The owner's place after a panic in the final pass and the call that panicked agree. -/
structure LeftBehind (w : Writer) : Prop where
  running : forall left, w.owner ≠ .finishing (.panicked left)
  struck : forall left, w.owner = .unwound left -> Struck w.calls left

namespace LeftBehind

theorem finish {stage : Stage} (h : LeftBehind w) (howner : w.owner = .finishing stage) :
    LeftBehind { (w.stageStep stage).1 with owner := .after (w.stageStep stage).2 } := by
  constructor
  · intro left
    cases hstage : (w.stageStep stage).2 <;> simp [OwnerPhase.after]
  · intro left hleft
    have hstage : (w.stageStep stage).2 = .panicked left := by
      cases hnext : (w.stageStep stage).2 <;> simp [hnext, OwnerPhase.after] at hleft
      rw [hleft]
    exact struck_stageStep (fun left heq => h.running left (heq ▸ howner)) hstage

theorem of_calls (h : LeftBehind w) (hdiscipline : Discipline w) (hmove : Move w w')
    (howner : w'.owner = w.owner) : LeftBehind w' := by
  constructor
  · rw [howner]
    exact h.running
  · intro left hleft
    rw [howner] at hleft
    rcases hmove.calls with hcalls | ⟨_, hrunning⟩ | ⟨stage, hfinishing, _⟩
    · rw [hcalls]
      exact h.struck left hleft
    · -- After the final pass the drain thread has ended, so nobody is left to call.
      rw [(hdiscipline.knows hleft).1] at hrunning
      cases hrunning
    · rw [hleft] at hfinishing
      cases hfinishing

theorem elsewhere (hfinishing : forall stage, w.owner ≠ .finishing stage)
    (hunwound : forall left, w.owner ≠ .unwound left) : LeftBehind w :=
  ⟨fun left => hfinishing (.panicked left), fun left hleft => absurd hleft (hunwound left)⟩

theorem pass (h : LeftBehind w) (hdiscipline : Discipline w) (hpass : Pass w w') :
    LeftBehind w' := by
  cases hpass with
  | start hdrain => exact h.of_calls hdiscipline (.pass (.start hdrain)) (chatter_happen w _).owner
  | stop hdrain => exact h.of_calls hdiscipline (.pass (.stop hdrain)) (chatter_happen w _).owner
  | check hdrain => exact h.of_calls hdiscipline (.pass (.check hdrain)) rfl
  | wake hdrain => exact h.of_calls hdiscipline (.pass (.wake hdrain)) rfl
  | listen listener => exact h.of_calls hdiscipline (.pass (.listen listener)) rfl
  | again _ => exact h
  | join _ _ =>
      constructor
      · intro left hleft
        cases hleft
      · intro left hleft
        cases hleft
  | _ => exact elsewhere (fun _ => by simp) (fun _ => by simp)

theorem move (hdiscipline : Discipline w) (h : LeftBehind w) (hmove : Move w w') :
    LeftBehind w' := by
  cases hmove with
  | hand e hidle => exact h.of_calls hdiscipline (.hand e hidle) rfl
  | refuse e hidle => exact h.of_calls hdiscipline (.refuse e hidle) rfl
  | push hphase hpush => exact h.of_calls hdiscipline (.push hphase hpush) hpush.owner
  | @report phase' next hpush =>
      cases howner : w.owner with
      | reportingLoss push | reportingEnd stats push =>
          apply elsewhere <;> intro _ <;> simp [hpush.owner, howner, OwnerPhase.withPush]
      | _ =>
          rw [howner] at hpush
          cases hpush
  | work hdrain => exact h.of_calls hdiscipline (.work hdrain) (stageMove_stageStep w _).owner
  | finish howner => exact h.finish howner
  | abandon _ | recover _ | sum _ =>
      exact elsewhere (fun _ => by simp [Writer.abandon, recover_eq, Writer.sum])
        (fun _ => by simp [Writer.abandon, recover_eq, Writer.sum])
  | pass hpass => exact h.pass hdiscipline hpass

theorem start (config : Config) (script : Script) (producers : Nat) :
    LeftBehind (start config script producers) :=
  elsewhere (fun _ => by simp [Writer.start]) (fun _ => by simp [Writer.start])

theorem of_run {config : Config} {script : Script} {producers : Nat} {actions : List Action}
    (h : (Writer.start config script producers).run actions = some w) : LeftBehind w :=
  (Discipline.run move (.start config script producers) (start config script producers) h).2

end LeftBehind

/-!
## After the shutdown
-/

theorem inHand_of_ended (h : Discipline w) (hended : w.owner.hasEnded = true) :
    w.inHand = w.owner.uncounted := by
  rw [inHand]
  cases howner : w.owner with
  | finished stats =>
      rcases (h.knows howner).1 with hdrain | hdrain <;> rw [hdrain] <;> rfl
  | unwound left =>
      rw [(h.knows howner).1]
      rfl
  | _ => simp [howner, OwnerPhase.hasEnded] at hended

theorem shutDown_of_ended (hended : w.owner.hasEnded = true) :
    w.shutDown = (.counted w.stats, w) := by
  cases howner : w.owner with
  | finished stats | unwound left => simp [shutDown, howner]
  | _ => simp [howner, OwnerPhase.hasEnded] at hended

theorem Struck.nil_iff {calls : List Call} {left : List Entry} (h : Struck calls left) :
    left = [] ↔ calls.getLast? = some (.flush .panics) := by
  cases h with
  | write offered hlast hleft => simp [hlast, hleft]
  | flush hlast => simp [hlast]

/-- After a shutdown that returned every entry is in its class, and after one that was
unwound exactly those are missing that the final pass left queued or detached: none are
detached if it panicked in a flush, and some if it panicked in a write. -/
theorem ended_accounted_iff {config : Config} {script : Script} {producers : Nat}
    {actions : List Action} (hrun : (start config script producers).run actions = some w)
    (hquiet : w.IsQuiet) (hended : w.owner.hasEnded = true) :
    w.shutDown = (.counted w.stats, w) ∧
    ((w.queue.entries = [] ∧ UInt64.ofNat w.handed.length =
        w.stats.written + w.stats.dropped + w.stats.failed + w.stats.rejected) ↔
      w.queue.entries = [] ∧ UInt64.ofNat w.owner.uncounted.length = 0) ∧
    ((w.handed.map Prod.snd).Perm
        (w.writtenEntries ++ w.failedEntries ++ w.droppedEntries ++ w.rejectedEntries) ↔
      w.queue.entries = [] ∧ w.owner.uncounted = []) ∧
    (forall stats, w.owner = .finished stats ->
      w.queue.entries = [] ∧ w.owner.uncounted = []) ∧
    forall left, w.owner = .unwound left ->
      (config.drainMode = .batch -> w.queue.entries = []) ∧
      (left = [] ↔ w.calls.getLast? = some (.flush .panics)) ∧
      (left ≠ [] ↔ exists offered, w.calls.getLast? = some (.write offered .panics)) := by
  have hdiscipline := Discipline.of_run hrun
  have hline := InLine.of_run hrun
  have hpush := PushTally.of_run hrun
  have hcounted := counted_of_quiet hpush (StageTally.of_run hrun) hquiet
  have hplaces := handed_perm (Answered.of_run hrun) hline hquiet
  have hcount := handed_count hcounted hplaces
  rw [inHand_of_ended hdiscipline hended] at hplaces hcount
  refine ⟨shutDown_of_ended hended, ?_, ?_, ?_, ?_⟩
  · apply and_congr_right
    intro hqueue
    have hzero : UInt64.ofNat (List.length ([] : List Entry)) = 0 := rfl
    rw [hcount, hqueue, hzero, UInt64.add_zero, UInt64.add_assoc w.stats.written,
      UInt64.add_comm w.stats.failed, ← UInt64.add_assoc]
    exact UInt64.add_eq_left
  · constructor
    · intro hperm
      have hlength := hplaces.length_eq.symm.trans hperm.length_eq
      simp only [List.length_append] at hlength
      constructor
      · exact List.length_eq_zero_iff.mp (by omega)
      · exact List.length_eq_zero_iff.mp (by omega)
    · rintro ⟨hqueue, hleft⟩
      rw [hqueue, hleft, List.append_nil, List.append_nil] at hplaces
      exact hplaces
  · intro stats howner
    have hempty := empty_of_finished hdiscipline howner
    rw [inHand_of_ended hdiscipline hended] at hempty
    exact hempty
  · intro left howner
    have hknows := hdiscipline.knows howner
    have hconfig : w.config = config := config_of_run hrun
    have hstruck := (LeftBehind.of_run hrun).struck left howner
    rw [OwnerKnows, hconfig] at hknows
    refine ⟨hknows.2, hstruck.nil_iff, ?_⟩
    cases hstruck with
    | write offered hlast hleft => simp [hlast, hleft]
    | flush hlast => simp [hlast]

def slammed : Script where
  write := fun _ => .all
  flush := fun call => if call = 1 then .panics else .done

def shutDownBehind (steps : Nat) : List Action :=
  [.hand 0 "a", .push 0 false, .push 0 false] ++ List.replicate 6 .drain ++
    [.hand 0 "boom", .push 0 false, .push 0 false, .hand 0 "c", .push 0 false, .push 0 false,
      .shutDown, .owner false] ++
    List.replicate 7 .drain ++ List.replicate steps (.owner false)

/-- The final pass panics in its first write: the counters have lost two of three entries. -/
theorem ended_unaccounted_tripwire :
    exists w, (start Config.default tripwire 1).run (shutDownBehind 5) = some w ∧ w.IsQuiet ∧
      w.owner.hasEnded = true ∧ w.queue.entries = [] ∧ w.handed.length = 3 ∧
      w.stats = { appended := 3, written := 1 } ∧
      UInt64.ofNat w.handed.length ≠
        w.stats.written + w.stats.dropped + w.stats.failed + w.stats.rejected := by
  let ended := ((start Config.default tripwire 1).run (shutDownBehind 5)).get (by decide)
  exact ⟨ended, (Option.some_get _).symm, by decide, by decide, by decide, by decide, by decide,
    by decide⟩

theorem ended_accounted_slammed :
    exists w, (start Config.default slammed 1).run (shutDownBehind 13) = some w ∧
      w.owner = .unwound [] ∧ UInt64.ofNat w.handed.length =
        w.stats.written + w.stats.dropped + w.stats.failed + w.stats.rejected := by
  let ended := ((start Config.default slammed 1).run (shutDownBehind 13)).get (by decide)
  have hrun : (start Config.default slammed 1).run (shutDownBehind 13) = some ended :=
    (Option.some_get _).symm
  have hquiet : ended.IsQuiet := by decide
  have hended : ended.owner.hasEnded = true := by decide
  have hcount := (ended_accounted_iff hrun hquiet hended).2.1.mpr ⟨by decide, by decide⟩
  exact ⟨ended, hrun, by decide, hcount.2⟩

end Writer

end AsyncLog
