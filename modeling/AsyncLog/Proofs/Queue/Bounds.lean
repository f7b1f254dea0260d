import AsyncLog.Config.Basic
import AsyncLog.Proofs.Queue.Conservation
/-!
# Bounds of the queue

However many threads find room at once, each of them decides under the lock, so a bounded
queue never holds more than its capacity.  An entry is only discarded or displaced when the
queue holds exactly that many.  A queue without any room would displace nothing and grow,
and no configuration can be built that asks for one.
-/

namespace AsyncLog

theorem Builder.capacity_of_build {b : Builder} {config : Config} {n : Nat}
    (hbuild : b.build = .ok config) (hbounded : b.capacity = .bounded n) :
    config.capacity = some n ∧ n ≠ 0 := by
  unfold Builder.build at hbuild
  split at hbuild
  · cases hbuild
  · rename_i hlimit
    rw [hbounded] at hlimit
    split at hbuild
    · cases hbuild
    · simp only [Except.ok.injEq] at hbuild
      rw [← hbuild]
      refine ⟨congrArg Capacity.limit hbounded, ?_⟩
      intro hzero
      exact hlimit (congrArg some hzero)

namespace Queue

structure Within (n : Nat) (q : Queue) : Prop where
  capacity : q.capacity = some n
  length_le : q.entries.length ≤ n

theorem Within.isFull_iff {n : Nat} {q : Queue} (h : Within n q) :
    q.isFull = true ↔ q.entries.length = n := by
  have hlength := h.length_le
  simp only [isFull, h.capacity, decide_eq_true_eq]
  omega

theorem Within.length_lt_of_room {n : Nat} {q : Queue} (h : Within n q)
    (hroom : q.isFull = false) : q.entries.length < n := by
  refine Nat.lt_of_le_of_ne h.length_le ?_
  intro hfull
  rw [h.isFull_iff.mpr hfull] at hroom
  cases hroom

section Decisions

variable {n : Nat} {q q' : Queue} {waited : Bool}

theorem Decides.full_of_discards {e : Entry} {outcome : Push}
    (h : q.Decides e waited outcome q')
    (hdiscards : outcome = .dropped ∨ outcome = .displacedOldest) :
    q.closed = false ∧ q.isFull = true := by
  cases h with
  | drop hopen hfull _ | displace hopen hfull _ => exact ⟨hopen, hfull⟩
  | reject _ | queue _ _ => simp at hdiscards

theorem Decides.within {e : Entry} {outcome : Push} (h : q.Decides e waited outcome q')
    (hpositive : n ≠ 0) (hwithin : Within n q) : Within n q' := by
  refine ⟨h.capacity.trans hwithin.capacity, ?_⟩
  have hlength := hwithin.length_le
  cases h with
  | reject _ | drop _ _ _ => exact hlength
  | displace _ hfull _ =>
      have hexact := hwithin.isFull_iff.mp hfull
      simp only [entries_displaceOldest, List.length_append, List.length_tail,
        List.length_singleton]
      omega
  | queue _ hroom =>
      simp only [entries_insert, List.length_append, List.length_singleton]
      exact hwithin.length_lt_of_room hroom

theorem Rules.within {call : Call} {answer : Answer} (h : q.Rules waited call answer q')
    (hpositive : n ≠ 0) (hwithin : Within n q) : Within n q' := by
  cases h with
  | push hdecides => exact hdecides.within hpositive hwithin
  | take mode =>
      have hall := congrArg List.length (q.take_append_entries mode)
      have hlength := hwithin.length_le
      rw [List.length_append] at hall
      exact ⟨(capacity_take q mode).trans hwithin.capacity, by omega⟩
  | await timedOut => exact hwithin
  | close => exact ⟨hwithin.capacity, hwithin.length_le⟩

theorem Rules.full_of_discards {call : Call} {answer : Answer}
    (h : q.Rules waited call answer q')
    (hdiscards : answer = .pushed .dropped ∨ answer = .pushed .displacedOldest) :
    q.closed = false ∧ q.isFull = true := by
  cases h with
  | push hdecides => exact hdecides.full_of_discards (by simpa using hdiscards)
  | take _ | await _ | close => simp at hdiscards

end Decisions

namespace Monitor

variable {m m' : Monitor}

theorem within_of_move {n : Nat} {s : Step} (hpositive : n ≠ 0) (hwithin : Within n m.queue)
    (hmove : Move m s m') : Within n m'.queue := by
  cases hmove with
  | answer d hd =>
      rcases of_decision? hd with ⟨_, _, _, _, hrules⟩
      exact hrules.within hpositive hwithin
  | notify _ hdeliver =>
      have hqueue := (wakes_of_deliver hdeliver).queue
      exact hqueue.symm ▸ hwithin
  | _ => exact hwithin

theorem full_of_decision? {n : Nat} {s : Step} {d : Decision} (hwithin : Within n m.queue)
    (hd : m.decision? s = some d) :
    d.before.entries.length ≤ n ∧
      (d.answer = .pushed .dropped ∨ d.answer = .pushed .displacedOldest ->
        d.before.closed = false ∧ d.before.entries.length = n) := by
  rcases of_decision? hd with ⟨_, hbefore, _, _, hrules⟩
  rw [hbefore]
  refine ⟨hwithin.length_le, ?_⟩
  intro hdiscards
  rcases hrules.full_of_discards hdiscards with ⟨hopen, hfull⟩
  exact ⟨hopen, hwithin.isFull_iff.mp hfull⟩

/-- With any configuration that is bounded the queue never holds more than its capacity,
and a push that discards an entry found it open and holding exactly that many. -/
theorem length_le_capacity {b : Builder} {config : Config} {n threads : Nat}
    {steps : List Step} {m : Monitor} (hbuild : b.build = .ok config)
    (hbounded : b.capacity = .bounded n)
    (hrun : (start { capacity := config.capacity, overflow := config.overflow } threads).run
      steps = some m) :
    m.queue.entries.length ≤ n ∧
    forall d, d ∈ (start { capacity := config.capacity, overflow := config.overflow }
        threads).history steps ->
      d.before.entries.length ≤ n ∧
      (d.answer = .pushed .dropped ∨ d.answer = .pushed .displacedOldest ->
        d.before.closed = false ∧ d.before.entries.length = n) := by
  rcases Builder.capacity_of_build hbuild hbounded with ⟨hcapacity, hpositive⟩
  have hempty : Within n { capacity := config.capacity, overflow := config.overflow } :=
    ⟨hcapacity, Nat.zero_le n⟩
  have hlast : Within n m.queue :=
    run_induction (P := fun m => Within n m.queue) (fun _ => within_of_move hpositive) hempty hrun
  exact ⟨hlast.length_le, decisions_of_run (P := fun m => Within n m.queue)
    (within_of_move hpositive) full_of_decision? hempty hrun⟩

def rushSteps : List Step :=
  [.call 0 (.push "a"), .acquire 0, .decide 0, .notify 0 none,
    .call 1 (.push "b"), .acquire 1, .decide 1, .call 2 (.push "c"), .acquire 2, .decide 2,
    .call 3 (.take .perEntry), .acquire 3, .decide 3, .notify 3 none,
    .acquire 2, .decide 2, .acquire 1, .decide 1, .timeout 1, .acquire 1, .decide 1]

theorem length_le_capacity_rush :
    exists config m,
      ({ capacity := .bounded 1, overflow := some (.block OverflowPolicy.defaultLimit) } :
        Builder).build = .ok config ∧
      (start { capacity := config.capacity, overflow := config.overflow } 4).run rushSteps =
        some m ∧
      m.queue.entries.length ≤ 1 ∧
      exists d, d ∈ (start { capacity := config.capacity, overflow := config.overflow }
          4).history rushSteps ∧
        d.call = .push "b" ∧ d.answer = .pushed .dropped ∧
        d.before.closed = false ∧ d.before.entries.length = 1 := by
  let b : Builder :=
    { capacity := .bounded 1, overflow := some (.block OverflowPolicy.defaultLimit) }
  let config : Config :=
    { Config.default with
      capacity := some 1
      overflow := .block OverflowPolicy.defaultLimit
      capacity_ne_zero := by decide }
  let first := start { capacity := config.capacity, overflow := config.overflow } 4
  let last := (first.run rushSteps).get (by decide)
  have hrun : first.run rushSteps = some last := (Option.some_get _).symm
  have hbuild : b.build = .ok config := rfl
  rcases length_le_capacity hbuild rfl hrun with ⟨hlast, hdiscards⟩
  have hdropped : exists d, d ∈ first.history rushSteps ∧ d.call = .push "b" ∧
      d.answer = .pushed .dropped := by decide
  rcases hdropped with ⟨d, hd, hcall, hanswer⟩
  exact ⟨config, last, hbuild, hrun, hlast, d, hd, hcall, hanswer,
    (hdiscards d hd).2 (Or.inl hanswer)⟩

end Monitor

end Queue

end AsyncLog
