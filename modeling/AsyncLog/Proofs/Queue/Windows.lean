import Mathlib.Data.List.DropRight
import AsyncLog.Proofs.Queue.Bounds
/-!
# What an overflowing queue keeps

Entries are pushed one after another and nothing is taken meanwhile.  A queue that
displaces its oldest entries holds the latest ones at the end, a queue that discards
new ones holds the first, and in both cases the pushes that found it full are the last
ones.  The entries are followed through single decisions first, and then through the
threads that make them.
-/

namespace AsyncLog

/-- What a bounded queue keeps of the entries that come to it: the latest or the first. -/
def OverflowPolicy.window (policy : OverflowPolicy) (capacity : Nat) (entries : List Entry) :
    List Entry :=
  match policy with
  | .dropOldest => entries.rtake capacity
  | .dropNewest | .block _ => entries.take capacity

def OverflowPolicy.overrun : OverflowPolicy -> Push
  | .dropOldest => .displacedOldest
  | .dropNewest | .block _ => .dropped

namespace OverflowPolicy

variable {capacity : Nat} {entries : List Entry}

theorem window_of_length_le (policy : OverflowPolicy) (h : entries.length ≤ capacity) :
    policy.window capacity entries = entries := by
  cases policy with
  | dropOldest =>
      rw [window, List.rtake, Nat.sub_eq_zero_of_le h]
      rfl
  | dropNewest | block limit => exact List.take_of_length_le h

theorem length_window (policy : OverflowPolicy) (capacity : Nat) (entries : List Entry) :
    (policy.window capacity entries).length = min capacity entries.length := by
  cases policy with
  | dropOldest =>
      rw [window, List.rtake, List.length_drop]
      omega
  | dropNewest | block limit => exact List.length_take

/-- What has left the window does not come back, whatever follows. -/
theorem window_append (policy : OverflowPolicy) (capacity : Nat) (entries more : List Entry) :
    policy.window capacity (policy.window capacity entries ++ more) =
      policy.window capacity (entries ++ more) := by
  cases policy with
  | dropOldest =>
      simp only [window, List.rtake_eq_reverse_take_reverse, List.reverse_append,
        List.reverse_reverse, List.take_append, List.take_take]
      rw [Nat.min_eq_left (Nat.sub_le _ _)]
  | dropNewest | block limit =>
      simp only [window, List.take_append, List.take_take, Nat.min_self, List.length_take]
      congr 2
      omega

end OverflowPolicy

namespace Queue

def pushAll (q : Queue) : List Entry -> List Push × Queue
  | [] => ([], q)
  | e :: rest =>
      ((q.push e).1 :: ((q.push e).2.pushAll rest).1, ((q.push e).2.pushAll rest).2)

@[simp] theorem pushAll_nil (q : Queue) : q.pushAll [] = ([], q) := rfl

theorem pushAll_cons_of_push {q q' : Queue} {e : Entry} {answer : Push}
    (h : q.push e = (answer, q')) (rest : List Entry) :
    q.pushAll (e :: rest) = (answer :: (q'.pushAll rest).1, (q'.pushAll rest).2) := by
  rw [pushAll, h]

/-!
## A single push
-/

theorem Decides.eq_push {q q' : Queue} {e : Entry} {waited : Bool} {outcome : Push}
    (h : q.Decides e waited outcome q')
    (hwaited : waited = true -> exists limit, q.overflow = .block limit) :
    q.push e = (outcome, q') := by
  cases h with
  | reject hclosed => simp [push, offer, hclosed]
  | drop hopen hfull hreason =>
      rcases hreason with hlate | hpolicy
      · rcases hwaited hlate with ⟨limit, hpolicy⟩
        simp [push, offer, reoffer, hopen, hfull, hpolicy]
      · simp [push, offer, hopen, hfull, hpolicy]
  | displace hopen hfull hpolicy => simp [push, offer, hopen, hfull, hpolicy]
  | queue hopen hroom => simp [push, offer, hopen, hroom]

theorem push_of_room {q : Queue} (hopen : q.closed = false) (hroom : q.isFull = false)
    (e : Entry) : q.push e = (.queued, q.insert e) :=
  (show q.Decides e false .queued (q.insert e) from .queue hopen hroom).eq_push nofun

theorem push_of_full {q : Queue} {n : Nat} (hopen : q.closed = false) (hwithin : Within n q)
    (hpositive : 0 < n) (hfull : q.isFull = true) (e : Entry) :
    q.push e = (q.overflow.overrun,
      { q with entries := q.overflow.window n (q.entries ++ [e]) }) := by
  have hlength : q.entries.length = n := hwithin.isFull_iff.mp hfull
  have hfirst : (q.entries ++ [e]).take n = q.entries := by
    rw [← hlength, List.take_left]
  have hlatest : (q.entries ++ [e]).rtake n = q.entries.tail ++ [e] := by
    have hover : (q.entries ++ [e]).length - n = 1 := by
      rw [List.length_append, List.length_singleton]
      omega
    rw [List.rtake, hover, List.drop_append_of_le_length (by omega), List.drop_one]
  rcases q with ⟨capacity, policy, entries, closed⟩
  cases policy with
  | dropOldest =>
      rw [(Decides.displace hopen hfull rfl).eq_push nofun]
      exact congrArg (fun kept => (Push.displacedOldest, Queue.mk capacity _ kept closed))
        hlatest.symm
  | dropNewest =>
      have hdrop : Decides _ e false .dropped _ := .drop hopen hfull (Or.inr rfl)
      rw [hdrop.eq_push nofun]
      exact congrArg (fun kept => (Push.dropped, Queue.mk capacity _ kept closed)) hfirst.symm
  | block limit =>
      have hdrop : Decides _ e true .dropped _ := .drop hopen hfull (Or.inl rfl)
      rw [hdrop.eq_push fun _ => ⟨limit, rfl⟩]
      exact congrArg (fun kept => (Push.dropped, Queue.mk capacity _ kept closed)) hfirst.symm

/-!
## Pushes one after another
-/

theorem pushAll_of_unbounded {q : Queue} (hopen : q.closed = false) (hlimit : q.capacity = none)
    (pushed : List Entry) :
    q.pushAll pushed = (List.replicate pushed.length .queued,
      { q with entries := q.entries ++ pushed }) := by
  induction pushed generalizing q with
  | nil =>
      rw [pushAll_nil, List.append_nil]
      rfl
  | cons e rest ih =>
      have hroom : q.isFull = false := by simp [isFull, hlimit]
      have hrest := ih (q := q.insert e) hopen hlimit
      rw [pushAll_cons_of_push (push_of_room hopen hroom e), hrest]
      simp [insert, List.replicate_succ]

/-- A push leaves the window of what came, whether it finds room or not. -/
theorem push_of_within {q : Queue} {n : Nat} (hopen : q.closed = false) (hwithin : Within n q)
    (hpositive : 0 < n) (e : Entry) :
    q.push e = (if q.isFull then q.overflow.overrun else .queued,
      { q with entries := q.overflow.window n (q.entries ++ [e]) }) := by
  cases hfull : q.isFull with
  | true => exact push_of_full hopen hwithin hpositive hfull e
  | false =>
      have hfits : (q.entries ++ [e]).length ≤ n := by
        rw [List.length_append, List.length_singleton]
        exact hwithin.length_lt_of_room hfull
      rw [push_of_room hopen hfull, q.overflow.window_of_length_le hfits]
      rfl

theorem pushAll_of_within {q : Queue} {n : Nat} (hopen : q.closed = false)
    (hwithin : Within n q) (hpositive : 0 < n) (pushed : List Entry) :
    q.pushAll pushed =
      (List.replicate (pushed.length - (q.entries.length + pushed.length - n)) .queued ++
        List.replicate (q.entries.length + pushed.length - n) q.overflow.overrun,
      { q with entries := q.overflow.window n (q.entries ++ pushed) }) := by
  induction pushed generalizing q with
  | nil =>
      rw [List.append_nil, q.overflow.window_of_length_le hwithin.length_le]
      simp [Nat.sub_eq_zero_of_le hwithin.length_le]
  | cons e rest ih =>
      let next : Queue := { q with entries := q.overflow.window n (q.entries ++ [e]) }
      have hlength : next.entries.length = min n (q.entries.length + 1) := by
        rw [OverflowPolicy.length_window, List.length_append, List.length_singleton]
      have hnext : Within n next := ⟨hwithin.capacity, by omega⟩
      have hentries : q.overflow.window n (next.entries ++ rest) =
          q.overflow.window n (q.entries ++ e :: rest) := by
        rw [q.overflow.window_append, List.append_assoc, List.singleton_append]
      rw [pushAll_cons_of_push (push_of_within hopen hwithin hpositive e), ih (q := next) hopen hnext,
        hentries]
      congr 1
      have hbound := hwithin.length_le
      cases hfull : q.isFull with
      | true =>
          -- From here on no push fits any more.
          have hexact := hwithin.isFull_iff.mp hfull
          have hover : q.entries.length + (e :: rest).length - n = rest.length + 1 := by
            rw [List.length_cons]
            omega
          have hlater : next.entries.length + rest.length - n = rest.length := by omega
          rw [hover, hlater, List.length_cons, Nat.sub_self, Nat.sub_self, List.replicate_succ]
          rfl
      | false =>
          have hless := hwithin.length_lt_of_room hfull
          have hover : q.entries.length + (e :: rest).length - n =
              next.entries.length + rest.length - n := by
            rw [List.length_cons]
            omega
          have hfitting : (e :: rest).length - (next.entries.length + rest.length - n) =
              (rest.length - (next.entries.length + rest.length - n)) + 1 := by
            rw [List.length_cons]
            omega
          rw [hover, hfitting, List.replicate_succ]
          rfl

/-!
## Threads that push

A decision after a wait is the one that `push` comes to, since only a policy with a wait
lets a thread sleep.
-/

theorem Rules.overflow {q q' : Queue} {waited : Bool} {call : Call} {answer : Answer}
    (h : q.Rules waited call answer q') : q'.overflow = q.overflow := by
  cases h with
  | push hdecides => exact hdecides.overflow
  | take mode => exact overflow_take q mode
  | await _ | close => rfl

def Phase.slept? : Phase -> Option Call
  | .asleep call | .relocking call _ | .redeciding call _ => some call
  | .idle | .locking _ | .deciding _ | .notifying _ _ | .returned _ => none

theorem Phase.slept?_woken (phase : Phase) : phase.woken.slept? = phase.slept? := by
  cases phase <;> rfl

namespace Monitor

variable {m m' : Monitor}

/-- Whoever has slept in a push was let wait by the policy. -/
def WaitsByPolicy (m : Monitor) : Prop :=
  forall thread e, (m.phase thread).slept? = some (.push e) ->
    exists limit, m.queue.overflow = .block limit

theorem waitsByPolicy_start (q : Queue) (threads : Nat) : (start q threads).WaitsByPolicy := by
  intro thread e hslept
  rw [phase_start] at hslept
  cases hslept

theorem overflow_of_move {s : Step} (hmove : Move m s m') :
    m'.queue.overflow = m.queue.overflow := by
  cases hmove with
  | answer d hd =>
      rcases of_decision? hd with ⟨_, _, _, _, hrules⟩
      exact hrules.overflow
  | notify _ hdeliver => exact congrArg Queue.overflow (wakes_of_deliver hdeliver).queue
  | _ => rfl

theorem Shift.waitsByPolicy {thread : Nat} {phase' : Phase} (h : Shift m m' thread phase')
    (hwaits : m.WaitsByPolicy) (hoverflow : m'.queue.overflow = m.queue.overflow)
    (hself : forall e, phase'.slept? = some (.push e) ->
      exists limit, m.queue.overflow = .block limit) : m'.WaitsByPolicy := by
  intro other e hslept
  rw [hoverflow]
  by_cases hother : thread = other
  · apply hself e
    rwa [← hother, h.self] at hslept
  · apply hwaits other e
    rcases h.others other hother with hsame | hwoken
    · rwa [hsame] at hslept
    · rwa [hwoken, Phase.slept?_woken] at hslept

theorem Decides.block_of_sleep {thread : Nat} {e : Entry} {waited : Bool}
    (h : m.Decides thread (.push e) waited) (hwaits : m.WaitsByPolicy)
    (hnone : m.decision? (.decide thread) = none) :
    exists limit, m.queue.overflow = .block limit := by
  cases h with
  | again hphase => exact hwaits thread e (by rw [hphase]; rfl)
  | first hphase =>
      simp only [decision?, hphase, verdict, Option.map_eq_none_iff] at hnone
      cases hoffer : m.queue.offer e with
      | settled outcome q' => simp [hoffer] at hnone
      | blocked limit => exact ⟨limit, (offer_blocked hoffer).2.2⟩

theorem waitsByPolicy_of_move {s : Step} (hwaits : m.WaitsByPolicy) (hmove : Move m s m') :
    m'.WaitsByPolicy := by
  have hoverflow := overflow_of_move hmove
  cases hmove with
  | @call thread made hlt hout =>
      exact (shift_setPhase m.queue m.holder (.locking made) hlt).waitsByPolicy hwaits hoverflow
        nofun
  | @lock thread made _ hphase =>
      have hlt : thread < m.threads.length := lt_length_of_phase (by simp [hphase])
      exact (shift_setPhase m.queue (some thread) (.deciding made) hlt).waitsByPolicy hwaits
        hoverflow nofun
  | @relock thread made timedOut _ hphase =>
      have hlt : thread < m.threads.length := lt_length_of_phase (by simp [hphase])
      have hshift := shift_setPhase m.queue (some thread) (.redeciding made timedOut) hlt
      exact hshift.waitsByPolicy hwaits hoverflow fun e hslept =>
        hwaits thread e (by rw [hphase]; exact hslept)
  | answer d hd =>
      rcases of_decision? hd with ⟨_, _, waited, hdecides, _⟩
      exact (shift_setPhase d.after none _ hdecides.lt_length).waitsByPolicy hwaits hoverflow nofun
  | @sleep thread made waited hdecides hnone =>
      refine (shift_setPhase m.queue none (.asleep made) hdecides.lt_length).waitsByPolicy hwaits
        hoverflow fun e hslept => ?_
      have hmade : made = .push e := Option.some.inj hslept
      exact (hmade ▸ hdecides).block_of_sleep hwaits hnone
  | @notify thread reached signal rest answer next hphase hdeliver =>
      have hlt : thread < m.threads.length := lt_length_of_phase (by simp [hphase])
      exact ((wakes_of_deliver hdeliver).shift (.notifying rest answer) hlt).waitsByPolicy hwaits
        hoverflow nofun
  | @finish thread answer reached hphase =>
      have hlt : thread < m.threads.length := lt_length_of_phase (by simp [hphase])
      exact (shift_setPhase m.queue m.holder (.returned answer) hlt).waitsByPolicy hwaits hoverflow
        nofun
  | @timeout thread made hphase =>
      have hlt : thread < m.threads.length := by
        apply lt_length_of_phase
        rcases hphase with hphase | hphase <;> simp [hphase]
      refine (shift_setPhase m.queue m.holder (.relocking made true) hlt).waitsByPolicy hwaits
        hoverflow fun e hslept => hwaits thread e ?_
      rcases hphase with hphase | hphase <;> rw [hphase] <;> exact hslept
  | @wakeUp thread made hphase =>
      have hlt : thread < m.threads.length := lt_length_of_phase (by simp [hphase])
      have hshift := shift_setPhase m.queue m.holder (.relocking made false) hlt
      exact hshift.waitsByPolicy hwaits hoverflow fun e hslept =>
        hwaits thread e (by rw [hphase]; exact hslept)

/-- Nobody takes entries or closes the queue. -/
def Undisturbed (ds : List Decision) : Prop :=
  forall d, d ∈ ds -> d.call ≠ .close ∧ forall mode, d.call ≠ .take mode

theorem push_of_decision? {s : Step} {d : Decision} (hwaits : m.WaitsByPolicy)
    (hd : m.decision? s = some d) (honly : Undisturbed [d]) :
    d.pushed? = none ∧ d.after = m.queue ∨
      exists e outcome, d.pushed? = some (e, outcome) ∧ m.queue.push e = (outcome, d.after) := by
  rcases of_decision? hd with ⟨_, _, waited, hdecides, hrules⟩
  rcases honly d List.mem_cons_self with ⟨hclose, htake⟩
  rcases d with ⟨thread, call, answer, before, after⟩
  cases hrules with
  | take mode => exact absurd rfl (htake mode)
  | close => exact absurd rfl hclose
  | await timedOut => exact Or.inl ⟨rfl, rfl⟩
  | @push e outcome _ hqueue =>
      refine Or.inr ⟨e, outcome, rfl, hqueue.eq_push ?_⟩
      intro hwaited
      cases hdecides with
      | first _ => cases hwaited
      | again hphase => exact hwaits thread e (by rw [hphase]; rfl)

/-- As long as nothing is taken, the threads together do to the queue what the pushes do
that are made one after another, in the order in which they were decided. -/
theorem pushAll_of_run {steps : List Step} (hwaits : m.WaitsByPolicy)
    (hrun : m.run steps = some m') (honly : Undisturbed (m.history steps)) :
    m.queue.pushAll (((m.history steps).filterMap Decision.pushed?).map Prod.fst) =
      (((m.history steps).filterMap Decision.pushed?).map Prod.snd, m'.queue) := by
  induction steps generalizing m with
  | nil =>
      cases hrun
      rfl
  | cons s rest ih =>
      rcases exists_of_run_cons hrun with ⟨next, hmove, hrest, hhistory⟩
      rw [hhistory] at honly ⊢
      have hlater := ih (waitsByPolicy_of_move hwaits hmove) hrest fun d hd =>
        honly d (List.mem_append_right _ hd)
      have hlinked := linked_of_move hmove
      cases hd : m.decision? s with
      | none =>
          rw [hd] at hlinked
          have hsame : next.queue = m.queue := hlinked
          rw [← hsame]
          exact hlater
      | some d =>
          rw [hd] at hlinked honly
          have hafter : next.queue = d.after := hlinked.2
          have hfirst : Undisturbed [d] := fun d' hd' =>
            honly d' (List.mem_append_left _ hd')
          rcases push_of_decision? hwaits hd hfirst with
            ⟨hnone, hsame⟩ | ⟨e, outcome, hpushed, hpush⟩
          · rw [Option.toList_some, List.singleton_append, List.filterMap_cons_none hnone,
              ← hsame, ← hafter]
            exact hlater
          · rw [Option.toList_some, List.singleton_append, List.filterMap_cons_some hpushed,
              List.map_cons, List.map_cons, pushAll_cons_of_push hpush, ← hafter, hlater]

/-- Pushed on an open queue one after another, entries leave it with the last ones of all if
the oldest give way, with the first ones if the new ones are discarded, and with all of them
if there is no limit; the pushes that displaced an entry or were discarded are the last ones,
as many as did not fit.  Threads that push at the same time come to the same answers and to
the same queue, in the order in which they were decided. -/
theorem overflow_window (q : Queue) (hopen : q.closed = false) :
    (forall pushed : List Entry,
      (q.capacity = none ->
        q.pushAll pushed =
          (List.replicate pushed.length .queued, { q with entries := q.entries ++ pushed })) ∧
      forall c, q.capacity = some c -> 1 ≤ c -> q.entries.length ≤ c ->
        let surplus := q.entries.length + pushed.length - c
        surplus ≤ pushed.length ∧
        (q.overflow = .dropOldest ->
          q.pushAll pushed =
            (List.replicate (pushed.length - surplus) .queued ++
              List.replicate surplus .displacedOldest,
              { q with entries := (q.entries ++ pushed).rtake c }) ∧
          forall answer, answer ∈ (q.pushAll pushed).1 -> answer.isAccepted = true) ∧
        (q.overflow = .dropNewest ∨ (exists limit, q.overflow = .block limit) ->
          q.pushAll pushed =
            (List.replicate (pushed.length - surplus) .queued ++ List.replicate surplus .dropped,
              { q with entries := (q.entries ++ pushed).take c }))) ∧
    forall (threads : Nat) (steps : List Step) (m : Monitor),
      (start q threads).run steps = some m ->
      Undisturbed ((start q threads).history steps) ->
      let made := ((start q threads).history steps).filterMap Decision.pushed?
      q.pushAll (made.map Prod.fst) = (made.map Prod.snd, m.queue) := by
  refine ⟨?_, ?_⟩
  · intro pushed
    refine ⟨fun hlimit => pushAll_of_unbounded hopen hlimit pushed, ?_⟩
    intro c hcapacity hpositive hlength surplus
    have hwindow := pushAll_of_within hopen ⟨hcapacity, hlength⟩ hpositive pushed
    refine ⟨by omega, ?_, ?_⟩
    · intro hpolicy
      have hoverrun : q.overflow.overrun = .displacedOldest := by rw [hpolicy]; rfl
      have hentries : q.overflow.window c (q.entries ++ pushed) = (q.entries ++ pushed).rtake c := by
        rw [hpolicy]; rfl
      rw [hoverrun, hentries] at hwindow
      refine ⟨hwindow, ?_⟩
      rw [hwindow]
      intro answer hanswer
      rcases List.mem_append.mp hanswer with hfits | hdisplaces
      · rw [List.eq_of_mem_replicate hfits]
        rfl
      · rw [List.eq_of_mem_replicate hdisplaces]
        rfl
    · intro hpolicy
      have hoverrun : q.overflow.overrun = .dropped := by
        rcases hpolicy with hpolicy | ⟨limit, hpolicy⟩ <;> rw [hpolicy] <;> rfl
      have hentries : q.overflow.window c (q.entries ++ pushed) = (q.entries ++ pushed).take c := by
        rcases hpolicy with hpolicy | ⟨limit, hpolicy⟩ <;> rw [hpolicy] <;> rfl
      rw [hoverrun, hentries] at hwindow
      exact hwindow
  · intro threads steps m hrun honly
    exact pushAll_of_run (waitsByPolicy_start q threads) hrun honly

def packedSteps : List Step :=
  [.call 0 (.push "b"), .call 1 (.push "c"), .acquire 0, .decide 0, .acquire 1, .decide 1,
    .wakeUp 1, .acquire 1, .decide 1, .timeout 1, .acquire 1, .decide 1]

theorem overflow_window_packed :
    pushAll { capacity := some 3, overflow := .dropOldest, entries := ["a", "b"] }
        ["c", "d", "e"] =
      ([.queued, .displacedOldest, .displacedOldest],
        { capacity := some 3, overflow := .dropOldest, entries := ["c", "d", "e"] }) ∧
    let q : Queue :=
      { capacity := some 2
        overflow := .block OverflowPolicy.defaultLimit
        entries := ["a"] }
    exists m, (start q 2).run packedSteps = some m ∧ m.queue.entries = ["a", "b"] ∧
      q.pushAll ["b", "c"] = ([.queued, .dropped], m.queue) := by
  constructor
  · have hwindow := (overflow_window
      { capacity := some 3, overflow := .dropOldest, entries := ["a", "b"] } rfl).1 ["c", "d", "e"]
    exact ((hwindow.2 3 rfl (by decide) (by decide)).2.1 rfl).1
  · intro q
    let last := ((start q 2).run packedSteps).get (by decide)
    have hrun : (start q 2).run packedSteps = some last := (Option.some_get _).symm
    have honly : Undisturbed ((start q 2).history packedSteps) := by
      have hcalls : ((start q 2).history packedSteps).map Decision.call =
          [.push "b", .push "c"] := by decide
      intro d hd
      have hcall : d.call ∈ [Call.push "b", .push "c"] := by
        rw [← hcalls]
        exact List.mem_map_of_mem hd
      rcases List.mem_pair.mp hcall with hcall | hcall
      · rw [hcall]
        exact ⟨by simp, by simp⟩
      · rw [hcall]
        exact ⟨by simp, by simp⟩
    have hmade : ((start q 2).history packedSteps).filterMap Decision.pushed? =
        [("b", .queued), ("c", .dropped)] := by decide
    have hall := (overflow_window q rfl).2 2 packedSteps last hrun honly
    rw [hmade] at hall
    exact ⟨last, hrun, by decide, hall⟩

end Monitor

end Queue

end AsyncLog
