import AsyncLog.Queue.Basic
/-!
# Decisions of the queue

What the queue can answer to a push, and under which conditions.  A push decides
when it arrives and, if it has to wait for room, once more after the wait; both
decisions are of the four kinds given here.
-/

namespace AsyncLog

@[simp] theorem Push.isAccepted_queued : Push.queued.isAccepted = true := rfl

@[simp] theorem Push.isAccepted_displacedOldest : Push.displacedOldest.isAccepted = true := rfl

@[simp] theorem Push.isAccepted_dropped : Push.dropped.isAccepted = false := rfl

@[simp] theorem Push.isAccepted_rejected : Push.rejected.isAccepted = false := rfl

/-- A decision about an entry: the answer and the queue after it.  An entry that
has waited for room is discarded under any policy if there is still none. -/
inductive Queue.Decides (q : Queue) (e : Entry) : (waited : Bool) -> Push -> Queue -> Prop where
  | reject {waited : Bool} : q.closed = true -> Decides q e waited .rejected q
  | drop {waited : Bool} : q.closed = false -> q.isFull = true ->
      waited = true ∨ q.overflow = .dropNewest -> Decides q e waited .dropped q
  | displace : q.closed = false -> q.isFull = true -> q.overflow = .dropOldest ->
      Decides q e false .displacedOldest (q.displaceOldest e)
  | queue {waited : Bool} : q.closed = false -> q.isFull = false ->
      Decides q e waited .queued (q.insert e)

namespace Queue

namespace Decides

variable {q q' : Queue} {e : Entry} {waited : Bool} {outcome : Push}

theorem capacity (h : q.Decides e waited outcome q') : q'.capacity = q.capacity := by
  cases h <;> rfl

theorem overflow (h : q.Decides e waited outcome q') : q'.overflow = q.overflow := by
  cases h <;> rfl

theorem closed (h : q.Decides e waited outcome q') : q'.closed = q.closed := by
  cases h <;> rfl

theorem of_closed (h : q.Decides e waited outcome q') (hclosed : q.closed = true) :
    outcome = .rejected ∧ q' = q := by
  cases h with
  | reject _ => exact ⟨rfl, rfl⟩
  | drop hopen _ _ => simp [hclosed] at hopen
  | displace hopen _ _ => simp [hclosed] at hopen
  | queue hopen _ => simp [hclosed] at hopen

theorem closed_of_rejected (h : q.Decides e waited .rejected q') : q.closed = true := by
  cases h with
  | reject hclosed => exact hclosed

end Decides

theorem decides_of_offer_settled {q q' : Queue} {e : Entry} {outcome : Push}
    (h : q.offer e = .settled outcome q') : q.Decides e false outcome q' := by
  unfold offer at h
  cases hclosed : q.closed with
  | true =>
      simp only [hclosed, if_true, Offer.settled.injEq] at h
      rw [← h.1, ← h.2]
      exact .reject hclosed
  | false =>
      cases hfull : q.isFull with
      | false =>
          simp only [hclosed, hfull, Bool.false_eq_true, if_false, Offer.settled.injEq] at h
          rw [← h.1, ← h.2]
          exact .queue hclosed hfull
      | true =>
          cases hpolicy : q.overflow with
          | dropOldest =>
              simp only [hclosed, hfull, hpolicy, Bool.false_eq_true, if_false, if_true,
                Offer.settled.injEq] at h
              rw [← h.1, ← h.2]
              exact .displace hclosed hfull hpolicy
          | dropNewest =>
              simp only [hclosed, hfull, hpolicy, Bool.false_eq_true, if_false, if_true,
                Offer.settled.injEq] at h
              rw [← h.1, ← h.2]
              exact .drop hclosed hfull (Or.inr hpolicy)
          | block limit =>
              simp [hclosed, hfull, hpolicy] at h

theorem decides_reoffer (q : Queue) (e : Entry) :
    q.Decides e true (q.reoffer e).1 (q.reoffer e).2 := by
  unfold reoffer
  cases hclosed : q.closed with
  | true => exact .reject hclosed
  | false =>
      cases hfull : q.isFull with
      | true => exact .drop hclosed hfull (Or.inl rfl)
      | false => exact .queue hclosed hfull

theorem offer_blocked {q : Queue} {e : Entry} {limit : Duration}
    (h : q.offer e = .blocked limit) :
    q.closed = false ∧ q.isFull = true ∧ q.overflow = .block limit := by
  unfold offer at h
  cases hclosed : q.closed with
  | true => simp [hclosed] at h
  | false =>
      cases hfull : q.isFull with
      | false => simp [hclosed, hfull] at h
      | true =>
          cases hpolicy : q.overflow with
          | dropOldest | dropNewest => simp [hclosed, hfull, hpolicy] at h
          | block other =>
              simp only [hclosed, hfull, hpolicy, Bool.false_eq_true, if_false, if_true,
                Offer.blocked.injEq] at h
              rw [h]
              exact ⟨rfl, rfl, rfl⟩

theorem entries_ne_nil_of_full {q : Queue} (hcapacity : q.capacity ≠ some 0)
    (hfull : q.isFull = true) : q.entries ≠ [] := by
  unfold isFull at hfull
  cases hlimit : q.capacity with
  | none => simp [hlimit] at hfull
  | some n =>
      intro hempty
      have hzero : n = 0 := by simpa [hlimit, hempty] using hfull
      exact hcapacity (by rw [hlimit, hzero])

@[simp] theorem capacity_take (q : Queue) (mode : DrainMode) :
    (q.take mode).2.capacity = q.capacity := by
  cases mode <;> rfl

@[simp] theorem overflow_take (q : Queue) (mode : DrainMode) :
    (q.take mode).2.overflow = q.overflow := by
  cases mode <;> rfl

@[simp] theorem closed_take (q : Queue) (mode : DrainMode) :
    (q.take mode).2.closed = q.closed := by
  cases mode <;> rfl

end Queue

end AsyncLog
