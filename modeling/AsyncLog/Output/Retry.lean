import AsyncLog.Output.Script
import AsyncLog.Report.Diagnostic
/-!
# Repeating failed calls

One operation on the output is repeated until a call succeeds or the operation
is given up.  The first sixteen interrupted calls of an operation are repeated
at once.  Every other failed call uses up one of the allowed retries and is
repeated after a pause, which doubles each time.
-/

namespace AsyncLog

structure RetryRule where
  retries : UInt32
  backoff : Duration
  deriving DecidableEq

def Config.retryRule (c : Config) : RetryRule where
  retries := c.writeRetries
  backoff := c.retryBackoff

/-- What a thread does at the output: it calls, reports, and pauses. -/
inductive Happening where
  | called (call : Call)
  | reported (diagnostic : Diagnostic)
  | paused (duration : Duration)
  deriving DecidableEq

namespace Happening

def call? : Happening -> Option Call
  | .called call => some call
  | _ => none

def report? : Happening -> Option Diagnostic
  | .reported diagnostic => some diagnostic
  | _ => none

def pause? : Happening -> Option Duration
  | .paused duration => some duration
  | _ => none

end Happening

/-- How far the repetition of one operation has come. -/
structure Effort where
  attempts : UInt32
  interrupts : UInt32
  delay : Duration
  deriving DecidableEq

namespace Effort

/-- Interrupted calls of one operation that are repeated at once. -/
def interruptAllowance : UInt32 := 16

def fresh (rule : RetryRule) : Effort where
  attempts := 0
  interrupts := 0
  delay := rule.backoff

/-- After a failed call: the effort with which to call again and what happens
before that, or nothing if the operation is given up. -/
def afterError (retries : UInt32) (f : Effort) (e : IoError) :
    Option (Effort × List Happening) :=
  if e.isInterrupted && f.interrupts < interruptAllowance then
    some ({ f with interrupts := f.interrupts + 1 }, [])
  else if retries ≤ f.attempts then
    none
  else
    some ({ f with attempts := f.attempts + 1, delay := f.delay.double },
      [.reported (.retrying (f.attempts + 1) e), .paused f.delay])

/-- The number of calls that may still fail without the operation being given up. -/
def budget (retries : UInt32) (f : Effort) : Nat :=
  (retries.toNat - f.attempts.toNat) + (interruptAllowance.toNat - f.interrupts.toNat)

theorem toNat_succ_of_lt {a b : UInt32} (h : a < b) : (a + 1).toNat = a.toNat + 1 := by
  have ha : a.toNat < b.toNat := UInt32.lt_iff_toNat_lt.mp h
  have hb : b.toNat < 2 ^ 32 := b.toNat_lt
  simp only [UInt32.toNat_add, UInt32.reduceToNat]
  omega

theorem budget_afterError {retries : UInt32} {f f' : Effort} {e : IoError} {hs : List Happening}
    (h : f.afterError retries e = some (f', hs)) : f'.budget retries < f.budget retries := by
  unfold afterError at h
  split at h
  · rename_i hcond
    simp only [Bool.and_eq_true, decide_eq_true_eq] at hcond
    have hsucc := toNat_succ_of_lt hcond.2
    have hlt : f.interrupts.toNat < interruptAllowance.toNat := UInt32.lt_iff_toNat_lt.mp hcond.2
    simp only [Option.some.injEq, Prod.mk.injEq] at h
    rw [← h.1]
    simp only [budget, hsucc]
    omega
  · split at h
    · cases h
    · rename_i hge
      have hlt : f.attempts < retries := UInt32.not_le.mp hge
      have hsucc := toNat_succ_of_lt hlt
      have hlt' : f.attempts.toNat < retries.toNat := UInt32.lt_iff_toNat_lt.mp hlt
      simp only [Option.some.injEq, Prod.mk.injEq] at h
      rw [← h.1]
      simp only [budget, hsucc]
      omega

end Effort

/-!
## Whole operations
-/

/-- Call until a call succeeds or panics, or the operation is given up with the
error of its last call. -/
def persist (retries : UInt32) (call : σ -> Reply α × Call × σ) (effort : Effort) (s : σ) :
    Reply α × σ × List Happening :=
  match call s with
  | (.ok a, made, s') => (.ok a, s', [.called made])
  | (.panic, made, s') => (.panic, s', [.called made])
  | (.error e, made, s') =>
      match _h : effort.afterError retries e with
      | none => (.error e, s', [.called made])
      | some (effort', between) =>
          let (reply, s'', later) := persist retries call effort' s'
          (reply, s'', .called made :: between ++ later)
termination_by effort.budget retries
decreasing_by exact Effort.budget_afterError _h

end AsyncLog
