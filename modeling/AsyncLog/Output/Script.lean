import AsyncLog.Output.Error
/-!
# Outputs

An output answers write calls and flush calls.  How it answers is given by a
script, a response for every call number, so that an output may take everything,
take a part, claim more than it was offered, fail or panic in any order.
-/

namespace AsyncLog

inductive WriteResponse where
  | all
  | atMost (limit : Nat)
  | beyond (extra : Nat)
  | fails (error : IoError)
  | panics
  deriving DecidableEq, Repr

inductive FlushResponse where
  | done
  | fails (error : IoError)
  | panics
  deriving DecidableEq, Repr

namespace WriteResponse

def taken (r : WriteResponse) (offered : List UInt8) : List UInt8 :=
  match r with
  | .all | .beyond _ => offered
  | .atMost limit => offered.take limit
  | .fails _ | .panics => []

def claimed? (r : WriteResponse) (offered : List UInt8) : Option Nat :=
  match r with
  | .all => some offered.length
  | .beyond extra => some (offered.length + extra)
  | .atMost limit => some (min limit offered.length)
  | .fails _ | .panics => none

/-- The output takes what it says it takes, and nothing if it fails. -/
def isHonest : WriteResponse -> Bool
  | .all | .atMost _ | .fails _ => true
  | .beyond _ | .panics => false

end WriteResponse

/-- The responses of an output to its write calls and to its flush calls, each
by the number of the call. -/
structure Script where
  write : Nat -> WriteResponse
  flush : Nat -> FlushResponse

structure Script.IsHonest (script : Script) : Prop where
  write : forall call, (script.write call).isHonest = true
  flush : forall call, script.flush call ≠ .panics

def Script.obliging : Script where
  write := fun _ => .all
  flush := fun _ => .done

inductive Call where
  | write (offered : List UInt8) (response : WriteResponse)
  | flush (response : FlushResponse)
  deriving DecidableEq, Repr

def Call.taken : Call -> List UInt8
  | .write offered response => response.taken offered
  | .flush _ => []

def received (calls : List Call) : List UInt8 :=
  calls.flatMap Call.taken

@[simp] theorem received_nil : received [] = [] := rfl

@[simp] theorem received_cons (c : Call) (calls : List Call) :
    received (c :: calls) = c.taken ++ received calls := by
  simp [received]

@[simp] theorem received_append (first second : List Call) :
    received (first ++ second) = received first ++ received second := by
  simp [received]

/-!
## Single calls

A call tells its caller a value, an error, or nothing at all because it panics.
-/

inductive Reply (α : Type) where
  | ok (value : α)
  | error (e : IoError)
  | panic
  deriving DecidableEq, Repr

structure Output where
  script : Script
  writes : Nat := 0
  flushes : Nat := 0

namespace Output

/-- The reply to a write of some bytes: how many were taken, at least one.  To
take none of them is an error. -/
def replyTo (offered : List UInt8) (response : WriteResponse) : Reply { n : Nat // 0 < n } :=
  match response with
  | .fails e => .error e
  | .panics => .panic
  | .all | .beyond _ | .atMost _ =>
      let claimed := (response.claimed? offered).getD 0
      if h : 0 < claimed then .ok ⟨claimed, h⟩ else .error (.plain .writeZero)

def write (offered : List UInt8) (o : Output) : Reply { n : Nat // 0 < n } × Call × Output :=
  let response := o.script.write o.writes
  (replyTo offered response, .write offered response, { o with writes := o.writes + 1 })

def flush (o : Output) : Reply Unit × Call × Output :=
  let response := o.script.flush o.flushes
  let reply :=
    match response with
    | .done => .ok ()
    | .fails e => .error e
    | .panics => .panic
  (reply, .flush response, { o with flushes := o.flushes + 1 })

end Output

end AsyncLog
