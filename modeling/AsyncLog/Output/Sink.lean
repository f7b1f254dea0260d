import AsyncLog.Output.Retry
/-!
# The sink of a writer

An output together with the rule for repeating failed calls.  An entry is
written in as many calls as the output needs, each of which offers what was not
taken yet, and each piece and each flush is an operation of its own.
-/

namespace AsyncLog

structure Sink where
  rule : RetryRule
  output : Output

namespace Sink

/-- Write bytes to an output; nothing is called if there are none. -/
def writeBytes (rule : RetryRule) (bytes : List UInt8) (output : Output) :
    Reply Unit × Output × List Happening :=
  if _hne : bytes = [] then
    (.ok (), output, [])
  else
    match persist rule.retries (Output.write bytes) (.fresh rule) output with
    | (.ok taken, output', happened) =>
        let (reply, output'', later) := writeBytes rule (bytes.drop taken.val) output'
        (reply, output'', happened ++ later)
    | (.error e, output', happened) => (.error e, output', happened)
    | (.panic, output', happened) => (.panic, output', happened)
termination_by bytes.length
decreasing_by
  rw [List.length_drop]
  exact Nat.sub_lt (List.length_pos_iff.mpr _hne) taken.property

def write (s : Sink) (bytes : List UInt8) : Reply Unit × Sink × List Happening :=
  let (reply, output, happened) := writeBytes s.rule bytes s.output
  (reply, { s with output }, happened)

def flush (s : Sink) : Reply Unit × Sink × List Happening :=
  let (reply, output, happened) := persist s.rule.retries Output.flush (.fresh s.rule) s.output
  (reply, { s with output }, happened)

end Sink

end AsyncLog
