import AsyncLog.Config.Basic
import AsyncLog.Text.Blank
import AsyncLog.Text.Numeral
/-!
# Settings from environment variables

Every variable is optional.  A value that is not text counts as missing; one
that does not parse, after the blanks around it are taken away, is reported and
otherwise ignored.
-/

namespace AsyncLog

def Environment : Type := String -> Option (List UInt8)

namespace Environment

def empty : Environment := fun _ => none

def set (env : Environment) (name : String) (value : List UInt8) : Environment :=
  fun other => if other = name then some value else env other

def unset (env : Environment) (name : String) : Environment :=
  fun other => if other = name then none else env other

def text? (env : Environment) (name : String) : Option String :=
  match env name with
  | none => none
  | some bytes => String.fromUTF8? ⟨bytes.toArray⟩

end Environment

inductive Variable where
  | capacity
  | overflow
  | blockMillis
  | openMode
  | pollMillis
  | drainMode
  | writeRetries
  | retryBackoffMillis
  deriving DecidableEq, Repr

def Variable.name : Variable -> String
  | .capacity => "BOTLOG_CAPACITY"
  | .overflow => "BOTLOG_OVERFLOW"
  | .blockMillis => "BOTLOG_BLOCK_MS"
  | .openMode => "BOTLOG_MODE"
  | .pollMillis => "BOTLOG_POLL_MS"
  | .drainMode => "BOTLOG_DRAIN"
  | .writeRetries => "BOTLOG_WRITE_RETRIES"
  | .retryBackoffMillis => "BOTLOG_RETRY_BACKOFF_MS"

inductive ValueError where
  | keyword (error : KeywordError)
  | numeral (error : Text.NumeralError)
  deriving DecidableEq, Repr

def ValueError.message : ValueError -> String
  | .keyword error => error.message
  | .numeral error => error.message

structure IgnoredValue where
  key : Variable
  raw : String
  cause : ValueError
  deriving DecidableEq, Repr

/-- A setting that was looked for, and the values that were ignored on the way. -/
structure Reading (α : Type) where
  value : Option α
  ignored : List IgnoredValue

namespace Reading

def map (f : α -> β) (r : Reading α) : Reading β :=
  { value := r.value.map f, ignored := r.ignored }

end Reading

/-!
## Reading one variable
-/

namespace Environment

def read (env : Environment) (v : Variable)
    (parse : List Char -> Except ValueError α) : Reading α :=
  match env.text? v.name with
  | none => { value := none, ignored := [] }
  | some raw =>
      match parse (Text.trim raw.toList) with
      | .ok a => { value := some a, ignored := [] }
      | .error cause => { value := none, ignored := [{ key := v, raw, cause }] }

def number (limit : Nat) (text : List Char) : Except ValueError Nat :=
  (Text.readNumeral limit text).mapError .numeral

def readMillis (env : Environment) (v : Variable) : Reading Duration :=
  (env.read v (number UInt64.size)).map fun ms => Duration.ofMillis (UInt64.ofNat ms)

def readCapacity (env : Environment) : Reading Capacity :=
  match env.text? Variable.capacity.name with
  | none => { value := none, ignored := [] }
  | some raw =>
      if Text.eqIgnoringCase (Text.trim raw.toList) "unbounded".toList then
        { value := some .unbounded, ignored := [] }
      else
        (env.read .capacity (number UInt64.size)).map .bounded

/-- The overflow policy.  The wait of a blocking policy has a variable of its
own, which is looked at as soon as there is a policy. -/
def readOverflow (env : Environment) : Reading OverflowPolicy :=
  let policy := env.read .overflow fun text => (OverflowPolicy.ofKeyword text).mapError .keyword
  match policy.value with
  | none => policy
  | some chosen =>
      let limit := env.readMillis .blockMillis
      let value :=
        match chosen, limit.value with
        | .block _, some wait => .block wait
        | other, _ => other
      { value := some value, ignored := policy.ignored ++ limit.ignored }

end Environment

/-!
## Reading all settings
-/

/-- The builder that an environment asks for, and every value that was ignored,
in the order in which the variables are read. -/
def Builder.ofEnvironment (env : Environment) : Builder × List IgnoredValue :=
  let capacity := env.readCapacity
  let overflow := env.readOverflow
  let openMode := env.read .openMode fun text => (OpenMode.ofKeyword text).mapError .keyword
  let pollInterval := env.readMillis .pollMillis
  let drainMode := env.read .drainMode fun text => (DrainMode.ofKeyword text).mapError .keyword
  let writeRetries := (env.read .writeRetries (Environment.number UInt32.size)).map UInt32.ofNat
  let retryBackoff := env.readMillis .retryBackoffMillis
  ({ openMode := openMode.value
     pollInterval := pollInterval.value
     capacity := capacity.value.getD ({} : Builder).capacity
     overflow := overflow.value
     drainMode := drainMode.value
     writeRetries := writeRetries.value
     retryBackoff := retryBackoff.value },
   capacity.ignored ++ overflow.ignored ++ openMode.ignored ++ pollInterval.ignored ++
     drainMode.ignored ++ writeRetries.ignored ++ retryBackoff.ignored)

end AsyncLog
