import AsyncLog.Text.Control
/-!
# Structured events

An event has a level, the place it comes from, a message and named fields.  In
a log it is one line behind a time stamp, and its message has the controls that
a terminal obeys spelled out.
-/

namespace AsyncLog

inductive Level where
  | error
  | warn
  | info
  | debug
  | trace
  deriving DecidableEq, Repr

namespace Level

def rank : Level -> Nat
  | .error => 1
  | .warn => 2
  | .info => 3
  | .debug => 4
  | .trace => 5

def admits (listener event : Level) : Bool :=
  event.rank ≤ listener.rank

def name : Level -> String
  | .error => "ERROR"
  | .warn => "WARN"
  | .info => "INFO"
  | .debug => "DEBUG"
  | .trace => "TRACE"

end Level

/-- The value of a field: numbers and flags by their text, text in quotes, and
text that is already as it should be shown. -/
inductive FieldValue where
  | int (n : Int)
  | flag (b : Bool)
  | quoted (text : String)
  | shown (text : String)
  deriving DecidableEq, Repr

def FieldValue.text : FieldValue -> String
  | .int n => toString n
  | .flag b => if b then "true" else "false"
  | .quoted text => Text.quote text
  | .shown text => text

structure Field where
  name : String
  value : FieldValue
  deriving DecidableEq, Repr

def Field.text (f : Field) : String :=
  f.name ++ "=" ++ f.value.text

structure Event where
  level : Level
  span : Option String := none
  target : String
  message : String
  fields : List Field := []
  deriving DecidableEq, Repr

namespace Event

def alignedName (l : Level) : String :=
  String.ofList (List.replicate (5 - l.name.length) ' ') ++ l.name

def line (e : Event) (stamp : String) : String :=
  let span :=
    match e.span with
    | none => ""
    | some name => name ++ ": "
  stamp ++ " " ++ alignedName e.level ++ " " ++ span ++ e.target ++ ": " ++
    " ".intercalate (Text.spellControls e.message :: e.fields.map Field.text) ++ "\n"

end Event

end AsyncLog
