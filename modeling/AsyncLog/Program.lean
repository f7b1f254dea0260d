import AsyncLog.Files.Descriptor
import AsyncLog.Moment
import AsyncLog.Writer.Schedule
/-!
# A program with log files

A program opens log files one after the other and raises events.  At most once
it installs a listener: from then on the events of the whole program, and the
diagnostics of all its writers, become entries of one of its log files.

Every log file that could be opened gets its thread: that the system refuses one,
which would leave the file behind with no writer, is left out.
-/

namespace AsyncLog

inductive OpenError where
  | alreadyListening
  | directory (path : String) (cause : IoError)
  | file (path : String) (cause : IoError)
  deriving DecidableEq, Repr

namespace OpenError

def cause? : OpenError -> Option IoError
  | .alreadyListening => none
  | .directory _ cause | .file _ cause => some cause

def message : OpenError -> String
  | .alreadyListening => "a global tracing subscriber is already set"
  | .directory path cause => "could not create log directory " ++ path ++ ": " ++ cause.message
  | .file path cause => "could not open log file " ++ path ++ ": " ++ cause.message

end OpenError

structure LogFile where
  path : String
  descriptor : Files.Descriptor
  writer : Writer

namespace LogFile

def opened (t : Files.Tree) (path : String) (config : Config) (producers : Nat) :
    Except IoError (LogFile × Files.Tree) :=
  match t.openLog path config.openMode with
  | .error cause => .error cause
  | .ok (descriptor, t) =>
      .ok ({ path, descriptor, writer := .start config (t.script descriptor) producers }, t)

def advance (log : LogFile) (t : Files.Tree) (next : Writer) : LogFile × Files.Tree :=
  let (descriptor, t) := t.write log.descriptor
    (received ((next.happenedSince log.writer).filterMap Happening.call?))
  ({ log with writer := next, descriptor }, t)

end LogFile

/-- The files, the log files in the order in which they were opened, the number
of the one that listens, and all diagnostics so far, the latest first. -/
structure Program where
  files : Files.Tree := .fresh
  now : Moment
  logs : List LogFile := []
  listener : Option Nat := none
  reported : List Diagnostic := []

namespace Program

def diagnostics (p : Program) : List Diagnostic :=
  p.reported.reverse

def mainThread : Nat := 0

/-!
## Writers at work

Whatever a writer does, the bytes that its output took go to the file, and its
diagnostics are kept.
-/

def advance (p : Program) (number : Nat) (log : LogFile) (next : Writer) : Program :=
  let reports := (next.happenedSince log.writer).filterMap Happening.report?
  let (log, files) := log.advance p.files next
  { p with
    files
    logs := p.logs.set number log
    reported := reports.reverse ++ p.reported }

def onListener (p : Program) (work : Writer -> Writer) : Program :=
  match p.listener with
  | none => p
  | some number =>
      match p.logs[number]? with
      | none => p
      | some log => p.advance number log (work log.writer)

def raise (p : Program) (e : Event) : Program :=
  p.onListener fun w => w.raise mainThread e

/-- A diagnostic of another writer reaches the listener: one from a thread that
is writing to an output only counts as rejected there. -/
def forward (p : Program) (d : Diagnostic) : Program :=
  if d.whileDraining then p.onListener fun w => w.refuse d
  else p.raise d.event

def report (p : Program) (d : Diagnostic) : Program :=
  { p with reported := d :: p.reported }.forward d

/-- Let the writer of a log file do something, and the listener hear about it.  The
listener's own diagnostics are the business of its writer. -/
def work (p : Program) (number : Nat) (log : LogFile) (next : Writer) : Program :=
  let p' := p.advance number log next
  if p.listener = some number then p'
  else
    let fresh := p'.reported.take (p'.reported.length - p.reported.length)
    fresh.reverse.foldl forward p'

def rest (p : Program) : Program :=
  (List.range p.logs.length).foldl
    (fun p number =>
      match p.logs[number]? with
      | none => p
      | some log => p.work number log (log.writer.settle false)) p

/-!
## Calls

One thread makes all calls of a program, and each of them is over before anything
else happens.  So no room comes free while an append waits for it: it waits until its
time runs out.  What comes of any other order of steps is a matter of the writer.
-/

def openLog (p : Program) (path : String) (config : Config) : Except OpenError Nat × Program :=
  let p := p.report (.openingOutput path config)
  match LogFile.opened p.files path config 1 with
  | .error cause => (.error (.file path cause), p)
  | .ok (log, files) => (.ok p.logs.length, { p with files, logs := p.logs ++ [log] })

/-- Open a log file in a directory, which is made if need be, and let it listen;
this is refused if there is a listener. -/
def installListener (p : Program) (directory : String) (level : Level) (config : Config) :
    Except OpenError String × Program :=
  if p.listener.isSome then (.error .alreadyListening, p)
  else
    match p.files.makeDirectoriesAt directory with
    | (.error cause, files) => (.error (.directory directory cause), { p with files })
    | (.ok (), files) =>
        let path := Files.Path.join directory (p.now.logName "bot")
        match { p with files }.openLog path config with
        | (.error e, p) => (.error e, p)
        | (.ok number, p) =>
            let p := { p with listener := some number }
            (.ok path, p.onListener fun w => w.listen { level, stamp := p.now.lineStamp })

def append (p : Program) (number : Nat) (e : Entry) : Program :=
  match p.logs[number]? with
  | none => p
  | some log => p.work number log (log.writer.append mainThread e)

def shutDown (p : Program) (number : Nat) : Option Writer.Farewell × Program :=
  match p.logs[number]? with
  | none => (none, p)
  | some log =>
      let (farewell, next) := log.writer.shutDown
      (some farewell, p.work number log next)

def shutDownAll (p : Program) : Program :=
  (List.range p.logs.length).foldl (fun p number => (p.shutDown number).2) p

def readEnvironment (p : Program) (env : Environment) : Builder × Program :=
  let (builder, ignored) := Builder.ofEnvironment env
  (builder, ignored.foldl (fun p value => p.report (.valueIgnored value)) p)

end Program

end AsyncLog
