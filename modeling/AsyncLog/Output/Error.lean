/-!
# Errors of outputs and files

An error has a kind, which decides how it is handled, and a text.  Errors that
come from the system carry their number in the text.
-/

namespace AsyncLog

inductive ErrorKind where
  | notFound
  | permissionDenied
  | alreadyExists
  | wouldBlock
  | notADirectory
  | isADirectory
  | filesystemLoop
  | invalidFilename
  | invalidInput
  | brokenPipe
  | timedOut
  | interrupted
  | writeZero
  | storageFull
  | other
  deriving DecidableEq, Repr

def ErrorKind.text : ErrorKind -> String
  | .notFound => "entity not found"
  | .permissionDenied => "permission denied"
  | .alreadyExists => "entity already exists"
  | .wouldBlock => "operation would block"
  | .notADirectory => "not a directory"
  | .isADirectory => "is a directory"
  | .filesystemLoop => "filesystem loop or indirection limit (e.g. symlink loop)"
  | .invalidFilename => "invalid filename"
  | .invalidInput => "invalid input parameter"
  | .brokenPipe => "broken pipe"
  | .timedOut => "timed out"
  | .interrupted => "operation interrupted"
  | .writeZero => "write zero"
  | .storageFull => "no storage space"
  | .other => "other error"

inductive SystemError where
  | noSuchEntry
  | entryExists
  | notADirectory
  | isADirectory
  | noSpace
  | nameTooLong
  | tooManyLinks
  deriving DecidableEq, Repr

namespace SystemError

def number : SystemError -> Nat
  | .noSuchEntry => 2
  | .entryExists => 17
  | .notADirectory => 20
  | .isADirectory => 21
  | .noSpace => 28
  | .nameTooLong => 36
  | .tooManyLinks => 40

def kind : SystemError -> ErrorKind
  | .noSuchEntry => .notFound
  | .entryExists => .alreadyExists
  | .notADirectory => .notADirectory
  | .isADirectory => .isADirectory
  | .noSpace => .storageFull
  | .nameTooLong => .invalidFilename
  | .tooManyLinks => .filesystemLoop

def description : SystemError -> String
  | .noSuchEntry => "No such file or directory"
  | .entryExists => "File exists"
  | .notADirectory => "Not a directory"
  | .isADirectory => "Is a directory"
  | .noSpace => "No space left on device"
  | .nameTooLong => "File name too long"
  | .tooManyLinks => "Too many levels of symbolic links"

end SystemError

inductive IoError where
  | plain (kind : ErrorKind)
  | described (kind : ErrorKind) (text : String)
  | system (error : SystemError)
  deriving DecidableEq, Repr

namespace IoError

def kind : IoError -> ErrorKind
  | .plain kind => kind
  | .described kind _ => kind
  | .system error => error.kind

def message : IoError -> String
  | .plain kind => kind.text
  | .described _ text => text
  | .system error => error.description ++ " (os error " ++ toString error.number ++ ")"

def isInterrupted (e : IoError) : Bool :=
  e.kind == .interrupted

end IoError

end AsyncLog
