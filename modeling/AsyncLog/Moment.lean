/-!
# Moments in names and lines

A moment of the local clock, as the lines of a log and the names of log files
show it.
-/

namespace AsyncLog

structure Moment where
  year : Nat
  month : Nat
  day : Nat
  hour : Nat
  minute : Nat
  second : Nat
  deriving DecidableEq, Repr

def zeroPadded (width n : Nat) : String :=
  let digits := toString n
  String.ofList (List.replicate (width - digits.length) '0') ++ digits

namespace Moment

def lineStamp (m : Moment) : String :=
  zeroPadded 4 m.year ++ "-" ++ zeroPadded 2 m.month ++ "-" ++ zeroPadded 2 m.day ++ " " ++
    zeroPadded 2 m.hour ++ ":" ++ zeroPadded 2 m.minute ++ ":" ++ zeroPadded 2 m.second

/-- The stamp of a file: the digits of the time, behind the date if it is wanted.
Month and day have no zero in front. -/
def fileStamp (m : Moment) (withDate : Bool) : String :=
  let time := zeroPadded 2 m.hour ++ zeroPadded 2 m.minute ++ zeroPadded 2 m.second
  if withDate then
    toString m.month ++ "-" ++ toString m.day ++ "-" ++ zeroPadded 4 m.year ++ "_" ++ time
  else time

def logName (m : Moment) (label : String) : String :=
  label ++ "_" ++ m.fileStamp true ++ ".log"

end Moment

end AsyncLog
