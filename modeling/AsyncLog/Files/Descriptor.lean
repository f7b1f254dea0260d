import AsyncLog.Config.Mode
import AsyncLog.Files.Tree
import AsyncLog.Output.Script
/-!
# Open log files

A descriptor is a log file that is open for writing.  In append mode every write
goes to the end of the file, wherever that is by then; in truncate mode the file
is emptied first and writes go on from where the last one ended.
-/

namespace AsyncLog.Files

structure Descriptor where
  location : Location
  mode : OpenMode
  position : Nat := 0
  deriving DecidableEq, Repr

/-- Put bytes over a content from a position on, with zeros in any gap.  No bytes
change nothing, wherever they would go. -/
def overwrite (content : List UInt8) (position : Nat) (bytes : List UInt8) : List UInt8 :=
  if bytes.isEmpty then content
  else
    content.take position ++ List.replicate (position - content.length) 0 ++ bytes ++
      content.drop (position + bytes.length)

theorem overwrite_length (content bytes : List UInt8) :
    overwrite content content.length bytes = content ++ bytes := by
  cases bytes <;> simp [overwrite]

namespace Tree

def content? (t : Tree) (location : Location) : Option (List UInt8) :=
  match t.node? location with
  | some (.file content) => some content
  | _ => none

def openLog (t : Tree) (text : String) (mode : OpenMode) : Except IoError (Descriptor × Tree) :=
  match Path.ofText? text with
  | .error e => .error e
  | .ok p =>
      match t.writable linkLimit t.working p with
      | .error e => .error (.system e)
      | .ok (location, none) => .ok ({ location, mode }, t.put location (.file []))
      | .ok (location, some (.file _)) =>
          match mode with
          | .append => .ok ({ location, mode }, t)
          | .truncate => .ok ({ location, mode }, t.put location (.file []))
      | .ok (location, some _) => .ok ({ location, mode }, t)

def write (t : Tree) (d : Descriptor) (bytes : List UInt8) : Descriptor × Tree :=
  match t.content? d.location with
  | none => (d, t)
  | some content =>
      match d.mode with
      | .append => (d, t.put d.location (.file (content ++ bytes)))
      | .truncate =>
          ({ d with position := d.position + bytes.length },
            t.put d.location (.file (overwrite content d.position bytes)))

theorem ne_nil_of_content? {t : Tree} {location : Location} {content : List UInt8}
    (h : t.content? location = some content) : location ≠ [] := by
  intro hroot
  rw [hroot] at h
  cases h

/-- How an open log file answers: a file takes all that it is offered, and so does
the device that keeps nothing; the full device has no space. -/
def script (t : Tree) (d : Descriptor) : Script :=
  match t.node? d.location with
  | some (.device .full) =>
      { Script.obliging with write := fun _ => .fails (.system .noSpace) }
  | _ => .obliging

end Tree

end AsyncLog.Files
