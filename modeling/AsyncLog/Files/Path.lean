import AsyncLog.Output.Error
/-!
# Paths

A path is a text of names with slashes between them.  A path that begins with a
slash starts at the root, any other one at the working directory.
-/

namespace AsyncLog.Files

/-- A path by its names; repeated slashes count as one, but a slash at the end
is remembered. -/
structure Path where
  rooted : Bool := false
  names : List String
  slash : Bool := false
  deriving DecidableEq, Repr

def pathLimit : Nat := 4095

def nameLimit : Nat := 255

namespace Path

def ofText (text : String) : Path where
  rooted := text.toList.head? == some '/'
  names := (text.splitOn "/").filter (· ≠ "")
  slash := text.toList.getLast? == some '/'

/-- Read a path that is handed to the system: it holds no NUL, is not too long
and not empty. -/
def ofText? (text : String) : Except IoError Path :=
  if text.toList.contains '\x00' then
    .error (.described .invalidInput "file name contained an unexpected NUL byte")
  else if pathLimit < text.utf8ByteSize then .error (.system .nameTooLong)
  else if text.isEmpty then .error (.system .noSuchEntry)
  else .ok (ofText text)

def join (directory name : String) : String :=
  if directory.isEmpty || directory.toList.getLast? == some '/' then directory ++ name
  else directory ++ "/" ++ name

/-- The names that matter: a dot means something only where the path begins. -/
def essential (p : Path) : List String :=
  match p.rooted, p.names with
  | false, "." :: rest => "." :: rest.filter (· ≠ ".")
  | _, names => names.filter (· ≠ ".")

def parent? (p : Path) : Option Path :=
  if p.essential = [] then none
  else some { rooted := p.rooted, names := p.essential.dropLast }

def isEmpty (p : Path) : Bool :=
  !p.rooted && p.names.isEmpty

theorem length_essential_le (p : Path) : p.essential.length ≤ p.names.length := by
  unfold essential
  split
  · rename_i rest _ heq
    rw [heq]
    exact Nat.succ_le_succ (List.length_filter_le _ _)
  · exact List.length_filter_le _ _

theorem length_names_parent {p q : Path} (h : p.parent? = some q) :
    q.names.length < p.names.length := by
  unfold parent? at h
  split at h
  · cases h
  · rename_i hne
    have hpos : 0 < p.essential.length := List.length_pos_iff.mpr hne
    have hle := p.length_essential_le
    cases h
    simp only [List.length_dropLast]
    omega

end Path

end AsyncLog.Files
