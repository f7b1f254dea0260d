import AsyncLog.Files.Path
/-!
# A tree of files

Directories, files, symbolic links and two devices, found by following the names
of a path.  A location is the chain of names from a node up to the root, so its
parent is its tail.
-/

namespace AsyncLog.Files

abbrev Location := List String

inductive Device where
  | null
  | full
  deriving DecidableEq, Repr

inductive Node where
  | directory
  | file (content : List UInt8)
  | link (target : Path)
  | device (device : Device)
  deriving DecidableEq, Repr

/-- The nodes below the root, and the directory where relative paths start. -/
structure Tree where
  nodes : List (Location × Node) := []
  working : Location := []
  deriving DecidableEq, Repr

namespace Tree

def node? (t : Tree) : Location -> Option Node
  | [] => some .directory
  | location => t.nodes.lookup location

def put (t : Tree) (location : Location) (node : Node) : Tree :=
  { t with nodes := (location, node) :: t.nodes.filter (·.1 ≠ location) }

/-- A tree with the two devices and an empty working directory.  Nobody knows
what the working directory is called: its name is empty, so that no path spells
it. -/
def fresh : Tree where
  nodes := [
    (["dev"], .directory),
    (["null", "dev"], .device .null),
    (["full", "dev"], .device .full),
    (["tmp"], .directory),
    (["", "tmp"], .directory)]
  working := ["", "tmp"]

def namesIn (t : Tree) (directory : Location) : List String :=
  t.nodes.filterMap fun (location, _) =>
    match location with
    | [] => none
    | name :: parent => if parent = directory then some name else none

theorem node?_put (t : Tree) (location other : Location) (node : Node) (hroot : location ≠ []) :
    (t.put location node).node? other = if other = location then some node else t.node? other := by
  cases other with
  | nil => simp [node?, hroot.symm]
  | cons name parent =>
      simp only [node?, put, List.lookup_cons]
      by_cases h : name :: parent = location
      · simp [h]
      · have hne : (name :: parent == location) = false := by simpa using h
        simp only [hne, h, if_false]
        induction t.nodes with
        | nil => rfl
        | cons entry rest ih => grind

/-!
## Following names

Along the way every link is followed, up to forty links for a whole path.
-/

def linkLimit : Nat := 40

def origin (directory : Location) (p : Path) : Location :=
  if p.rooted then [] else directory

/-- The directory that some names lead to, and how many more links may be followed. -/
def descend (t : Tree) (links : Nat) (directory : Location) (names : List String) :
    Except SystemError (Location × Nat) :=
  match names with
  | [] => .ok (directory, links)
  | name :: rest =>
      if name = "." then t.descend links directory rest
      else if name = ".." then t.descend links directory.tail rest
      else if nameLimit < name.utf8ByteSize then .error .nameTooLong
      else
        match t.node? (name :: directory) with
        | none => .error .noSuchEntry
        | some .directory => t.descend links (name :: directory) rest
        | some (.file _) | some (.device _) => .error .notADirectory
        | some (.link target) =>
            match links with
            | 0 => .error .tooManyLinks
            | links + 1 => t.descend links (origin directory target) (target.names ++ rest)
termination_by (links, names.length)

theorem links_descend (t : Tree) (links : Nat) (directory : Location) (names : List String)
    {arrived : Location} {left : Nat}
    (h : t.descend links directory names = .ok (arrived, left)) : left ≤ links := by
  fun_induction t.descend links directory names <;> grind

/-- Where the names of a path end: in a directory that is called by a dot, two
dots or the root, or at a name in a directory. -/
inductive Ending where
  | directory (location : Location)
  | name (directory : Location) (name : String)
  deriving DecidableEq, Repr

def approach (t : Tree) (links : Nat) (directory : Location) (p : Path) :
    Except SystemError (Ending × Nat) :=
  match p.names.getLast? with
  | none => .ok (.directory (origin directory p), links)
  | some last =>
      match t.descend links (origin directory p) p.names.dropLast with
      | .error e => .error e
      | .ok (parent, left) =>
          if last = "." then .ok (.directory parent, left)
          else if last = ".." then .ok (.directory parent.tail, left)
          else .ok (.name parent last, left)

theorem links_approach (t : Tree) (links : Nat) (directory : Location) (p : Path)
    {ending : Ending} {left : Nat}
    (h : t.approach links directory p = .ok (ending, left)) : left ≤ links := by
  unfold approach at h
  split at h
  · cases h
    exact Nat.le_refl _
  · split at h
    · cases h
    · rename_i hd
      have := t.links_descend _ _ _ hd
      grind

def resolve (t : Tree) (links : Nat) (directory : Location) (p : Path) :
    Except SystemError (Location × Node) :=
  match _ha : t.approach links directory p with
  | .error e => .error e
  | .ok (.directory location, _) => .ok (location, .directory)
  | .ok (.name parent name, left) =>
      if nameLimit < name.utf8ByteSize then .error .nameTooLong
      else
        match t.node? (name :: parent) with
        | none => .error .noSuchEntry
        | some .directory => .ok (name :: parent, .directory)
        | some (.link target) =>
            match _hl : left with
            | 0 => .error .tooManyLinks
            | left' + 1 =>
                t.resolve left' parent { target with slash := target.slash || p.slash }
        | some node => if p.slash then .error .notADirectory else .ok (name :: parent, node)
termination_by links
decreasing_by
  have := t.links_approach _ _ _ _ha
  omega

/-- Where a path leads that is opened for writing: to a file or a device, or to a
free place for a new file. -/
def writable (t : Tree) (links : Nat) (directory : Location) (p : Path) :
    Except SystemError (Location × Option Node) :=
  match _ha : t.approach links directory p with
  | .error e => .error e
  | .ok (.directory _, _) => .error .isADirectory
  | .ok (.name parent name, left) =>
      if p.slash then .error .isADirectory
      else if nameLimit < name.utf8ByteSize then .error .nameTooLong
      else
        match t.node? (name :: parent) with
        | none => .ok (name :: parent, none)
        | some .directory => .error .isADirectory
        | some (.link target) =>
            match _hl : left with
            | 0 => .error .tooManyLinks
            | left' + 1 => t.writable left' parent target
        | some node => .ok (name :: parent, some node)
termination_by links
decreasing_by
  have := t.links_approach _ _ _ _ha
  omega

/-!
## Looking around
-/

def find (t : Tree) (p : Path) : Except SystemError (Location × Node) :=
  t.resolve linkLimit t.working p

def exists? (t : Tree) (text : String) : Bool :=
  match Path.ofText? text with
  | .error _ => false
  | .ok p =>
      match t.find p with
      | .ok _ => true
      | .error _ => false

def isDirectory (t : Tree) (p : Path) : Bool :=
  match t.find p with
  | .ok (_, .directory) => true
  | _ => false

def read (t : Tree) (text : String) : Except IoError (List UInt8) :=
  match Path.ofText? text with
  | .error e => .error e
  | .ok p =>
      match t.find p with
      | .error e => .error (.system e)
      | .ok (_, .file content) => .ok content
      | .ok (_, .directory) => .error (.system .isADirectory)
      | .ok (_, .device _) | .ok (_, .link _) => .ok []

def list (t : Tree) (text : String) : Except IoError (List String) :=
  match Path.ofText? text with
  | .error e => .error e
  | .ok p =>
      match t.find p with
      | .error e => .error (.system e)
      | .ok (location, .directory) => .ok (t.namesIn location)
      | .ok _ => .error (.system .notADirectory)

/-!
## Making directories
-/

def makeDirectory (t : Tree) (p : Path) : Except SystemError Tree :=
  match t.approach linkLimit t.working p with
  | .error e => .error e
  | .ok (.directory _, _) => .error .entryExists
  | .ok (.name parent name, _) =>
      if nameLimit < name.utf8ByteSize then .error .nameTooLong
      else
        match t.node? (name :: parent) with
        | some _ => .error .entryExists
        | none => .ok (t.put (name :: parent) .directory)

def ensureDirectory (t : Tree) (p : Path) : Except SystemError Unit × Tree :=
  match t.makeDirectory p with
  | .ok t' => (.ok (), t')
  | .error e => (if t.isDirectory p then .ok () else .error e, t)

/-- Make a directory and all directories on the way to it.  Those that were made
stay if one of the others cannot be made. -/
def makeDirectories (t : Tree) (p : Path) : Except SystemError Unit × Tree :=
  if p.isEmpty then (.ok (), t)
  else
    match t.makeDirectory p, _hp : p.parent? with
    | .error .noSuchEntry, some parent =>
        match t.makeDirectories parent with
        | (.error e, t') => (.error e, t')
        | (.ok (), t') => t'.ensureDirectory p
    | _, _ => t.ensureDirectory p
termination_by p.names.length
decreasing_by exact Path.length_names_parent _hp

def makeDirectoriesAt (t : Tree) (text : String) : Except IoError Unit × Tree :=
  if text.isEmpty then (.ok (), t)
  else
    match Path.ofText? text with
    | .error e => (.error e, t)
    | .ok p =>
        let (made, t') := t.makeDirectories p
        (made.mapError IoError.system, t')

def makeLink (t : Tree) (text target : String) : Except SystemError Tree :=
  match t.approach linkLimit t.working (.ofText text) with
  | .error e => .error e
  | .ok (.directory _, _) => .error .entryExists
  | .ok (.name parent name, _) =>
      match t.node? (name :: parent) with
      | some _ => .error .entryExists
      | none => .ok (t.put (name :: parent) (.link (.ofText target)))

end Tree

end AsyncLog.Files
