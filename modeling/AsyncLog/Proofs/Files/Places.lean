import AsyncLog.Files.Descriptor
/-!
# The place of a file

A path that leads to a file, or to a free place for one, leads to the same place
after the file has been made or overwritten: no name on the way is that of the
file, because nothing lies below a file.
-/

namespace AsyncLog.Files.Tree

def IsRoom : Option Node -> Prop
  | none | some (.file _) => True
  | some .directory | some (.link _) | some (.device _) => False

section Putting

variable {t : Tree} {location : Location} {content : List UInt8} {links : Nat}
  {directory : Location}

theorem node?_put_file {other : Location} {node : Option Node} (hroot : location ≠ [])
    (hroom : IsRoom (t.node? location)) (hother : t.node? other = node) (hnode : ¬ IsRoom node) :
    (t.put location (.file content)).node? other = node := by
  rw [node?_put t location other _ hroot, if_neg, hother]
  intro hsame
  rw [← hother, hsame] at hnode
  exact hnode hroom

theorem descend_put_file (hroot : location ≠ []) (hroom : IsRoom (t.node? location))
    {names : List String} {arrived : Location × Nat}
    (h : t.descend links directory names = .ok arrived) :
    (t.put location (.file content)).descend links directory names = .ok arrived := by
  have hkept : forall {other : Location} {node : Option Node}, t.node? other = node ->
      ¬ IsRoom node -> (t.put location (.file content)).node? other = node :=
    fun hother hnode => node?_put_file hroot hroom hother hnode
  fun_induction t.descend links directory names with
  | case1 links directory =>
      rw [descend]
      exact h
  | case2 links directory rest ih =>
      rw [descend, if_pos rfl]
      exact ih h
  | case3 links directory rest hdot ih =>
      rw [descend, if_neg hdot, if_pos rfl]
      exact ih h
  | case6 links directory name rest hdot hdots hlength hnode ih =>
      rw [descend, if_neg hdot, if_neg hdots, if_neg hlength, hkept hnode id]
      exact ih h
  | case10 directory name rest hdot hdots hlength target hnode links ih =>
      rw [descend, if_neg hdot, if_neg hdots, if_neg hlength, hkept hnode id]
      exact ih h
  | case4 | case5 | case7 | case8 | case9 => cases h

theorem approach_put_file (hroot : location ≠ []) (hroom : IsRoom (t.node? location)) {p : Path}
    {arrived : Ending × Nat} (h : t.approach links directory p = .ok arrived) :
    (t.put location (.file content)).approach links directory p = .ok arrived := by
  unfold approach at h ⊢
  cases hlast : p.names.getLast? with
  | none =>
      rw [hlast] at h
      exact h
  | some last =>
      rw [hlast] at h
      cases hparent : t.descend links (origin directory p) p.names.dropLast with
      | error e =>
          rw [hparent] at h
          cases h
      | ok parent =>
          rw [hparent] at h
          rw [descend_put_file hroot hroom hparent]
          exact h

theorem node?_of_writable {p : Path} {node : Option Node}
    (h : t.writable links directory p = .ok (location, node)) :
    location ≠ [] ∧ t.node? location = node := by
  fun_induction t.writable links directory p with
  | case5 links directory p parent name left _ _ _ hnode =>
      cases h
      exact ⟨List.cons_ne_nil _ _, hnode⟩
  | case8 _ _ _ _ _ _ _ _ _ _ _ _ ih => exact ih h
  | case9 links directory p parent name left _ _ _ found _ _ hnode =>
      cases h
      exact ⟨List.cons_ne_nil _ _, hnode⟩
  | _ => cases h

theorem writable_of_approach {p : Path} {parent : Location} {name : String} {left : Nat}
    (happroach : t.approach links directory p = .ok (.name parent name, left))
    (hslash : ¬ p.slash = true) (hlength : ¬ nameLimit < name.utf8ByteSize) :
    t.writable links directory p =
      match t.node? (name :: parent) with
      | some .directory => .error .isADirectory
      | some (.link target) =>
          match left with
          | 0 => .error .tooManyLinks
          | left + 1 => t.writable left parent target
      | node => .ok (name :: parent, node) := by
  rw [writable.eq_def]
  grind

/-- The path of a file leads to the file that is put in its place. -/
theorem writable_put_file {p : Path} {node : Option Node} (hroom : IsRoom node)
    (h : t.writable links directory p = .ok (location, node)) :
    (t.put location (.file content)).writable links directory p =
      .ok (location, some (.file content)) := by
  obtain ⟨hroot, hplace⟩ := node?_of_writable h
  have hself : (t.put location (.file content)).node? location = some (.file content) := by
    rw [node?_put t location location _ hroot, if_pos rfl]
  rw [← hplace] at hroom
  fun_induction t.writable links directory p with
  | case5 links directory p parent name left happroach hslash hlength hnode =>
      cases h
      rw [writable_of_approach (approach_put_file hroot hroom happroach) hslash hlength, hself]
  | case8 links directory p parent name hslash hlength target hnode left happroach _ ih =>
      rw [writable_of_approach (approach_put_file hroot hroom happroach) hslash hlength,
        node?_put_file hroot hroom hnode id]
      exact ih h
  | case9 links directory p parent name left happroach hslash hlength found _ _ hnode =>
      cases h
      rw [writable_of_approach (approach_put_file hroot hroom happroach) hslash hlength, hself]
  | _ => cases h

theorem resolve_of_writable {p : Path}
    (h : t.writable links directory p = .ok (location, some (.file content))) :
    t.resolve links directory p = .ok (location, .file content) := by
  fun_induction t.writable links directory p with
  | case8 links directory p parent name hslash hlength target hnode left happroach _ ih =>
      have hsame : { target with slash := target.slash || p.slash } = target := by
        rw [Bool.not_eq_true] at hslash
        rw [hslash, Bool.or_false]
      rw [resolve.eq_def]
      grind
  | case9 links directory p parent name left happroach hslash hlength found _ _ hnode =>
      cases h
      rw [resolve.eq_def]
      grind
  | _ => cases h

end Putting

/-!
## Writing nothing
-/

structure Alike (t t' : Tree) : Prop where
  working : t'.working = t.working
  node : forall location, t'.node? location = t.node? location

theorem write_nil (t : Tree) (d : Descriptor) :
    (t.write d []).1 = d ∧ t.Alike (t.write d []).2 := by
  obtain ⟨location, mode, position⟩ := d
  rw [write]
  cases hcontent : t.content? location with
  | none => exact ⟨rfl, rfl, fun _ => rfl⟩
  | some content =>
      have hnode : t.node? location = some (.file content) := by
        unfold content? at hcontent
        split at hcontent
        · rename_i hfile
          cases hcontent
          exact hfile
        · cases hcontent
      have hsame : t.Alike (t.put location (.file content)) := by
        refine ⟨rfl, fun other => ?_⟩
        rw [node?_put t location other _ (ne_nil_of_content? hcontent)]
        split
        · rename_i hother
          rw [hother, hnode]
        · rfl
      cases mode with
      | append =>
          refine ⟨rfl, ?_⟩
          simp only [List.append_nil]
          exact hsame
      | truncate => exact ⟨rfl, hsame⟩

/-!
## The file of a path
-/

/-- A path leads to a place for a log file: a free one, or one with a file of this
content. -/
def LeadsTo (t : Tree) (path : String) (location : Location) (content : Option (List UInt8)) :
    Prop :=
  exists p, Path.ofText? path = .ok p ∧
    t.writable linkLimit t.working p = .ok (location, content.map Node.file)

def kept (content : Option (List UInt8)) : OpenMode -> List UInt8
  | .append => content.getD []
  | .truncate => []

namespace LeadsTo

variable {t : Tree} {path : String} {location : Location} {content : List UInt8}

theorem put {before : Option (List UInt8)} (h : t.LeadsTo path location before)
    (content : List UInt8) :
    (t.put location (.file content)).LeadsTo path location (some content) := by
  obtain ⟨p, htext, hplace⟩ := h
  refine ⟨p, htext, writable_put_file ?_ hplace⟩
  cases before <;> exact True.intro

theorem node? (h : t.LeadsTo path location (some content)) :
    t.node? location = some (.file content) := by
  obtain ⟨p, _, hplace⟩ := h
  exact (node?_of_writable hplace).2

theorem content? (h : t.LeadsTo path location (some content)) :
    t.content? location = some content := by
  rw [Tree.content?, h.node?]

theorem read (h : t.LeadsTo path location (some content)) : t.read path = .ok content := by
  obtain ⟨p, htext, hplace⟩ := h
  rw [Tree.read, htext]
  simp only [find, resolve_of_writable hplace]

theorem script {d : Descriptor} (h : t.LeadsTo path d.location (some content)) :
    t.script d = .obliging := by
  rw [Tree.script, h.node?]

theorem openLog {before : Option (List UInt8)} (h : t.LeadsTo path location before)
    (mode : OpenMode) :
    exists opened, t.openLog path mode = .ok ({ location, mode }, opened) ∧
      opened.LeadsTo path location (some (kept before mode)) := by
  obtain ⟨p, htext, hplace⟩ := id h
  rw [Tree.openLog, htext]
  simp only [hplace]
  cases before with
  | none =>
      refine ⟨_, rfl, ?_⟩
      cases mode <;> exact h.put []
  | some content =>
      cases mode with
      | append => exact ⟨t, rfl, h⟩
      | truncate => exact ⟨_, rfl, h.put []⟩

theorem write {d : Descriptor} (h : t.LeadsTo path d.location (some content))
    (hend : d.mode = .truncate -> d.position = content.length) (bytes : List UInt8) :
    (t.write d bytes).2.LeadsTo path d.location (some (content ++ bytes)) ∧
      (t.write d bytes).1.location = d.location ∧ (t.write d bytes).1.mode = d.mode ∧
      (d.mode = .truncate -> (t.write d bytes).1.position = (content ++ bytes).length) := by
  obtain ⟨location, mode, position⟩ := d
  rw [Tree.write, h.content?]
  cases mode with
  | append => exact ⟨h.put _, rfl, rfl, fun himpossible => by cases himpossible⟩
  | truncate =>
      have hposition : position = content.length := hend rfl
      refine ⟨?_, rfl, rfl, fun _ => ?_⟩
      · simp only [hposition, overwrite_length]
        exact h.put _
      · rw [List.length_append, hposition]

end LeadsTo

theorem leadsTo_fresh {name : String} (hsplit : name.splitOn "/" = [name])
    (hnul : '\x00' ∉ name.toList) (hfirst : name.toList.head? ≠ some '/')
    (hlast : name.toList.getLast? ≠ some '/') (hlength : name.utf8ByteSize ≤ nameLimit)
    (hname : name ∉ ["", ".", ".."]) : fresh.LeadsTo name [name, "", "tmp"] none := by
  simp only [List.mem_cons, List.not_mem_nil, or_false, not_or] at hname
  obtain ⟨hempty, hdot, hdots⟩ := hname
  have hlimit : name.utf8ByteSize ≤ pathLimit := Nat.le_trans hlength (by decide)
  have hrooted : (name.toList.head? == some '/') = false := beq_eq_false_iff_ne.mpr hfirst
  have hslash : (name.toList.getLast? == some '/') = false := beq_eq_false_iff_ne.mpr hlast
  have htext : Path.ofText? name = .ok { names := [name] } := by
    simp [Path.ofText?, Path.ofText, hnul, hlimit, hempty, hsplit, hrooted, hslash]
  have happroach : fresh.approach linkLimit fresh.working { names := [name] } =
      .ok (.name ["", "tmp"] name, linkLimit) := by
    simp [approach, descend, origin, hdot, hdots, fresh]
  have hfree : fresh.node? [name, "", "tmp"] = none := by
    simp [node?, fresh, List.lookup_cons]
  refine ⟨_, htext, ?_⟩
  rw [writable_of_approach happroach Bool.false_ne_true (Nat.not_lt.mpr hlength), hfree]
  rfl

end AsyncLog.Files.Tree
