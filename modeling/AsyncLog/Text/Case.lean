/-!
# Letter case

Keywords are compared without regard to the case of the letters `A` to `Z`; all
other characters stand for themselves.
-/

namespace AsyncLog.Text

def lowerCase (s : List Char) : List Char :=
  s.map Char.toLower

def eqIgnoringCase (s t : List Char) : Bool :=
  lowerCase s == lowerCase t

@[simp] theorem lowerCase_nil : lowerCase [] = [] := rfl

@[simp] theorem lowerCase_cons (c : Char) (s : List Char) :
    lowerCase (c :: s) = c.toLower :: lowerCase s := rfl

theorem eqIgnoringCase_iff {s t : List Char} :
    eqIgnoringCase s t = true ↔ lowerCase s = lowerCase t := by
  simp [eqIgnoringCase]

end AsyncLog.Text
