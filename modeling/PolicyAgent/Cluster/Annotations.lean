/-!
# Annotations

Annotations are texts under names. A patch says for some names what the text becomes, or that
the name goes; the others keep theirs.
-/
namespace PolicyAgent.Cluster

abbrev Annotations := List (String × String)

/-- What becomes of some annotations; nothing for a name removes it. -/
abbrev AnnotationPatch := List (String × Option String)

namespace Annotations

def get? (annotations : Annotations) (name : String) : Option String :=
  (annotations.find? (·.1 == name)).map (·.2)

def put (annotations : Annotations) (name text : String) : Annotations :=
  match annotations with
  | [] => [(name, text)]
  | entry :: rest =>
    if entry.1 = name then (name, text) :: rest else entry :: Annotations.put rest name text

def erase (annotations : Annotations) (name : String) : Annotations :=
  annotations.filter (·.1 != name)

def change (annotations : Annotations) (entry : String × Option String) : Annotations :=
  match entry.2 with
  | some text => annotations.put entry.1 text
  | none => annotations.erase entry.1

def merge (annotations : Annotations) (patch : AnnotationPatch) : Annotations :=
  patch.foldl change annotations

@[simp] theorem get?_nil (name : String) : get? [] name = none := rfl

theorem get?_cons (entry : String × String) (annotations : Annotations) (name : String) :
    get? (entry :: annotations) name
      = if entry.1 = name then some entry.2 else get? annotations name := by
  by_cases h : entry.1 = name <;> simp [get?, h]

theorem get?_put (annotations : Annotations) (name text other : String) :
    get? (annotations.put name text) other
      = if name = other then some text else get? annotations other := by
  induction annotations with
  | nil => simp [put, get?_cons]
  | cons entry rest ih =>
    simp only [put]
    split
    · subst name
      simp only [get?_cons]
      split <;> simp_all
    · simp only [get?_cons, ih]
      grind

theorem get?_erase (annotations : Annotations) (name other : String) :
    get? (annotations.erase name) other
      = if name = other then none else get? annotations other := by
  induction annotations with
  | nil => simp [erase]
  | cons entry rest ih =>
    simp only [erase, List.filter_cons] at ih ⊢
    split <;> simp only [get?_cons, ih] <;> grind

theorem get?_change (annotations : Annotations) (entry : String × Option String) (other : String) :
    get? (annotations.change entry) other
      = if entry.1 = other then entry.2 else get? annotations other := by
  obtain ⟨name, text⟩ := entry
  cases text with
  | none => simp [change, get?_erase]
  | some text => simp [change, get?_put]

end Annotations

end PolicyAgent.Cluster
