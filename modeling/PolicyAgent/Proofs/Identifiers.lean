import Mathlib.Data.List.TakeWhile
import PolicyAgent.IngressKey

/-!
# The language of identifiers

An identifier is cut at its first point, and what stands before that at its one at sign. So a
name and a namespace without points and at signs are found again, whatever the kind and the group
are, and texts of another form name no ingress. The name of an ingress in a cluster may have
several labels with points between them, though. In the identifier of such an ingress the first
point comes before the at sign, and so it is refused.
-/
namespace PolicyAgent

section

variable {mark : Char} {head : List Char}

theorem forall_ne_mark (h : mark ∉ head) : ∀ c ∈ head, decide (c ≠ mark) = true := by
  intro c hc
  exact decide_eq_true (ne_of_mem_of_not_mem hc h)

theorem takeWhile_append_mark (h : mark ∉ head) (rest : List Char) :
    (head ++ mark :: rest).takeWhile (· ≠ mark) = head := by
  rw [List.takeWhile_append_of_pos (forall_ne_mark h), List.takeWhile_cons_of_neg (by simp),
    List.append_nil]

theorem dropWhile_append_mark (h : mark ∉ head) (rest : List Char) :
    (head ++ mark :: rest).dropWhile (· ≠ mark) = mark :: rest := by
  rw [List.dropWhile_append_of_pos (forall_ne_mark h), List.dropWhile_cons_of_neg (by simp)]

/-- Two texts that are cut at the first mark are equal if their pieces are. -/
theorem append_mark_inj {head' rest rest' : List Char} (h : mark ∉ head) (h' : mark ∉ head')
    (heq : head ++ mark :: rest = head' ++ mark :: rest') : head = head' ∧ rest = rest' := by
  have hhead := congrArg (List.takeWhile (· ≠ mark)) heq
  have hrest := congrArg (List.dropWhile (· ≠ mark)) heq
  rw [takeWhile_append_mark h, takeWhile_append_mark h'] at hhead
  rw [dropWhile_append_mark h, dropWhile_append_mark h'] at hrest
  exact ⟨hhead, (List.cons.inj hrest).2⟩

end

namespace IngressKey

theorem ofHead?_append {name : List Char} (h : '@' ∉ name) (space : List Char) :
    ofHead? (name ++ '@' :: space)
      = if '@' ∈ space then none else some ⟨String.ofList name, String.ofList space⟩ := by
  rw [ofHead?, dropWhile_append_mark h, takeWhile_append_mark h]
  rfl

theorem ofHead?_of_not_mem {head : List Char} (h : '@' ∉ head) : ofHead? head = none := by
  rw [ofHead?, List.dropWhile_eq_nil_iff.2 (forall_ne_mark h)]

theorem ofHead?_eq_some_iff {head : List Char} {key : IngressKey} :
    ofHead? head = some key ↔ '@' ∉ key.name.toList ∧ '@' ∉ key.space.toList ∧
      head = key.name.toList ++ '@' :: key.space.toList := by
  constructor
  · intro h
    by_cases hmem : '@' ∈ head
    · obtain ⟨name, space, rfl, hname⟩ := List.eq_append_cons_of_mem hmem
      rw [ofHead?_append hname] at h
      split_ifs at h with hspace
      obtain rfl := Option.some.inj h
      rw [String.toList_ofList, String.toList_ofList]
      exact ⟨hname, hspace, rfl⟩
    · rw [ofHead?_of_not_mem hmem] at h
      cases h
  · rintro ⟨hname, hspace, rfl⟩
    rw [ofHead?_append hname, if_neg hspace, String.ofList_toList, String.ofList_toList]

theorem ofChars?_append {head : List Char} (h : '.' ∉ head) (rest : List Char) :
    ofChars? (head ++ '.' :: rest) = if '.' ∈ rest then ofHead? head else none := by
  rw [ofChars?, dropWhile_append_mark h, takeWhile_append_mark h]
  rfl

theorem ofChars?_of_not_mem {cs : List Char} (h : '.' ∉ cs) : ofChars? cs = none := by
  rw [ofChars?, List.dropWhile_eq_nil_iff.2 (forall_ne_mark h)]

theorem ofChars?_eq_some_iff {cs : List Char} {key : IngressKey} :
    ofChars? cs = some key ↔ ∃ head rest, '.' ∉ head ∧ '.' ∈ rest ∧
      ofHead? head = some key ∧ cs = head ++ '.' :: rest := by
  constructor
  · intro h
    by_cases hmem : '.' ∈ cs
    · obtain ⟨head, rest, rfl, hhead⟩ := List.eq_append_cons_of_mem hmem
      rw [ofChars?_append hhead] at h
      split_ifs at h with hrest
      exact ⟨head, rest, hhead, hrest, h, rfl⟩
    · rw [ofChars?_of_not_mem hmem] at h
      cases h
  · rintro ⟨head, rest, hhead, hrest, hkey, rfl⟩
    rw [ofChars?_append hhead, if_pos hrest, hkey]

def identifier (key : IngressKey) (kind group : String) : String :=
  s!"{key.name}@{key.space}.{kind}.{group}"

theorem toList_identifier (key : IngressKey) (kind group : String) :
    (key.identifier kind group).toList
      = (key.name.toList ++ '@' :: key.space.toList)
        ++ '.' :: (kind.toList ++ '.' :: group.toList) := by
  simp [identifier, ToString.toString]

/-- A text is the identifier of an ingress whose name and namespace have no points and no at
signs, of a kind without points. Each of the four parts may be empty. -/
structure Spells (id : String) (key : IngressKey) (kind group : String) : Prop where
  name_points : '.' ∉ key.name.toList
  name_signs : '@' ∉ key.name.toList
  space_points : '.' ∉ key.space.toList
  space_signs : '@' ∉ key.space.toList
  kind_points : '.' ∉ kind.toList
  eq : id = key.identifier kind group

theorem Spells.head_points {id : String} {key : IngressKey} {kind group : String}
    (h : Spells id key kind group) : '.' ∉ key.name.toList ++ '@' :: key.space.toList := by
  rw [List.mem_append, List.mem_cons]
  exact not_or.2 ⟨h.name_points, not_or.2 ⟨by decide, h.space_points⟩⟩

/-- An identifier can be taken apart in one way only. -/
theorem Spells.unique {id : String} {key key' : IngressKey} {kind kind' group group' : String}
    (h : Spells id key kind group) (h' : Spells id key' kind' group') :
    key = key' ∧ kind = kind' ∧ group = group' := by
  have heq := congrArg String.toList (h.eq.symm.trans h'.eq)
  rw [toList_identifier, toList_identifier] at heq
  obtain ⟨hhead, hrest⟩ := append_mark_inj h.head_points h'.head_points heq
  obtain ⟨hname, hspace⟩ := append_mark_inj h.name_signs h'.name_signs hhead
  obtain ⟨hkind, hgroup⟩ := append_mark_inj h.kind_points h'.kind_points hrest
  rw [String.toList_inj] at hname hspace hkind hgroup
  obtain ⟨name, space⟩ := key
  obtain ⟨name', space'⟩ := key'
  exact ⟨congrArg₂ IngressKey.mk hname hspace, hkind, hgroup⟩

theorem ofId?_eq_some_iff {id : String} {key : IngressKey} :
    ofId? id = some key ↔ ∃ kind group, Spells id key kind group := by
  simp only [ofId?, ofChars?_eq_some_iff, ofHead?_eq_some_iff]
  constructor
  · rintro ⟨head, rest, hhead, hrest, ⟨hname, hspace, rfl⟩, hid⟩
    obtain ⟨kind, group, rfl, hkind⟩ := List.eq_append_cons_of_mem hrest
    rw [List.mem_append, List.mem_cons] at hhead
    refine ⟨String.ofList kind, String.ofList group, ?_⟩
    exact {
      name_points := fun h => hhead (.inl h)
      name_signs := hname
      space_points := fun h => hhead (.inr (.inr h))
      space_signs := hspace
      kind_points := by rwa [String.toList_ofList]
      eq := by
        rw [← String.toList_inj, hid, toList_identifier, String.toList_ofList,
          String.toList_ofList] }
  · rintro ⟨kind, group, h⟩
    refine ⟨_, kind.toList ++ '.' :: group.toList, h.head_points, ?_,
      ⟨h.name_signs, h.space_signs, rfl⟩, ?_⟩
    · exact List.mem_append_right kind.toList List.mem_cons_self
    · rw [h.eq, toList_identifier]

/-- The texts that name an ingress are the identifiers, each of them the ingress that it spells,
and no other text names any. -/
theorem ofId?_language (id : String) :
    (∀ key, ofId? id = some key ↔ ∃ kind group, Spells id key kind group) ∧
      (∀ key kind group key' kind' group',
        Spells id key kind group → Spells id key' kind' group' →
          key = key' ∧ kind = kind' ∧ group = group') ∧
      ((¬ ∃ key kind group, Spells id key kind group) → ofId? id = none) := by
  refine ⟨fun _ => ofId?_eq_some_iff, fun _ _ _ _ _ _ h h' => h.unique h', ?_⟩
  intro hnone
  cases hid : ofId? id with
  | none => rfl
  | some key =>
    obtain ⟨kind, group, h⟩ := ofId?_eq_some_iff.1 hid
    exact absurd ⟨key, kind, group, h⟩ hnone

/-- Behind the first point of an identifier anything may stand. -/
example : ofId? "@.in@gress.." = some ⟨"", ""⟩ ∧ ofId? "who@ami@default.ingress.group" = none := by
  decide +kernel

def isLabelCharacter (c : Char) : Bool := c.isLower || c.isDigit || c == '-'

/-- A label of a domain name has no hyphen at either end. How long it may be does not matter
here. -/
def isLabel (label : List Char) : Bool :=
  label.all isLabelCharacter && !label.isEmpty &&
    label.head? != some '-' && label.getLast? != some '-'

inductive IsSubdomain : List Char → Prop
  | label {label : List Char} (h : isLabel label = true) : IsSubdomain label
  | point {label rest : List Char} (h : isLabel label = true) (hrest : IsSubdomain rest) :
    IsSubdomain (label ++ '.' :: rest)

theorem not_mem_of_isLabel {label : List Char} (h : isLabel label = true) {mark : Char}
    (hmark : isLabelCharacter mark = false) : mark ∉ label := by
  intro hmem
  simp only [isLabel, Bool.and_eq_true, List.all_eq_true] at h
  have hcharacter := h.1.1.1 mark hmem
  rw [hmark] at hcharacter
  cases hcharacter

theorem IsSubdomain.sign_not_mem {name : List Char} (h : IsSubdomain name) : '@' ∉ name := by
  induction h with
  | label h => exact not_mem_of_isLabel h (by decide)
  | point h _ ih =>
    rw [List.mem_append, List.mem_cons]
    exact not_or.2 ⟨not_mem_of_isLabel h (by decide), not_or.2 ⟨by decide, ih⟩⟩

/-- The at sign of an identifier is looked for before its first point. -/
theorem ofId?_identifier_of_mem {key : IngressKey} (hpoint : '.' ∈ key.name.toList)
    (hsign : '@' ∉ key.name.toList) (kind group : String) :
    ofId? (key.identifier kind group) = none := by
  obtain ⟨head, rest, hname, hhead⟩ := List.eq_append_cons_of_mem hpoint
  have hsign : '@' ∉ head := by
    rw [hname, List.mem_append] at hsign
    exact fun h => hsign (.inl h)
  rw [ofId?, toList_identifier, hname, List.append_assoc, List.append_assoc, List.cons_append,
    ofChars?_append hhead, ofHead?_of_not_mem hsign]
  split_ifs <;> rfl

/-- An ingress is found by its identifier if its name is one label, and refused otherwise. -/
theorem ofId?_identifier_of_isSubdomain {key : IngressKey} {kind : String}
    (hname : IsSubdomain key.name.toList) (hspace : isLabel key.space.toList = true)
    (hkind : '.' ∉ kind.toList) (group : String) :
    ofId? (key.identifier kind group) = if '.' ∈ key.name.toList then none else some key := by
  split_ifs with hpoint
  · exact ofId?_identifier_of_mem hpoint hname.sign_not_mem kind group
  · apply ofId?_eq_some_iff.2
    exact ⟨kind, group, hpoint, hname.sign_not_mem, not_mem_of_isLabel hspace (by decide),
      not_mem_of_isLabel hspace (by decide), hkind, rfl⟩

def oneLabel : IngressKey := ⟨"whoami-2", "default"⟩

def twoLabels : IngressKey := ⟨"my.app", "default"⟩

theorem isSubdomain_oneLabel : IsSubdomain oneLabel.name.toList := .label (by decide)

theorem isSubdomain_twoLabels : IsSubdomain twoLabels.name.toList :=
  @IsSubdomain.point "my".toList "app".toList (by decide) (.label (by decide))

/-- The point in a group does no harm, the one in a name does. -/
theorem ofId?_identifier_labels :
    (IsSubdomain oneLabel.name.toList ∧ isLabel oneLabel.space.toList = true ∧
        '.' ∉ "ingress".toList ∧
        ofId? (oneLabel.identifier "ingress" "networking.k8s.io") = some oneLabel) ∧
      IsSubdomain twoLabels.name.toList ∧ isLabel twoLabels.space.toList = true ∧
        '.' ∉ "ingress".toList ∧
        ofId? (twoLabels.identifier "ingress" "networking.k8s.io") = none := by
  have hspace : isLabel "default".toList = true := by decide
  have hkind : '.' ∉ "ingress".toList := by decide
  have hone := ofId?_identifier_of_isSubdomain isSubdomain_oneLabel hspace hkind "networking.k8s.io"
  have htwo :=
    ofId?_identifier_of_isSubdomain isSubdomain_twoLabels hspace hkind "networking.k8s.io"
  rw [if_neg (by decide)] at hone
  rw [if_pos (by decide)] at htwo
  exact ⟨⟨isSubdomain_oneLabel, hspace, hkind, hone⟩, isSubdomain_twoLabels, hspace, hkind, htwo⟩

/-- Not every ingress of a cluster can be named. -/
theorem not_forall_named :
    ¬ ∀ (key : IngressKey) (kind group : String), IsSubdomain key.name.toList →
        isLabel key.space.toList = true → '.' ∉ kind.toList → group ≠ "" →
        ofId? (key.identifier kind group) = some key := by
  intro h
  have htwo := h twoLabels "ingress" "networking.k8s.io" isSubdomain_twoLabels (by decide)
    (by decide) (by decide)
  have hnone : ofId? (twoLabels.identifier "ingress" "networking.k8s.io") = none := by
    decide +kernel
  rw [hnone] at htwo
  cases htwo

end IngressKey

end PolicyAgent
