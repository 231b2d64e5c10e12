import Mathlib.Data.List.Forall2
import PolicyAgent.Text.DecimalDigit
import PolicyAgent.Text.Uppercase

/-!
# Upper case of digits and marks

Digits have no case, in no script. The marks of a timestamp are signs and two letters, and of
all texts only the small letters `t` and `z` come to these letters in upper case. So a text whose
upper case has nothing but digits and marks is that upper case, but for the size of the letters.
-/
namespace PolicyAgent.Text

def signs : List Char := ['-', ':', '.', '+', '\n']

def marks : List Char := 'T' :: 'Z' :: signs

def isDigitOrSign (c : Char) : Bool := (decimalDigit? c).isSome || signs.contains c

def isDigitOrMark (c : Char) : Bool := (decimalDigit? c).isSome || marks.contains c

theorem isDigitOrSign_of_digit {c : Char} (h : (decimalDigit? c).isSome = true) :
    isDigitOrSign c = true := by rw [isDigitOrSign, h, Bool.true_or]

theorem all_isDigitOrMark {cs : List Char} (h : cs.all isDigitOrSign = true) :
    cs.all isDigitOrMark = true := by
  rw [List.all_eq_true] at h ⊢
  intro c hc
  have hsign := h c hc
  rw [isDigitOrSign, Bool.or_eq_true, List.contains_iff_mem] at hsign
  rw [isDigitOrMark, Bool.or_eq_true, List.contains_iff_mem]
  exact hsign.imp_right fun hmem => List.mem_cons_of_mem _ (List.mem_cons_of_mem _ hmem)

theorem of_forall_ascii {P : Char → Prop} (h : ∀ n < 128, P (Char.ofNat n)) {c : Char}
    (hc : c.toNat < 128) : P c := by
  have hnat := h c.toNat hc
  rwa [Char.ofNat_toNat] at hnat

def areNoDigits (first last : Nat) : Bool :=
  decimalZeros.all fun z => (z + 10).ble first || last.blt z

def areNoMarks (first last : Nat) : Bool :=
  marks.all fun m => m.toNat.blt first || last.blt m.toNat

theorem decimalDigit?_of_areNoDigits {first last : Nat} (h : areNoDigits first last = true)
    {c : Char} (hfirst : first ≤ c.toNat) (hlast : c.toNat ≤ last) :
    (decimalDigit? c).isSome = false := by
  rw [Bool.eq_false_iff]
  intro hdigit
  obtain ⟨z, hz, hle, hlt⟩ : ∃ z ∈ decimalZeros, z ≤ c.toNat ∧ c.toNat < z + 10 := by
    simpa [decimalDigit?] using hdigit
  have hapart := List.all_eq_true.1 h z hz
  simp only [Bool.or_eq_true, Nat.ble_eq, Nat.blt_eq] at hapart
  omega

theorem not_mem_marks_of_areNoMarks {first last : Nat} (h : areNoMarks first last = true)
    {c : Char} (hfirst : first ≤ c.toNat) (hlast : c.toNat ≤ last) : c ∉ marks := by
  intro hmem
  have hapart := List.all_eq_true.1 h c hmem
  simp only [Bool.or_eq_true, Nat.blt_eq] at hapart
  omega

theorem no_digits_among_sources :
    (∀ run ∈ caseRuns, areNoDigits run.first run.last = true) ∧
      ∀ expansion ∈ caseExpansions, areNoDigits expansion.1 expansion.1 = true := by
  decide +kernel

def CaseRun.lastImage (run : CaseRun) : Nat := run.image + (run.last - run.first)

theorem no_digits_or_marks_among_images :
    (∀ run ∈ caseRuns, areNoDigits run.image run.lastImage = true ∧
        areNoMarks run.image run.lastImage = true) ∧
      ∀ expansion ∈ caseExpansions, ∃ n ∈ expansion.2, isDigitOrMark (Char.ofNat n) = false := by
  decide +kernel

theorem bounds_of_covers {run : CaseRun} {n : Nat} (h : run.covers n = true) :
    run.first ≤ n ∧ n ≤ run.last := by
  simp only [CaseRun.covers, Bool.and_eq_true, decide_eq_true_eq] at h
  exact h.1

/-- A number that is no code point gives the character with the number zero. -/
theorem toNat_ofNat_or (n : Nat) : (Char.ofNat n).toNat = n ∨ Char.ofNat n = Char.ofNat 0 := by
  by_cases hvalid : n.isValidChar
  · exact .inl (congrArg Char.toNat (dif_pos hvalid))
  · exact .inr (dif_neg hvalid)

theorem isDigitOrMark_image {run : CaseRun} (hrun : run ∈ caseRuns) {n : Nat}
    (hcovers : run.covers n = true) :
    isDigitOrMark (Char.ofNat (run.image + (n - run.first))) = false := by
  obtain ⟨hdigits, hmarks⟩ := no_digits_or_marks_among_images.1 run hrun
  obtain ⟨hfirst, hlast⟩ := bounds_of_covers hcovers
  rcases toNat_ofNat_or (run.image + (n - run.first)) with hnat | hzero
  · have hge : run.image ≤ (Char.ofNat (run.image + (n - run.first))).toNat := by omega
    have hle : (Char.ofNat (run.image + (n - run.first))).toNat ≤ run.lastImage := by
      unfold CaseRun.lastImage
      omega
    simp [isDigitOrMark, decimalDigit?_of_areNoDigits hdigits hge hle,
      not_mem_marks_of_areNoMarks hmarks hge hle]
  · rw [hzero]
    decide +kernel

theorem uppercaseChar_eq_self_of_digit {c : Char} (h : (decimalDigit? c).isSome = true) :
    uppercaseChar c = [c] := by
  by_cases hascii : c.toNat < 128
  · have hupper := of_forall_ascii
      (P := fun c => (decimalDigit? c).isSome = true → c.toUpper = c) (by decide +kernel) hascii
    rw [uppercaseChar, if_pos hascii, hupper h]
  · have hexpansion : caseExpansions.find? (·.1 == c.toNat) = none := by
      rw [List.find?_eq_none]
      intro expansion hmem heq
      rw [beq_iff_eq] at heq
      have hnone := decimalDigit?_of_areNoDigits (no_digits_among_sources.2 expansion hmem)
        (Nat.le_of_eq heq) (Nat.le_of_eq heq.symm)
      rw [h] at hnone
      cases hnone
    have hrun : caseRuns.find? (·.covers c.toNat) = none := by
      rw [List.find?_eq_none]
      intro run hmem hcovers
      obtain ⟨hfirst, hlast⟩ := bounds_of_covers hcovers
      have hnone := decimalDigit?_of_areNoDigits (no_digits_among_sources.1 run hmem)
        hfirst hlast
      rw [h] at hnone
      cases hnone
    rw [uppercaseChar, if_neg hascii, hexpansion, hrun]

/-- A character and its upper case, if that is a digit or a mark. -/
def Capitalizes (c d : Char) : Prop :=
  uppercaseChar c = [d] ∧ (c = d ∨ c = 't' ∧ d = 'T' ∨ c = 'z' ∧ d = 'Z')

theorem exists_capitalizes {c : Char} (h : (uppercaseChar c).all isDigitOrMark = true) :
    ∃ d, Capitalizes c d := by
  rw [List.all_eq_true] at h
  by_cases hascii : c.toNat < 128
  · have hupper := of_forall_ascii
      (P := fun c => isDigitOrMark c.toUpper = true →
        c = c.toUpper ∨ c = 't' ∧ c.toUpper = 'T' ∨ c = 'z' ∧ c.toUpper = 'Z')
      (by decide +kernel) hascii
    have himage : uppercaseChar c = [c.toUpper] := if_pos hascii
    rw [himage] at h
    exact ⟨c.toUpper, himage, hupper (h _ (List.mem_singleton_self _))⟩
  · rw [uppercaseChar, if_neg hascii] at h
    split at h
    · rename_i expansion hfind
      obtain ⟨n, hn, himage⟩ :=
        no_digits_or_marks_among_images.2 expansion (List.mem_of_find?_eq_some hfind)
      rw [h _ (List.mem_map_of_mem hn)] at himage
      cases himage
    · rename_i hexpansion
      split at h
      · rename_i run hfind
        have hcovers := List.find?_some hfind
        have himage := isDigitOrMark_image (List.mem_of_find?_eq_some hfind) hcovers
        rw [h _ (List.mem_singleton_self _)] at himage
        cases himage
      · rename_i hrun
        refine ⟨c, ?_, .inl rfl⟩
        rw [uppercaseChar, if_neg hascii, hexpansion, hrun]

/-- A text of digits and marks is the upper case of none but itself, up to the size of its
letters. -/
theorem capitalizes_of_uppercaseChars {cs ds : List Char} (h : uppercaseChars cs = ds)
    (hds : ds.all isDigitOrMark = true) : List.Forall₂ Capitalizes cs ds := by
  induction cs generalizing ds with
  | nil =>
    subst h
    exact .nil
  | cons c cs ih =>
    rw [uppercaseChars_cons] at h
    subst h
    rw [List.all_append, Bool.and_eq_true] at hds
    obtain ⟨d, hd⟩ := exists_capitalizes hds.1
    rw [hd.1]
    exact .cons hd (ih rfl hds.2)

theorem eq_of_capitalizes {cs ds : List Char} (h : List.Forall₂ Capitalizes cs ds)
    (hds : ds.all isDigitOrSign = true) : cs = ds := by
  induction h with
  | nil => rfl
  | cons hd _ ih =>
    rw [List.all_cons, Bool.and_eq_true] at hds
    rw [ih hds.2]
    rcases hd.2 with rfl | ⟨-, rfl⟩ | ⟨-, rfl⟩
    · rfl
    · exact absurd hds.1 (by decide)
    · exact absurd hds.1 (by decide)

/-- Where the upper case falls into two parts, so does the text. -/
theorem exists_append_of_capitalizes {cs xs ys : List Char}
    (h : List.Forall₂ Capitalizes cs (xs ++ ys)) :
    ∃ as bs, cs = as ++ bs ∧ List.Forall₂ Capitalizes as xs ∧ List.Forall₂ Capitalizes bs ys :=
  ⟨cs.take xs.length, cs.drop xs.length, (List.take_append_drop _ _).symm,
    List.forall₂_take_append cs xs ys h, List.forall₂_drop_append cs xs ys h⟩

end PolicyAgent.Text
