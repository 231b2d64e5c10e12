import Mathlib.Data.List.Basic
import PolicyAgent.Json.Printer
import PolicyAgent.Proofs.Procedure
import PolicyAgent.Text.Repertoire

/-!
# What can be written

A document can be sent if no text in it has a lone half of a surrogate pair: whatever the writer
puts around the texts is ASCII, and its escapes replace ASCII characters only. As ASCII has no part
in the spelling of lone halves, it keeps the texts of a document apart. The report about a command
holds the identifier of the command and perhaps the text of a cause, so these two decide whether it
can be sent. No report nests too deep.
-/
namespace PolicyAgent

open PolicyAgent.Json PolicyAgent.Text

namespace Text

section

variable {separator : String} (h : separator.toList.all isOrdinary = true) (s t : String)

include h

theorem isWellFormed_ordinary_append : isWellFormed (separator ++ s) = isWellFormed s := by
  rw [List.all_eq_true] at h
  rw [isWellFormed, String.toList_append, points_append h, List.all_append,
    Point.all_isChar_map_char, Bool.true_and, isWellFormed]

theorem isWellFormed_separated (hne : separator ≠ "") :
    isWellFormed (s ++ separator ++ t) = (isWellFormed s && isWellFormed t) := by
  cases hchars : separator.toList with
  | nil => exact absurd (String.toList_eq_nil_iff.1 hchars) hne
  | cons c cs =>
    rw [hchars, List.all_eq_true] at h
    obtain ⟨hc, hcs⟩ := List.forall_mem_cons.1 h
    simp only [isWellFormed, String.toList_append, hchars, List.append_assoc, List.cons_append,
      points_append_cons hc, points_append hcs, List.all_append, List.all_cons, Point.isChar,
      Point.all_isChar_map_char, Bool.true_and]

theorem isWellFormed_append_ordinary (hne : separator ≠ "") :
    isWellFormed (s ++ separator) = isWellFormed s := by
  have hempty : isWellFormed "" = true := by decide
  simpa [hempty] using isWellFormed_separated h s "" hne

theorem isWellFormed_intercalate (hne : separator ≠ "") (texts : List String) :
    isWellFormed (separator.intercalate texts) = texts.all isWellFormed := by
  induction texts with
  | nil => rfl
  | cons text rest ih =>
    cases rest with
    | nil => simp
    | cons next rest =>
      rw [String.intercalate_cons_cons, isWellFormed_separated h _ _ hne, ih]
      rfl

end

end Text

namespace Json

theorem all_isOrdinary_hexDigits (width n : Nat) : (hexDigits width n).all isOrdinary = true := by
  have hdigits : ∀ digit < 16, isOrdinary (Nat.digitChar digit) = true := by decide
  induction width generalizing n with
  | zero => rfl
  | succ width ih => simp [hexDigits, ih, hdigits (n % 16) (Nat.mod_lt _ (by decide))]

theorem escapeJsonChar_ne_nil (c : Char) : escapeJsonChar c ≠ [] := by
  unfold escapeJsonChar
  split_ifs <;> simp

theorem all_isOrdinary_escapeJsonChar {c : Char} (h : isOrdinary c = true) :
    (escapeJsonChar c).all isOrdinary = true := by
  have hbackslash : isOrdinary '\\' = true := by decide
  have hunicode : isOrdinary 'u' = true := by decide
  unfold escapeJsonChar
  split_ifs <;> first | decide | simp [h, hbackslash, hunicode, all_isOrdinary_hexDigits]

theorem escapeJsonChar_of_not_ordinary {c : Char} (h : ¬ isOrdinary c = true) :
    escapeJsonChar c = [c] := by
  have hascii {d : Char} (hd : d.toNat < 0x80) : c ≠ d := by
    rintro rfl
    exact h (isOrdinary_of_lt (by omega))
  have hcode : ¬ c.toNat < 0x80 := fun hlt => hascii hlt rfl
  unfold escapeJsonChar
  rw [if_neg (not_or.2 ⟨hascii (by decide), hascii (by decide)⟩), if_neg (hascii (by decide)),
    if_neg (hascii (by decide)), if_neg (hascii (by decide)), if_neg (by omega),
    if_neg (by omega), if_neg (by omega)]

/-- Escapes neither make nor take away lone halves. -/
theorem all_pointsFrom_escaped (marks : Nat) (cs : List Char) :
    (pointsFrom marks (cs.flatMap escapeJsonChar)).all Point.isChar
      = (pointsFrom marks cs).all Point.isChar := by
  induction cs generalizing marks with
  | nil => rfl
  | cons c rest ih =>
    rw [List.flatMap_cons]
    by_cases hordinary : isOrdinary c = true
    · cases hescape : escapeJsonChar c with
      | nil => exact absurd hescape (escapeJsonChar_ne_nil c)
      | cons d ds =>
        have hescaped := all_isOrdinary_escapeJsonChar hordinary
        rw [hescape, List.all_eq_true] at hescaped
        obtain ⟨hd, hds⟩ := List.forall_mem_cons.1 hescaped
        rw [List.cons_append, pointsFrom_cons hd, points_append hds, pointsFrom_cons hordinary]
        simp only [List.all_append, List.all_cons, Point.all_isChar_map_char, Bool.true_and]
        rw [points, ih, points]
        rfl
    · rw [escapeJsonChar_of_not_ordinary hordinary, List.singleton_append]
      unfold pointsFrom
      split
      · exact ih _
      · cases loneHalf? c <;> simp [ih]

theorem isWellFormed_writeString (s : String) :
    isWellFormed (writeString s) = isWellFormed s := by
  have hquote : "\"".toList.all isOrdinary = true := by decide
  have hescaped : isWellFormed (String.ofList (s.toList.flatMap escapeJsonChar))
      = isWellFormed s := by
    simpa [isWellFormed, points] using all_pointsFrom_escaped 0 s.toList
  calc isWellFormed (writeString s)
      = isWellFormed ("\"" ++ String.ofList (s.toList.flatMap escapeJsonChar) ++ "\"") := by
        simp [isWellFormed, writeString]
    _ = isWellFormed s := by
        rw [isWellFormed_append_ordinary hquote _ (by decide),
          isWellFormed_ordinary_append hquote, hescaped]

theorem isWellFormed_write_string (s : String) :
    isWellFormed ((Value.string s).write .compact) = isWellFormed s := by
  rw [Value.write, isWellFormed_writeString]

theorem isWellFormed_intercalate_item (texts : List String) :
    isWellFormed (Style.compact.item.intercalate texts) = texts.all isWellFormed :=
  isWellFormed_intercalate (by decide) (by decide) texts

theorem isWellFormed_write_array (items : List Value) :
    isWellFormed ((Value.array items).write .compact)
      = items.all fun item => isWellFormed (item.write .compact) := by
  have hitems : (writeItems .compact items).all isWellFormed
      = items.all fun item => isWellFormed (item.write .compact) := by
    induction items with
    | nil => rfl
    | cons item rest ih => simp [writeItems, ih]
  rw [Value.write, isWellFormed_append_ordinary (by decide) _ (by decide),
    isWellFormed_ordinary_append (by decide), isWellFormed_intercalate_item, hitems]

theorem isWellFormed_write_object (fields : Fields) :
    isWellFormed ((Value.object fields).write .compact)
      = fields.all fun field => isWellFormed field.1 && isWellFormed (field.2.write .compact) := by
  have hfield (name value : String) :
      isWellFormed (writeString name ++ Style.compact.name ++ value)
        = (isWellFormed name && isWellFormed value) := by
    rw [isWellFormed_separated (by decide) _ _ (by decide), isWellFormed_writeString]
  have hfields : (writeFields .compact fields).all isWellFormed
      = fields.all fun field => isWellFormed field.1 && isWellFormed (field.2.write .compact) := by
    induction fields with
    | nil => rfl
    | cons field rest ih => simp [writeFields, ih, hfield]
  rw [Value.write, isWellFormed_append_ordinary (by decide) _ (by decide),
    isWellFormed_ordinary_append (by decide), isWellFormed_intercalate_item, hfields]

end Json

/-- The identifier and the cause can be written. -/
def Report.isWritable (r : Report) : Bool :=
  isWellFormed r.commandId && match r.error with
    | some ⟨_, .string cause⟩ => isWellFormed cause
    | _ => true

namespace Report.IsVerdict

variable {r : Report}

theorem wire?_eq (h : r.IsVerdict) : r.wire? = .ok r.encode := by
  obtain ⟨verdict, hr⟩ := h
  rw [hr]
  cases verdict <;> rfl

theorem isWellFormed_write (h : r.IsVerdict) :
    isWellFormed (r.encode.write .compact) = r.isWritable := by
  have hnames : ∀ name ∈ ["commandId", "status", "error", "type", "data"],
      isWellFormed name = true := by decide
  have hcodes : ∀ code ∈ ["success", "failure", "internal-error", "unsupported-command",
      "invalid-ingress-id", "ingress-not-found", "acp-not-found"],
      isWellFormed code = true := by decide
  simp only [List.forall_mem_cons] at hnames hcodes
  obtain ⟨verdict, hr⟩ := h
  rw [hr]
  cases verdict <;>
    simp [Verdict.report, Verdict.refusal, encode, ReportError.encode, isWritable, Status.code,
      Value.isNull, Value.withoutNonFinite, isWellFormed_write_object, isWellFormed_write_string,
      hnames, hcodes]

end Report.IsVerdict

end PolicyAgent
