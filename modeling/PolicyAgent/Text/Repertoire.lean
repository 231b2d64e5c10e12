import PolicyAgent.Text.Quoted

/-!
# Repertoires

A repertoire is a set of characters that can be written in some form. ASCII has the characters
below U+0080, and UTF-8 has all characters, but no lone halves of surrogate pairs. A text outside
its repertoire is refused with the place of its first run of points that the repertoire lacks.
-/
namespace PolicyAgent.Text

inductive Repertoire
  | ascii
  | utf8
  deriving DecidableEq, Repr

namespace Repertoire

def name : Repertoire → String
  | ascii => "ascii"
  | utf8 => "utf-8"

def has : Repertoire → Point → Bool
  | _, .half _ => false
  | ascii, .char c => c.toNat < 0x80
  | utf8, .char _ => true

def reason : Repertoire → String
  | ascii => "ordinal not in range(128)"
  | utf8 => "surrogates not allowed"

end Repertoire

/-- The first run of points that a repertoire lacks, and how many stand before it. -/
structure RepertoireError where
  repertoire : Repertoire
  first : Nat
  refused : List Point
  deriving DecidableEq, Repr

def RepertoireError.message (e : RepertoireError) : String :=
  let place := match e.refused with
    | [p] => s!"character '{String.ofList (codePointEscape p)}' in position {e.first}"
    | run => s!"characters in position {e.first}-{e.first + run.length - 1}"
  s!"'{e.repertoire.name}' codec can't encode {place}: {e.repertoire.reason}"

theorem dropWhile_eq_nil_iff {p : α → Bool} {xs : List α} :
    xs.dropWhile p = [] ↔ ∀ x ∈ xs, p x := by
  induction xs with
  | nil => simp
  | cons x rest ih => cases h : p x <;> simp_all

def Repertoire.check (r : Repertoire) (cs : List Char) : Except RepertoireError Unit :=
  match (points cs).dropWhile r.has with
  | [] => .ok ()
  | rest => .error ⟨r, ((points cs).takeWhile r.has).length, rest.takeWhile (!r.has ·)⟩

theorem Repertoire.check_eq_ok_iff {r : Repertoire} {cs : List Char} :
    r.check cs = .ok () ↔ ∀ p ∈ points cs, r.has p := by
  rw [← dropWhile_eq_nil_iff]
  unfold Repertoire.check
  split <;> simp_all

theorem Repertoire.has_utf8 (p : Point) : utf8.has p = p.isChar := by
  cases p <;> rfl

theorem utf8_check_eq_ok_iff {s : String} :
    Repertoire.utf8.check s.toList = .ok () ↔ isWellFormed s = true := by
  simp [Repertoire.check_eq_ok_iff, Repertoire.has_utf8, isWellFormed]

end PolicyAgent.Text
