/-!
# Lone halves of surrogate pairs

UTF-16 writes a character from U+10000 on as two halves, a high and a low one. Documents may
hold a half without its other half, so a text is a sequence of points: characters and lone halves.

A text is kept as a string that spells its points. A character stands for itself. A lone half has
a stand-in, the character with the same number in the last plane, from U+10D800 to U+10DFFF, with
a mark before it, U+10FFFF. As these characters may be meant themselves, the marks before one of
them are doubled: a character has an even number of marks before it, a stand-in an odd number.
Other marks stand for themselves. So every string spells one sequence of points, and every
sequence of points has one spelling.
-/
namespace PolicyAgent.Text

def isHighSurrogate (n : Nat) : Bool := 0xd800 ≤ n && n ≤ 0xdbff

def isLowSurrogate (n : Nat) : Bool := 0xdc00 ≤ n && n ≤ 0xdfff

def isSurrogate (n : Nat) : Bool := isHighSurrogate n || isLowSurrogate n

def joinSurrogates (high low : Nat) : Char :=
  Char.ofNat (0x10000 + (high - 0xd800) * 0x400 + (low - 0xdc00))

/-- What a text consists of: characters, and lone halves counted from U+D800. -/
inductive Point
  | char (c : Char)
  | half (i : Fin 0x800)
  deriving DecidableEq, Repr

namespace Point

def ofCode (n : Nat) : Point :=
  if isSurrogate n then .half (Fin.ofNat 0x800 (n - 0xd800)) else .char (Char.ofNat n)

def code : Point → Nat
  | char c => c.toNat
  | half i => 0xd800 + i

def char? : Point → Option Char
  | char c => some c
  | half _ => none

def isChar : Point → Bool
  | char _ => true
  | half _ => false

theorem all_isChar_map_char (cs : List Char) : (cs.map char).all isChar = true := by
  simp [isChar]

end Point

def halfMark : Char := Char.ofNat 0x10ffff

def standIn (i : Fin 0x800) : Char := Char.ofNat (0x10d800 + i)

/-- The lone half that a character stands in for if it has the right marks before it. -/
def loneHalf? (c : Char) : Option (Fin 0x800) :=
  if h : 0x10d800 ≤ c.toNat ∧ c.toNat - 0x10d800 < 0x800 then some ⟨c.toNat - 0x10d800, h.2⟩
  else none

/-- The points of a text behind some marks. -/
def pointsFrom : (marks : Nat) → List Char → List Point
  | marks, [] => List.replicate marks (.char halfMark)
  | marks, c :: rest =>
    if c = halfMark then pointsFrom (marks + 1) rest
    else match loneHalf? c with
      | none => List.replicate marks (.char halfMark) ++ .char c :: pointsFrom 0 rest
      | some i =>
        let point := if marks % 2 = 1 then .half i else .char c
        List.replicate (marks / 2) (.char halfMark) ++ point :: pointsFrom 0 rest

def points (cs : List Char) : List Point := pointsFrom 0 cs

/-- The spelling of some points behind some marks that are points. -/
def spellFrom : (marks : Nat) → List Point → List Char
  | marks, [] => List.replicate marks halfMark
  | marks, .half i :: rest =>
    List.replicate (2 * marks + 1) halfMark ++ standIn i :: spellFrom 0 rest
  | marks, .char c :: rest =>
    if c = halfMark then spellFrom (marks + 1) rest
    else
      let marks := if (loneHalf? c).isSome then 2 * marks else marks
      List.replicate marks halfMark ++ c :: spellFrom 0 rest

def spell (ps : List Point) : List Char := spellFrom 0 ps

theorem toNat_standIn (i : Fin 0x800) : (standIn i).toNat = 0x10d800 + i := by
  have hvalid : (0x10d800 + i.val).isValidChar := .inr (by have := i.isLt; omega)
  rw [standIn, Char.ofNat, dif_pos hvalid]
  rfl

theorem loneHalf?_standIn (i : Fin 0x800) : loneHalf? (standIn i) = some i := by
  have hi := i.isLt
  simp [loneHalf?, toNat_standIn, hi]

theorem standIn_ne_halfMark (i : Fin 0x800) : standIn i ≠ halfMark := by
  intro h
  have hcode := congrArg Char.toNat h
  have hmark : halfMark.toNat = 0x10ffff := rfl
  have hi := i.isLt
  rw [toNat_standIn, hmark] at hcode
  omega

theorem eq_standIn_of_loneHalf? {c : Char} {i : Fin 0x800} (h : loneHalf? c = some i) :
    c = standIn i := by
  unfold loneHalf? at h
  split at h
  · rename_i hrange
    obtain rfl := Option.some.inj h
    have hcode : 0x10d800 + (c.toNat - 0x10d800) = c.toNat := by omega
    simp [standIn, hcode]
  · cases h

theorem pointsFrom_replicate (marks n : Nat) (cs : List Char) :
    pointsFrom marks (List.replicate n halfMark ++ cs) = pointsFrom (marks + n) cs := by
  induction n generalizing marks with
  | zero => rfl
  | succ n ih => simp [List.replicate_succ, pointsFrom, ih, Nat.add_comm, Nat.add_left_comm]

theorem spellFrom_replicate (marks n : Nat) (ps : List Point) :
    spellFrom marks (List.replicate n (.char halfMark) ++ ps) = spellFrom (marks + n) ps := by
  induction n generalizing marks with
  | zero => rfl
  | succ n ih => simp [List.replicate_succ, spellFrom, ih, Nat.add_comm, Nat.add_left_comm]

theorem pointsFrom_spellFrom (marks : Nat) (ps : List Point) :
    pointsFrom 0 (spellFrom marks ps) = List.replicate marks (.char halfMark) ++ ps := by
  induction ps generalizing marks with
  | nil => simpa [spellFrom, pointsFrom] using pointsFrom_replicate 0 marks []
  | cons p rest ih =>
    cases p with
    | half i =>
      have hhalves : (2 * marks + 1) / 2 = marks := by omega
      have hodd : (2 * marks + 1) % 2 = 1 := by omega
      simp [spellFrom, pointsFrom_replicate, pointsFrom, standIn_ne_halfMark, loneHalf?_standIn,
        hhalves, hodd, ih]
    | char c =>
      unfold spellFrom
      split
      · subst c
        rw [ih, List.replicate_succ', List.append_assoc]
        rfl
      · rename_i hmark
        cases hhalf : loneHalf? c <;>
          simp [pointsFrom_replicate, pointsFrom, hmark, hhalf, ih]

/-- What is spelt is read again. -/
@[simp] theorem points_spell (ps : List Point) : points (spell ps) = ps :=
  pointsFrom_spellFrom 0 ps

theorem spellFrom_pointsFrom (marks : Nat) (cs : List Char) :
    spellFrom 0 (pointsFrom marks cs) = List.replicate marks halfMark ++ cs := by
  induction cs generalizing marks with
  | nil => simpa [spellFrom, pointsFrom] using spellFrom_replicate 0 marks []
  | cons c rest ih =>
    unfold pointsFrom
    split
    · subst c
      rw [ih, List.replicate_succ', List.append_assoc]
      rfl
    · rename_i hmark
      cases hhalf : loneHalf? c with
      | none => simp [spellFrom_replicate, spellFrom, hmark, hhalf, ih]
      | some i =>
        obtain rfl := eq_standIn_of_loneHalf? hhalf
        by_cases hodd : marks % 2 = 1
        · have hmarks : 2 * (marks / 2) + 1 = marks := by omega
          simp [spellFrom_replicate, spellFrom, hodd, ih, hmarks]
        · have hmarks : 2 * (marks / 2) = marks := by omega
          simp [spellFrom_replicate, spellFrom, hodd, hmark, hhalf, ih, hmarks]

/-- What is read is spelt as it was. -/
@[simp] theorem spell_points (cs : List Char) : spell (points cs) = cs :=
  spellFrom_pointsFrom 0 cs

theorem points_eq_nil_iff {cs : List Char} : points cs = [] ↔ cs = [] := by
  constructor
  · intro h
    rw [← spell_points cs, h]
    rfl
  · rintro rfl
    rfl

/-- A character that has no part in the spelling of lone halves. -/
def isOrdinary (c : Char) : Bool := c != halfMark && (loneHalf? c).isNone

theorem isOrdinary_of_lt {c : Char} (h : c.toNat < 0x10d800) : isOrdinary c = true := by
  have hmark : c ≠ halfMark := by
    rintro rfl
    exact absurd h (by decide)
  have hhalf : loneHalf? c = none := dif_neg (by omega)
  simp [isOrdinary, hmark, hhalf]

theorem pointsFrom_cons {c : Char} (h : isOrdinary c = true) (marks : Nat) (cs : List Char) :
    pointsFrom marks (c :: cs) = List.replicate marks (.char halfMark) ++ .char c :: points cs := by
  simp only [isOrdinary, Bool.and_eq_true, bne_iff_ne, Option.isNone_iff_eq_none] at h
  simp [pointsFrom, h, points]

/-- Ordinary characters part a text into texts. -/
theorem pointsFrom_append_cons {c : Char} (h : isOrdinary c = true) (marks : Nat)
    (cs ds : List Char) :
    pointsFrom marks (cs ++ c :: ds) = pointsFrom marks cs ++ .char c :: points ds := by
  induction cs generalizing marks with
  | nil => exact pointsFrom_cons h marks ds
  | cons d rest ih =>
    rw [List.cons_append]
    unfold pointsFrom
    split
    · exact ih _
    · cases loneHalf? d <;> simp [ih]

theorem points_append_cons {c : Char} (h : isOrdinary c = true) (cs ds : List Char) :
    points (cs ++ c :: ds) = points cs ++ .char c :: points ds :=
  pointsFrom_append_cons h 0 cs ds

theorem points_append {cs : List Char} (h : ∀ c ∈ cs, isOrdinary c = true) (ds : List Char) :
    points (cs ++ ds) = cs.map .char ++ points ds := by
  induction cs with
  | nil => rfl
  | cons c rest ih =>
    obtain ⟨hc, hrest⟩ := List.forall_mem_cons.1 h
    calc points (c :: rest ++ ds) = .char c :: points (rest ++ ds) := pointsFrom_cons hc 0 _
      _ = (c :: rest).map .char ++ points ds := by rw [ih hrest]; rfl

theorem points_eq_map {cs : List Char} (h : ∀ c ∈ cs, isOrdinary c = true) :
    points cs = cs.map .char := by
  simpa [points, pointsFrom] using points_append h []

def ofPoints (ps : List Point) : String := String.ofList (spell ps)

/-- The characters of a text, without its lone halves. -/
def characters (cs : List Char) : List Char := (points cs).filterMap Point.char?

theorem characters_append {cs : List Char} (h : ∀ c ∈ cs, isOrdinary c = true)
    (ds : List Char) : characters (cs ++ ds) = cs ++ characters ds := by
  have hself : (cs.map Point.char).filterMap Point.char? = cs := by
    rw [List.filterMap_map]
    exact List.filterMap_some
  rw [characters, points_append h, List.filterMap_append, hself, characters]

theorem characters_eq_self {cs : List Char} (h : ∀ c ∈ cs, isOrdinary c = true) :
    characters cs = cs := by
  simpa [characters, points, pointsFrom] using characters_append h []

/-- A text without lone halves can be sent. -/
def isWellFormed (s : String) : Bool := (points s.toList).all Point.isChar

example : isWellFormed (ofPoints [.char halfMark, .char (standIn 0)]) = true := by decide

example : isWellFormed (ofPoints [.char halfMark, .half 0]) = false := by decide

end PolicyAgent.Text
