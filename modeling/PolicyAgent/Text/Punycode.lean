import PolicyAgent.Text.Surrogate

/-!
# Punycode

A label of a domain name is written in ASCII by its ASCII characters, a hyphen, and numbers
that say where the others belong. The others come in the order of their code points, and a
number counts the places between one insertion and the next, over all code points and all
positions in the label. Numbers are written to base 36, lowest digit first; a digit below its
threshold ends the number, and the thresholds follow the size of the numbers before.
-/
namespace PolicyAgent.Text.Punycode

def digit (n : Nat) : Char :=
  if n < 26 then Char.ofNat ('a'.toNat + n) else Char.ofNat ('0'.toNat + (n - 26))

def value? (c : Char) : Option Nat :=
  if 'a' ≤ c ∧ c ≤ 'z' then some (c.toNat - 'a'.toNat)
  else if 'A' ≤ c ∧ c ≤ 'Z' then some (c.toNat - 'A'.toNat)
  else if '0' ≤ c ∧ c ≤ '9' then some (c.toNat - '0'.toNat + 26)
  else none

/-- The threshold of the digit with weight `k`, a multiple of 36. -/
def threshold (bias k : Nat) : Nat := max 1 (min 26 (k - bias))

theorem one_le_threshold (bias k : Nat) : 1 ≤ threshold bias k := by unfold threshold; omega

/-- A number is halved, or at first made much smaller, before it sets the next thresholds. -/
def scaled (first : Bool) (count delta : Nat) : Nat :=
  let half := delta / (if first then 700 else 2)
  half + half / count

def biasFor (k size : Nat) : Nat :=
  if 455 < size then biasFor (k + 36) (size / 35) else k + 36 * size / (size + 38)
termination_by size

def writeNumber (bias k n : Nat) : List Char :=
  let t := threshold bias k
  if n < t then [digit n]
  else digit (t + (n - t) % (36 - t)) :: writeNumber bias (k + 36) ((n - t) / (36 - t))
termination_by n
decreasing_by
  have := one_le_threshold bias k
  have := Nat.div_le_self (n - threshold bias k) (36 - threshold bias k)
  omega

/-- What has been written, the places passed since then, the bias, and the number of characters
that are in the label already. -/
structure Progress where
  written : List Char
  delta : Nat
  bias : Nat
  count : Nat

/-- A character is passed if it is in the label already, and inserted if its turn has come. -/
def Progress.visit (basic : Nat) (p : Progress) (turn : Nat) (n : Nat) : Progress :=
  if n < turn then { p with delta := p.delta + 1 }
  else if n = turn then
    { written := p.written ++ writeNumber p.bias 36 p.delta
      delta := 0
      bias := biasFor 0 (scaled (p.count == basic) (p.count + 1) p.delta)
      count := p.count + 1 }
  else p

def insertions (basic : Nat) (label : List Nat) :
    (turns : List Nat) → (next : Nat) → Progress → List Char
  | [], _, p => p.written
  | turn :: turns, next, p =>
    let start := { p with delta := p.delta + (turn - next) * (p.count + 1) }
    let done := label.foldl (fun p n => p.visit basic turn n) start
    insertions basic label turns (turn + 1) { done with delta := done.delta + 1 }

def encode (label : List Char) : List Char :=
  let isBasic (c : Char) : Bool := c.toNat < 0x80
  let basic := label.filter isBasic
  let turns := ((label.filter (!isBasic ·)).map Char.toNat).mergeSort.eraseDups
  basic ++ (if basic.isEmpty then [] else ['-'])
    ++ insertions basic.length (label.map Char.toNat) turns 0x80 ⟨[], 0, 72, basic.length⟩

def readNumber (bias : Nat) : (k weight : Nat) → List Char → Option (Nat × List Char)
  | _, _, [] => none
  | k, weight, c :: rest => do
    let d ← value? c
    let t := threshold bias k
    if d < t then return (d * weight, rest)
    let (n, rest) ← readNumber bias (k + 36) (weight * (36 - t)) rest
    return (d * weight + n, rest)

theorem length_lt_of_readNumber {bias k weight n : Nat} {cs rest : List Char}
    (h : readNumber bias k weight cs = some (n, rest)) : rest.length < cs.length := by
  induction cs generalizing k weight n with
  | nil => simp [readNumber] at h
  | cons c tail ih =>
    simp only [readNumber, Option.bind_eq_bind, Option.pure_def] at h
    obtain ⟨d, -, h⟩ := Option.bind_eq_some_iff.1 h
    split at h
    · simp_all
    · obtain ⟨⟨m, r⟩, hm, h⟩ := Option.bind_eq_some_iff.1 h
      obtain ⟨-, rfl⟩ : d * weight + m = n ∧ r = rest := by simpa using h
      exact Nat.lt_succ_of_lt (ih hm)

/-- The label with the insertions that are left. The last one was of code point `code` just
before `place`; the first one of all is told apart by `first`. -/
def insertAll (first : Bool) (code place bias : Nat) (label : List Point) (cs : List Char) :
    Option (List Point) :=
  if cs.isEmpty then some label
  else match _ : readNumber bias 36 1 cs with
    | none => none
    | some (delta, rest) =>
      let count := label.length + 1
      let code' := code + (place + delta) / count
      let place' := (place + delta) % count
      if 0x10ffff < code' then none
      else
        insertAll false code' (place' + 1) (biasFor 0 (scaled first count delta))
          (label.take place' ++ .ofCode code' :: label.drop place') rest
termination_by cs.length
decreasing_by exact length_lt_of_readNumber ‹_›

/-- The last hyphen ends the ASCII characters; the numbers follow it. -/
def splitNumbers (cs : List Char) : List Char × List Char :=
  let back := cs.reverse
  (((back.dropWhile (· ≠ '-')).drop 1).reverse, (back.takeWhile (· ≠ '-')).reverse)

def decode (cs : List Char) : Option (List Point) :=
  let (basic, numbers) := splitNumbers cs
  insertAll true 0x80 0 72 (basic.map .char) numbers

/-- The label with the insertions that can be read. A question mark is inserted for a code point
that does not exist, and counted from. -/
def insertReadable (first : Bool) (code place bias : Nat) (label : List Point) (cs : List Char) :
    List Point :=
  match _ : readNumber bias 36 1 cs with
  | none => label
  | some (delta, rest) =>
    let count := label.length + 1
    let next := code + (place + delta) / count
    let code' := if 0x10ffff < next then '?'.toNat else next
    let place' := (place + delta) % count
    insertReadable false code' (place' + 1) (biasFor 0 (scaled first count delta))
      (label.take place' ++ .ofCode code' :: label.drop place') rest
termination_by cs.length
decreasing_by exact length_lt_of_readNumber ‹_›

def decodeReadable (basic numbers : List Char) : List Point :=
  insertReadable true 0x80 0 72 (basic.map .char) numbers

end PolicyAgent.Text.Punycode
