import PolicyAgent.Text.Utf8

/-!
# Percent signs

A character that may not stand in a part of an address is written as its UTF-8 octets, each as
two hexadecimal digits behind a percent sign. A part that is read gives these octets back, and
a percent sign without two digits behind it stands for itself.
-/
namespace PolicyAgent.Text

def percentOctet (b : UInt8) : List Char := '%' :: (hexDigits 2 b.toNat).map Char.toUpper

def percentChar (safe : Char → Bool) (c : Char) : List Char :=
  if safe c then [c] else (utf8Octets (String.ofList [c])).flatMap percentOctet

def percentEncode (safe : Char → Bool) (cs : List Char) : List Char :=
  (characters cs).flatMap (percentChar safe)

theorem percentEncode_append_cons (safe : Char → Bool) {c : Char} (h : isOrdinary c = true)
    (cs ds : List Char) :
    percentEncode safe (cs ++ c :: ds) = percentEncode safe cs ++ percentEncode safe (c :: ds) := by
  have hrest : points (c :: ds) = .char c :: points ds := points_append_cons h [] ds
  simp [percentEncode, characters, points_append_cons h, hrest]

theorem percentEncode_eq_self {safe : Char → Bool} {cs : List Char} (hsafe : ∀ c ∈ cs, safe c)
    (h : ∀ c ∈ cs, isOrdinary c = true) : percentEncode safe cs = cs := by
  rw [percentEncode, characters_eq_self h]
  clear h
  induction cs with
  | nil => rfl
  | cons c rest ih =>
    obtain ⟨hc, hrest⟩ := List.forall_mem_cons.1 hsafe
    rw [List.flatMap_cons, ih hrest, percentChar, if_pos hc]
    rfl

/-- The octets that a part stands for. -/
def percentDecode : List Char → List UInt8
  | [] => []
  | '%' :: a :: b :: rest =>
    match hexValue? a, hexValue? b with
    | some high, some low => UInt8.ofNat (16 * high + low) :: percentDecode rest
    | _, _ => 0x25 :: percentDecode (a :: b :: rest)
  | c :: rest => utf8Octets (String.ofList [c]) ++ percentDecode rest

def percentText (cs : List Char) : List Char :=
  spell ((readUtf8Leniently 0 (percentDecode cs)).map .char)

end PolicyAgent.Text
