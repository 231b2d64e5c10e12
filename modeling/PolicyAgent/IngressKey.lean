/-!
# Ingress identifiers

The platform names an ingress `name@namespace.kind.group`. Only the part before the first
point says which ingress is meant: its name and its namespace, with exactly one at sign
between them. Behind it there have to be a kind and a group, whatever they are; the group
may have points of its own.
-/
namespace PolicyAgent

/-- What an ingress is known by in a cluster. -/
structure IngressKey where
  name : String
  space : String
  deriving DecidableEq, Repr

namespace IngressKey

/-- The name and namespace in the part of an identifier before the first point. -/
def ofHead? (head : List Char) : Option IngressKey :=
  match head.dropWhile (· ≠ '@') with
  | '@' :: space =>
    if '@' ∈ space then none
    else some ⟨String.ofList (head.takeWhile (· ≠ '@')), String.ofList space⟩
  | _ => none

def ofChars? (cs : List Char) : Option IngressKey :=
  match cs.dropWhile (· ≠ '.') with
  | '.' :: rest => if '.' ∈ rest then ofHead? (cs.takeWhile (· ≠ '.')) else none
  | _ => none

def ofId? (id : String) : Option IngressKey := ofChars? id.toList

def target (key : IngressKey) : String := s!"{key.space}/{key.name}"

end IngressKey

end PolicyAgent
