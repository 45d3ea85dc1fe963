/-!
# Regular expressions that match a given text

A backslash before each operator character takes away its meaning, so that the quoted text matches
itself and nothing else. The patterns of a query ignore case, and may be anchored at both ends.
-/

namespace FilterQuery.Text.Pattern

/-- The characters that mean something of their own in a regular expression. -/
def operators : List Char :=
  ['.', '*', '+', '?', '^', '$', '\x7b', '\x7d', '(', ')', '|', '[', ']', '\\']

def spell (c : Char) : List Char := if c ∈ operators then ['\\', c] else [c]

def encode (cs : List Char) : List Char := cs.flatMap spell

/-- The regular expression that matches exactly this text. -/
def quote (s : String) : String := String.ofList (encode s.toList)

@[simp] theorem encode_nil : encode [] = [] := rfl

@[simp] theorem encode_cons (c : Char) (cs : List Char) :
    encode (c :: cs) = spell c ++ encode cs := rfl

theorem encode_append (cs ds : List Char) : encode (cs ++ ds) = encode cs ++ encode ds := by
  simp [encode]

end FilterQuery.Text.Pattern
