/-!
# Text inside double-quoted literals

A literal writes the backslash, the double quote, the line feed, the carriage return and the tab
with a leading backslash and every other character as itself, so that no text can close the
literal it stands in.
-/

namespace FilterQuery.Text.Literal

/-- How one character is written inside a literal. -/
def spell : Char → List Char
  | '\\' => ['\\', '\\']
  | '"' => ['\\', '"']
  | '\n' => ['\\', 'n']
  | '\r' => ['\\', 'r']
  | '\t' => ['\\', 't']
  | c => [c]

/-- How a text is written between the quotes of a literal. -/
def encode (cs : List Char) : List Char := cs.flatMap spell

def escape (s : String) : String := String.ofList (encode s.toList)

/-- The whole literal, quotes included. -/
def quote (s : String) : String := "\"" ++ escape s ++ "\""

@[simp] theorem encode_nil : encode [] = [] := rfl

@[simp] theorem encode_cons (c : Char) (cs : List Char) :
    encode (c :: cs) = spell c ++ encode cs := rfl

theorem encode_append (cs ds : List Char) : encode (cs ++ ds) = encode cs ++ encode ds := by
  simp [encode]

theorem escape_append (s t : String) : escape (s ++ t) = escape s ++ escape t := by
  simp [escape, encode_append, String.ofList_append]

end FilterQuery.Text.Literal
