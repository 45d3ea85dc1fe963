import FilterQuery.Text.CodePoints

/-!
# Blank characters

A character is blank when the character database gives it the property White_Space. Trimming drops
blanks at both ends and nothing in between; a line's first word ends at its first blank.
-/

namespace FilterQuery.Text

/-- The code points with the property White_Space. -/
def blankRanges : List CodeRange :=
  [(0x9, 0xd), (0x20, 0x20), (0x85, 0x85), (0xa0, 0xa0), (0x1680, 0x1680), (0x2000, 0x200a),
   (0x2028, 0x2029), (0x202f, 0x202f), (0x205f, 0x205f), (0x3000, 0x3000)]

def isBlank (c : Char) : Bool := inRanges blankRanges c

def trimStart (cs : List Char) : List Char := cs.dropWhile isBlank

def trimEnd (cs : List Char) : List Char := (cs.reverse.dropWhile isBlank).reverse

/-- A text without the blanks at its two ends. -/
def trim (s : String) : String := String.ofList (trimEnd (trimStart s.toList))

/-- Whether a text holds anything but blanks. -/
def isPresent (s : String) : Bool := s.toList.any fun c ↦ !isBlank c

/-- The text before the first blank and the text after that blank. -/
def splitWord (s : String) : String × String :=
  (String.ofList (s.toList.takeWhile fun c ↦ !isBlank c),
   String.ofList ((s.toList.dropWhile fun c ↦ !isBlank c).drop 1))

theorem toList_trim (s : String) : (trim s).toList = trimEnd (trimStart s.toList) :=
  String.toList_ofList

theorem trimStart_cons_of_not_isBlank {c : Char} (cs : List Char) (h : isBlank c = false) :
    trimStart (c :: cs) = c :: cs := by
  simp [trimStart, h]

end FilterQuery.Text
