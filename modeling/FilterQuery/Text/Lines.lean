/-!
# Lines of a text

A line feed ends a line and belongs to none. What follows the last line feed is a line of its own,
unless it is empty.
-/

namespace FilterQuery.Text

/-- The lines of a text, each without the line feed that ends it. -/
def lines : List Char → List (List Char)
  | [] => []
  | c :: cs =>
    if c = '\n' then [] :: lines cs
    else match lines cs with
      | [] => [[c]]
      | line :: rest => (c :: line) :: rest

theorem lines_append_lineFeed {line : List Char} (h : '\n' ∉ line) (cs : List Char) :
    lines (line ++ '\n' :: cs) = line :: lines cs := by
  induction line with
  | nil => simp [lines]
  | cons c line ih =>
    simp only [List.mem_cons, not_or] at h
    simp [lines, Ne.symm h.1, ih h.2]

theorem lineFeed_notMem_of_mem_lines {line cs : List Char} (h : line ∈ lines cs) :
    '\n' ∉ line := by
  fun_induction lines cs generalizing line with
  | case1 => simp at h
  | case2 cs ih =>
    rcases List.mem_cons.1 h with rfl | hline
    · simp
    · exact ih hline
  | case3 c cs hc heq =>
    simp only [List.mem_singleton] at h
    subst h
    simp [Ne.symm hc]
  | case4 c cs hc first rest heq ih =>
    rw [heq] at ih
    rcases List.mem_cons.1 h with rfl | hline
    · simpa [Ne.symm hc] using ih List.mem_cons_self
    · exact ih (List.mem_cons_of_mem _ hline)

end FilterQuery.Text
