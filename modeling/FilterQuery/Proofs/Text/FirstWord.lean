import FilterQuery.Proofs.Calendar.DateTime

/-!
# The first word of a line

Trimming takes blanks from the two ends of a text and nothing else. So the first word of a line is
the same before and after it, and what stands behind this word differs in blanks at its ends only.
-/

namespace FilterQuery.Text

theorem exists_append_trimEnd (cs : List Char) :
    ∃ after, cs = trimEnd cs ++ after ∧ ∀ c ∈ after, isBlank c = true := by
  refine ⟨(cs.reverse.takeWhile isBlank).reverse, ?_,
    fun c hc ↦ List.mem_takeWhile_imp (List.mem_reverse.1 hc)⟩
  rw [trimEnd, ← List.reverse_append, List.takeWhile_append_dropWhile, List.reverse_reverse]

theorem exists_append_trim (s : String) :
    ∃ before after, s.toList = before ++ ((trim s).toList ++ after) ∧
      (∀ c ∈ before, isBlank c = true) ∧ ∀ c ∈ after, isBlank c = true := by
  obtain ⟨after, hcut, hafter⟩ := exists_append_trimEnd (trimStart s.toList)
  refine ⟨s.toList.takeWhile isBlank, after, ?_, fun c hc ↦ List.mem_takeWhile_imp hc, hafter⟩
  rw [toList_trim, ← hcut, trimStart, List.takeWhile_append_dropWhile]

theorem mem_of_mem_trim {s : String} {c : Char} (h : c ∈ (trim s).toList) : c ∈ s.toList := by
  obtain ⟨before, after, hcut, -, -⟩ := exists_append_trim s
  rw [hcut]
  exact List.mem_append_right _ (List.mem_append_left _ h)

/-- A text with no blank at either end has nothing to be trimmed. -/
theorem trim_of_ends {c d : Char} {cs front : List Char} (hends : c :: cs = front ++ [d])
    (hc : isBlank c = false) (hd : isBlank d = false) :
    trim (String.ofList (c :: cs)) = String.ofList (c :: cs) := by
  have hend : trimEnd (c :: cs) = c :: cs := by
    rw [trimEnd, hends, List.reverse_append, List.reverse_singleton, List.singleton_append,
      List.dropWhile_cons_of_neg (by simp [hd]), List.reverse_cons, List.reverse_reverse]
  rw [trim, String.toList_ofList, trimStart_cons_of_not_isBlank cs hc, hend]

/-! ## Words -/

/-- The first word of a line, which is empty if the line is blank. -/
def firstWord (line : String) : String :=
  String.ofList ((trimStart line.toList).takeWhile fun c ↦ !isBlank c)

/-- What stands behind the first word of a line. -/
def behindWord (line : String) : String :=
  String.ofList ((trimStart line.toList).dropWhile fun c ↦ !isBlank c)

theorem mem_of_mem_behindWord {line : String} {c : Char} (h : c ∈ (behindWord line).toList) :
    c ∈ line.toList := by
  rw [behindWord, String.toList_ofList] at h
  exact (List.dropWhile_sublist _).subset ((List.dropWhile_sublist _).subset h)

/-- A word ends where blanks begin. -/
theorem word_append {blanks : List Char} (h : ∀ c ∈ blanks, isBlank c = true) (cs : List Char) :
    (cs ++ blanks).takeWhile (fun c ↦ !isBlank c) = cs.takeWhile (fun c ↦ !isBlank c) ∧
      (cs ++ blanks).dropWhile (fun c ↦ !isBlank c) =
        cs.dropWhile (fun c ↦ !isBlank c) ++ blanks := by
  induction cs with
  | nil =>
    cases blanks with
    | nil => exact ⟨rfl, rfl⟩
    | cons b blanks => simp [h b List.mem_cons_self]
  | cons c cs ih =>
    cases hc : isBlank c with
    | true => simp [hc]
    | false => simpa [hc] using ih

theorem firstWord_append {before word rest : List Char} (hbefore : ∀ c ∈ before, isBlank c = true)
    (hne : word ≠ []) (hword : ∀ c ∈ word, isBlank c = false)
    (hrest : ∀ c ∈ rest.head?, isBlank c = true) :
    firstWord (String.ofList (before ++ (word ++ rest))) = String.ofList word ∧
      behindWord (String.ofList (before ++ (word ++ rest))) = String.ofList rest := by
  have hstart : trimStart (before ++ (word ++ rest)) = word ++ rest := by
    obtain ⟨c, word, rfl⟩ := List.exists_cons_of_ne_nil hne
    rw [trimStart, List.dropWhile_append_of_pos hbefore]
    exact trimStart_cons_of_not_isBlank _ (hword c List.mem_cons_self)
  have hkept : ∀ c ∈ word, (!isBlank c) = true := fun c hc ↦ by rw [hword c hc]; rfl
  have hends : rest.takeWhile (fun c ↦ !isBlank c) = [] ∧
      rest.dropWhile (fun c ↦ !isBlank c) = rest := by
    cases rest with
    | nil => exact ⟨rfl, rfl⟩
    | cons c rest => simp [hrest c rfl]
  rw [firstWord, behindWord, String.toList_ofList, hstart, List.takeWhile_append_of_pos hkept,
    List.dropWhile_append_of_pos hkept, hends.1, hends.2, List.append_nil]
  exact ⟨rfl, rfl⟩

/-- A trimmed line has the same first word. -/
theorem splitWord_trim_fst (line : String) : (splitWord (trim line)).1 = firstWord line := by
  obtain ⟨after, hcut, hafter⟩ := exists_append_trimEnd (trimStart line.toList)
  rw [firstWord, hcut, (word_append hafter _).1, splitWord, toList_trim]

/-- What stands behind the first word of a trimmed line differs in blanks at its ends. -/
theorem trim_splitWord_trim_snd (line : String) :
    trim (splitWord (trim line)).2 = trim (behindWord line) := by
  obtain ⟨after, hcut, hafter⟩ := exists_append_trimEnd (trimStart line.toList)
  rw [behindWord, hcut, (word_append hafter _).2, splitWord, toList_trim]
  generalize htail : (trimEnd (trimStart line.toList)).dropWhile (fun c ↦ !isBlank c) = tail
  cases tail with
  | nil =>
    have hblank := Calendar.trim_blanks (List.forall_mem_nil _) hafter ""
    exact hblank.symm
  | cons b tail =>
    have hb : isBlank b = true := by
      have hnot := List.head?_dropWhile_not (fun c ↦ !isBlank c) (trimEnd (trimStart line.toList))
      rw [htail] at hnot
      simpa using hnot
    have hblank := Calendar.trim_blanks (List.forall_mem_singleton.2 hb) hafter (String.ofList tail)
    rw [String.toList_ofList] at hblank
    exact hblank.symm

theorem trim_eq_empty_iff (line : String) : trim line = "" ↔ firstWord line = "" := by
  refine ⟨fun h ↦ by rw [← splitWord_trim_fst, h]; rfl, fun h ↦ ?_⟩
  cases hstart : trimStart line.toList with
  | nil =>
    rw [trim, hstart]
    rfl
  | cons c cs =>
    have hc : isBlank c = false := by
      have hnot := List.head?_dropWhile_not isBlank line.toList
      rwa [← trimStart, hstart] at hnot
    simp [firstWord, hstart, hc] at h

end FilterQuery.Text
