import FilterQuery.Proofs.Datalog.Attributes
import FilterQuery.Proofs.Text.Regex

/-!
# Entered texts are read back

A literal is read to the first double quote that has no backslash before it. What is written between
the quotes for a text is read back as this text, and the reader stops at the closing quote, whatever
comes behind it. A search quotes its text twice, first for the regular expression and then for the
literal that holds it, and is undone in the opposite order: the literal is read as the expression,
and the expression as the row of the text's characters, so that it finds this text and nothing else.
-/

namespace FilterQuery.Datalog

open FilterQuery.Text

/-- The content of a literal whose opening quote has been read, and the text behind its closing
quote. -/
def readLiteral? : List Char → Option (List Char × List Char)
  | [] => none
  | '"' :: rest => some ([], rest)
  | ['\\'] => none
  | '\\' :: c :: rest => do
    let d ← unescape? c
    let (content, rest) ← readLiteral? rest
    return (d :: content, rest)
  | c :: rest => do
    let (content, rest) ← readLiteral? rest
    return (c :: content, rest)

theorem readLiteral?_spell (c : Char) (cs : List Char) : readLiteral? (Literal.spell c ++ cs) =
    (readLiteral? cs).map fun (content, rest) ↦ (c :: content, rest) := by
  unfold Literal.spell
  split
  case h_6 hslash hquote _ _ _ =>
    rw [List.singleton_append, readLiteral?.eq_5 c cs hquote (fun h _ ↦ hslash h)
      (fun _ _ h _ ↦ hslash h)]
    cases readLiteral? cs <;> rfl
  all_goals
    simp only [List.cons_append, List.nil_append, readLiteral?, unescape?]
    cases readLiteral? cs <;> rfl

/-- What is written for a text is read back as this text, up to the closing quote. -/
theorem readLiteral?_encode (cs rest : List Char) :
    readLiteral? (Literal.encode cs ++ '"' :: rest) = some (cs, rest) := by
  induction cs with
  | nil => rfl
  | cons c cs ih =>
    rw [Literal.encode_cons, List.append_assoc, readLiteral?_spell, ih]
    rfl

/-- The reader of forms goes on behind the closing quote with the content of the literal. -/
theorem Reader.run_of_readLiteral? {cs content rest : List Char}
    (h : readLiteral? cs = some (content, rest)) (enclosing : List (Bracket × List Form))
    (forms : List Form) (before : List Char) :
    Reader.run ⟨enclosing, forms, .literal before⟩ cs =
      Reader.run ⟨enclosing, forms ++ [.text (String.ofList (before ++ content))], .between⟩
        rest := by
  fun_induction readLiteral? cs generalizing content before with
  | case1 => cases h
  | case2 rest' =>
    cases h
    simp [Reader.step]
  | case3 => cases h
  | case4 c rest' ih =>
    obtain ⟨d, hd, h⟩ := Option.bind_eq_some_iff.1 h
    obtain ⟨⟨inside, behind⟩, hinside, h⟩ := Option.bind_eq_some_iff.1 h
    cases h
    simp [Reader.step, hd, ih hinside]
  | case5 c rest' hquote hend hslash ih =>
    obtain ⟨⟨inside, behind⟩, hinside, h⟩ := Option.bind_eq_some_iff.1 h
    cases h
    have hplain : c ≠ '\\' := by
      rintro rfl
      cases rest' with
      | nil => exact hend rfl rfl
      | cons d rest' => exact hslash d rest' rfl rfl
    have hstep : Reader.step ⟨enclosing, forms, .literal before⟩ c =
        some ⟨enclosing, forms, .literal (before ++ [c])⟩ := by
      simp [Reader.step, hplain, show c ≠ '"' from hquote]
    rw [Reader.run_cons, hstep, Option.bind_some, ih hinside, List.append_assoc,
      List.singleton_append]

theorem toList_escape (s : String) : (Literal.escape s).toList = Literal.encode s.toList :=
  String.toList_ofList

theorem readLiteral?_escape (s : String) (rest : List Char) :
    readLiteral? ((Literal.escape s).toList ++ '"' :: rest) = some (s.toList, rest) := by
  rw [toList_escape, readLiteral?_encode]

/-- Different texts are written differently. -/
theorem escape_injective : Function.Injective Literal.escape := by
  intro s t h
  have hread : some (s.toList, ([] : List Char)) = some (t.toList, []) := by
    rw [← readLiteral?_escape, h, readLiteral?_escape]
  rw [Option.some.injEq, Prod.mk.injEq] at hread
  exact String.toList_injective hread.1

/-- A literal stands in one line and holds no tab. -/
theorem notMem_encode {c : Char} (hc : c ∈ ['\n', '\r', '\t']) (cs : List Char) :
    c ∉ Literal.encode cs := by
  have hspell (d : Char) : c ∉ Literal.spell d := by
    unfold Literal.spell
    split
    case h_6 _ _ hfeed hreturn htab =>
      rintro hmem
      obtain rfl := List.mem_singleton.1 hmem
      simp only [List.mem_cons, List.not_mem_nil, or_false] at hc
      exact hc.elim hfeed (Or.elim · hreturn htab)
    all_goals
      simp only [List.mem_cons, List.not_mem_nil, or_false] at hc
      rcases hc with rfl | rfl | rfl <;> decide
  unfold Literal.encode
  rw [List.mem_flatMap]
  rintro ⟨d, -, hmem⟩
  exact hspell d hmem

/-! ## Patterns -/

theorem toList_quote (s : String) : (Pattern.quote s).toList = Pattern.encode s.toList :=
  String.toList_ofList

theorem quote_injective : Function.Injective Pattern.quote := by
  intro s t h
  have hread : some (Regex.ofText s.toList) = some (Regex.ofText t.toList) := by
    rw [← Regex.read?_encode, ← toList_quote, h, toList_quote, Regex.read?_encode]
  exact String.toList_injective (Regex.ofText_injective (Option.some.inj hread))

namespace SearchPattern

variable (pattern : SearchPattern)

/-- What stands between the quotes of the literal of a pattern. -/
def body : String :=
  let quoted := Literal.escape (Pattern.quote pattern.text)
  "(?i)" ++ if pattern.isWhole then "^" ++ quoted ++ "$" else quoted

/-- Flag and anchors are written as they are. -/
theorem escape_source : Literal.escape pattern.source = pattern.body := by
  have hflag : Literal.escape "(?i)" = "(?i)" := rfl
  have hstart : Literal.escape "^" = "^" := rfl
  have hstop : Literal.escape "$" = "$" := rfl
  unfold source body
  rw [Literal.escape_append, hflag]
  split
  · rw [Literal.escape_append, Literal.escape_append, hstart, hstop]
  · rfl

theorem render_regex (bound : String) : (Clause.regex pattern bound).render =
    "[(re-pattern \"" ++ pattern.body ++ "\") " ++ bound ++ "]" := by
  have hopen : "[(re-pattern \"" = "[(re-pattern " ++ "\"" := rfl
  have hclose : "\") " = "\"" ++ ") " := rfl
  calc (Clause.regex pattern bound).render
    _ = "[(re-pattern " ++ Literal.quote pattern.source ++ ") " ++ bound ++ "]" := rfl
    _ = "[(re-pattern \"" ++ pattern.body ++ "\") " ++ bound ++ "]" := by
      rw [Literal.quote, escape_source, hopen, hclose]
      simp only [String.append_assoc]

/-- The text of the pattern, or the whole of it, and nothing else, is what an expression matches. -/
structure IsMatchedBy (search : Regex.Search) (alike : Char → Char → Prop) : Prop where
  matchesWhole_iff : ∀ text, search.MatchesWhole alike text ↔
    List.Forall₂ alike pattern.text.toList text
  finds_iff : ∀ text, search.Finds alike text ↔
    if pattern.isWhole then List.Forall₂ alike pattern.text.toList text
    else ∃ found, found <:+: text ∧ List.Forall₂ alike pattern.text.toList found

/-- The expression of a pattern is read back and matches its text only. -/
theorem exists_search : ∃ search, Regex.Search.read? pattern.source.toList = some search ∧
    ∀ alike, pattern.IsMatchedBy search alike := by
  obtain ⟨text, isWhole⟩ := pattern
  cases isWhole with
  | false =>
    have hread : Regex.Search.read? (source ⟨text, false⟩).toList =
        some ⟨true, Regex.ofText text.toList⟩ := by
      simp [source, Regex.Search.read?, toList_quote, Regex.read?_encode]
    refine ⟨_, hread, fun alike ↦ ⟨fun found ↦ ?_, fun whole ↦ ?_⟩⟩
    · rw [Regex.Search.MatchesWhole, Regex.Search.equates_ignoreCase, Regex.matches_ofText_iff]
    · simp only [Regex.Search.Finds, Regex.Search.equates_ignoreCase, Regex.matches_ofText_iff]
      constructor
      · rintro ⟨before, found, after, rfl, h⟩
        exact ⟨found, ⟨before, after, rfl⟩, h⟩
      · rintro ⟨found, ⟨before, after, rfl⟩, h⟩
        exact ⟨before, found, after, rfl, h⟩
  | true =>
    have hread : Regex.Search.read? (source ⟨text, true⟩).toList =
        some ⟨true, Regex.ofParts (.start :: (text.toList.map .char ++ [.stop]))⟩ := by
      simp [source, Regex.Search.read?, toList_quote, Regex.read?_anchored]
    refine ⟨_, hread, fun alike ↦ ⟨fun found ↦ ?_, fun whole ↦ ?_⟩⟩
    · rw [Regex.Search.MatchesWhole, Regex.Search.equates_ignoreCase, Regex.matches_anchored_iff]
      simp
    · simp only [Regex.Search.Finds, Regex.Search.equates_ignoreCase, Regex.matches_anchored_iff]
      constructor
      · rintro ⟨_, found, _, rfl, rfl, rfl, h⟩
        simpa using h
      · intro h
        exact ⟨[], whole, [], by simp, rfl, rfl, h⟩

end SearchPattern

namespace Clause

mutual

/-- The patterns in a clause, from left to right. -/
def patterns : Clause → List SearchPattern
  | .pattern _ _ _ => []
  | .test _ _ _ => []
  | .regex search _ => [search]
  | .either alternatives => patternsList alternatives
  | .conj _ parts => patternsList parts
  | .orJoin _ _ branches => patternsList branches
  | .notJoin _ parts => patternsList parts

def patternsList : List Clause → List SearchPattern
  | [] => []
  | clause :: clauses => clause.patterns ++ patternsList clauses

end

theorem patternsList_eq_flatMap (clauses : List Clause) :
    patternsList clauses = clauses.flatMap patterns := by
  induction clauses with
  | nil => rfl
  | cons clause clauses ih => rw [patternsList, ih, List.flatMap_cons]

end Clause

end FilterQuery.Datalog
