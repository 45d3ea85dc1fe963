import FilterQuery.Proofs.Compiler.Attributes
import FilterQuery.Proofs.Graph.SchemaQueries
import Mathlib.Data.List.TakeWhile

/-!
# The keyword that is asked for is the one that is compiled

A text writes a keyword if it is its name, blanks around it and one colon in front aside. There is a
query for the schema of exactly these texts, and it is read as the question for this keyword. The
schema that the graph gives for a text is known by the same keyword, with a colon of its own in
front if the text has none. So what a property stands for in a clause is what its schema was asked
for.
-/

namespace FilterQuery

open Datalog

namespace Graph

/-! ## Grammar -/

/-- Word characters and signs, at least one of them. -/
def IsSegment (cs : List Char) : Prop :=
  cs ≠ [] ∧ ∀ c ∈ cs, Text.isWord c = true ∨ c ∈ keywordSigns

/-- One segment, or two with a slash between them. -/
def IsName (cs : List Char) : Prop :=
  IsSegment cs ∨ ∃ first second, IsSegment first ∧ IsSegment second ∧ cs = first ++ '/' :: second

/-- Without the blanks around it, a text is a name, or a name behind one colon. -/
def Writes (s : String) (name : List Char) : Prop :=
  IsName name ∧ ((Text.trim s).toList = name ∨ (Text.trim s).toList = ':' :: name)

/-- The query for the schema of a keyword, which is given with its colon. -/
def keywordQuery (keyword : String) : String :=
  "[:find (pull ?p [*]) :where [?p :db/ident " ++ keyword ++ "]]"

/-- The form that asks for everything about the entity of a keyword. -/
def keywordForm (keyword : String) : Form :=
  .vector [.word ":find", .list [.word "pull", .word "?p", .vector [.word "*"]], .word ":where",
    .vector [.word "?p", .word ":db/ident", .word keyword]]

theorem isSegment_iff {cs : List Char} :
    IsSegment cs ↔ cs ≠ [] ∧ ∀ c ∈ cs, isKeywordCharacter c = true := by
  simp only [IsSegment, isKeywordCharacter, Bool.or_eq_true, decide_eq_true_eq]

theorem not_isKeywordCharacter_slash : isKeywordCharacter '/' = false := by
  rw [isKeywordCharacter, isWord_eq_of_toNat_lt (by decide)]
  decide

theorem not_isKeywordCharacter_colon : isKeywordCharacter ':' = false := by
  rw [isKeywordCharacter, isWord_eq_of_toNat_lt (by decide)]
  decide

/-- A segment ends at the first slash or at the end of a name. -/
theorem isKeywordName_iff (cs : List Char) : isKeywordName cs = true ↔ IsName cs := by
  constructor
  · intro h
    rw [isKeywordName, Bool.and_eq_true, Bool.not_eq_true', List.isEmpty_eq_false_iff] at h
    obtain ⟨hne, hrest⟩ := h
    have hfirst : IsSegment (cs.takeWhile isKeywordCharacter) :=
      isSegment_iff.2 ⟨hne, List.all_eq_true.1 List.all_takeWhile⟩
    have hsplit := List.takeWhile_append_dropWhile (p := isKeywordCharacter) (l := cs)
    cases hcase : cs.dropWhile isKeywordCharacter with
    | nil =>
      rw [hcase, List.append_nil] at hsplit
      exact .inl (hsplit ▸ hfirst)
    | cons c second =>
      rw [hcase] at hsplit hrest
      simp only [Bool.and_eq_true, beq_iff_eq, Bool.not_eq_true', List.isEmpty_eq_false_iff,
        List.all_eq_true] at hrest
      obtain ⟨⟨rfl, hsecond⟩, hall⟩ := hrest
      exact .inr ⟨_, second, hfirst, isSegment_iff.2 ⟨hsecond, hall⟩, hsplit.symm⟩
  · rintro (hsegment | ⟨first, second, hfirst, hsecond, rfl⟩)
    · obtain ⟨hne, hall⟩ := isSegment_iff.1 hsegment
      simp [isKeywordName, List.takeWhile_eq_self_iff.2 hall, List.dropWhile_eq_nil_iff.2 hall, hne]
    · obtain ⟨hne, hall⟩ := isSegment_iff.1 hfirst
      obtain ⟨hne', hall'⟩ := isSegment_iff.1 hsecond
      have htake : (first ++ '/' :: second).takeWhile isKeywordCharacter = first := by
        rw [List.takeWhile_append_of_pos hall,
          List.takeWhile_cons_of_neg (by simp [not_isKeywordCharacter_slash]), List.append_nil]
      have hdrop : (first ++ '/' :: second).dropWhile isKeywordCharacter = '/' :: second := by
        rw [List.dropWhile_append_of_pos hall,
          List.dropWhile_cons_of_neg (by simp [not_isKeywordCharacter_slash])]
      simpa [isKeywordName, htake, hdrop, hne, hne'] using hall'

/-- A name does not start with a colon. -/
theorem dropColon_of_isName {name : List Char} (h : IsName name) : dropColon name = name := by
  unfold dropColon
  split
  case h_1 rest =>
    have hname := (isKeywordName_iff _).2 h
    simp [isKeywordName, not_isKeywordCharacter_colon] at hname
  case h_2 => rfl

theorem keyword?_eq_some_iff (s : String) (keyword : String) :
    keyword? s = some keyword ↔ Writes s keyword.toList := by
  have hdrop {cs name : List Char} (hname : IsName name) :
      dropColon cs = name ↔ cs = name ∨ cs = ':' :: name := by
    constructor
    · rintro rfl
      unfold dropColon
      split
      · exact .inr rfl
      · exact .inl rfl
    · rintro (rfl | rfl)
      · exact dropColon_of_isName hname
      · rfl
  simp only [keyword?, Option.ite_none_right_eq_some, Option.some.injEq, isKeywordName_iff]
  constructor
  · rintro ⟨hname, rfl⟩
    rw [String.toList_ofList]
    exact ⟨hname, (hdrop hname).1 rfl⟩
  · rintro ⟨hname, hcases⟩
    rw [(hdrop hname).2 hcases]
    exact ⟨hname, String.ofList_toList⟩

/-! ## Queries -/

theorem keywordQuery_injective : Function.Injective keywordQuery := by
  intro keyword other h
  have hlist : (keywordQuery keyword).toList = (keywordQuery other).toList := by rw [h]
  unfold keywordQuery at hlist
  iterate 4 rw [String.toList_append] at hlist
  rw [List.append_left_inj, List.append_right_inj] at hlist
  exact String.toList_injective hlist

/-- The colon of a keyword stands in the query whether or not it is entered. -/
theorem schemaQuery?_eq (s : String) :
    schemaQuery? s = (keyword? s).map fun keyword ↦ keywordQuery (":" ++ keyword) := by
  have hcolon : "[:find (pull ?p [*]) :where [?p :db/ident :" =
      "[:find (pull ?p [*]) :where [?p :db/ident " ++ ":" := rfl
  refine congrArg (Option.map · (keyword? s)) (funext fun keyword ↦ ?_)
  calc "[:find (pull ?p [*]) :where [?p :db/ident :" ++ keyword ++ "]]"
    _ = "[:find (pull ?p [*]) :where [?p :db/ident " ++ ":" ++ keyword ++ "]]" :=
      congrArg (· ++ keyword ++ "]]") hcolon
    _ = "[:find (pull ?p [*]) :where [?p :db/ident " ++ (":" ++ keyword) ++ "]]" :=
      congrArg (· ++ "]]") String.append_assoc

/-- Exactly the texts that write a keyword have a query, and it is the one for this keyword. -/
theorem schemaQuery?_eq_some_iff (s query : String) : schemaQuery? s = some query ↔
    ∃ name, Writes s name ∧ query = keywordQuery (":" ++ String.ofList name) := by
  simp only [schemaQuery?_eq, Option.map_eq_some_iff, keyword?_eq_some_iff]
  constructor
  · rintro ⟨keyword, hwrites, rfl⟩
    exact ⟨keyword.toList, hwrites, by rw [String.ofList_toList]⟩
  · rintro ⟨name, hwrites, rfl⟩
    exact ⟨String.ofList name, by rwa [String.toList_ofList], rfl⟩

theorem schemaQuery?_isSome_iff (s : String) :
    (schemaQuery? s).isSome = true ↔ ∃ name, Writes s name := by
  simp only [Option.isSome_iff_exists, schemaQuery?_eq_some_iff]
  exact ⟨fun ⟨_, name, hwrites, _⟩ ↦ ⟨name, hwrites⟩, fun ⟨name, hwrites⟩ ↦ ⟨_, name, hwrites, rfl⟩⟩

theorem isKeyword_of_writes {s : String} {name : List Char} (h : Writes s name) :
    IsKeyword (":" ++ String.ofList name) :=
  ⟨name, by simp, (isKeywordName_iff name).2 h.1⟩

/-- The query for a keyword is read as one form, with the keyword as a word of it. -/
theorem readForms?_keywordQuery {keyword : String} (h : IsWord keyword) :
    readForms? (keywordQuery keyword) = some [keywordForm keyword] := by
  have hall : Reads ['[', '*', ']'] [.vector [.word "*"]] :=
    (reads_word (s := "*") (by decide)).vector
  have hproperty := reads_word (s := "?p") (by decide)
  have hhead : IsWord "pull" := by decide
  have hpull := reads_headed hhead (hproperty.space hall)
  have hident := (hproperty.space ((reads_word (s := ":db/ident") (by decide)).space
    (reads_word h))).vector
  have hwhere := (reads_word (s := ":where") (by decide)).space hident
  have hform := ((reads_word (s := ":find") (by decide)).space (hpull.space hwhere)).vector
  apply Reads.readForms?_eq
  unfold keywordQuery keywordForm
  iterate 2 rw [String.toList_append]
  simpa using hform

/-! ## Schemas -/

theorem ident_of_schemaOfRows? {s : String} {rows : List Json} {schema : PropertySchema}
    (h : schemaOfRows? s rows = some schema) : schema.ident = Text.trim s := by
  obtain ⟨entity, -, h⟩ := Option.bind_eq_some_iff.1 h
  obtain ⟨type, -, h⟩ := Option.bind_eq_some_iff.1 h
  exact congrArg PropertySchema.ident (Option.some.inj h).symm

/-- A schema takes its colon from the text, or else gets one of its own. -/
theorem keyword_of_writes {s : String} {name : List Char} (h : Writes s name)
    {schema : PropertySchema} (hident : schema.ident = Text.trim s) :
    schema.keyword = ":" ++ String.ofList name := by
  obtain ⟨hname, heq | heq⟩ := h
  · have hhead : schema.ident.toList.head? ≠ some ':' := by
      rw [hident, heq]
      intro hcolon
      obtain ⟨rest, rfl⟩ := List.head?_eq_some_iff.1 hcolon
      have hsame := dropColon_of_isName hname
      exact absurd (congrArg List.length hsame) (by simp [dropColon])
    rw [PropertySchema.keyword, if_neg hhead, hident, ← heq, String.ofList_toList]
  · have hhead : schema.ident.toList.head? = some ':' := by
      rw [hident, heq]
      rfl
    rw [PropertySchema.keyword, if_pos hhead, hident]
    apply String.toList_injective
    simp [heq]

/-- The graph gives a schema for a keyword only, after one query for it, and under this keyword. -/
theorem exists_writes_of_schemaLookup {executor : Executor} {graph s : String}
    {schema : PropertySchema} (h : (schemaLookup executor graph s).value = some schema) :
    ∃ name, Writes s name ∧ schema.keyword = ":" ++ String.ofList name ∧
      (schemaLookup executor graph s).steps = [⟨graph, keywordQuery schema.keyword⟩] := by
  rw [schemaLookup_eq] at h ⊢
  dsimp only at h
  obtain ⟨query, hquery, hanswer⟩ := Option.bind_eq_some_iff.1 h
  obtain ⟨name, hwrites, hname⟩ := (schemaQuery?_eq_some_iff s query).1 hquery
  have hident : schema.ident = Text.trim s := by
    unfold schemaOfAnswer? at hanswer
    split at hanswer
    · exact ident_of_schemaOfRows? hanswer
    · cases hanswer
  refine ⟨name, hwrites, keyword_of_writes hwrites hident, ?_⟩
  rw [hquery, keyword_of_writes hwrites hident, hname]
  rfl

end Graph

/-- A schema is found by the last name that is looked up. -/
theorem SchemaLookup.exists_of_firstOf {Step : Type} {lookup : SchemaLookup Step}
    {first : Option String} {second : String} {schema : PropertySchema}
    (h : (lookup.firstOf first second).value = some schema) :
    ∃ name earlier, (lookup name).value = some schema ∧
      (lookup.firstOf first second).steps = earlier ++ (lookup name).steps := by
  cases first with
  | none => exact ⟨second, [], h, rfl⟩
  | some name =>
    rw [SchemaLookup.steps_firstOf, Option.elim_some, Option.bind_some]
    cases hfirst : (lookup name).value with
    | none =>
      refine ⟨second, (lookup name).steps, ?_, rfl⟩
      simpa [firstOf, hfirst] using h
    | some found =>
      refine ⟨name, [], ?_, by simp⟩
      simpa [firstOf, hfirst] using h

open FilterQuery.Graph

namespace Compiler

theorem steps_buildFilter {Step : Type} (compiler : Compiler Step) (entity : String)
    (filter : Filter) (scope : Scope) :
    (compiler.buildFilter entity filter scope).steps = (compiler.condition filter).steps := by
  unfold buildFilter
  rw [Recorded.bind_steps]
  cases (compiler.condition filter).value <;> rw [Recorded.pure_steps, List.append_nil]

/-- An attribute of a property that is neither the application's nor one of its name is the keyword
that was asked for last. -/
theorem attribute_cases {executor : Executor} {graph : String} {ignoreCase : Bool}
    {filter : PropertyFilter} (hschema : filter.propertySchema = none) {entity : String}
    (hentity : IsWord entity) (scope : Scope) :
    let built := (⟨ignoreCase, schemaLookup executor graph⟩ : Compiler Call).buildFilter entity
      (.property filter) scope
    ∀ attr ∈ built.value.1.flatMap Clause.attributes,
      attr ∈ applicationAttributes ∨ attr ∈ filter.nameAttributes ∨
        IsKeyword attr ∧ built.steps.getLast? = some ⟨graph, keywordQuery attr⟩ := by
  intro built attr hattr
  obtain ⟨clause, hclause, hmem⟩ := List.mem_flatMap.1 hattr
  have hallows := (framedBy_buildFilter hentity (.property filter) scope clause hclause).attributes
    attr hmem
  rcases hallows with happlication | ⟨_, heq, hgiven⟩
  · exact .inl happlication
  cases heq
  rcases List.mem_append.1 hgiven with hname | hfound
  · exact .inr (.inl hname)
  obtain ⟨schema, hvalue, rfl⟩ := List.mem_map.1 hfound
  have hoperator : filter.operator ≠ .unrecognized := by
    intro hunrecognized
    have hnone : built.value.1 = [] := by
      simp [built, buildFilter, condition_property_eq, hunrecognized]
    rw [hnone] at hclause
    cases hclause
  have hfind : filter.findSchema (schemaLookup executor graph) =
      (schemaLookup executor graph).firstOf filter.propertyIdent
        (Text.trim filter.propertyName) := by
    rw [PropertyFilter.findSchema, hschema]
  have hfirst : ((schemaLookup executor graph).firstOf filter.propertyIdent
      (Text.trim filter.propertyName)).value = some schema := by
    dsimp only at hvalue
    rwa [hfind, Option.mem_toList] at hvalue
  obtain ⟨name, earlier, hlookup, hsteps⟩ := SchemaLookup.exists_of_firstOf hfirst
  obtain ⟨segments, hwrites, hkeyword, hcalls⟩ := exists_writes_of_schemaLookup hlookup
  refine .inr (.inr ⟨hkeyword ▸ isKeyword_of_writes hwrites, ?_⟩)
  have hbuilt : built.steps = earlier ++ [⟨graph, keywordQuery schema.keyword⟩] := by
    calc built.steps
      _ = (filter.findSchema (schemaLookup executor graph)).steps := by
        rw [steps_buildFilter]
        simp only [condition_property_eq, hoperator, if_false, Recorded.bind_steps,
          Recorded.pure_steps, List.append_nil]
      _ = earlier ++ [⟨graph, keywordQuery schema.keyword⟩] := by rw [hfind, hsteps, hcalls]
  rw [hbuilt, List.getLast?_concat]

end Compiler

/-- A text has a query exactly if it writes a keyword, and the query is then read as the question
for this keyword; texts have the same query exactly if they write the same keyword. For other texts
nothing is sent. A schema that the graph gives is known by the keyword that was asked for, and so
the clauses of a property without a schema of its own hold, beside the attributes of the application
and of its name, only the keyword that was asked for last. -/
theorem schema_is_that_of_its_keyword (executor : Executor) (graph : String) :
    (∀ s, (schemaQuery? s).isSome = true ↔ ∃ name, Writes s name) ∧
    (∀ s name, Writes s name →
      let keyword := ":" ++ String.ofList name
      schemaQuery? s = some (keywordQuery keyword) ∧
        readForms? (keywordQuery keyword) = some [keywordForm keyword]) ∧
    (∀ s t name other, Writes s name → Writes t other →
      (schemaQuery? s = schemaQuery? t ↔ name = other)) ∧
    (∀ s, schemaQuery? s = none → schemaLookup executor graph s = ⟨none, []⟩) ∧
    (∀ s schema, (schemaLookup executor graph s).value = some schema →
      ∃ name, Writes s name ∧ schema.keyword = ":" ++ String.ofList name ∧
        (schemaLookup executor graph s).steps = [⟨graph, keywordQuery schema.keyword⟩]) ∧
    ∀ ignoreCase (filter : PropertyFilter) entity scope, filter.propertySchema = none →
      IsWord entity →
      let built := (⟨ignoreCase, schemaLookup executor graph⟩ : Compiler Call).buildFilter entity
        (.property filter) scope
      ∀ attr ∈ built.value.1.flatMap Clause.attributes,
        attr ∈ applicationAttributes ∨ attr ∈ filter.nameAttributes ∨
          IsKeyword attr ∧ built.steps.getLast? = some ⟨graph, keywordQuery attr⟩ := by
  have hsome {s : String} {name : List Char} (hwrites : Writes s name) :
      schemaQuery? s = some (keywordQuery (":" ++ String.ofList name)) :=
    (schemaQuery?_eq_some_iff s _).2 ⟨name, hwrites, rfl⟩
  refine ⟨schemaQuery?_isSome_iff, fun s name hwrites ↦ ?_, fun s t name other hs ht ↦ ?_,
    fun s hnone ↦ ?_, fun s schema ↦ exists_writes_of_schemaLookup,
    fun ignoreCase filter entity scope hschema hentity ↦
      Compiler.attribute_cases hschema hentity scope⟩
  · exact ⟨hsome hwrites,
      readForms?_keywordQuery (isWord_of_isKeyword (isKeyword_of_writes hwrites))⟩
  · rw [hsome hs, hsome ht, Option.some.injEq, keywordQuery_injective.eq_iff]
    constructor
    · intro heq
      have hlist := congrArg String.toList heq
      simpa using hlist
    · rintro rfl
      rfl
  · rw [schemaLookup_eq, hnone]
    rfl

/-- The colon may be left out, but not doubled, and the schema of a size is known with it. -/
theorem schema_is_that_of_its_keyword_of_size :
    let row : Json := .object [("db/valueType", .string ":db.type/number")]
    let executor : Executor := fun _ query ↦
      if query = keywordQuery ":user/size" then .ok [row] else .error (.failed "offline")
    let lookup := schemaLookup executor "notes"
    let compiler : Compiler Call := ⟨true, lookup⟩
    let filter : PropertyFilter := ⟨"size", some " user/size", none, .gt, .single "3"⟩
    schemaQuery? " user/size" = schemaQuery? ":user/size" ∧
      (lookup "::user/size").steps = [] ∧
      (∃ schema, (lookup " user/size").value = some schema ∧
        (lookup " user/size").steps = [⟨"notes", keywordQuery schema.keyword⟩]) ∧
      ":user/size" ∈ (compiler.buildFilter "?b" (.property filter) .empty).value.1.flatMap
        Clause.attributes ∧
      (compiler.buildFilter "?b" (.property filter) .empty).steps.getLast? =
        some ⟨"notes", keywordQuery ":user/size"⟩ := by
  intro row executor lookup compiler filter
  obtain ⟨-, -, hsame, hnone, hfound, hbuilt⟩ := schema_is_that_of_its_keyword executor "notes"
  have hname : IsName "user/size".toList := (isKeywordName_iff _).1 (by decide +kernel)
  have hbare : Writes " user/size" "user/size".toList := ⟨hname, .inl (by decide +kernel)⟩
  have hcolon : Writes ":user/size" "user/size".toList := ⟨hname, .inr (by decide +kernel)⟩
  have hdoubled : schemaQuery? "::user/size" = none := by decide +kernel
  have hschema : (lookup " user/size").value = some ⟨"user/size", .number, .one⟩ := by
    decide +kernel
  obtain ⟨_, -, -, hsteps⟩ := hfound " user/size" _ hschema
  have hattr : ":user/size" ∈
      (compiler.buildFilter "?b" (.property filter) .empty).value.1.flatMap Clause.attributes := by
    decide +kernel
  have hentity : IsWord "?b" := EntityKind.block.isWord_variableName
  have hcompiler : compiler = ⟨true, schemaLookup executor "notes"⟩ := rfl
  refine ⟨(hsame _ _ _ _ hbare hcolon).2 rfl, congrArg Recorded.steps (hnone _ hdoubled),
    ⟨_, hschema, hsteps⟩, hattr, ?_⟩
  rw [hcompiler] at hattr ⊢
  rcases hbuilt true filter "?b" .empty rfl hentity ":user/size" hattr with h | h | ⟨-, h⟩
  · exact absurd h (by decide +kernel)
  · exact absurd h (by decide +kernel)
  · exact h

end FilterQuery
