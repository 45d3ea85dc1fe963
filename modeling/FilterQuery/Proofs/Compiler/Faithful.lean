import FilterQuery.Graph.Keyword
import FilterQuery.Proofs.Compiler.Assembly

/-!
# No value breaks out of a query

Whatever was entered as a value, the text of a query is read to its end as the one form that the
tree prescribes, on its own as well as in the wrapping in which it is pasted into a page. The values
are found in its literals and nowhere else. All that is asked for is that property names and
attributes are made of plain characters, as keywords are.
-/

namespace FilterQuery

open Datalog

/-! ## Keywords are plain -/

theorem wordRanges_apart : ∀ range ∈ Text.wordRanges, 0xaa ≤ range.1 ∧
    ∀ blank ∈ Text.blankRanges, blank.2 < range.1 ∨ range.2 < blank.1 := by
  decide +kernel

/-- Below these ranges, the word characters are the letters, the digits and the underscore. -/
theorem isWord_eq_of_toNat_lt {c : Char} (h : c.toNat < 0xaa) :
    Text.isWord c = (c.isAlphanum || c == '_') := by
  have hrange : Text.inRanges Text.wordRanges c = false := by
    rw [Bool.eq_false_iff, ne_eq, Text.inRanges_iff]
    rintro ⟨range, hrange, hin⟩
    have hlow := (wordRanges_apart range hrange).1
    omega
  rw [Text.isWord, hrange, Bool.or_false]

theorem isPlain_of_inRanges {c : Char} (h : Text.inRanges Text.wordRanges c = true) :
    isPlain c = true := by
  obtain ⟨range, hrange, hle⟩ := (Text.inRanges_iff _ c).1 h
  obtain ⟨hlow, hblanks⟩ := wordRanges_apart range hrange
  have hblank : Text.isBlank c = false := by
    rw [Bool.eq_false_iff, ne_eq, Text.isBlank, Text.inRanges_iff]
    rintro ⟨blank, hblank, hin⟩
    have hapart := hblanks blank hblank
    omega
  have hdelimiter : c ∉ delimiters := by
    intro hmem
    have hsmall : (delimiters.all fun d ↦ d.toNat < 0xaa) = true := by decide
    have hcode : c.toNat < 0xaa := by simpa using List.all_eq_true.1 hsmall c hmem
    omega
  simp [isPlain, hblank, hdelimiter]

/-- A keyword is made of plain characters. -/
theorem isPlain_of_isKeywordCharacter {c : Char} (h : Graph.isKeywordCharacter c = true) :
    isPlain c = true := by
  have hsigns : Graph.keywordSigns.all isPlain = true := by decide
  rw [Graph.isKeywordCharacter, Bool.or_eq_true, decide_eq_true_eq, Text.isWord, Bool.or_eq_true,
    Bool.or_eq_true, beq_iff_eq] at h
  rcases h with ((halphanum | rfl) | hranges) | hsign
  · exact isPlain_of_isAlphanum halphanum
  · decide
  · exact isPlain_of_inRanges hranges
  · exact List.all_eq_true.1 hsigns c hsign

/-! ## Compiled queries -/

theorem EntityKind.isWord_variableName (kind : EntityKind) : IsWord kind.variableName := by
  cases kind <;> decide

theorem EntityKind.isVariable_variableName (kind : EntityKind) :
    isVariable kind.variableName = true := by
  cases kind <;> decide

theorem isWord_entity (node : Node) : IsWord node.entity :=
  (EntityKind.ofFilters node.validFilters).isWord_variableName

variable {Step : Type} {compiler : Compiler Step}

/-- The forms of a compiled query are made of its entity, of variables that are issued for the
requests of its filters, and of the literals of those filters that are valid. -/
theorem madeOf_compile {node : Node}
    (hplain : ∀ filter ∈ node.validFilters, compiler.IsPlain filter) :
    ∀ form ∈ node.assemble node.entity (compiler.parts node.entity .empty node.filters),
      form.MadeOf ⟨node.entity :: Scope.empty.freshList (node.filters.flatMap compiler.requests),
        node.validFilters.flatMap compiler.literals⟩ := by
  apply Node.madeOf_assemble List.mem_cons_self
  exact compiler.madeOf_parts fun filter hfilter hvalid ↦
    hplain filter (List.mem_filter.2 ⟨hfilter, hvalid⟩)

theorem isWord_of_mem_names {node : Node} {name : String} (h : name ∈ node.entity ::
    Scope.empty.freshList (node.filters.flatMap compiler.requests)) : IsWord name := by
  rcases List.mem_cons.1 h with rfl | hissued
  · exact isWord_entity node
  · obtain ⟨base, hbase, n, -, rfl⟩ := Scope.mem_freshList hissued
    obtain ⟨filter, -, hrequest⟩ := List.mem_flatMap.1 hbase
    exact isWord_variableName (compiler.isBase_of_mem_requests hrequest) n

/-- The form that a tree prescribes for its query. -/
def Compiler.queryForm (compiler : Compiler Step) (node : Node) : Form :=
  .query node.entity (node.assemble node.entity (compiler.parts node.entity .empty node.filters))

section

variable {node : Node} {query : Query}
  (hplain : ∀ filter ∈ node.validFilters, compiler.IsPlain filter)
  (h : (compiler.compile node).value = some query)

include h

theorem form_compile : query.form = compiler.queryForm node := by
  obtain ⟨hentity, -, hforms⟩ := compile_spec h
  rw [Query.form, hentity, hforms, Compiler.queryForm]

include hplain

theorem isWord_of_mem_words_compile :
    IsWord query.entity ∧ ∀ c ∈ query.body, ∀ w ∈ c.form.words, IsWord w := by
  obtain ⟨hentity, -, hforms⟩ := compile_spec h
  constructor
  · rw [hentity]
    exact isWord_entity node
  · intro c hc
    have hmade := madeOf_compile hplain c.form (hforms ▸ List.mem_map_of_mem hc)
    exact hmade.isWord fun name hname ↦ isWord_of_mem_names hname

theorem readForms?_compile : readForms? query.raw = some [compiler.queryForm node] := by
  obtain ⟨hentity, hbody⟩ := isWord_of_mem_words_compile hplain h
  rw [readForms?_raw hentity hbody, form_compile h]

theorem readForms?_compile_wrapped :
    readForms? query.wrapped = some [.map [.word ":query", compiler.queryForm node]] := by
  obtain ⟨hentity, hbody⟩ := isWord_of_mem_words_compile hplain h
  rw [readForms?_wrapped hentity hbody, form_compile h]

end

/-- Both texts of a compiled query are read to their end as the form that the tree prescribes, and
its literals are those of valid filters. -/
theorem compile_reads_as_prescribed {node : Node} {query : Query}
    (hplain : ∀ filter ∈ node.validFilters, compiler.IsPlain filter)
    (h : (compiler.compile node).value = some query) :
    readForms? query.raw = some [compiler.queryForm node] ∧
      readForms? query.wrapped = some [.map [.word ":query", compiler.queryForm node]] ∧
      ∀ s ∈ (compiler.queryForm node).texts, ∃ filter ∈ node.validFilters,
        s ∈ compiler.literals filter := by
  refine ⟨readForms?_compile hplain h, readForms?_compile_wrapped hplain h, ?_⟩
  intro s hs
  have htexts : (compiler.queryForm node).texts = (node.assemble node.entity
      (compiler.parts node.entity .empty node.filters)).flatMap Form.texts := by
    simp [Compiler.queryForm, Form.query]
  rw [htexts] at hs
  obtain ⟨form, hform, hs⟩ := List.mem_flatMap.1 hs
  exact List.mem_flatMap.1 ((madeOf_compile hplain form hform).2 s hs)

/-- Quotes, brackets, backslashes and line breaks in values do not disturb a query. -/
theorem compile_reads_as_prescribed_of_delimiters :
    let compiler : Compiler Unit := ⟨true, SchemaLookup.empty⟩
    let node := Node.group .any [.leaf (.fullText .equals (.single "\"]\\\n(a|b)")),
      .leaf (.property ⟨" rating ", none, none, .contains, .single "?v1 \")]"⟩)]
    ∃ query, (compiler.compile node).value = some query ∧
      readForms? query.raw = some [compiler.queryForm node] := by
  intro compiler node
  have hplain : ∀ filter ∈ node.validFilters, compiler.IsPlain filter := by
    have hrating : IsPlainText (Text.trim " rating ") := by decide
    exact forall_mem_pair.2 ⟨trivial, hrating, fun schema hschema ↦ by cases hschema⟩
  exact ⟨_, rfl, (compile_reads_as_prescribed hplain rfl).1⟩

end FilterQuery
