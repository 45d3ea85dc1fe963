import FilterQuery.Proofs.Compiler.Faithful
import FilterQuery.Proofs.Datalog.Attributes

/-!
# Which attributes decide how a query is read

The attributes of a query are those of the application, which are words, and those that the
properties of its filters are given: the attribute of a schema, or the name of a property behind a
category. The latter are put into the text as they are. So the text is read as the clauses that were
meant exactly if these attributes are words, which keywords are, and names with blanks, quotes or
brackets in them are not.
-/

namespace FilterQuery

open Datalog

namespace Datalog

theorem Operand.ComposedOf.isWord {supply : Supply} {operand : Operand}
    (h : operand.ComposedOf supply) (hhelper : ∀ v, supply.IsHelper v → IsWord v) :
    ∀ w ∈ operand.form.words, IsWord w := by
  cases operand with
  | var name => exact List.forall_mem_singleton.2 (hhelper name h)
  | text content => exact nofun
  | keyword name => exact List.forall_mem_singleton.2 (And.left h)
  | flag value => exact List.forall_mem_singleton.2 (by cases value <;> decide)
  | number value => exact List.forall_mem_singleton.2 (isWord_renderNumber value)
  | instant milliseconds => exact List.forall_mem_singleton.2 (isWord_toString milliseconds)

/-- In a clause about a word, with words for helpers, the attributes alone may be no words. -/
theorem Clause.ComposedOf.framedBy {entity : String} {allowed isLiteral : String → Prop}
    {clause : Clause} (hentity : IsWord entity)
    (h : clause.ComposedOf ⟨entity, IsWord, allowed, isLiteral⟩) : clause.FramedBy allowed := by
  have hsubject {subject : String} (h : subject = entity ∨ IsWord subject) : IsWord subject :=
    h.elim (· ▸ hentity) id
  induction h with
  | has h hattr => exact framedBy_exists (hsubject h) hattr
  | pattern h hattr hvalue => exact framedBy_pattern (hsubject h) hattr (hvalue.isWord fun _ ↦ id)
  | test hleft hright =>
    exact framedBy_test (hleft.isWord fun _ ↦ id) (hright.isWord fun _ ↦ id)
  | regex _ hbound => exact framedBy_regex hbound
  | either _ ih => exact framedBy_either ih
  | conj _ ih => exact framedBy_conj ih
  | orJoin _ ih => exact framedBy_orJoin hentity ih
  | notJoin _ ih => exact framedBy_notJoin hentity ih

end Datalog

namespace Condition

/-- The attributes of the application and those that the condition is given. -/
def Allows (condition : Condition) (attr : String) : Prop :=
  attr ∈ applicationAttributes ∨ attr ∈ condition.attributes

/-- All words in the clauses of a condition but the attributes that it is given are words. -/
theorem framedBy_clauses (condition : Condition) {entity : String} {helper : String → String}
    (hentity : IsWord entity) (hhelper : ∀ base, IsBase base → IsWord (helper base)) :
    ∀ c ∈ condition.clauses entity helper, c.FramedBy condition.Allows := by
  let supply : Supply := ⟨entity, IsWord, condition.Allows, fun _ ↦ True⟩
  have happlication : ∀ attr ∈ applicationAttributes, supply.IsAttribute attr := fun _ ↦ .inl
  have hattributes : ∀ attr ∈ condition.attributes, supply.IsAttribute attr := fun _ ↦ .inr
  have hbases : ∀ base ∈ condition.bases, supply.IsHelper (helper base) :=
    fun base hbase ↦ hhelper base (isBase_of_mem hbase)
  intro c hc
  exact (composedOf_clauses happlication hattributes hbases (fun _ _ ↦ trivial) c hc).framedBy
    hentity

end Condition

/-! ## From filters to attributes -/

namespace PropertyFilter

variable {filter : PropertyFilter} {ignoreCase : Bool} {condition : Condition}

/-- The attributes of a name, one for each category. -/
def nameAttributes (filter : PropertyFilter) : List String :=
  let name := Text.trim filter.propertyName
  [Condition.userAttribute name, Condition.builtinAttribute name]

/-- The attributes that a property may stand for: those of its name, and that of its schema. -/
def attributes {Step : Type} (lookup : SchemaLookup Step) (filter : PropertyFilter) :
    List String :=
  filter.nameAttributes ++ (filter.findSchema lookup).value.toList.map PropertySchema.keyword

theorem attributes_of_probe? (h : filter.probe? ignoreCase = some condition) :
    condition.attributes = filter.nameAttributes := by
  unfold probe? at h
  split at h <;> cases h <;> rfl

theorem attributes_of_linkCondition? {attr : String} {value : FilterValue}
    (h : linkCondition? attr value = some condition) : condition.attributes = [attr] := by
  unfold linkCondition? at h
  split at h <;> cases h <;> rfl

theorem attributes_of_typed? {schema : PropertySchema}
    (h : filter.typed? ignoreCase schema = some condition) :
    condition.attributes = [schema.keyword] ∨ condition.attributes = filter.nameAttributes := by
  rcases typed?_cases h with ⟨_, rfl⟩ | hlink | ⟨_, _, rfl⟩ | ⟨_, _, rfl⟩ | hprobe
  · exact .inl rfl
  · exact .inl (attributes_of_linkCondition? hlink)
  · exact .inl rfl
  · exact .inl rfl
  · exact .inr (attributes_of_probe? hprobe)

theorem attributes_of_condition? {schema : Option PropertySchema}
    (h : filter.condition? ignoreCase schema = some condition) :
    condition.attributes = schema.toList.map PropertySchema.keyword ∨
      condition.attributes = filter.nameAttributes := by
  rcases condition?_cases h with hprobe | ⟨s, rfl, -, htyped⟩
  · exact .inr (attributes_of_probe? hprobe)
  · exact attributes_of_typed? htyped

end PropertyFilter

namespace Compiler

variable {Step : Type} {compiler : Compiler Step}

/-- The attributes of the application and, of a property, those that it may stand for. -/
def Allows (compiler : Compiler Step) (filter : Filter) (attr : String) : Prop :=
  attr ∈ applicationAttributes ∨
    ∃ property, filter = .property property ∧ attr ∈ property.attributes compiler.lookup

/-- The condition of a filter is given no other attributes. -/
theorem allows_of_condition {filter : Filter} {condition : Condition}
    (h : (compiler.condition filter).value = some condition) {attr : String}
    (hattr : condition.Allows attr) : compiler.Allows filter attr := by
  rcases hattr with happlication | hgiven
  · exact .inl happlication
  cases gives_of_condition h with
  | property _ h =>
    refine .inr ⟨_, rfl, ?_⟩
    rcases PropertyFilter.attributes_of_condition? h with heq | heq
    · exact List.mem_append_right _ (heq ▸ hgiven)
    · exact List.mem_append_left _ (heq ▸ hgiven)
  | between =>
    obtain rfl := List.mem_singleton.1 hgiven
    exact .inl (DateProperty.attr_mem_applicationAttributes _)
  | _ => cases hgiven

theorem isWord_next (scope : Scope) (base : String) (hbase : IsBase base) :
    IsWord (scope.next base) :=
  isWord_variableName hbase _

/-- The clauses of a filter hold the attributes of the application and of its property. -/
theorem framedBy_buildFilter {entity : String} (hentity : IsWord entity) (filter : Filter)
    (scope : Scope) : ∀ c ∈ (compiler.buildFilter entity filter scope).value.1,
      c.FramedBy (compiler.Allows filter) := by
  rw [buildFilter_value]
  cases hcondition : (compiler.condition filter).value with
  | none => exact nofun
  | some condition =>
    exact fun c hc ↦ (condition.framedBy_clauses hentity (isWord_next scope) c hc).mono
      fun _ ↦ allows_of_condition hcondition

/-- The clauses of a filter that is no property are read as what was meant. -/
theorem readForms?_buildFilter {entity : String} (hentity : IsWord entity) {filter : Filter}
    (hfilter : ∀ property, filter ≠ .property property) (scope : Scope) :
    let clauses := (compiler.buildFilter entity filter scope).value.1
    readForms? (Clause.renderAll clauses) = some (clauses.map Clause.form) := by
  intro clauses
  have hframed := compiler.framedBy_buildFilter hentity filter scope
  refine (Clause.readForms?_renderAll_iff hframed).2 (List.forall_mem_flatMap.2 fun c hc ↦ ?_)
  intro attr hattr
  rcases (hframed c hc).attributes attr hattr with h | ⟨property, heq, -⟩
  · exact (isConstant_of_mem_applicationAttributes attr h).1
  · exact absurd heq (hfilter property)

end Compiler

/-! ## From trees to attributes -/

namespace Compiler

variable {Step : Type} {compiler : Compiler Step} {node : Node} {query : Query}

/-- The attributes of a query are those of the application, and those that its valid properties may
stand for. -/
theorem framedBy_compile (h : (compiler.compile node).value = some query) :
    ∀ c ∈ query.body, c.FramedBy fun attr ↦ attr ∈ applicationAttributes ∨
      ∃ property, Filter.property property ∈ node.validFilters ∧
        attr ∈ property.attributes compiler.lookup := by
  let supply : Supply := ⟨node.entity, IsWord, fun attr ↦ attr ∈ applicationAttributes ∨
    ∃ property, Filter.property property ∈ node.validFilters ∧
      attr ∈ property.attributes compiler.lookup, fun _ ↦ True⟩
  have happlication : ∀ attr ∈ applicationAttributes, supply.IsAttribute attr := fun _ ↦ .inl
  have hhelper (scope : Scope) (condition : Condition) :
      ∀ base ∈ condition.bases, supply.IsHelper (scope.next base) :=
    fun base hbase ↦ isWord_next scope base (condition.isBase_of_mem hbase)
  have hgiven {filter : Filter} (hfilter : filter ∈ node.filters) {condition : Condition}
      (hcondition : compiler.condition? filter = some condition) :
      ∀ attr ∈ condition.attributes, supply.IsAttribute attr := by
    intro attr hattr
    unfold condition? at hcondition
    split at hcondition
    case isTrue hvalid =>
      rcases allows_of_condition hcondition (.inr hattr) with happlication | ⟨property, rfl, hgiven⟩
      · exact .inl happlication
      · exact .inr ⟨property, List.mem_filter.2 ⟨hfilter, hvalid⟩, hgiven⟩
    case isFalse => cases hcondition
  have hcomposed : ∀ c ∈ ((compiler.plan node).value.build node.entity .empty).1,
      c.ComposedOf supply :=
    composedOf_build supply (happlication _ (by decide)) node .empty fun filter hfilter ↦
      composedOf_contribute happlication hhelper fun condition hcondition ↦
        ⟨hgiven hfilter hcondition, fun _ _ ↦ trivial⟩
  rw [(body_compile h).2.2]
  exact fun c hc ↦ (hcomposed c hc).framedBy (isWord_entity node)

end Compiler

/-! ## Keywords -/

/-- A text that is a keyword, with its colon. -/
def IsKeyword (s : String) : Prop :=
  ∃ name, s.toList = ':' :: name ∧ Graph.isKeywordName name = true

theorem isPlain_of_isKeywordName {name : List Char} (h : Graph.isKeywordName name = true) :
    ∀ c ∈ name, isPlain c = true := by
  have hsegment {cs : List Char} (hcs : ∀ c ∈ cs, Graph.isKeywordCharacter c = true) :
      ∀ c ∈ cs, isPlain c = true := fun c hc ↦ isPlain_of_isKeywordCharacter (hcs c hc)
  unfold Graph.isKeywordName at h
  rw [Bool.and_eq_true] at h
  rw [← List.takeWhile_append_dropWhile (p := Graph.isKeywordCharacter) (l := name),
    List.forall_mem_append]
  refine ⟨hsegment (List.all_eq_true.1 List.all_takeWhile), ?_⟩
  cases hrest : name.dropWhile Graph.isKeywordCharacter with
  | nil => exact nofun
  | cons c rest =>
    simp only [hrest, Bool.and_eq_true, beq_iff_eq, List.all_eq_true] at h
    obtain ⟨-, ⟨rfl, -⟩, hall⟩ := h
    exact List.forall_mem_cons.2 ⟨by decide, hsegment hall⟩

/-- A keyword is a single word. -/
theorem isWord_of_isKeyword {s : String} (h : IsKeyword s) : IsWord s := by
  obtain ⟨name, hs, hname⟩ := h
  constructor
  · rintro rfl
    cases hs
  · rw [hs]
    exact List.forall_mem_cons.2 ⟨by decide, isPlain_of_isKeywordName hname⟩

/-! ## What names and attributes can do to a query -/

/-- The clauses of a property, in whatever scope and with whatever lookup, are read as what they are
exactly if their attributes are words; and both texts of a query are read as its form exactly if its
attributes are. Apart from those of the application, these are the attributes of the name of a
property and that of its schema. Keywords are words, so they never add, close or split a clause. -/
theorem attributes_decide_reading {Step : Type} (compiler : Compiler Step) :
    (∀ (property : PropertyFilter) (entity : String) (scope : Scope), IsWord entity →
      let clauses := (compiler.buildFilter entity (.property property) scope).value.1
      (readForms? (Clause.renderAll clauses) = some (clauses.map Clause.form) ↔
        ∀ attr ∈ clauses.flatMap Clause.attributes, IsWord attr) ∧
      ∀ attr ∈ clauses.flatMap Clause.attributes,
        attr ∈ applicationAttributes ∨ attr ∈ property.attributes compiler.lookup) ∧
    (∀ (node : Node) (query : Query), (compiler.compile node).value = some query →
      (readForms? query.raw = some [query.form] ↔
        ∀ attr ∈ query.body.flatMap Clause.attributes, IsWord attr) ∧
      (readForms? query.wrapped = some [.map [.word ":query", query.form]] ↔
        ∀ attr ∈ query.body.flatMap Clause.attributes, IsWord attr) ∧
      ∀ attr ∈ query.body.flatMap Clause.attributes, attr ∈ applicationAttributes ∨
        ∃ property, Filter.property property ∈ node.validFilters ∧
          attr ∈ property.attributes compiler.lookup) ∧
    (∀ attr ∈ applicationAttributes, IsWord attr) ∧ ∀ attr, IsKeyword attr → IsWord attr := by
  refine ⟨fun property entity scope hentity ↦ ?_, fun node query h ↦ ?_, by decide +kernel,
    fun _ ↦ isWord_of_isKeyword⟩
  · have hframed := compiler.framedBy_buildFilter hentity (.property property) scope
    refine ⟨Clause.readForms?_renderAll_iff hframed, List.forall_mem_flatMap.2 fun c hc ↦ ?_⟩
    intro attr hattr
    rcases (hframed c hc).attributes attr hattr with happlication | ⟨_, heq, hgiven⟩
    · exact .inl happlication
    · cases heq
      exact .inr hgiven
  · have hframed := Compiler.framedBy_compile h
    have hentity : IsWord query.entity := (compile_spec h).1 ▸ isWord_entity node
    exact ⟨readForms?_raw_iff hentity hframed, readForms?_wrapped_iff hentity hframed,
      List.forall_mem_flatMap.2 fun c hc ↦ (hframed c hc).attributes⟩

/-- A name that is no keyword ends the clauses that it stands in and begins other ones. -/
theorem clauses_added_by_name :
    let property : PropertyFilter :=
      ⟨"x \"v\"]\n  [?b :block/secret", none, none, .is, .single "v"⟩
    let compiler : Compiler Unit := ⟨true, SchemaLookup.empty⟩
    let clauses := (compiler.buildFilter "?b" (.property property) .empty).value.1
    let holding (attr : String) : Clause := .pattern "?b" attr (some (.text "v"))
    let others : List Clause := [.orJoin "?b" 2 [holding ":user.property/x",
      holding ":block/secret", holding ":logseq.property/x", holding ":block/secret"]]
    Graph.schemaQuery? property.propertyName = none ∧
      Clause.renderAll clauses = Clause.renderAll others ∧
      readForms? (Clause.renderAll clauses) = some (others.map Clause.form) ∧
      readForms? (Clause.renderAll clauses) ≠ some (clauses.map Clause.form) := by
  intro property compiler clauses holding others
  have htext : Clause.renderAll clauses = Clause.renderAll others := by decide +kernel
  have hwords : ∀ c ∈ others, ∀ w ∈ c.form.words, IsWord w := by decide +kernel
  have hread : readForms? (Clause.renderAll clauses) = some (others.map Clause.form) := by
    rw [htext]
    exact (reads_renderAll hwords).readForms?_eq
  have hdifferent : (others.map Clause.form).flatMap Form.words ≠
      (clauses.map Clause.form).flatMap Form.words := by decide +kernel
  refine ⟨by decide +kernel, htext, hread, fun h ↦ hdifferent ?_⟩
  rw [Option.some.inj (hread.symm.trans h)]

end FilterQuery
