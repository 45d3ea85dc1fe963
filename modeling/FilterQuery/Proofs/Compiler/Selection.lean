import FilterQuery.Proofs.Compiler.Denotation

/-!
# Selections and flags are unions

A filter for a selection of several values matches the entities that it matches for one of these
values alone, in whatever order the values stand and however often. A flag of a filter adds the
entities that are members in the way of this flag and takes none away.

The clauses are written in a different way for a single value, for a selection of one and for a
longer one. But the condition behind each of them is met by the same entities.
-/

namespace FilterQuery

open Datalog

variable {Step Value : Type}

/-- A variable for an entity that no condition draws from the scope. -/
structure Datalog.Scope.Admits (scope : Scope) (entity : String) : Prop where
  isWord : IsWord entity
  isVariable : isVariable entity = true
  next_ne : ∀ (condition : Condition), ∀ base ∈ condition.bases, scope.next base ≠ entity

theorem EntityKind.admits (kind : EntityKind) (scope : Scope) :
    scope.Admits kind.variableName where
  isWord := kind.isWord_variableName
  isVariable := kind.isVariable_variableName
  next_ne condition base hbase := by
    obtain ⟨hp, hb⟩ := Compiler.isHelper_next scope condition base hbase
    cases kind
    · exact hp
    · exact hb

theorem Datalog.Scope.Admits.draws {scope : Scope} {entity : String} (h : scope.Admits entity)
    (condition : Condition) : Draws entity scope.next condition.bases where
  isHelperOf base hbase := ⟨isVariable_variableName _ _, h.next_ne condition base hbase⟩
  injOn _ hbase _ hother heq :=
    ((variableName_inj (condition.isBase_of_mem hbase) (condition.isBase_of_mem hother)).1 heq).1

/-- A property is compared by an operator that is not known. -/
def Filter.IsUnrecognized : Filter → Prop
  | .property filter => filter.operator = .unrecognized
  | _ => False

namespace Compiler

variable (compiler : Compiler Step)

/-- Whether an entity is matched by what is built for a filter; what has no clauses matches
nothing. -/
def Matches (entity : String) (scope : Scope) (I : Interpretation Value) (facts : Database Value)
    (filter : Filter) (x : Value) : Prop :=
  (compiler.buildFilter entity filter scope).value.1 ≠ [] ∧ SolvesText I facts entity
    (Clause.renderAll (compiler.buildFilter entity filter scope).value.1) x

/-- The filters that are for a selection of values, with the values left open. -/
inductive TakesSelection (compiler : Compiler Step) : (FilterValue → Filter) → Prop
  | reference {property : PropertyFilter} {schema : PropertySchema}
      (hplain : compiler.IsPlain (.property property))
      (hfound : (property.findSchema compiler.lookup).value = some schema)
      (hnamed : schema.isNamed = true) (htype : schema.valueType = .reference) :
      TakesSelection compiler fun value ↦ .property { property with value }
  | probe {property : PropertyFilter} (hplain : compiler.IsPlain (.property property))
      (hoperator : property.operator = .is ∨ property.operator = .contains)
      (hfound : ∀ schema ∈ (property.findSchema compiler.lookup).value,
        schema.isNamed = true → schema.valueType = .text) :
      TakesSelection compiler fun value ↦ .property { property with value }
  | task (includeExtensions includeAllStatusProperties : Bool) :
      TakesSelection compiler fun value ↦ .task value includeExtensions includeAllStatusProperties
  | priority : TakesSelection compiler .priority

variable {compiler} {entity : String} {scope : Scope} {I : Interpretation Value}
  {facts : Database Value} {x : Value}

/-! ## What a filter matches -/

theorem condition_property {property : PropertyFilter}
    (hoperator : property.operator ≠ .unrecognized) :
    (compiler.condition (.property property)).value =
      property.condition? compiler.ignoreCase (property.findSchema compiler.lookup).value := by
  rw [condition_property_eq, if_neg hoperator]
  rfl

theorem condition_task {value : FilterValue} (hvalue : value.texts ≠ [])
    (includeExtensions includeAllStatusProperties : Bool) :
    (compiler.condition (.task value includeExtensions includeAllStatusProperties)).value =
      some (.status value.texts includeExtensions includeAllStatusProperties) := by
  simp [condition_task_eq, hvalue]

theorem condition_priority {value : FilterValue} (hvalue : value.texts ≠ []) :
    (compiler.condition (.priority value)).value = some (.priority value.texts) := by
  simp [condition_priority_eq, hvalue]

theorem condition_of_isUnrecognized {filter : Filter} (h : filter.IsUnrecognized) :
    (compiler.condition filter).value = none := by
  cases filter with
  | property filter =>
    have hoperator : filter.operator = .unrecognized := h
    rw [condition_property_eq, if_pos hoperator]
    rfl
  | _ => cases h

section

variable (hentity : scope.Admits entity)

include hentity

/-- A filter matches the entities that meet its condition. -/
theorem matches_iff {filter : Filter} (hplain : compiler.IsPlain filter) :
    compiler.Matches entity scope I facts filter x ↔
      ∃ condition, (compiler.condition filter).value = some condition ∧ ¬condition.IsVoid ∧
        condition.Meets I facts x := by
  rw [Matches, buildFilter_value]
  cases hcondition : (compiler.condition filter).value with
  | none => simp
  | some condition =>
    obtain ⟨hfits, -⟩ := condition_spec hplain hcondition
    simp only [Option.elim_some, ne_eq, Condition.clauses_eq_nil_iff, SolvesText,
      Condition.readForms?_clauses hfits hentity.isWord, Option.some.injEq, exists_eq_left']
    exact and_congr_right fun hvoid ↦
      Condition.asks_clauses hentity.isVariable hfits hvoid (hentity.draws condition) x

theorem matches_iff_of_condition {filter : Filter} (hplain : compiler.IsPlain filter)
    {condition : Condition} (h : (compiler.condition filter).value = some condition)
    (hvoid : ¬condition.IsVoid) :
    compiler.Matches entity scope I facts filter x ↔ condition.Meets I facts x := by
  simp [matches_iff hentity hplain, h, hvoid]

theorem matches_tags_iff (title : String) (includeExtensions : Bool) :
    compiler.Matches entity scope I facts (.tags (.single title) includeExtensions) x ↔
      (Condition.tag title includeExtensions).Meets I facts x := by
  have hplain : compiler.IsPlain (.tags (.single title) includeExtensions) := trivial
  exact matches_iff_of_condition hentity hplain rfl id

theorem matches_task_iff {value : FilterValue} (hvalue : value.texts ≠ [])
    (includeExtensions includeAllStatusProperties : Bool) :
    compiler.Matches entity scope I facts
        (.task value includeExtensions includeAllStatusProperties) x ↔
      (Condition.status value.texts includeExtensions includeAllStatusProperties).Meets I facts
        x := by
  have hplain : compiler.IsPlain (.task value includeExtensions includeAllStatusProperties) :=
    trivial
  exact matches_iff_of_condition hentity hplain (condition_task hvalue _ _) id

end

/-! ## Selections -/

end Compiler

namespace PropertyFilter

theorem exists_linkCondition? (I : Interpretation Value) (facts : Database Value) {attr : String}
    {value : FilterValue} (hvalue : value.texts ≠ []) :
    ∃ condition, linkCondition? attr value = some condition ∧ ¬condition.IsVoid ∧
      ∀ x, condition.Meets I facts x ↔ Condition.HasTitled I facts attr value.texts x := by
  cases value with
  | single title => exact ⟨.link attr title, rfl, id, fun _ ↦ Iff.rfl⟩
  | multiple titles =>
    obtain ⟨title, titles, rfl⟩ := List.exists_cons_of_ne_nil hvalue
    exact ⟨.linkToAny attr (title :: titles), rfl, List.cons_ne_nil _ _, fun _ ↦ Iff.rfl⟩

theorem condition?_of_reference {filter : PropertyFilter} {ignoreCase : Bool}
    {schema : PropertySchema} (hnamed : schema.isNamed = true)
    (htype : schema.valueType = .reference) :
    filter.condition? ignoreCase (some schema) = linkCondition? schema.keyword filter.value := by
  simp [condition?, typed?, hnamed, htype]

theorem condition?_of_text {filter : PropertyFilter} {ignoreCase : Bool}
    {found : Option PropertySchema}
    (h : ∀ schema ∈ found, schema.isNamed = true → schema.valueType = .text) :
    filter.condition? ignoreCase found = filter.probe? ignoreCase := by
  cases found with
  | none => rfl
  | some schema =>
    cases hnamed : schema.isNamed with
    | false => simp [condition?, hnamed]
    | true => simp [condition?, typed?, hnamed, h schema rfl hnamed]

end PropertyFilter

namespace Compiler

variable {compiler : Compiler Step} {entity : String} {scope : Scope} {I : Interpretation Value}
  {facts : Database Value} {x : Value} {filter : FilterValue → Filter}

namespace TakesSelection

theorem isPlain (h : compiler.TakesSelection filter) (value : FilterValue) :
    compiler.IsPlain (filter value) := by
  cases h with
  | reference hplain | probe hplain => exact hplain
  | task | priority => trivial

theorem isUnrecognized_iff (h : compiler.TakesSelection filter) (value other : FilterValue) :
    (filter value).IsUnrecognized ↔ (filter other).IsUnrecognized := by
  cases h <;> exact Iff.rfl

/-- The condition for a selection is met by the entities that have a property of one of its
values. -/
theorem exists_condition (h : compiler.TakesSelection filter) (I : Interpretation Value)
    (facts : Database Value) : ∃ P : String → Value → Prop, ∀ value, value.texts ≠ [] →
      ¬(filter value).IsUnrecognized → ∃ condition,
        (compiler.condition (filter value)).value = some condition ∧ ¬condition.IsVoid ∧
          ∀ x, condition.Meets I facts x ↔ ∃ s ∈ value.texts, P s x := by
  cases h with
  | @reference property schema hplain hfound hnamed htype =>
    refine ⟨fun title ↦ Condition.HasTitled I facts schema.keyword [title],
      fun value hvalue hrecognized ↦ ?_⟩
    obtain ⟨condition, hcondition, hvoid, hmeets⟩ :=
      PropertyFilter.exists_linkCondition? I facts hvalue
    refine ⟨condition, ?_, hvoid, fun x ↦ (hmeets x).trans Condition.hasTitled_iff⟩
    have hschema : (PropertyFilter.findSchema { property with value } compiler.lookup).value =
        some schema := hfound
    rw [condition_property hrecognized, hschema,
      PropertyFilter.condition?_of_reference hnamed htype, hcondition]
  | @probe property hplain hoperator hfound =>
    have hprobe (value : FilterValue)
        (hrecognized : ¬(Filter.property { property with value }).IsUnrecognized) :
        (compiler.condition (.property { property with value })).value =
          PropertyFilter.probe? { property with value } compiler.ignoreCase :=
      (condition_property hrecognized).trans (PropertyFilter.condition?_of_text hfound)
    let name := Text.trim property.propertyName
    rcases hoperator with hoperator | hoperator
    · refine ⟨fun s x ↦ (x, I.constant (Condition.userAttribute name), I.text s) ∈ facts ∨
        (x, I.constant (Condition.builtinAttribute name), I.text s) ∈ facts,
        fun value hvalue hrecognized ↦ ⟨.property name value.texts, ?_, hvalue, fun x ↦ Iff.rfl⟩⟩
      rw [hprobe value hrecognized, PropertyFilter.probe?, hoperator]
    · refine ⟨fun s x ↦
        Condition.HasText I facts compiler.ignoreCase (Condition.userAttribute name) s x ∨
          Condition.HasText I facts compiler.ignoreCase (Condition.builtinAttribute name) s x,
        fun value hvalue hrecognized ↦ ⟨.propertyContains name value.texts compiler.ignoreCase, ?_,
          hvalue, fun x ↦ Iff.rfl⟩⟩
      rw [hprobe value hrecognized, PropertyFilter.probe?, hoperator]
  | task includeExtensions includeAllStatusProperties =>
    refine ⟨fun title x ↦ Condition.IsTask I facts includeExtensions includeAllStatusProperties x ∧
      Condition.HasTitled I facts ":logseq.property/status" [title] x, fun value hvalue _ ↦
        ⟨_, condition_task hvalue _ _, id, fun x ↦ ?_⟩⟩
    rw [Condition.Meets, Condition.hasTitled_iff]
    simp only [exists_and_left, and_left_comm]
  | priority =>
    exact ⟨fun title ↦ Condition.HasTitled I facts ":logseq.property/priority" [title],
      fun value hvalue _ ↦ ⟨_, condition_priority hvalue, id, fun x ↦ Condition.hasTitled_iff⟩⟩

variable {values : List String}

/-- Clauses are built for every selection of some values, unless the operator is not known. -/
theorem buildFilter_eq_nil_iff (h : compiler.TakesSelection filter) {value : FilterValue}
    (hvalue : value.texts ≠ []) :
    (compiler.buildFilter entity (filter value) scope).value.1 = [] ↔
      (filter value).IsUnrecognized := by
  rw [buildFilter_value]
  constructor
  · intro hnil
    by_contra hrecognized
    obtain ⟨P, hP⟩ := h.exists_condition (⟨fun _ ↦ (), fun _ ↦ (), fun _ _ _ ↦ True⟩ :
      Interpretation Unit) ∅
    obtain ⟨condition, hcondition, hvoid, -⟩ := hP value hvalue hrecognized
    rw [hcondition] at hnil
    exact hvoid (condition.clauses_eq_nil_iff.1 hnil)
  · intro hunrecognized
    rw [condition_of_isUnrecognized hunrecognized]
    rfl

/-- A value matches the same entities alone and among others. -/
theorem exists_meaning (h : compiler.TakesSelection filter) (I : Interpretation Value)
    (facts : Database Value) : ∃ P : String → Value → Prop,
      ∀ (entity : String) (scope : Scope), scope.Admits entity → ∀ value, value.texts ≠ [] → ∀ x,
        compiler.Matches entity scope I facts (filter value) x ↔ ∃ s ∈ value.texts, P s x := by
  obtain ⟨P, hP⟩ := h.exists_condition I facts
  refine ⟨fun s x ↦ ¬(filter (.single s)).IsUnrecognized ∧ P s x,
    fun entity scope hentity value hvalue x ↦ ?_⟩
  by_cases hunrecognized : (filter value).IsUnrecognized
  · refine iff_of_false (fun hmatches ↦ ?_) ?_
    · exact hmatches.1 ((h.buildFilter_eq_nil_iff hvalue).2 hunrecognized)
    · rintro ⟨s, -, hrecognized, -⟩
      exact hrecognized ((h.isUnrecognized_iff value (.single s)).1 hunrecognized)
  · obtain ⟨condition, hcondition, hvoid, hmeets⟩ := hP value hvalue hunrecognized
    have hsingle (s : String) : ¬(filter (.single s)).IsUnrecognized :=
      mt (h.isUnrecognized_iff value (.single s)).2 hunrecognized
    rw [matches_iff_of_condition hentity (h.isPlain value) hcondition hvoid, hmeets x]
    simp only [hsingle, not_false_eq_true, true_and]

/-- A selection matches what its values match alone. -/
theorem matches_multiple_iff (h : compiler.TakesSelection filter) {scope' : Scope}
    (hentity : scope.Admits entity) (hentity' : scope'.Admits entity) (hvalues : values ≠ []) :
    compiler.Matches entity scope I facts (filter (.multiple values)) x ↔
      ∃ s ∈ values, compiler.Matches entity scope' I facts (filter (.single s)) x := by
  obtain ⟨P, hP⟩ := h.exists_meaning I facts
  have hsingle (s : String) :
      compiler.Matches entity scope' I facts (filter (.single s)) x ↔ P s x := by
    have hvalue : (FilterValue.single s).texts ≠ [] := List.cons_ne_nil s []
    simp [hP entity scope' hentity' _ hvalue, FilterValue.texts]
  simp only [hP entity scope hentity (.multiple values) hvalues, hsingle, FilterValue.texts]

end TakesSelection

/-! ## Flags -/

section

variable {scope' : Scope} (hentity : scope.Admits entity) (hentity' : scope'.Admits entity)

include hentity hentity'

theorem matches_tags_mono {value : FilterValue} {includeExtensions includeExtensions' : Bool}
    (hextensions : includeExtensions = true → includeExtensions' = true)
    (h : compiler.Matches entity scope I facts (.tags value includeExtensions) x) :
    compiler.Matches entity scope' I facts (.tags value includeExtensions') x := by
  cases value with
  | single title =>
    rw [matches_tags_iff hentity] at h
    rw [matches_tags_iff hentity']
    exact h.imp_right fun hextended ↦ ⟨hextensions hextended.1, hextended.2⟩
  | multiple titles => exact absurd rfl h.1

theorem matches_task_mono {value : FilterValue} {includeExtensions includeAllStatusProperties
    includeExtensions' includeAllStatusProperties' : Bool}
    (hextensions : includeExtensions = true → includeExtensions' = true)
    (hproperties : includeAllStatusProperties = true → includeAllStatusProperties' = true)
    (h : compiler.Matches entity scope I facts
      (.task value includeExtensions includeAllStatusProperties) x) :
    compiler.Matches entity scope' I facts
      (.task value includeExtensions' includeAllStatusProperties') x := by
  by_cases hvalue : value.texts = []
  · exact absurd (by simp [buildFilter_value, condition_task_eq, hvalue]) h.1
  · rw [matches_task_iff hentity hvalue] at h
    rw [matches_task_iff hentity' hvalue]
    exact h.imp_left fun htask ↦ htask.imp_right fun hother ↦
      hother.imp (fun hextended ↦ ⟨hextensions hextended.1, hextended.2⟩)
        fun htagged ↦ ⟨hproperties htagged.1, htagged.2⟩

end

end Compiler

/-- A filter for a selection matches the union of what its values match alone, so that a selection
of one is a single value; a flag adds those who are members in its way, and takes none away. -/
theorem selections_and_flags_are_unions (compiler : Compiler Step) {entity : String}
    {scope scope' : Scope} (hentity : scope.Admits entity) (hentity' : scope'.Admits entity)
    (I : Interpretation Value) (facts : Database Value) :
    (∀ filter, compiler.TakesSelection filter → ∀ values : List String, values ≠ [] →
      ((compiler.buildFilter entity (filter (.multiple values)) scope).value.1 = [] ↔
        (filter (.multiple values)).IsUnrecognized) ∧
      ∀ x, compiler.Matches entity scope I facts (filter (.multiple values)) x ↔
        ∃ s ∈ values, compiler.Matches entity scope' I facts (filter (.single s)) x) ∧
    (∀ filter, compiler.TakesSelection filter → ∀ s x,
      compiler.Matches entity scope I facts (filter (.multiple [s])) x ↔
        compiler.Matches entity scope' I facts (filter (.single s)) x) ∧
    (∀ title includeExtensions x,
      compiler.Matches entity scope I facts (.tags (.single title) includeExtensions) x ↔
        Condition.IsTagged I facts title x ∨
          includeExtensions = true ∧ Condition.IsTaggedByExtension I facts title x) ∧
    (∀ value : FilterValue, value.texts ≠ [] → ∀ includeExtensions includeAllStatusProperties x,
      compiler.Matches entity scope I facts
          (.task value includeExtensions includeAllStatusProperties) x ↔
        (Condition.IsTagged I facts "Task" x ∨
          includeExtensions = true ∧ Condition.IsTaggedByExtension I facts "Task" x ∨
          includeAllStatusProperties = true ∧ Condition.IsTaggedWithStatus I facts x) ∧
        Condition.HasTitled I facts ":logseq.property/status" value.texts x) ∧
    (∀ value includeExtensions includeExtensions',
      (includeExtensions = true → includeExtensions' = true) → ∀ x,
      compiler.Matches entity scope I facts (.tags value includeExtensions) x →
        compiler.Matches entity scope' I facts (.tags value includeExtensions') x) ∧
    ∀ value includeExtensions includeExtensions' includeAllStatusProperties
        includeAllStatusProperties', (includeExtensions = true → includeExtensions' = true) →
      (includeAllStatusProperties = true → includeAllStatusProperties' = true) → ∀ x,
      compiler.Matches entity scope I facts
          (.task value includeExtensions includeAllStatusProperties) x →
        compiler.Matches entity scope' I facts
          (.task value includeExtensions' includeAllStatusProperties') x := by
  refine ⟨fun filter h values hvalues ↦ ⟨h.buildFilter_eq_nil_iff hvalues,
      fun x ↦ h.matches_multiple_iff hentity hentity' hvalues⟩, fun filter h s x ↦ ?_,
    fun title includeExtensions x ↦ Compiler.matches_tags_iff hentity title includeExtensions,
    fun value hvalue includeExtensions includeAllStatusProperties x ↦
      Compiler.matches_task_iff hentity hvalue includeExtensions includeAllStatusProperties,
    fun value includeExtensions includeExtensions' hextensions x ↦
      Compiler.matches_tags_mono hentity hentity' hextensions,
    fun value includeExtensions includeExtensions' includeAllStatusProperties
      includeAllStatusProperties' hextensions hproperties x ↦
      Compiler.matches_task_mono hentity hentity' hextensions hproperties⟩
  rw [h.matches_multiple_iff hentity hentity' (List.cons_ne_nil s [])]
  simp

/-- A selection with one good rating in it matches what has a good rating. -/
theorem selections_and_flags_are_unions_of_ratings :
    let compiler : Compiler Unit := ⟨true, SchemaLookup.empty⟩
    let filter : FilterValue → Filter := fun value ↦ .property ⟨"rating", none, none, .is, value⟩
    let I : Interpretation String := ⟨id, id, fun _ _ _ ↦ False⟩
    let facts : Database String := {("x", ":user.property/rating", "good")}
    Scope.empty.Admits "?b" ∧ compiler.TakesSelection filter ∧
      ¬compiler.Matches "?b" .empty I facts (filter (.single "bad")) "x" ∧
      compiler.Matches "?b" .empty I facts (filter (.single "good")) "x" ∧
      compiler.Matches "?b" .empty I facts (filter (.multiple ["bad", "good", "bad"])) "x" := by
  intro compiler filter I facts
  have hentity : Scope.empty.Admits "?b" := EntityKind.block.admits .empty
  have hplain (value : FilterValue) : compiler.IsPlain (filter value) := by
    have hrating : IsPlainText (Text.trim "rating") := by decide
    exact ⟨hrating, nofun⟩
  have hselection : compiler.TakesSelection filter :=
    @Compiler.TakesSelection.probe _ compiler ⟨"rating", none, none, .is, .empty⟩ (hplain .empty)
      (.inl rfl) nofun
  have hsingle (s : String) : compiler.Matches "?b" .empty I facts (filter (.single s)) "x" ↔
      s = "good" := by
    have htrim : Text.trim "rating" = "rating" := by decide
    have hcondition : (compiler.condition (filter (.single s))).value =
        some (.property "rating" [s]) :=
      congrArg (fun name ↦ some (Condition.property name [s])) htrim
    have huser : Condition.userAttribute "rating" = ":user.property/rating" := by decide
    have hbuiltin : Condition.builtinAttribute "rating" ≠ ":user.property/rating" := by decide
    rw [Compiler.matches_iff_of_condition hentity (hplain _) hcondition (List.cons_ne_nil s [])]
    simp [Condition.Meets, I, facts, huser, hbuiltin]
  have hgood := (hsingle "good").2 rfl
  refine ⟨hentity, hselection, (hsingle "bad").not.2 (by decide), hgood, ?_⟩
  exact (((selections_and_flags_are_unions compiler hentity hentity I facts).1 filter hselection
    ["bad", "good", "bad"] (List.cons_ne_nil _ _)).2 "x").2 ⟨"good", by decide, hgood⟩

end FilterQuery
