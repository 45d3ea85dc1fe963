import FilterQuery.Compiler.Plan
import FilterQuery.Proofs.Compiler.Condition

/-!
# What a filter contributes to a query

A filter that is valid has at most one condition. If the property names and the attributes that a
condition is about are plain, its clauses are made of the entity, its own variables, and literals
that were entered.
-/

namespace FilterQuery

open Datalog

/-! ## From filters to conditions -/

/-- A text that may stand inside a word. -/
def IsPlainText (s : String) : Prop := ∀ c ∈ s.toList, isPlain c = true

instance (s : String) : Decidable (IsPlainText s) :=
  decidable_of_iff (s.toList.all isPlain = true) List.all_eq_true

theorem isConstant_keyword {schema : PropertySchema} (h : IsPlainText schema.ident) :
    IsConstant schema.keyword := by
  unfold PropertySchema.keyword
  split
  case isTrue hcolon =>
    obtain ⟨cs, hcs⟩ := List.head?_eq_some_iff.1 hcolon
    refine ⟨⟨?_, h⟩, ?_⟩
    · intro hempty
      rw [hempty] at hcs
      cases hcs
    · rw [isVariable, hcs]
      rfl
  case isFalse => exact isConstant_append (by decide) h

namespace Compiler

variable {Step : Type} (compiler : Compiler Step)

/-- The property name and the attribute that a filter puts into a query are made of plain
characters; leading blanks and trailing ones are not part of the name. -/
def IsPlain : Filter → Prop
  | .property filter => IsPlainText (Text.trim filter.propertyName) ∧
    ∀ schema ∈ (filter.findSchema compiler.lookup).value, schema.isNamed → IsPlainText schema.ident
  | _ => True

/-- The literals that a filter may put into a query: what was entered, a search for it, and the
title of the class of tasks. -/
def literals : Filter → List String
  | .page _ value => value.texts
  | .tags value _ => value.texts
  | .fullText operator value =>
    value.texts.map fun s ↦ SearchPattern.source ⟨s, operator = .equals⟩
  | .property filter =>
    filter.value.texts ++ if filter.operator = .contains ∧ compiler.ignoreCase then
      filter.value.texts.map fun s ↦ SearchPattern.source ⟨s, false⟩ else []
  | .pageReference value => value.texts
  | .task value .. => "Task" :: value.texts
  | .priority value => value.texts
  | .between .. => []
  | .unknown => []

end Compiler

namespace PropertyFilter

variable {Step : Type} {compiler : Compiler Step} {filter : PropertyFilter} {condition : Condition}

theorem probe?_spec (hname : IsPlainText (Text.trim filter.propertyName))
    (h : filter.probe? compiler.ignoreCase = some condition) :
    condition.IsPlain ∧ ∀ s ∈ condition.literals, s ∈ compiler.literals (.property filter) := by
  unfold probe? at h
  split at h
  · cases h
    exact ⟨hname, fun s hs ↦ List.mem_append_left _ hs⟩
  case h_2 hoperator =>
    cases h
    refine ⟨hname, fun s hs ↦ ?_⟩
    cases hcase : compiler.ignoreCase with
    | false =>
      rw [hcase] at hs
      exact List.mem_append_left _ hs
    | true =>
      rw [hcase] at hs
      apply List.mem_append_right
      rw [if_pos ⟨hoperator, hcase⟩]
      exact hs
  · cases h

theorem linkCondition?_spec {attr : String} (hattr : IsConstant attr) {value : FilterValue}
    (h : linkCondition? attr value = some condition) :
    condition.IsPlain ∧ ∀ s ∈ condition.literals, s ∈ value.texts := by
  unfold linkCondition? at h
  split at h <;> cases h
  · exact ⟨hattr, fun s hs ↦ hs⟩
  · exact ⟨hattr, fun s hs ↦ hs⟩

/-- What the condition for a value of a known type can be. -/
theorem typed?_cases {ignoreCase : Bool} {schema : PropertySchema}
    (h : filter.typed? ignoreCase schema = some condition) :
    (∃ isChecked, condition = .flag schema.keyword isChecked) ∨
      linkCondition? schema.keyword filter.value = some condition ∨
      (∃ comparison value, condition = .number schema.keyword comparison value) ∨
      (∃ comparison milliseconds, condition = .instant schema.keyword comparison milliseconds) ∨
      filter.probe? ignoreCase = some condition := by
  unfold typed? at h
  split at h
  · obtain ⟨s, -, h⟩ := Option.bind_eq_some_iff.1 h
    cases h
    exact .inl ⟨_, rfl⟩
  · exact .inr (.inl h)
  · obtain ⟨s, -, h⟩ := Option.bind_eq_some_iff.1 h
    obtain ⟨value, -, h⟩ := Option.bind_eq_some_iff.1 h
    obtain ⟨comparison, -, h⟩ := Option.bind_eq_some_iff.1 h
    cases h
    exact .inr (.inr (.inl ⟨comparison, value, rfl⟩))
  · obtain ⟨s, -, h⟩ := Option.bind_eq_some_iff.1 h
    obtain ⟨milliseconds, -, h⟩ := Option.bind_eq_some_iff.1 h
    obtain ⟨comparison, -, h⟩ := Option.bind_eq_some_iff.1 h
    cases h
    exact .inr (.inr (.inr (.inl ⟨comparison, milliseconds, rfl⟩)))
  · exact .inr (.inr (.inr (.inr h)))

/-- A property is looked for by its name, or by the attribute of a schema that has one. -/
theorem condition?_cases {ignoreCase : Bool} {schema : Option PropertySchema}
    (h : filter.condition? ignoreCase schema = some condition) :
    filter.probe? ignoreCase = some condition ∨
      ∃ s ∈ schema, s.isNamed = true ∧ filter.typed? ignoreCase s = some condition := by
  unfold condition? at h
  split at h
  · split at h
    case isTrue hnamed => exact .inr ⟨_, rfl, hnamed, h⟩
    case isFalse => exact .inl h
  · exact .inl h

theorem typed?_spec (hname : IsPlainText (Text.trim filter.propertyName)) {schema : PropertySchema}
    (hident : IsPlainText schema.ident)
    (h : filter.typed? compiler.ignoreCase schema = some condition) :
    condition.IsPlain ∧ ∀ s ∈ condition.literals, s ∈ compiler.literals (.property filter) := by
  have hkeyword := isConstant_keyword hident
  rcases typed?_cases h with ⟨_, rfl⟩ | hlink | ⟨_, _, rfl⟩ | ⟨_, _, rfl⟩ | hprobe
  · exact ⟨hkeyword, fun s hs ↦ absurd hs List.not_mem_nil⟩
  · obtain ⟨hplain, hliterals⟩ := linkCondition?_spec hkeyword hlink
    exact ⟨hplain, fun s hs ↦ List.mem_append_left _ (hliterals s hs)⟩
  · exact ⟨hkeyword, fun s hs ↦ absurd hs List.not_mem_nil⟩
  · exact ⟨hkeyword, fun s hs ↦ absurd hs List.not_mem_nil⟩
  · exact probe?_spec hname hprobe

theorem condition?_spec (hname : IsPlainText (Text.trim filter.propertyName))
    {schema : Option PropertySchema}
    (hident : ∀ s ∈ schema, s.isNamed → IsPlainText s.ident)
    (h : filter.condition? compiler.ignoreCase schema = some condition) :
    condition.IsPlain ∧ ∀ s ∈ condition.literals, s ∈ compiler.literals (.property filter) := by
  rcases condition?_cases h with hprobe | ⟨s, hs, hnamed, htyped⟩
  · exact probe?_spec hname hprobe
  · exact typed?_spec hname (hident s hs hnamed) htyped

end PropertyFilter

theorem FilterValue.mem_texts {value : FilterValue} {s : String} (h : value.asSingle? = some s) :
    s ∈ value.texts := by
  cases value with
  | single content =>
    cases h
    exact List.mem_cons_self
  | multiple => cases h

namespace Compiler

variable {Step : Type} {compiler : Compiler Step}

theorem condition_property_eq (filter : PropertyFilter) :
    compiler.condition (.property filter) =
      if filter.operator = .unrecognized then pure none
      else do return filter.condition? compiler.ignoreCase (← filter.findSchema compiler.lookup) :=
  rfl

theorem condition_task_eq (value : FilterValue)
    (includeExtensions includeAllStatusProperties : Bool) :
    compiler.condition (.task value includeExtensions includeAllStatusProperties) =
      pure (if value.texts.isEmpty then none
        else some (.status value.texts includeExtensions includeAllStatusProperties)) := rfl

theorem condition_priority_eq (value : FilterValue) :
    compiler.condition (.priority value) =
      pure (if value.texts.isEmpty then none else some (.priority value.texts)) := rfl

/-- Which conditions a filter can give, and what they are made of. -/
inductive Gives (compiler : Compiler Step) : Filter → Condition → Prop
  | pageName {value : FilterValue} {s : String} (hs : value.asSingle? = some s) :
      Gives compiler (.page .is value) (.pageName s)
  | pageNameTest {operator : NameOperator} {value : FilterValue} {s : String}
      {predicate : Predicate} (hs : value.asSingle? = some s)
      (h : operator.condition? s = some (.pageNameTest predicate s)) :
      Gives compiler (.page operator value) (.pageNameTest predicate s)
  | tags {value : FilterValue} {includeExtensions : Bool} {s : String}
      (hs : value.asSingle? = some s) :
      Gives compiler (.tags value includeExtensions) (.tag s includeExtensions)
  | fullText {operator : TextOperator} {value : FilterValue} {s : String}
      (hoperator : operator ≠ .unrecognized) (hs : value.asSingle? = some s) :
      Gives compiler (.fullText operator value) (.content ⟨s, operator = .equals⟩)
  | property {filter : PropertyFilter} {condition : Condition}
      (hoperator : filter.operator ≠ .unrecognized)
      (h : filter.condition? compiler.ignoreCase (filter.findSchema compiler.lookup).value =
        some condition) : Gives compiler (.property filter) condition
  | pageReference {value : FilterValue} {s : String} (hs : value.asSingle? = some s) :
      Gives compiler (.pageReference value) (.reference s)
  | task {value : FilterValue} {includeExtensions includeAllStatusProperties : Bool}
      (hvalue : value.texts ≠ []) :
      Gives compiler (.task value includeExtensions includeAllStatusProperties)
        (.status value.texts includeExtensions includeAllStatusProperties)
  | priority {value : FilterValue} (hvalue : value.texts ≠ []) :
      Gives compiler (.priority value) (.priority value.texts)
  | between {startDate endDate : String} {property : DateProperty} {first last : Int}
      (hfirst : Calendar.parseTimestamp? startDate = some first)
      (hlast : Calendar.parseTimestamp? endDate = some last) :
      Gives compiler (.between startDate endDate property) (.period property.attr first last)

theorem gives_of_condition {filter : Filter} {condition : Condition}
    (h : (compiler.condition filter).value = some condition) : compiler.Gives filter condition := by
  unfold Compiler.condition Filter.condition at h
  cases filter with
  | page operator value =>
    obtain ⟨s, hs, h⟩ := Option.bind_eq_some_iff.1 h
    cases operator <;> cases h
    · exact .pageName hs
    all_goals exact .pageNameTest hs rfl
  | tags value includeExtensions =>
    obtain ⟨s, hs, rfl⟩ := Option.map_eq_some_iff.1 h
    exact .tags hs
  | fullText operator value =>
    obtain ⟨s, hs, h⟩ := Option.bind_eq_some_iff.1 h
    cases operator <;> cases h
    all_goals exact .fullText nofun hs
  | property filter =>
    simp only at h
    split at h
    case isTrue => cases h
    case isFalse hoperator => exact .property hoperator h
  | pageReference value =>
    obtain ⟨s, hs, rfl⟩ := Option.map_eq_some_iff.1 h
    exact .pageReference hs
  | task value includeExtensions includeAllStatusProperties =>
    simp only [Recorded.pure_value, List.isEmpty_iff] at h
    split at h
    case isTrue => cases h
    case isFalse hvalue =>
      cases h
      exact .task hvalue
  | priority value =>
    simp only [Recorded.pure_value, List.isEmpty_iff] at h
    split at h
    case isTrue => cases h
    case isFalse hvalue =>
      cases h
      exact .priority hvalue
  | between startDate endDate property =>
    rw [Recorded.pure_value] at h
    obtain ⟨first, hfirst, h⟩ := Option.bind_eq_some_iff.1 h
    obtain ⟨last, hlast, h⟩ := Option.bind_eq_some_iff.1 h
    cases h
    exact .between hfirst hlast
  | unknown => cases h

/-- The condition of a plain filter is plain, and its literals are those of the filter. -/
theorem condition_spec {filter : Filter} (hplain : compiler.IsPlain filter) {condition : Condition}
    (h : (compiler.condition filter).value = some condition) :
    condition.IsPlain ∧ ∀ s ∈ condition.literals, s ∈ compiler.literals filter := by
  cases gives_of_condition h with
  | pageName hs | pageNameTest hs _ | tags hs | pageReference hs =>
    exact ⟨trivial, List.forall_mem_singleton.2 (FilterValue.mem_texts hs)⟩
  | fullText _ hs =>
    exact ⟨trivial, List.forall_mem_singleton.2 (List.mem_map_of_mem (FilterValue.mem_texts hs))⟩
  | property _ h => exact PropertyFilter.condition?_spec hplain.1 hplain.2 h
  | task | priority => exact ⟨trivial, fun s hs ↦ hs⟩
  | between =>
    exact ⟨isConstant_of_mem_applicationAttributes _
      (DateProperty.attr_mem_applicationAttributes _), fun s hs ↦ absurd hs List.not_mem_nil⟩

/-! ## From filters to clauses -/

variable (compiler) (entity : String)

/-- The condition of a filter, if it is valid. -/
def condition? (filter : Filter) : Option Condition :=
  if filter.isValid then (compiler.condition filter).value else none

/-- The names that a filter requests variables for. -/
def requests (filter : Filter) : List String :=
  (compiler.condition? filter).elim [] Condition.bases

/-- The clauses of a filter in a scope, and the scope after them. A filter that is not valid has no
clauses. -/
def contribute (filter : Filter) (scope : Scope) : List Clause × Scope :=
  if filter.isValid then (compiler.buildFilter entity filter scope).value else ([], scope)

/-- The forms of filters that draw their variables from one scope, one after the other. -/
def parts : Scope → List Filter → List (List Form)
  | _, [] => []
  | scope, filter :: filters =>
    let (clauses, scope) := compiler.contribute entity filter scope
    clauses.map Clause.form :: parts scope filters

variable {compiler} {entity}

theorem buildFilter_value (filter : Filter) (scope : Scope) :
    (compiler.buildFilter entity filter scope).value =
      ((compiler.condition filter).value.elim [] fun condition ↦
          condition.clauses entity scope.next,
        scope.issue ((compiler.condition filter).value.elim [] Condition.bases)) := by
  unfold buildFilter
  rw [Recorded.bind_value]
  cases (compiler.condition filter).value with
  | none => simp
  | some condition => rfl

theorem contribute_eq (filter : Filter) (scope : Scope) :
    compiler.contribute entity filter scope =
      ((compiler.condition? filter).elim [] fun condition ↦ condition.clauses entity scope.next,
        scope.issue (compiler.requests filter)) := by
  unfold contribute requests condition?
  split
  · exact buildFilter_value filter scope
  · simp

theorem parts_cons (scope : Scope) (filter : Filter) (filters : List Filter) :
    compiler.parts entity scope (filter :: filters) =
      (compiler.contribute entity filter scope).1.map Clause.form ::
        compiler.parts entity (scope.issue (compiler.requests filter)) filters := by
  rw [parts, contribute_eq]

theorem parts_append (scope : Scope) (filters others : List Filter) :
    compiler.parts entity scope (filters ++ others) = compiler.parts entity scope filters ++
      compiler.parts entity (scope.issue (filters.flatMap compiler.requests)) others := by
  induction filters generalizing scope with
  | nil => simp [parts]
  | cons filter filters ih =>
    rw [List.cons_append, parts_cons, ih, parts_cons, List.cons_append, List.flatMap_cons,
      Scope.issue_append]

theorem length_parts (scope : Scope) (filters : List Filter) :
    (compiler.parts entity scope filters).length = filters.length := by
  induction filters generalizing scope with
  | nil => rfl
  | cons filter filters ih => rw [parts_cons, List.length_cons, ih, List.length_cons]

theorem plan_leaf (filter : Filter) :
    (compiler.plan (.leaf filter)).value = .leaf (compiler.condition? filter) := by
  unfold plan condition?
  split <;> rfl

theorem plan_group (mode : MatchMode) (children : List Node) :
    (compiler.plan (.group mode children)).value =
      .group mode (compiler.planList children).value := by
  rw [plan]
  rfl

theorem planList_cons (child : Node) (children : List Node) :
    (compiler.planList (child :: children)).value =
      (compiler.plan child).value :: (compiler.planList children).value := by
  rw [planList]
  rfl

/-- The names that filters request are names of conditions. -/
theorem exists_condition {filter : Filter} {base : String} (h : base ∈ compiler.requests filter) :
    ∃ condition : Condition, base ∈ condition.bases := by
  unfold requests at h
  cases hcondition : compiler.condition? filter with
  | none => simp [hcondition] at h
  | some condition =>
    rw [hcondition] at h
    exact ⟨condition, h⟩

theorem isBase_of_mem_requests {filter : Filter} {base : String}
    (h : base ∈ compiler.requests filter) : IsBase base := by
  obtain ⟨condition, hbase⟩ := exists_condition h
  exact condition.isBase_of_mem hbase

theorem requests_nodup (filter : Filter) : (compiler.requests filter).Nodup := by
  unfold requests
  cases compiler.condition? filter with
  | none => exact List.nodup_nil
  | some condition => exact condition.bases_nodup

theorem condition?_spec {filter : Filter} (hplain : filter.isValid → compiler.IsPlain filter)
    {condition : Condition} (h : compiler.condition? filter = some condition) :
    condition.IsPlain ∧ ∀ s ∈ condition.literals, s ∈ compiler.literals filter := by
  unfold condition? at h
  split at h
  case isTrue hvalid => exact condition_spec (hplain hvalid) h
  case isFalse => cases h

/-- The clauses of a filter are composed of what its condition is given, variables, and the
attributes of the application. -/
theorem composedOf_contribute {supply : Supply}
    (happlication : ∀ attr ∈ applicationAttributes, supply.IsAttribute attr)
    (hhelper : ∀ (scope : Scope) (condition : Condition), ∀ base ∈ condition.bases,
      supply.IsHelper (scope.next base)) {filter : Filter}
    (hcondition : ∀ condition, compiler.condition? filter = some condition →
      (∀ attr ∈ condition.attributes, supply.IsAttribute attr) ∧
        ∀ s ∈ condition.literals, supply.IsLiteral s) (scope : Scope) :
    ∀ c ∈ (compiler.contribute supply.entity filter scope).1, c.ComposedOf supply := by
  rw [contribute_eq]
  cases hsome : compiler.condition? filter with
  | none => exact fun c hc ↦ absurd hc List.not_mem_nil
  | some condition =>
    obtain ⟨hattributes, hliterals⟩ := hcondition condition hsome
    exact Condition.composedOf_clauses happlication hattributes (hhelper scope condition) hliterals

/-- The clauses of a plain filter are made of the entity, its own variables and its literals. -/
theorem madeOf_contribute {filter : Filter} (hplain : filter.isValid → compiler.IsPlain filter)
    {scope : Scope} :
    ∀ c ∈ (compiler.contribute entity filter scope).1, c.form.MadeOf
      ⟨entity :: (compiler.requests filter).map scope.next, compiler.literals filter⟩ := by
  rw [contribute_eq]
  cases hcondition : compiler.condition? filter with
  | none => exact fun c hc ↦ absurd hc List.not_mem_nil
  | some condition =>
    have hrequests : compiler.requests filter = condition.bases := by
      rw [requests, hcondition]
      rfl
    obtain ⟨hfits, hliterals⟩ := condition?_spec hplain hcondition
    rw [hrequests]
    exact Condition.madeOf_clauses hfits List.mem_cons_self
      (fun base hbase ↦ List.mem_cons_of_mem _ (List.mem_map_of_mem hbase)) hliterals

/-- What filters contribute one after the other is made of the entity, of variables that are issued
for their requests, and of the literals of those that are valid. -/
theorem madeOf_parts {filters : List Filter}
    (hplain : ∀ filter ∈ filters, filter.isValid → compiler.IsPlain filter) {scope : Scope} :
    ∀ part ∈ compiler.parts entity scope filters, ∀ form ∈ part, form.MadeOf
      ⟨entity :: scope.freshList (filters.flatMap compiler.requests),
        (filters.filter Filter.isValid).flatMap compiler.literals⟩ := by
  induction filters generalizing scope with
  | nil => exact fun part hpart ↦ absurd hpart List.not_mem_nil
  | cons filter filters ih =>
    rw [List.forall_mem_cons] at hplain
    have hnames := Scope.freshList_append scope (compiler.requests filter)
      (filters.flatMap compiler.requests)
    rw [← List.flatMap_cons] at hnames
    rw [parts_cons, List.forall_mem_cons, hnames]
    constructor
    · rw [List.forall_mem_map]
      intro c hc
      have hvalid : filter.isValid = true := by
        by_contra hinvalid
        simp [contribute, hinvalid] at hc
      apply (madeOf_contribute hplain.1 c hc).mono
      · rw [← Scope.freshList_eq_map (requests_nodup filter)]
        intro name hname
        rcases List.mem_cons.1 hname with rfl | hname
        · exact List.mem_cons_self
        · exact List.mem_cons_of_mem _ (List.mem_append_left _ hname)
      · intro s hs
        exact List.mem_flatMap.2 ⟨filter, List.mem_filter.2 ⟨List.mem_cons_self, hvalid⟩, hs⟩
    · intro part hpart form hform
      apply (ih hplain.2 part hpart form hform).mono
      · intro name hname
        rcases List.mem_cons.1 hname with rfl | hname
        · exact List.mem_cons_self
        · exact List.mem_cons_of_mem _ (List.mem_append_right _ hname)
      · intro s hs
        obtain ⟨other, hother, hs⟩ := List.mem_flatMap.1 hs
        obtain ⟨hmem, hvalid⟩ := List.mem_filter.1 hother
        exact List.mem_flatMap.2
          ⟨other, List.mem_filter.2 ⟨List.mem_cons_of_mem filter hmem, hvalid⟩, hs⟩

end Compiler

end FilterQuery
