import FilterQuery.Proofs.Compiler.Faithful
import FilterQuery.Proofs.Datalog.Binding

/-!
# Queries can be evaluated from left to right

The clauses of a filter begin with a data pattern about the entity, or with an or-join all of whose
branches do; helper variables are bound before they are used. So the clauses of every filter can be
evaluated on their own, and bind the entity. Groups keep both: what can be evaluated on its own can
be evaluated behind anything, in a branch that knows nothing of the clauses around it, and in a
not-join, before which the entity is bound.
-/

namespace FilterQuery

open Datalog

namespace Datalog.Clause

/-- Clauses that can be evaluated on their own, and that bind the entity if there are any. -/
structure Standalone (entity : String) (clauses : List Clause) : Prop where
  safe : Form.SafeAll entity ∅ [] (clauses.map form)
  binds : clauses ≠ [] → ∃ c ∈ clauses, c.form.Binds entity

section

variable {entity : String} {clauses others : List Clause}

theorem standalone_nil : Standalone entity [] := ⟨safeAll_nil, nofun⟩

theorem Standalone.append (h : Standalone entity clauses) (hothers : Standalone entity others) :
    Standalone entity (clauses ++ others) where
  safe := by
    rw [List.map_append]
    exact h.safe.append hothers.safe.weaken
  binds hne := by
    cases clauses with
    | nil => exact hothers.binds hne
    | cons clause clauses =>
      obtain ⟨c, hc, hbinds⟩ := h.binds (List.cons_ne_nil _ _)
      exact ⟨c, List.mem_append_left _ hc, hbinds⟩

theorem standalone_flatten {parts : List (List Clause)}
    (h : ∀ part ∈ parts, Standalone entity part) : Standalone entity parts.flatten := by
  induction parts with
  | nil => exact standalone_nil
  | cons part parts ih =>
    rw [List.forall_mem_cons] at h
    exact h.1.append (ih h.2)

theorem Standalone.conj {layout : Layout} (h : Standalone entity clauses) (hne : clauses ≠ []) :
    Standalone entity [conj layout clauses] where
  safe := safeAll_cons.2 ⟨safe_conj h.safe.weaken, safeAll_nil⟩
  binds _ := by
    obtain ⟨c, hc, hbinds⟩ := h.binds hne
    exact ⟨_, List.mem_cons_self, binds_conj hc hbinds⟩

theorem standalone_orJoin {indent : Nat} (hne : clauses ≠ [])
    (h : ∀ c ∈ clauses, Standalone entity [c]) :
    Standalone entity [orJoin entity indent clauses] := by
  have hbinds : ∀ c ∈ clauses, c.form.Binds entity := by
    intro c hc
    obtain ⟨branch, hbranch, hbinds⟩ := (h c hc).binds (List.cons_ne_nil _ _)
    obtain rfl := List.mem_singleton.1 hbranch
    exact hbinds
  have hsafe (c : Clause) (hc : c ∈ clauses) : c.form.Safe entity ∅ [] :=
    (safeAll_cons.1 (h c hc).safe).1
  constructor
  · refine safeAll_cons.2 ⟨safe_orJoin hbinds fun c hc ↦ ?_, safeAll_nil⟩
    exact (hsafe c hc).mono (Set.empty_subset _) nofun
  · exact fun _ ↦ ⟨_, List.mem_cons_self, binds_orJoin hne hbinds⟩

variable (hentity : isVariable entity = true)

include hentity

/-- Clauses behind a pattern about the entity. -/
theorem standalone_cons {attr : String} {value : Option Operand}
    (h : Form.SafeAll entity ∅ [(pattern entity attr value).form] (clauses.map form)) :
    Standalone entity (pattern entity attr value :: clauses) where
  safe := safeAll_cons.2 ⟨safe_pattern, h⟩
  binds _ := ⟨_, List.mem_cons_self, binds_pattern hentity⟩

theorem Standalone.notJoin {attr : String} {value : Option Operand}
    (h : Standalone entity clauses) :
    Standalone entity [pattern entity attr value, notJoin entity clauses] :=
  standalone_cons hentity (safeAll_cons.2
    ⟨safe_notJoin hentity List.mem_cons_self h.safe.weaken, safeAll_nil⟩)

end

end Datalog.Clause

namespace Condition

open Clause (Standalone standalone_nil standalone_cons standalone_orJoin safe_pattern safe_test
  safe_regex safe_either subset_bound_pattern subset_bound_regex)

theorem vars_eq_nil {name : String} (h : IsConstant name) : (Form.word name).vars = [] := by
  rw [Form.vars_word, h.2]
  rfl

section

variable {entity : String} {helper : String → String} (hentity : isVariable entity = true)

include hentity

theorem standalone_equal {attr : String} {value : Operand} :
    Standalone entity [.pattern entity attr (some value)] :=
  standalone_cons hentity safeAll_nil

theorem standalone_linked {attr subject other : String} {value value' : Option Operand} :
    Standalone entity [.pattern entity attr value, .pattern subject other value'] :=
  standalone_cons hentity (safeAll_cons.2 ⟨safe_pattern, safeAll_nil⟩)

/-- A variable that has been bound is tested. -/
theorem standalone_test {attr base : String} {predicate : Predicate} {value : Operand}
    (hvalue : value.form.vars = []) :
    Standalone entity [.pattern entity attr (some (var helper base)),
      .test predicate (var helper base) value] := by
  refine standalone_cons hentity (safeAll_cons.2 ⟨safe_test ?_ ?_, safeAll_nil⟩)
  · exact fun v hv ↦ mem_known List.mem_cons_self (subset_bound_pattern v hv)
  · rw [hvalue]
    exact nofun

/-- A text that has been bound is searched. -/
theorem standalone_search {attr base : String} {predicate : Predicate} {search : SearchPattern} :
    Standalone entity [.pattern entity attr (some (var helper base)),
      .regex search (helper "pattern"),
      .test predicate (var helper "pattern") (var helper base)] := by
  refine standalone_cons hentity (safeAll_cons.2 ⟨safe_regex, safeAll_cons.2
    ⟨safe_test ?_ ?_, safeAll_nil⟩⟩)
  · exact fun v hv ↦ mem_known (List.mem_cons_of_mem _ List.mem_cons_self) (subset_bound_regex v hv)
  · exact fun v hv ↦ mem_known List.mem_cons_self (subset_bound_pattern v hv)

omit hentity in
theorem standalone_anyOf {branches : List Clause} (h : ∀ c ∈ branches, Standalone entity [c]) :
    Standalone entity (anyOf entity branches) := by
  cases branches with
  | nil => exact standalone_nil
  | cons branch branches => exact standalone_orJoin (List.cons_ne_nil _ _) h

theorem standalone_directTag (title : String) :
    Standalone entity (directTag entity helper title) :=
  standalone_linked hentity

theorem standalone_extendedTag (title : String) :
    Standalone entity (extendedTag entity helper title) :=
  standalone_cons hentity
    (safeAll_cons.2 ⟨safe_pattern, safeAll_cons.2 ⟨safe_pattern, safeAll_nil⟩⟩)

theorem standalone_statusTag : Standalone entity (statusTag entity helper) :=
  standalone_linked hentity

theorem standalone_titled (hhelper : ∀ base, isVariable (helper base) = true)
    {attr base : String} (titles : List String) :
    Standalone entity (titled entity helper attr base titles) := by
  have hvalue : helper base ∈ (var helper base).form.vars := by
    rw [var, Operand.form, Form.vars_word, if_pos (hhelper base)]
    exact List.mem_cons_self
  have htitle : (Form.word ":block/title").vars = [] := vars_eq_nil (by decide)
  have hvars (title : String) : (Clause.pattern (helper base) ":block/title"
      (some (.text title))).form.vars = [helper base] := by
    have htext : (Form.text title).vars = [] := rfl
    simp [Operand.form, Form.vars_enclosed, Form.vars_word, hhelper base, htitle, htext]
  unfold titled
  split
  · exact standalone_linked hentity
  · refine standalone_cons hentity (safeAll_cons.2 ⟨safe_either
      (mem_known List.mem_cons_self (subset_bound_pattern _ hvalue)) ?_ ?_, safeAll_nil⟩)
    · exact List.forall_mem_map.2 fun title _ ↦ hvars title
    · exact List.forall_mem_map.2 fun title _ ↦ safe_pattern

theorem standalone_status (hhelper : ∀ base, isVariable (helper base) = true)
    (titles : List String) (includeExtensions includeAllStatusProperties : Bool) :
    Standalone entity
      ((status titles includeExtensions includeAllStatusProperties).clauses entity helper) := by
  have hdirect : Standalone entity (directTag entity helper "Task") :=
    standalone_directTag hentity "Task"
  have hextended : Standalone entity (extendedTag entity helper "Task") :=
    standalone_extendedTag hentity "Task"
  have hstatus : Standalone entity (statusTag entity helper) := standalone_statusTag hentity
  unfold clauses
  refine .append ?_ (standalone_titled hentity hhelper titles)
  split
  case isFalse => exact hdirect
  case isTrue =>
    apply standalone_anyOf
    rw [List.forall_mem_append, List.forall_mem_append, List.forall_mem_singleton]
    refine ⟨⟨hdirect.conj (List.cons_ne_nil _ _), ?_⟩, ?_⟩
    · cases includeExtensions with
      | false => exact nofun
      | true => exact List.forall_mem_singleton.2 (hextended.conj (List.cons_ne_nil _ _))
    · cases includeAllStatusProperties with
      | false => exact nofun
      | true => exact List.forall_mem_singleton.2 (hstatus.conj (List.cons_ne_nil _ _))

theorem standalone_containing {ignoreCase : Bool} {attr base s : String} :
    Standalone entity [containing entity helper ignoreCase attr base s] := by
  unfold containing
  cases ignoreCase with
  | false =>
    have htest : Standalone entity [.pattern entity attr (some (var helper base)),
        .test .includes (var helper base) (.text s)] := standalone_test hentity rfl
    exact htest.conj (List.cons_ne_nil _ _)
  | true =>
    have hsearch : Standalone entity [.pattern entity attr (some (var helper base)),
        .regex ⟨s, false⟩ (helper "pattern"),
        .test .find (var helper "pattern") (var helper base)] := standalone_search hentity
    exact hsearch.conj (List.cons_ne_nil _ _)

/-- The clauses of a condition can be evaluated on their own, and bind the entity. -/
theorem standalone_clauses (condition : Condition)
    (hhelper : ∀ base, isVariable (helper base) = true) :
    Standalone entity (condition.clauses entity helper) := by
  have hinstant (milliseconds : Int) : (Operand.instant milliseconds).form.vars = [] :=
    vars_eq_nil (isConstant_toString milliseconds)
  cases condition with
  | pageName name => exact standalone_equal hentity
  | pageNameTest predicate s => exact standalone_test hentity rfl
  | tag title includeExtensions =>
    have hdirect : Standalone entity (directTag entity helper title) :=
      standalone_directTag hentity title
    have hextended : Standalone entity (extendedTag entity helper title) :=
      standalone_extendedTag hentity title
    cases includeExtensions with
    | false => exact hdirect
    | true =>
      exact standalone_anyOf (forall_mem_pair.2
        ⟨hdirect.conj (List.cons_ne_nil _ _), hextended.conj (List.cons_ne_nil _ _)⟩)
  | content pattern => exact standalone_search hentity
  | flag attr isChecked => exact standalone_equal hentity
  | link attr title => exact standalone_titled hentity hhelper [title]
  | linkToAny attr titles =>
    refine standalone_anyOf (List.forall_mem_map.2 fun title _ ↦ ?_)
    have htitled : Standalone entity (titled entity helper attr "ref" [title]) :=
      standalone_titled hentity hhelper [title]
    exact htitled.conj (List.cons_ne_nil _ _)
  | number attr comparison value =>
    exact standalone_test hentity (vars_eq_nil (isConstant_renderNumber value))
  | instant attr comparison milliseconds => exact standalone_test hentity (hinstant milliseconds)
  | property name texts =>
    exact standalone_anyOf (forall_mem_flatMap_pair fun s _ ↦
      ⟨standalone_equal hentity, standalone_equal hentity⟩)
  | propertyContains name texts ignoreCase =>
    exact standalone_anyOf (forall_mem_flatMap_pair fun s _ ↦
      ⟨standalone_containing hentity, standalone_containing hentity⟩)
  | reference name => exact standalone_linked hentity
  | status titles includeExtensions includeAllStatusProperties =>
    exact standalone_status hentity hhelper titles _ _
  | priority titles => exact standalone_titled hentity hhelper titles
  | period attr first last =>
    have htest {before : List Form} {comparison : Comparison} {milliseconds : Int}
        (hbefore : (Clause.pattern entity attr (some (var helper "date"))).form ∈ before) :
        (Clause.test (.compare comparison) (var helper "date") (.instant milliseconds)).form.Safe
          entity ∅ before := by
      refine safe_test (fun v hv ↦ mem_known hbefore (subset_bound_pattern v hv)) ?_
      rw [hinstant]
      exact nofun
    exact standalone_cons hentity (safeAll_cons.2 ⟨htest List.mem_cons_self,
      safeAll_cons.2 ⟨htest List.mem_cons_self, safeAll_nil⟩⟩)

end

end Condition

/-! ## Trees -/

theorem MatchMode.standalone_combine {entity : String} (hentity : isVariable entity = true)
    (mode : MatchMode) {parts : List (List Clause)}
    (h : ∀ part ∈ parts, part ≠ [] ∧ Clause.Standalone entity part) :
    Clause.Standalone entity (mode.combine entity parts) := by
  have hflatten : Clause.Standalone entity parts.flatten :=
    Clause.standalone_flatten fun part hpart ↦ (h part hpart).2
  rcases parts with _ | ⟨part, parts⟩
  · cases mode <;> exact Clause.standalone_nil
  cases mode with
  | all => exact hflatten
  | any =>
    cases parts with
    | nil => exact (h part List.mem_cons_self).2
    | cons other parts =>
      refine Clause.standalone_orJoin (List.cons_ne_nil _ _) (List.forall_mem_map.2 ?_)
      exact fun part hpart ↦ (h part hpart).2.conj (h part hpart).1
  | none => exact hflatten.notJoin hentity

namespace Compiler

variable {Step : Type} {compiler : Compiler Step}

theorem standalone_contribute {entity : String} (hentity : isVariable entity = true)
    (filter : Filter) (scope : Scope) :
    Clause.Standalone entity (compiler.contribute entity filter scope).1 := by
  rw [contribute_eq]
  cases compiler.condition? filter with
  | none => exact Clause.standalone_nil
  | some condition =>
    exact condition.standalone_clauses hentity fun base ↦ isVariable_variableName base _

/-- The clauses of a query can be evaluated on their own, and bind its entity. -/
theorem standalone_body {node : Node} {query : Query}
    (h : (compiler.compile node).value = some query) :
    Clause.Standalone query.entity query.body := by
  obtain ⟨hentity, -, hbody⟩ := body_compile h
  have hvariable : isVariable node.entity = true :=
    (EntityKind.ofFilters node.validFilters).isVariable_variableName
  rw [hbody, hentity]
  exact forall_build Clause.standalone_nil
    (fun mode parts ↦ mode.standalone_combine hvariable) node .empty
    fun filter _ scope ↦ standalone_contribute hvariable filter scope

end Compiler

/-- In the form that a query is read as, every argument of a predicate or a function is bound before
it is used, every branch of an or-join binds the entity, alternatives are about one bound variable,
every not-join stands behind a pattern that binds the entity, and so does the query as a whole. -/
theorem compile_is_safe {Step : Type} {compiler : Compiler Step} {node : Node} {query : Query}
    (hplain : ∀ filter ∈ node.validFilters, compiler.IsPlain filter)
    (h : (compiler.compile node).value = some query) :
    ∃ body, readForms? query.raw = some [.query query.entity body] ∧
      Form.SafeAll query.entity ∅ [] body ∧ ∃ form ∈ body, form.Binds query.entity := by
  have hstandalone := Compiler.standalone_body h
  obtain ⟨c, hc, hbinds⟩ := hstandalone.binds (body_compile h).2.1
  refine ⟨query.body.map Clause.form, ?_, hstandalone.safe, c.form, List.mem_map_of_mem hc, hbinds⟩
  rw [readForms?_compile hplain h, ← form_compile h, Query.form]

/-- Tasks of any kind, and what does not both hold a text and have a property or lack a tag. -/
theorem compile_is_safe_of_nested_negation :
    let compiler : Compiler Unit := ⟨true, SchemaLookup.empty⟩
    let node := Node.group .any [.leaf (.task (.multiple ["Todo", "Doing"]) true true),
      .group .none [.leaf (.fullText .contains (.single "x")), .group .any
        [.leaf (.property ⟨"rating", none, none, .contains, .single "5"⟩),
          .group .none [.leaf (.tags (.single "c") true)]]]]
    ∃ query, (compiler.compile node).value = some query ∧
      ∃ body, readForms? query.raw = some [.query query.entity body] ∧
        Form.SafeAll query.entity ∅ [] body ∧ ∃ form ∈ body, form.Binds query.entity := by
  intro compiler node
  have hplain : ∀ filter ∈ node.validFilters, compiler.IsPlain filter := by
    have hrating : IsPlainText (Text.trim "rating") := by decide
    refine List.forall_mem_cons.2 ⟨trivial, List.forall_mem_cons.2 ⟨trivial, forall_mem_pair.2
      ⟨⟨hrating, fun schema hschema ↦ ?_⟩, trivial⟩⟩⟩
    cases hschema
  exact ⟨_, rfl, compile_is_safe hplain rfl⟩

end FilterQuery
