import FilterQuery.Proofs.Compiler.Existence
import FilterQuery.Proofs.Datalog.Solutions

/-!
# What a condition asks of an entity

Whatever its helper variables are called, the clauses of a condition are solved by the entities that
meet it, and what that means is said by the facts about an entity alone.
-/

namespace FilterQuery

open Datalog

variable {Value : Type}

namespace Condition

/-! ## Entities that meet a condition -/

section

variable (I : Interpretation Value) (facts : Database Value)

/-- A value under the attribute has one of the titles. -/
def HasTitled (attr : String) (titles : List String) (x : Value) : Prop :=
  ∃ y, (x, I.constant attr, y) ∈ facts ∧
    ∃ title ∈ titles, (y, I.constant ":block/title", I.text title) ∈ facts

/-- A value under the attribute compares to an operand. -/
def HasCompared (attr : String) (predicate : Predicate) (value : Value) (x : Value) : Prop :=
  ∃ y, (x, I.constant attr, y) ∈ facts ∧ I.calls predicate.symbol [y, value] []

/-- A search finds something in a value under the attribute. -/
def HasFound (attr : String) (search : SearchPattern) (x : Value) : Prop :=
  ∃ y pattern, (x, I.constant attr, y) ∈ facts ∧
    I.calls "re-pattern" [I.text search.source] [pattern] ∧
    I.calls (if search.isWhole then "re-matches" else "re-find") [pattern, y] []

/-- A value under the attribute holds the text. -/
def HasText (ignoreCase : Bool) (attr text : String) : Value → Prop :=
  if ignoreCase then HasFound I facts attr ⟨text, false⟩
  else HasCompared I facts attr .includes (I.text text)

/-- One of the tags has the title. -/
def IsTagged (title : String) (x : Value) : Prop :=
  ∃ tag, (x, I.constant ":block/tags", tag) ∈ facts ∧
    (tag, I.constant ":block/title", I.text title) ∈ facts

/-- One of the tags extends what has the title. -/
def IsTaggedByExtension (title : String) (x : Value) : Prop :=
  ∃ child parent, (x, I.constant ":block/tags", child) ∈ facts ∧
    (child, I.constant ":logseq.property.class/extends", parent) ∈ facts ∧
    (parent, I.constant ":block/title", I.text title) ∈ facts

/-- One of the tags has the property of a status. -/
def IsTaggedWithStatus (x : Value) : Prop :=
  ∃ tag, (x, I.constant ":block/tags", tag) ∈ facts ∧
    (tag, I.constant ":logseq.property.class/properties",
      I.constant ":logseq.property/status") ∈ facts

/-- Whether an entity counts as a task. -/
def IsTask (includeExtensions includeAllStatusProperties : Bool) (x : Value) : Prop :=
  IsTagged I facts "Task" x ∨ includeExtensions = true ∧ IsTaggedByExtension I facts "Task" x ∨
    includeAllStatusProperties = true ∧ IsTaggedWithStatus I facts x

/-- Whether an entity meets a condition. -/
def Meets : Condition → Value → Prop
  | .pageName name, x => (x, I.constant ":block/name", I.text name) ∈ facts
  | .pageNameTest predicate text, x => HasCompared I facts ":block/name" predicate (I.text text) x
  | .tag title includeExtensions, x =>
    IsTagged I facts title x ∨ includeExtensions = true ∧ IsTaggedByExtension I facts title x
  | .content search, x => HasFound I facts ":block/title" search x
  | .flag attr isChecked, x =>
    (x, I.constant attr, I.constant (if isChecked then "true" else "false")) ∈ facts
  | .link attr title, x => HasTitled I facts attr [title] x
  | .linkToAny attr titles, x => HasTitled I facts attr titles x
  | .number attr comparison value, x =>
    HasCompared I facts attr (.compare comparison) (I.constant (renderNumber value)) x
  | .instant attr comparison milliseconds, x =>
    HasCompared I facts attr (.compare comparison) (I.constant (toString milliseconds)) x
  | .property name texts, x => ∃ text ∈ texts,
    (x, I.constant (userAttribute name), I.text text) ∈ facts ∨
      (x, I.constant (builtinAttribute name), I.text text) ∈ facts
  | .propertyContains name texts ignoreCase, x => ∃ text ∈ texts,
    HasText I facts ignoreCase (userAttribute name) text x ∨
      HasText I facts ignoreCase (builtinAttribute name) text x
  | .reference name, x => ∃ y, (x, I.constant ":block/refs", y) ∈ facts ∧
    (y, I.constant ":block/name", I.text name) ∈ facts
  | .status titles includeExtensions includeAllStatusProperties, x =>
    IsTask I facts includeExtensions includeAllStatusProperties x ∧
      HasTitled I facts ":logseq.property/status" titles x
  | .priority titles, x => HasTitled I facts ":logseq.property/priority" titles x
  | .period attr first last, x => ∃ y, (x, I.constant attr, y) ∈ facts ∧
    I.calls ">=" [y, I.constant (toString first)] [] ∧
    I.calls "<=" [y, I.constant (toString last)] []

end

/-- To have one of several titles is to have one of them alone. -/
theorem hasTitled_iff {I : Interpretation Value} {facts : Database Value} {attr : String}
    {titles : List String} {x : Value} :
    HasTitled I facts attr titles x ↔ ∃ title ∈ titles, HasTitled I facts attr [title] x := by
  simp only [HasTitled, List.mem_singleton, exists_eq_left]
  constructor
  · rintro ⟨y, hfact, title, htitle, hvalue⟩
    exact ⟨title, htitle, y, hfact, hvalue⟩
  · rintro ⟨title, htitle, y, hfact, hvalue⟩
    exact ⟨y, hfact, title, htitle, hvalue⟩

/-! ## Parts of conditions -/

section

variable {I : Interpretation Value} {facts : Database Value} {entity : String}
  {helper : String → String} (hentity : isVariable entity = true)

include hentity

theorem asks_known {attr : String} {target : Operand} (hattr : isVariable attr = false)
    (htarget : target.IsProper) {value : Value} (hvalue : ∀ env, target.value I env = value) :
    Asks I facts entity [.pattern entity attr (some target)]
      fun x ↦ (x, I.constant attr, value) ∈ facts := by
  refine asks_of_entity fun env ↦ ?_
  simp only [List.map_cons, List.map_nil, holdsAll_cons, holdsAll_nil, and_true,
    holds_pattern hentity hattr htarget, hvalue]

section

variable {attr linked base : String} {target : Operand} (hattr : isVariable attr = false)
  (hlinked : isVariable linked = false) (hbase : IsHelperOf entity (helper base))
  (htarget : target.IsProper) {value : Value} (hvalue : ∀ env, target.value I env = value)

include hattr hlinked hbase htarget hvalue

theorem holdsAll_linked (env : String → Value) :
    HoldsAll I facts ([Clause.pattern entity attr (some (var helper base)),
        .pattern (helper base) linked (some target)].map Clause.form) env ↔
      (env entity, I.constant attr, env (helper base)) ∈ facts ∧
        (env (helper base), I.constant linked, value) ∈ facts := by
  have hvar : (var helper base).IsProper := hbase.isVariable
  simp only [List.map_cons, List.map_nil, holdsAll_cons, holdsAll_nil, and_true,
    holds_pattern hentity hattr hvar, holds_pattern hbase.isVariable hlinked htarget, hvalue]
  rfl

/-- A value under an attribute has a value under another one. -/
theorem asks_linked :
    Asks I facts entity [.pattern entity attr (some (var helper base)),
        .pattern (helper base) linked (some target)]
      fun x ↦ ∃ y, (x, I.constant attr, y) ∈ facts ∧ (y, I.constant linked, value) ∈ facts :=
  asks_of_one hbase (holdsAll_linked hentity hattr hlinked hbase htarget hvalue)

end

theorem asks_compared {attr base : String} {predicate : Predicate} {bound : Operand}
    (hattr : isVariable attr = false) (hbase : IsHelperOf entity (helper base))
    (hbound : bound.IsProper) {value : Value} (hvalue : ∀ env, bound.value I env = value) :
    Asks I facts entity [.pattern entity attr (some (var helper base)),
      .test predicate (var helper base) bound] (HasCompared I facts attr predicate value) := by
  have hvar : (var helper base).IsProper := hbase.isVariable
  refine asks_of_one hbase fun env ↦ ?_
  simp only [List.map_cons, List.map_nil, holdsAll_cons, holdsAll_nil, and_true,
    holds_pattern hentity hattr hvar, holds_test hvar hbound, hvalue]
  rfl

theorem asks_found {attr base : String} {search : SearchPattern}
    (hattr : isVariable attr = false) (hbase : IsHelperOf entity (helper base))
    (hpattern : IsHelperOf entity (helper "pattern")) (hne : helper base ≠ helper "pattern") :
    Asks I facts entity [.pattern entity attr (some (var helper base)),
      .regex search (helper "pattern"),
      .test (if search.isWhole then .matches else .find) (var helper "pattern")
        (var helper base)] (HasFound I facts attr search) := by
  have hvar : (var helper base).IsProper := hbase.isVariable
  have hsearch : (var helper "pattern").IsProper := hpattern.isVariable
  refine asks_of_two hbase hpattern hne fun env ↦ ?_
  simp only [List.map_cons, List.map_nil, holdsAll_cons, holdsAll_nil, and_true,
    holds_pattern hentity hattr hvar, holds_regex hpattern.isVariable, holds_test hsearch hvar]
  cases search.isWhole <;> rfl

theorem holdsAll_directTag (title : String) (ht : IsHelperOf entity (helper "t"))
    (env : String → Value) :
    HoldsAll I facts ((directTag entity helper title).map Clause.form) env ↔
      (env entity, I.constant ":block/tags", env (helper "t")) ∈ facts ∧
        (env (helper "t"), I.constant ":block/title", I.text title) ∈ facts := by
  have htitle : (Operand.text title).IsProper := trivial
  exact holdsAll_linked hentity (by decide) (by decide) ht htitle (fun _ ↦ rfl) env

theorem asks_directTag (title : String) (ht : IsHelperOf entity (helper "t")) :
    Asks I facts entity (directTag entity helper title) (IsTagged I facts title) :=
  asks_of_one ht (holdsAll_directTag hentity title ht)

theorem asks_extendedTag (title : String) (hchild : IsHelperOf entity (helper "child"))
    (hparent : IsHelperOf entity (helper "parent")) (hne : helper "child" ≠ helper "parent") :
    Asks I facts entity (extendedTag entity helper title) (IsTaggedByExtension I facts title) := by
  have htags : isVariable ":block/tags" = false := by decide
  have hextends : isVariable ":logseq.property.class/extends" = false := by decide
  have htitle : isVariable ":block/title" = false := by decide
  have hvar : (var helper "child").IsProper := hchild.isVariable
  have hclass : (var helper "parent").IsProper := hparent.isVariable
  have htext : (Operand.text title).IsProper := trivial
  refine asks_of_two hchild hparent hne fun env ↦ ?_
  simp only [extendedTag, List.map_cons, List.map_nil, holdsAll_cons, holdsAll_nil, and_true,
    holds_pattern hentity htags hvar, holds_pattern hchild.isVariable hextends hclass,
    holds_pattern hparent.isVariable htitle htext]
  rfl

theorem asks_statusTag (htag : IsHelperOf entity (helper "tag")) :
    Asks I facts entity (statusTag entity helper) (IsTaggedWithStatus I facts) := by
  have hstatus : (Operand.keyword ":logseq.property/status").IsProper :=
    (by decide : isVariable ":logseq.property/status" = false)
  exact asks_linked hentity (by decide) (by decide) htag hstatus fun _ ↦ rfl

/-- One title stands in a pattern of its own, and several ones in alternatives. -/
theorem holdsAll_titled {attr base : String} (hattr : isVariable attr = false)
    (hbase : isVariable (helper base) = true) (titles : List String) (env : String → Value) :
    HoldsAll I facts ((titled entity helper attr base titles).map Clause.form) env ↔
      (env entity, I.constant attr, env (helper base)) ∈ facts ∧ ∃ title ∈ titles,
        (env (helper base), I.constant ":block/title", I.text title) ∈ facts := by
  have hvar : (var helper base).IsProper := hbase
  have htitle (title : String) : (Clause.pattern (helper base) ":block/title"
      (some (.text title))).form.Holds I facts env ↔
        (env (helper base), I.constant ":block/title", I.text title) ∈ facts :=
    holds_pattern hbase (by decide) trivial
  unfold titled
  split
  case h_1 title =>
    simp only [List.map_cons, List.map_nil, holdsAll_cons, holdsAll_nil, and_true,
      holds_pattern hentity hattr hvar, htitle, List.mem_singleton, exists_eq_left]
    rfl
  case h_2 titles _ =>
    simp only [List.map_cons, List.map_nil, holdsAll_cons, holdsAll_nil, and_true,
      holds_pattern hentity hattr hvar, holds_either, List.mem_map, exists_exists_and_eq_and,
      htitle]
    rfl

theorem asks_titled {attr base : String} (hattr : isVariable attr = false)
    (hbase : IsHelperOf entity (helper base)) (titles : List String) :
    Asks I facts entity (titled entity helper attr base titles)
      (HasTitled I facts attr titles) :=
  asks_of_one hbase (holdsAll_titled hentity hattr hbase.isVariable titles)

theorem asks_containing {ignoreCase : Bool} {attr base : String} (s : String)
    (hattr : isVariable attr = false) (hbase : IsHelperOf entity (helper base))
    (hpattern : IsHelperOf entity (helper "pattern")) (hne : helper base ≠ helper "pattern") :
    Asks I facts entity [containing entity helper ignoreCase attr base s]
      (HasText I facts ignoreCase attr s) := by
  have htext : (Operand.text s).IsProper := trivial
  cases ignoreCase with
  | false => exact (asks_compared hentity hattr hbase htext fun _ ↦ rfl).conj .aligned
  | true => exact (asks_found hentity hattr hbase hpattern hne).conj .aligned

theorem holdsAll_anyOf {branches : List Clause} {P : Value → Prop}
    (h : Offers I facts entity branches P) (hne : branches ≠ []) (env : String → Value) :
    HoldsAll I facts ((anyOf entity branches).map Clause.form) env ↔ P (env entity) := by
  obtain ⟨branch, branches, rfl⟩ := List.exists_cons_of_ne_nil hne
  simp only [anyOf, List.map_cons, List.map_nil, holdsAll_cons, holdsAll_nil, and_true,
    h.holds hentity]

theorem asks_anyOf {branches : List Clause} {P : Value → Prop}
    (h : Offers I facts entity branches P) (hne : branches ≠ []) :
    Asks I facts entity (anyOf entity branches) P :=
  asks_of_entity (holdsAll_anyOf hentity h hne)

/-- Alternatives leave a helper variable beside them alone, whatever their own ones are. -/
theorem asks_anyOf_append {branches others : List Clause} {P : Value → Prop}
    (h : Offers I facts entity branches P) (hne : branches ≠ []) {v : String}
    (hv : IsHelperOf entity v) {Q : Value → Value → Prop}
    (h' : ∀ env, HoldsAll I facts (others.map Clause.form) env ↔ Q (env entity) (env v)) :
    Asks I facts entity (anyOf entity branches ++ others) fun x ↦ P x ∧ ∃ a, Q x a := by
  have hboth : Asks I facts entity (anyOf entity branches ++ others) fun x ↦ ∃ a, P x ∧ Q x a := by
    refine asks_of_one hv fun env ↦ ?_
    rw [List.map_append, holdsAll_append, holdsAll_anyOf hentity h hne, h']
  exact fun x ↦ (hboth x).trans exists_and_left

/-! ## Conditions -/

section

variable {titles : List String} {includeExtensions includeAllStatusProperties : Bool}
  (hhelper : Draws entity helper
    (status titles includeExtensions includeAllStatusProperties).bases)

include hhelper

/-- The ways to count as a task. -/
theorem offers_isTask :
    Offers I facts entity ([.conj .aligned (directTag entity helper "Task")] ++
        (if includeExtensions then [.conj .aligned (extendedTag entity helper "Task")] else []) ++
        (if includeAllStatusProperties then [.conj .aligned (statusTag entity helper)] else []))
      (IsTask I facts includeExtensions includeAllStatusProperties) := by
  have hdirect : Asks I facts entity [.conj .aligned (directTag entity helper "Task")]
      (IsTagged I facts "Task") :=
    (asks_directTag hentity "Task" (hhelper.isHelperOf "t" tag_mem_bases_status)).conj .aligned
  have hextended (hextensions : includeExtensions = true) :
      Asks I facts entity [.conj .aligned (extendedTag entity helper "Task")]
        (IsTaggedByExtension I facts "Task") := by
    have hchild : "child" ∈ (status titles includeExtensions includeAllStatusProperties).bases := by
      simp [bases, hextensions]
    have hparent : "parent" ∈
        (status titles includeExtensions includeAllStatusProperties).bases := by
      simp [bases, hextensions]
    exact (asks_extendedTag hentity "Task" (hhelper.isHelperOf _ hchild)
      (hhelper.isHelperOf _ hparent) (hhelper.injOn.ne hchild hparent (by decide))).conj .aligned
  have htagged (hproperties : includeAllStatusProperties = true) :
      Asks I facts entity [.conj .aligned (statusTag entity helper)]
        (IsTaggedWithStatus I facts) :=
    (asks_statusTag hentity (hhelper.isHelperOf "tag" (by simp [bases, hproperties]))).conj .aligned
  intro x
  exact ((hdirect.offers.append (offers_given fun h ↦ (hextended h).offers)).append
    (offers_given fun h ↦ (htagged h).offers) x).trans or_assoc

theorem asks_status :
    Asks I facts entity
      ((status titles includeExtensions includeAllStatusProperties).clauses entity helper)
      ((status titles includeExtensions includeAllStatusProperties).Meets I facts) := by
  have ht := hhelper.isHelperOf "t" tag_mem_bases_status
  have hstatus := hhelper.isHelperOf "status" (by simp [bases])
  have hne : helper "t" ≠ helper "status" :=
    hhelper.injOn.ne tag_mem_bases_status (by simp [bases]) (by decide)
  have hattr : isVariable ":logseq.property/status" = false := by decide
  have htitled (env : String → Value) : HoldsAll I facts ((titled entity helper
      ":logseq.property/status" "status" titles).map Clause.form) env ↔ _ :=
    holdsAll_titled hentity hattr hstatus.isVariable titles env
  rw [clauses]
  split
  case isFalse hnone =>
    rw [Bool.not_eq_true, Bool.or_eq_false_iff] at hnone
    obtain ⟨rfl, rfl⟩ := hnone
    have hasks : Asks I facts entity (directTag entity helper "Task" ++ titled entity helper
        ":logseq.property/status" "status" titles) fun x ↦
          IsTagged I facts "Task" x ∧ HasTitled I facts ":logseq.property/status" titles x :=
      asks_append ht hstatus hne (holdsAll_directTag hentity "Task" ht) htitled
    intro x
    rw [hasks x, Meets, IsTask]
    simp
  case isTrue hextra =>
    exact asks_anyOf_append hentity (offers_isTask hentity hhelper) (List.cons_ne_nil _ _) hstatus
      htitled

end

/-- The clauses of a condition are solved by the entities that meet it. -/
theorem asks_clauses {condition : Condition} (hplain : condition.IsPlain)
    (hvoid : ¬condition.IsVoid) (hhelper : Draws entity helper condition.bases) :
    Asks I facts entity (condition.clauses entity helper) (condition.Meets I facts) := by
  have hattr : ∀ attr ∈ condition.attributes, isVariable attr = false :=
    fun attr h ↦ (isConstant_of_mem_attributes hplain attr h).2
  have hdraws := hhelper.isHelperOf
  have htext (s : String) : (Operand.text s).IsProper := trivial
  cases condition with
  | pageName name => exact asks_known hentity (by decide) (htext name) fun _ ↦ rfl
  | pageNameTest predicate s =>
    exact asks_compared hentity (by decide) (hdraws "name" (by simp [bases])) (htext s) fun _ ↦ rfl
  | tag title includeExtensions =>
    have ht := hdraws "t" (by cases includeExtensions <;> simp [bases])
    have hdirect : Asks I facts entity (directTag entity helper title) (IsTagged I facts title) :=
      asks_directTag hentity title ht
    cases includeExtensions with
    | false => exact fun x ↦ (hdirect x).trans (by simp [Meets])
    | true =>
      have hchild : "child" ∈ (tag title true).bases := by simp [bases]
      have hparent : "parent" ∈ (tag title true).bases := by simp [bases]
      have hextended : Asks I facts entity (extendedTag entity helper title)
          (IsTaggedByExtension I facts title) :=
        asks_extendedTag hentity title (hdraws _ hchild) (hdraws _ hparent)
          (hhelper.injOn.ne hchild hparent (by decide))
      have hoffers := (hdirect.conj .aligned).offers.append (hextended.conj .aligned).offers
      exact fun x ↦ (asks_anyOf hentity hoffers (List.cons_ne_nil _ _) x).trans (by simp [Meets])
  | content search =>
    exact asks_found hentity (by decide) (hdraws "title" (by simp [bases]))
      (hdraws "pattern" (by simp [bases]))
      (hhelper.injOn.ne (by simp [bases]) (by simp [bases]) (by decide))
  | flag attr isChecked =>
    have hflag : (Operand.flag isChecked).IsProper := trivial
    exact asks_known hentity (hattr attr List.mem_cons_self) hflag fun _ ↦ rfl
  | link attr title =>
    exact asks_titled hentity (hattr attr List.mem_cons_self) (hdraws "val" (by simp [bases]))
      [title]
  | linkToAny attr titles =>
    have hoffers : Offers I facts entity (titles.map fun title ↦
        .conj .inline (titled entity helper attr "ref" [title])) fun x ↦
          ∃ title ∈ titles, HasTitled I facts attr [title] x :=
      offers_map fun title ↦ (asks_titled hentity (hattr attr List.mem_cons_self)
        (hdraws "ref" (by simp [bases])) [title]).conj .inline
    exact fun x ↦ (asks_anyOf hentity hoffers (mt List.map_eq_nil_iff.1 hvoid) x).trans
      hasTitled_iff.symm
  | number attr comparison value =>
    have hvalue : (Operand.number value).IsProper := trivial
    exact asks_compared hentity (hattr attr List.mem_cons_self) (hdraws "num" (by simp [bases]))
      hvalue fun _ ↦ rfl
  | instant attr comparison milliseconds =>
    have hvalue : (Operand.instant milliseconds).IsProper := trivial
    exact asks_compared hentity (hattr attr List.mem_cons_self) (hdraws "date" (by simp [bases]))
      hvalue fun _ ↦ rfl
  | property name texts =>
    obtain ⟨huser, hbuiltin⟩ := forall_mem_pair.1 hattr
    refine asks_anyOf hentity (offers_flatMap fun s ↦ ?_) ?_
    · exact (asks_known hentity huser (htext s) fun _ ↦ rfl).offers.append
        (asks_known hentity hbuiltin (htext s) fun _ ↦ rfl).offers
    · obtain ⟨s, texts, rfl⟩ := List.exists_cons_of_ne_nil hvoid
      exact List.cons_ne_nil _ _
  | propertyContains name texts ignoreCase =>
    obtain ⟨huser, hbuiltin⟩ := forall_mem_pair.1 hattr
    have hpattern : "pattern" ∈ (propertyContains name texts ignoreCase).bases := by simp [bases]
    have hcontaining {attr base : String} (hattr : isVariable attr = false)
        (hbase : base ∈ (propertyContains name texts ignoreCase).bases) (hne : base ≠ "pattern")
        (s : String) : Asks I facts entity [containing entity helper ignoreCase attr base s]
          (HasText I facts ignoreCase attr s) :=
      asks_containing hentity s hattr (hdraws _ hbase) (hdraws _ hpattern)
        (hhelper.injOn.ne hbase hpattern hne)
    refine asks_anyOf hentity (offers_flatMap fun s ↦ ?_) ?_
    · exact (hcontaining huser (by simp [bases]) (by decide) s).offers.append
        (hcontaining hbuiltin (by simp [bases]) (by decide) s).offers
    · obtain ⟨s, texts, rfl⟩ := List.exists_cons_of_ne_nil hvoid
      exact List.cons_ne_nil _ _
  | reference name =>
    exact asks_linked hentity (by decide) (by decide) (hdraws "ref" (by simp [bases])) (htext name)
      fun _ ↦ rfl
  | status titles includeExtensions includeAllStatusProperties =>
    exact asks_status hentity hhelper
  | priority titles =>
    exact asks_titled hentity (by decide) (hdraws "priority" (by simp [bases])) titles
  | period attr first last =>
    have hdate := hdraws "date" (by simp [bases])
    have hvar : (var helper "date").IsProper := hdate.isVariable
    have hinstant (milliseconds : Int) : (Operand.instant milliseconds).IsProper := trivial
    refine asks_of_one hdate fun env ↦ ?_
    simp only [clauses, List.map_cons, List.map_nil, holdsAll_cons, holdsAll_nil, and_true,
      holds_pattern hentity (hattr attr List.mem_cons_self) hvar, holds_test hvar (hinstant _)]
    rfl

end

end Condition

end FilterQuery
