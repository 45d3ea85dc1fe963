import FilterQuery.Compiler.Condition
import FilterQuery.Proofs.Datalog.Supply

/-!
# What the clauses of a condition are made of

The words of a condition's clauses are the entity, variables for the names that it requests, and
constants; its literals hold what was entered, or a search for it. So other names for its variables
make a renaming of its clauses and nothing else.
-/

namespace FilterQuery

open Datalog

theorem forall_mem_pair {α : Type} {P : α → Prop} {a b : α} :
    (∀ x ∈ [a, b], P x) ↔ P a ∧ P b := by
  rw [List.forall_mem_cons, List.forall_mem_singleton]

theorem forall_mem_flatMap_pair {α β : Type} {P : β → Prop} {f g : α → β} {items : List α}
    (h : ∀ a ∈ items, P (f a) ∧ P (g a)) : ∀ b ∈ items.flatMap fun a ↦ [f a, g a], P b := by
  intro b hb
  obtain ⟨a, ha, hmem⟩ := List.mem_flatMap.1 hb
  exact forall_mem_pair.2 (h a ha) b hmem

/-- The attributes that the application has by itself. -/
def applicationAttributes : List String :=
  [":block/uuid", ":block/name", ":block/title", ":block/tags", ":block/refs",
   ":block/created-at", ":block/updated-at", ":block/journal-day",
   ":logseq.property.class/extends", ":logseq.property.class/properties",
   ":logseq.property/status", ":logseq.property/priority"]

theorem isConstant_of_mem_applicationAttributes :
    ∀ attr ∈ applicationAttributes, IsConstant attr := by
  decide +kernel

theorem DateProperty.attr_mem_applicationAttributes (property : DateProperty) :
    property.attr ∈ applicationAttributes := by
  cases property <;> decide

namespace Condition

/-- The rows of names that conditions request variables for. -/
def requestRows : List (List String) :=
  [[], ["name"], ["t"], ["t", "child", "parent"], ["title", "pattern"], ["val"], ["ref"], ["num"],
   ["date"], ["v1", "v2", "pattern"], ["t", "status"], ["t", "child", "parent", "status"],
   ["t", "child", "parent", "tag", "status"], ["priority"]]

theorem bases_mem_requestRows (condition : Condition) : condition.bases ∈ requestRows := by
  cases condition with
  | tag _ includeExtensions => cases includeExtensions <;> simp [bases, requestRows]
  | status _ includeExtensions includeAllStatusProperties =>
    cases includeExtensions <;> cases includeAllStatusProperties <;> simp [bases, requestRows]
  | _ => simp [bases, requestRows]

/-- A condition requests no name twice. -/
theorem bases_nodup (condition : Condition) : condition.bases.Nodup := by
  have hrows : ∀ row ∈ requestRows, row.Nodup := by decide
  exact hrows _ condition.bases_mem_requestRows

theorem isBase_of_mem {condition : Condition} {base : String} (h : base ∈ condition.bases) :
    IsBase base := by
  have hrows : ∀ row ∈ requestRows, ∀ base ∈ row, IsBase base := by decide
  exact hrows _ condition.bases_mem_requestRows base h

/-- No condition requests a variable under the name of an entity. -/
theorem ne_entity_of_mem {condition : Condition} {base : String} (h : base ∈ condition.bases) :
    base ≠ "p" ∧ base ≠ "b" := by
  have hrows : ∀ row ∈ requestRows, ∀ base ∈ row, base ≠ "p" ∧ base ≠ "b" := by decide
  exact hrows _ condition.bases_mem_requestRows base h

/-- Whatever else counts as a task, the tag itself does. -/
theorem tag_mem_bases_status {titles : List String}
    {includeExtensions includeAllStatusProperties : Bool} :
    "t" ∈ (status titles includeExtensions includeAllStatusProperties).bases := by
  simp only [bases]
  split <;> simp

/-! ## Words and literals -/

/-- The attributes and property names that a condition puts into its clauses may stand there. -/
def IsPlain : Condition → Prop
  | .flag attr _ => IsConstant attr
  | .link attr _ => IsConstant attr
  | .linkToAny attr _ => IsConstant attr
  | .number attr .. => IsConstant attr
  | .instant attr .. => IsConstant attr
  | .property name _ => ∀ c ∈ name.toList, isPlain c = true
  | .propertyContains name .. => ∀ c ∈ name.toList, isPlain c = true
  | .period attr .. => IsConstant attr
  | _ => True

/-- The attributes that a condition is given. -/
def attributes : Condition → List String
  | .flag attr _ => [attr]
  | .link attr _ => [attr]
  | .linkToAny attr _ => [attr]
  | .number attr .. => [attr]
  | .instant attr .. => [attr]
  | .property name _ => [userAttribute name, builtinAttribute name]
  | .propertyContains name .. => [userAttribute name, builtinAttribute name]
  | .period attr .. => [attr]
  | _ => []

/-- The literals that a condition puts into its clauses. -/
def literals : Condition → List String
  | .pageName name => [name]
  | .pageNameTest _ text => [text]
  | .tag title _ => [title]
  | .content pattern => [pattern.source]
  | .link _ title => [title]
  | .linkToAny _ titles => titles
  | .property _ texts => texts
  | .propertyContains _ texts ignoreCase =>
    if ignoreCase then texts.map fun text ↦ SearchPattern.source ⟨text, false⟩ else texts
  | .reference name => [name]
  | .status titles .. => "Task" :: titles
  | .priority titles => titles
  | _ => []

section

variable {supply : Supply} {helper : String → String}

theorem composedOf_anyOf {branches : List Clause} (h : ∀ c ∈ branches, c.ComposedOf supply) :
    ∀ c ∈ anyOf supply.entity branches, c.ComposedOf supply := by
  cases branches with
  | nil => exact fun c hc ↦ absurd hc List.not_mem_nil
  | cons branch branches => exact List.forall_mem_singleton.2 (.orJoin h)

theorem composedOf_containing {ignoreCase : Bool} {attr base s : String}
    (hattr : supply.IsAttribute attr) (hbase : supply.IsHelper (helper base))
    (hpattern : supply.IsHelper (helper "pattern"))
    (hs : supply.IsLiteral (if ignoreCase then SearchPattern.source ⟨s, false⟩ else s)) :
    (containing supply.entity helper ignoreCase attr base s).ComposedOf supply := by
  unfold containing
  apply Clause.ComposedOf.conj
  cases ignoreCase with
  | false => exact forall_mem_pair.2 ⟨.pattern (.inl rfl) hattr hbase, .test hbase hs⟩
  | true =>
    exact List.forall_mem_cons.2 ⟨.pattern (.inl rfl) hattr hbase,
      forall_mem_pair.2 ⟨.regex hs hpattern, .test hpattern hbase⟩⟩

variable (happlication : ∀ attr ∈ applicationAttributes, supply.IsAttribute attr)

include happlication

theorem composedOf_directTag {title : String} (ht : supply.IsHelper (helper "t"))
    (htitle : supply.IsLiteral title) :
    ∀ c ∈ directTag supply.entity helper title, c.ComposedOf supply :=
  forall_mem_pair.2 ⟨.pattern (.inl rfl) (happlication _ (by decide)) ht,
    .pattern (.inr ht) (happlication _ (by decide)) htitle⟩

theorem composedOf_extendedTag {title : String} (hchild : supply.IsHelper (helper "child"))
    (hparent : supply.IsHelper (helper "parent")) (htitle : supply.IsLiteral title) :
    ∀ c ∈ extendedTag supply.entity helper title, c.ComposedOf supply :=
  List.forall_mem_cons.2 ⟨.pattern (.inl rfl) (happlication _ (by decide)) hchild,
    forall_mem_pair.2 ⟨.pattern (.inr hchild) (happlication _ (by decide)) hparent,
      .pattern (.inr hparent) (happlication _ (by decide)) htitle⟩⟩

theorem composedOf_statusTag (htag : supply.IsHelper (helper "tag")) :
    ∀ c ∈ statusTag supply.entity helper, c.ComposedOf supply := by
  have hstatus : IsConstant ":logseq.property/status" := by decide
  exact forall_mem_pair.2 ⟨.pattern (.inl rfl) (happlication _ (by decide)) htag,
    .pattern (.inr htag) (happlication _ (by decide)) hstatus⟩

theorem composedOf_titled {attr base : String} {titles : List String}
    (hattr : supply.IsAttribute attr) (hbase : supply.IsHelper (helper base))
    (htitles : ∀ title ∈ titles, supply.IsLiteral title) :
    ∀ c ∈ titled supply.entity helper attr base titles, c.ComposedOf supply := by
  have htitle : ∀ title ∈ titles, (Clause.pattern (helper base) ":block/title"
      (some (.text title))).ComposedOf supply := fun title htitle ↦
    .pattern (.inr hbase) (happlication _ (by decide)) (htitles title htitle)
  unfold titled
  split
  · exact forall_mem_pair.2 ⟨.pattern (.inl rfl) hattr hbase, htitle _ List.mem_cons_self⟩
  · exact forall_mem_pair.2
      ⟨.pattern (.inl rfl) hattr hbase, .either (List.forall_mem_map.2 htitle)⟩

theorem composedOf_status {titles : List String}
    {includeExtensions includeAllStatusProperties : Bool}
    (hbases : ∀ base ∈ (status titles includeExtensions includeAllStatusProperties).bases,
      supply.IsHelper (helper base))
    (hliterals : ∀ s ∈ "Task" :: titles, supply.IsLiteral s) :
    ∀ c ∈ (status titles includeExtensions includeAllStatusProperties).clauses supply.entity helper,
      c.ComposedOf supply := by
  obtain ⟨htask, htitles⟩ := List.forall_mem_cons.1 hliterals
  have hdirect := composedOf_directTag happlication (hbases "t" tag_mem_bases_status) htask
  have htitled : ∀ c ∈ titled supply.entity helper ":logseq.property/status" "status" titles,
      c.ComposedOf supply :=
    composedOf_titled happlication (happlication _ (by decide))
      (hbases "status" (by simp [bases])) htitles
  unfold clauses
  rw [List.forall_mem_append]
  refine ⟨?_, htitled⟩
  split
  case isFalse => exact hdirect
  case isTrue hextra =>
    apply composedOf_anyOf
    rw [List.forall_mem_append, List.forall_mem_append, List.forall_mem_singleton]
    refine ⟨⟨.conj hdirect, ?_⟩, ?_⟩
    · split
      case isFalse => exact fun c hc ↦ absurd hc List.not_mem_nil
      case isTrue =>
        have hextended := composedOf_extendedTag happlication
          (hbases "child" (by simp [bases, hextra])) (hbases "parent" (by simp [bases, hextra]))
          htask
        exact List.forall_mem_singleton.2 (.conj hextended)
    · split
      case isFalse => exact fun c hc ↦ absurd hc List.not_mem_nil
      case isTrue hstatus =>
        have htag := composedOf_statusTag happlication (hbases "tag" (by simp [bases, hstatus]))
        exact List.forall_mem_singleton.2 (.conj htag)

/-- The clauses of a condition are composed of the entity, its own variables, attributes and
literals, and the attributes of the application. -/
theorem composedOf_clauses {condition : Condition}
    (hattributes : ∀ attr ∈ condition.attributes, supply.IsAttribute attr)
    (hbases : ∀ base ∈ condition.bases, supply.IsHelper (helper base))
    (hliterals : ∀ s ∈ condition.literals, supply.IsLiteral s) :
    ∀ c ∈ condition.clauses supply.entity helper, c.ComposedOf supply := by
  cases condition with
  | pageName name =>
    exact List.forall_mem_singleton.2 (.pattern (.inl rfl) (happlication _ (by decide))
      (hliterals name List.mem_cons_self))
  | pageNameTest predicate s =>
    have hname := hbases "name" List.mem_cons_self
    exact forall_mem_pair.2 ⟨.pattern (.inl rfl) (happlication _ (by decide)) hname,
      .test hname (hliterals s List.mem_cons_self)⟩
  | tag title includeExtensions =>
    have htitle := hliterals title List.mem_cons_self
    cases includeExtensions with
    | false => exact composedOf_directTag happlication (hbases "t" (by simp [bases])) htitle
    | true =>
      have hdirect := composedOf_directTag happlication (hbases "t" (by simp [bases])) htitle
      have hextended := composedOf_extendedTag happlication (hbases "child" (by simp [bases]))
        (hbases "parent" (by simp [bases])) htitle
      exact composedOf_anyOf (forall_mem_pair.2 ⟨.conj hdirect, .conj hextended⟩)
  | content pattern =>
    obtain ⟨htitle, hpattern⟩ := forall_mem_pair.1 hbases
    exact List.forall_mem_cons.2 ⟨.pattern (.inl rfl) (happlication _ (by decide)) htitle,
      forall_mem_pair.2
        ⟨.regex (hliterals _ List.mem_cons_self) hpattern, .test hpattern htitle⟩⟩
  | flag attr isChecked =>
    exact List.forall_mem_singleton.2
      (.pattern (.inl rfl) (hattributes attr List.mem_cons_self) trivial)
  | link attr title =>
    exact composedOf_titled happlication (hattributes attr List.mem_cons_self)
      (hbases "val" List.mem_cons_self) hliterals
  | linkToAny attr titles =>
    refine composedOf_anyOf (List.forall_mem_map.2 fun title htitle ↦ .conj ?_)
    exact composedOf_titled happlication (hattributes attr List.mem_cons_self)
      (hbases "ref" List.mem_cons_self) (List.forall_mem_singleton.2 (hliterals title htitle))
  | number attr comparison value =>
    have hnum := hbases "num" List.mem_cons_self
    exact forall_mem_pair.2
      ⟨.pattern (.inl rfl) (hattributes attr List.mem_cons_self) hnum, .test hnum trivial⟩
  | instant attr comparison milliseconds =>
    have hdate := hbases "date" List.mem_cons_self
    exact forall_mem_pair.2
      ⟨.pattern (.inl rfl) (hattributes attr List.mem_cons_self) hdate, .test hdate trivial⟩
  | property name texts =>
    obtain ⟨huser, hbuiltin⟩ := forall_mem_pair.1 hattributes
    exact composedOf_anyOf (forall_mem_flatMap_pair fun s hs ↦
      ⟨.pattern (.inl rfl) huser (hliterals s hs), .pattern (.inl rfl) hbuiltin (hliterals s hs)⟩)
  | propertyContains name texts ignoreCase =>
    obtain ⟨huser, hbuiltin⟩ := forall_mem_pair.1 hattributes
    obtain ⟨hfirst, hothers⟩ := List.forall_mem_cons.1 hbases
    obtain ⟨hsecond, hpattern⟩ := forall_mem_pair.1 hothers
    refine composedOf_anyOf (forall_mem_flatMap_pair fun s hs ↦ ?_)
    have hliteral : supply.IsLiteral
        (if ignoreCase then SearchPattern.source ⟨s, false⟩ else s) := by
      apply hliterals
      cases ignoreCase with
      | false => exact hs
      | true => exact List.mem_map_of_mem hs
    exact ⟨composedOf_containing huser hfirst hpattern hliteral,
      composedOf_containing hbuiltin hsecond hpattern hliteral⟩
  | reference name =>
    have href := hbases "ref" List.mem_cons_self
    exact forall_mem_pair.2 ⟨.pattern (.inl rfl) (happlication _ (by decide)) href,
      .pattern (.inr href) (happlication _ (by decide)) (hliterals name List.mem_cons_self)⟩
  | status titles includeExtensions includeAllStatusProperties =>
    exact composedOf_status happlication hbases hliterals
  | priority titles =>
    exact composedOf_titled happlication (happlication _ (by decide))
      (hbases "priority" List.mem_cons_self) hliterals
  | period attr first last =>
    have hdate := hbases "date" List.mem_cons_self
    exact List.forall_mem_cons.2
      ⟨.pattern (.inl rfl) (hattributes attr List.mem_cons_self) hdate,
        forall_mem_pair.2 ⟨.test hdate trivial, .test hdate trivial⟩⟩

end

theorem isConstant_of_mem_attributes {condition : Condition} (h : condition.IsPlain) :
    ∀ attr ∈ condition.attributes, IsConstant attr := by
  have hproperty {name : String} (hname : ∀ c ∈ name.toList, isPlain c = true) :
      ∀ attr ∈ [userAttribute name, builtinAttribute name], IsConstant attr :=
    forall_mem_pair.2
      ⟨isConstant_append (by decide) hname, isConstant_append (by decide) hname⟩
  cases condition with
  | flag | link | linkToAny | number | instant | period => exact List.forall_mem_singleton.2 h
  | property | propertyContains => exact hproperty h
  | _ => exact fun attr hattr ↦ absurd hattr List.not_mem_nil

/-- The clauses of a condition are made of the entity, its own variables and its literals. -/
theorem madeOf_clauses {condition : Condition} (h : condition.IsPlain) {vocabulary : Vocabulary}
    {entity : String} {helper : String → String} (hentity : entity ∈ vocabulary.names)
    (hbases : ∀ base ∈ condition.bases, helper base ∈ vocabulary.names)
    (hliterals : ∀ s ∈ condition.literals, s ∈ vocabulary.literals) :
    ∀ c ∈ condition.clauses entity helper, c.form.MadeOf vocabulary := by
  let supply : Supply := ⟨entity, (· ∈ vocabulary.names), IsConstant, (· ∈ vocabulary.literals)⟩
  have happlication : ∀ attr ∈ applicationAttributes, supply.IsAttribute attr :=
    isConstant_of_mem_applicationAttributes
  intro c hc
  exact (composedOf_clauses happlication (isConstant_of_mem_attributes h) hbases hliterals c
    hc).madeOf hentity

/-- The text of the clauses of a condition is read as these clauses. -/
theorem readForms?_clauses {condition : Condition} (h : condition.IsPlain) {entity : String}
    (hentity : IsWord entity) (scope : Scope) :
    readForms? (Clause.renderAll (condition.clauses entity scope.next)) =
      some ((condition.clauses entity scope.next).map Clause.form) := by
  let vocabulary : Vocabulary :=
    ⟨entity :: condition.bases.map scope.next, condition.literals⟩
  have hmade : ∀ c ∈ condition.clauses entity scope.next, c.form.MadeOf vocabulary :=
    madeOf_clauses h List.mem_cons_self
      (fun base hbase ↦ List.mem_cons_of_mem _ (List.mem_map_of_mem hbase)) fun _ ↦ id
  apply Reads.readForms?_eq
  refine reads_renderAll fun c hc ↦ (hmade c hc).isWord fun name hname ↦ ?_
  rcases List.mem_cons.1 hname with rfl | hmem
  · exact hentity
  · obtain ⟨base, hbase, rfl⟩ := List.mem_map.1 hmem
    exact isWord_variableName (condition.isBase_of_mem hbase) _

/-! ## Other variables -/

/-- The names stand for variables on both sides, and the renaming takes the one to the other. -/
def Takes (σ : String → String) (helper helper' : String → String) (base : String) : Prop :=
  (var helper base).form.rename σ = (var helper' base).form

section

variable {σ : String → String} {entity : String} {helper helper' : String → String}
  (hentity : (Form.word entity).rename σ = .word entity)

include hentity

theorem renames_directTag (title : String) (ht : Takes σ helper helper' "t") :
    Renames σ (directTag entity helper title) (directTag entity helper' title) :=
  .cons (rename_pattern hentity (by decide) ht)
    (.cons (rename_pattern ht (by decide) rfl) renames_nil)

theorem renames_extendedTag (title : String) (hchild : Takes σ helper helper' "child")
    (hparent : Takes σ helper helper' "parent") :
    Renames σ (extendedTag entity helper title) (extendedTag entity helper' title) :=
  .cons (rename_pattern hentity (by decide) hchild)
    (.cons (rename_pattern hchild (by decide) hparent)
      (.cons (rename_pattern hparent (by decide) rfl) renames_nil))

theorem renames_statusTag (htag : Takes σ helper helper' "tag") :
    Renames σ (statusTag entity helper) (statusTag entity helper') := by
  have hstatus : IsConstant ":logseq.property/status" := by decide
  exact .cons (rename_pattern hentity (by decide) htag)
    (.cons (rename_pattern htag (by decide) (rename_constant hstatus)) renames_nil)

theorem renames_titled {attr base : String} {titles : List String} (hattr : IsConstant attr)
    (hbase : Takes σ helper helper' base) :
    Renames σ (titled entity helper attr base titles) (titled entity helper' attr base titles) := by
  have hbound := rename_pattern hentity hattr hbase
  have htitle : ∀ title : String, (Clause.pattern (helper base) ":block/title"
      (some (.text title))).form.rename σ = (Clause.pattern (helper' base) ":block/title"
      (some (.text title))).form := fun title ↦ rename_pattern hbase (by decide) rfl
  unfold titled
  split
  · exact .cons hbound (.cons (htitle _) renames_nil)
  · exact .cons hbound (.cons (Renames.map htitle).either renames_nil)

theorem rename_containing {ignoreCase : Bool} {attr base s : String} (hattr : IsConstant attr)
    (hbase : Takes σ helper helper' base) (hpattern : Takes σ helper helper' "pattern") :
    (containing entity helper ignoreCase attr base s).form.rename σ =
      (containing entity helper' ignoreCase attr base s).form := by
  have hbound := rename_pattern hentity hattr hbase
  unfold containing
  apply Renames.conj
  split
  · exact .cons hbound (.cons (rename_regex hpattern)
      (.cons (rename_test hpattern hbase) renames_nil))
  · exact .cons hbound (.cons (rename_test hbase rfl) renames_nil)

theorem renames_anyOf {branches branches' : List Clause} (h : Renames σ branches branches') :
    Renames σ (anyOf entity branches) (anyOf entity branches') := by
  have hhead : IsConstant "or-join" := by decide
  cases branches <;> cases branches'
  case nil.nil => exact renames_nil
  case nil.cons => cases h
  case cons.nil => cases h
  case cons.cons =>
    refine .cons ?_ renames_nil
    unfold Renames at h
    simp only [Clause.form_orJoin, rename_enclosed, List.map_cons, List.map_nil,
      rename_constant hhead, hentity] at h ⊢
    rw [h]

theorem renames_status {titles : List String} {includeExtensions includeAllStatusProperties : Bool}
    (hbases : ∀ base ∈ (status titles includeExtensions includeAllStatusProperties).bases,
      Takes σ helper helper' base) :
    Renames σ
      ((status titles includeExtensions includeAllStatusProperties).clauses entity helper)
      ((status titles includeExtensions includeAllStatusProperties).clauses entity helper') := by
  have hdirect := renames_directTag hentity "Task" (hbases "t" tag_mem_bases_status)
  have hattr : IsConstant ":logseq.property/status" := by decide
  have hstatus := hbases "status" (by simp [bases])
  unfold clauses
  refine .append ?_ (renames_titled hentity hattr hstatus)
  split
  case isFalse => exact hdirect
  case isTrue hextra =>
    apply renames_anyOf hentity
    refine .append (.append (.cons (hdirect.conj .aligned) renames_nil) ?_) ?_
    · split
      case isFalse => exact renames_nil
      case isTrue =>
        have hextended := renames_extendedTag hentity "Task"
          (hbases "child" (by simp [bases, hextra])) (hbases "parent" (by simp [bases, hextra]))
        exact .cons (hextended.conj .aligned) renames_nil
    · split
      case isFalse => exact renames_nil
      case isTrue hproperties =>
        have htag := renames_statusTag hentity (hbases "tag" (by simp [bases, hproperties]))
        exact .cons (htag.conj .aligned) renames_nil

end

/-- Other names for the variables of a condition rename its clauses. -/
theorem renames_clauses {condition : Condition} (h : condition.IsPlain) {σ : String → String}
    {entity : String} {helper helper' : String → String}
    (hentity : (Form.word entity).rename σ = .word entity)
    (hbases : ∀ base ∈ condition.bases, Takes σ helper helper' base) :
    Renames σ (condition.clauses entity helper) (condition.clauses entity helper') := by
  cases condition with
  | pageName name => exact .cons (rename_pattern hentity (by decide) rfl) renames_nil
  | pageNameTest predicate s =>
    have hname := hbases "name" (by simp [bases])
    exact .cons (rename_pattern hentity (by decide) hname)
      (.cons (rename_test hname rfl) renames_nil)
  | tag title includeExtensions =>
    cases includeExtensions with
    | false => exact renames_directTag hentity title (hbases "t" (by simp [bases]))
    | true =>
      have hdirect := renames_directTag hentity title (hbases "t" (by simp [bases]))
      have hextended := renames_extendedTag hentity title (hbases "child" (by simp [bases]))
        (hbases "parent" (by simp [bases]))
      exact renames_anyOf hentity
        (.cons (hdirect.conj .aligned) (.cons (hextended.conj .aligned) renames_nil))
  | content pattern =>
    have htitle := hbases "title" (by simp [bases])
    have hpattern := hbases "pattern" (by simp [bases])
    exact .cons (rename_pattern hentity (by decide) htitle)
      (.cons (rename_regex hpattern) (.cons (rename_test hpattern htitle) renames_nil))
  | flag attr isChecked => exact .cons (rename_pattern hentity h rename_flag) renames_nil
  | link attr title =>
    have hval := hbases "val" (by simp [bases])
    show Renames σ (titled entity helper attr "val" [title])
      (titled entity helper' attr "val" [title])
    exact renames_titled hentity h hval
  | linkToAny attr titles =>
    have href := hbases "ref" (by simp [bases])
    exact renames_anyOf hentity
      (Renames.map fun title ↦ (renames_titled hentity h href).conj .inline)
  | number attr comparison value =>
    have hnum := hbases "num" (by simp [bases])
    exact .cons (rename_pattern hentity h hnum)
      (.cons (rename_test hnum rename_number) renames_nil)
  | instant attr comparison milliseconds =>
    have hdate := hbases "date" (by simp [bases])
    exact .cons (rename_pattern hentity h hdate)
      (.cons (rename_test hdate rename_instant) renames_nil)
  | property name texts =>
    have hequal : ∀ (category s : String), IsConstant category →
        (Clause.pattern entity (category ++ name) (some (.text s))).form.rename σ =
          (Clause.pattern entity (category ++ name) (some (.text s))).form :=
      fun category s hcategory ↦ rename_pattern hentity (isConstant_append hcategory h) rfl
    exact renames_anyOf hentity (Renames.flatMap fun s ↦
      .cons (hequal ":user.property/" s (by decide))
        (.cons (hequal ":logseq.property/" s (by decide)) renames_nil))
  | propertyContains name texts ignoreCase =>
    have hpattern := hbases "pattern" (by simp [bases])
    have hcontaining : ∀ category base s, IsConstant category → Takes σ helper helper' base →
        (containing entity helper ignoreCase (category ++ name) base s).form.rename σ =
          (containing entity helper' ignoreCase (category ++ name) base s).form :=
      fun category base s hcategory hbase ↦
        rename_containing hentity (isConstant_append hcategory h) hbase hpattern
    exact renames_anyOf hentity (Renames.flatMap fun s ↦
      .cons (hcontaining ":user.property/" "v1" s (by decide) (hbases "v1" (by simp [bases])))
        (.cons (hcontaining ":logseq.property/" "v2" s (by decide) (hbases "v2" (by simp [bases])))
          renames_nil))
  | reference name =>
    have href := hbases "ref" (by simp [bases])
    exact .cons (rename_pattern hentity (by decide) href)
      (.cons (rename_pattern href (by decide) rfl) renames_nil)
  | status titles includeExtensions includeAllStatusProperties =>
    exact renames_status hentity hbases
  | priority titles =>
    exact renames_titled hentity (by decide) (hbases "priority" (by simp [bases]))
  | period attr first last =>
    have hdate := hbases "date" (by simp [bases])
    exact .cons (rename_pattern hentity h hdate) (.cons (rename_test hdate rename_instant)
      (.cons (rename_test hdate rename_instant) renames_nil))

end Condition

end FilterQuery
