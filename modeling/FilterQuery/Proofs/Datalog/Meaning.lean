import FilterQuery.Proofs.Datalog.Printing
import Mathlib.Data.Set.Function

/-!
# What a query asks for

Forms are read over an arbitrary set of facts. The clauses of a conjunction share their variables;
the branches of an or-join and the body of a not-join share only the variables that they list with
the clauses around them. What constants, literals, predicates and functions stand for is left open,
so that the laws hold under every interpretation of them.

Two laws carry the compiler's correctness: the meaning of a form depends on the values of its own
variables only, and renaming the variables of a form, different ones apart, does not change which
entities it is satisfied by.
-/

namespace FilterQuery.Datalog

/-- Variables are told from constants by their first character. -/
def isVariable (word : String) : Bool := word.toList.head? == some '?'

/-- What the constants, the literals and the predicates and functions of a query stand for. A
predicate has no results. -/
structure Interpretation (Value : Type) where
  constant : String → Value
  text : String → Value
  calls : String → List Value → List Value → Prop

/-- Facts about an entity, an attribute and a value. -/
abbrev Database (Value : Type) := Set (Value × Value × Value)

/-- An entity with an attribute, or also with its value. -/
def Database.Has {Value : Type} (facts : Database Value) : List Value → Prop
  | [entity, attr] => ∃ value, (entity, attr, value) ∈ facts
  | [entity, attr, value] => (entity, attr, value) ∈ facts
  | _ => False

section

variable {Value : Type} (I : Interpretation Value) (facts : Database Value)

/-- The value of a word or a literal. -/
def Form.value? (env : String → Value) : Form → Option Value
  | .word name => some (if isVariable name then env name else I.constant name)
  | .text content => some (I.text content)
  | .enclosed .. => none

def Form.values? (env : String → Value) (forms : List Form) : Option (List Value) :=
  forms.mapM (value? I env)

/-- Whether a call or a data pattern holds. -/
def Form.Matches (env : String → Value) : List Form → Prop
  | .list (.word name :: arguments) :: results =>
    isVariable name = false ∧ ∃ inputs outputs, values? I env arguments = some inputs ∧
      values? I env results = some outputs ∧ I.calls name inputs outputs
  | items => ∃ values, values? I env items = some values ∧ facts.Has values

/-- Whether two assignments give the same values to these forms. -/
def Form.Share (forms : List Form) (env inner : String → Value) : Prop :=
  ∀ form ∈ forms, form.value? I inner = form.value? I env

mutual

/-- Whether a clause holds under an assignment of values to variables. -/
def Form.Holds : Form → (String → Value) → Prop
  | .enclosed .square items, env => Form.Matches I facts env items
  | .enclosed .round (.word head :: parts), env =>
    if head = "and" then HoldsAll parts env
    else if head = "or" then HoldsAny parts env
    else match parts with
      | .enclosed .square shared :: parts =>
        if head = "or-join" then
          ∃ inner, Form.Share I shared env inner ∧ HoldsAny parts inner
        else if head = "not-join" then
          ¬∃ inner, Form.Share I shared env inner ∧ HoldsAll parts inner
        else False
      | _ => False
  | _, _ => False

def HoldsAll : List Form → (String → Value) → Prop
  | [], _ => True
  | form :: forms, env => form.Holds env ∧ HoldsAll forms env

def HoldsAny : List Form → (String → Value) → Prop
  | [], _ => False
  | form :: forms, env => form.Holds env ∨ HoldsAny forms env

end

/-- The entities for which a conjunction has a solution. -/
def Solves (entity : String) (forms : List Form) (x : Value) : Prop :=
  ∃ env : String → Value, env entity = x ∧ HoldsAll I facts forms env

/-- The entities for which the conjunction that a text reads as has a solution. -/
def SolvesText (entity : String) (text : String) (x : Value) : Prop :=
  ∃ forms, readForms? text = some forms ∧ Solves I facts entity forms x

/-- The entities that a query finds. -/
def Form.Finds : Form → Value → Prop
  | .vector (.word ":find" :: .list [.word "pull", .word entity, .vector [.word "*"]] ::
      .word ":where" :: body), x => Solves I facts entity body x
  | _, _ => False

end

/-! ## Variables and their renaming -/

namespace Form

/-- The variables of a form. -/
def vars (form : Form) : List String := form.words.filter isVariable

mutual

/-- A form with other variables. Literals are kept, whatever they look like. -/
def rename (σ : String → String) : Form → Form
  | .word name => .word (if isVariable name then σ name else name)
  | .text content => .text content
  | .enclosed bracket items => .enclosed bracket (renameList σ items)

def renameList (σ : String → String) : List Form → List Form
  | [] => []
  | form :: forms => form.rename σ :: renameList σ forms

end

@[simp] theorem renameList_eq_map (σ : String → String) (forms : List Form) :
    renameList σ forms = forms.map (rename σ) := by
  induction forms with
  | nil => rfl
  | cons form forms ih => rw [renameList, ih, List.map_cons]

@[elab_as_elim]
theorem induction {motive : Form → Prop} (form : Form) (word : ∀ name, motive (.word name))
    (text : ∀ content, motive (.text content))
    (enclosed : ∀ bracket items, (∀ f ∈ items, motive f) → motive (.enclosed bracket items)) :
    motive form :=
  @Form.rec motive (fun forms ↦ ∀ f ∈ forms, motive f) word text enclosed
    (fun _ hf ↦ absurd hf List.not_mem_nil)
    (fun _ _ hhead htail ↦ List.forall_mem_cons.2 ⟨hhead, htail⟩) form

theorem rename_id (form : Form) : form.rename id = form := by
  induction form using Form.induction with
  | word name => simp [rename]
  | text content => rfl
  | enclosed bracket items ih =>
    rw [rename, renameList_eq_map, List.map_congr_left ih]
    exact congrArg _ (List.map_id' items)

theorem vars_enclosed (bracket : Bracket) (items : List Form) :
    (enclosed bracket items).vars = items.flatMap vars := by
  rw [vars, words_enclosed, List.filter_flatMap]
  rfl

theorem forall_vars_of_enclosed {bracket : Bracket} {items : List Form} {S : Set String}
    (h : ∀ v ∈ (enclosed bracket items).vars, v ∈ S) :
    ∀ f ∈ items, ∀ v ∈ f.vars, v ∈ S := by
  intro f hf v hv
  apply h v
  rw [vars_enclosed]
  exact List.mem_flatMap.2 ⟨f, hf, hv⟩

theorem vars_word (name : String) :
    (word name).vars = if isVariable name then [name] else [] := by
  simp [vars, List.filter_cons]

end Form

section

variable {Value : Type} {I : Interpretation Value} {facts : Database Value}

/-! ### Clauses by their form -/

@[simp] theorem holdsAll_nil {env : String → Value} : HoldsAll I facts [] env ↔ True := Iff.rfl

@[simp] theorem holdsAll_cons {form : Form} {forms : List Form} {env : String → Value} :
    HoldsAll I facts (form :: forms) env ↔ form.Holds I facts env ∧ HoldsAll I facts forms env :=
  Iff.rfl

@[simp] theorem holdsAny_nil {env : String → Value} : HoldsAny I facts [] env ↔ False := Iff.rfl

@[simp] theorem holdsAny_cons {form : Form} {forms : List Form} {env : String → Value} :
    HoldsAny I facts (form :: forms) env ↔ form.Holds I facts env ∨ HoldsAny I facts forms env :=
  Iff.rfl

theorem holds_vector {items : List Form} {env : String → Value} :
    (Form.vector items).Holds I facts env ↔ Form.Matches I facts env items := Iff.rfl

/-- A list that starts with a word combines clauses in the way that the word says. -/
theorem holds_list {head : String} {parts : List Form} {env : String → Value} :
    (Form.list (.word head :: parts)).Holds I facts env ↔
      if head = "and" then HoldsAll I facts parts env
      else if head = "or" then HoldsAny I facts parts env
      else match parts with
        | .vector shared :: parts =>
          if head = "or-join" then
            ∃ inner, Form.Share I shared env inner ∧ HoldsAny I facts parts inner
          else if head = "not-join" then
            ¬∃ inner, Form.Share I shared env inner ∧ HoldsAll I facts parts inner
          else False
        | _ => False := by
  -- what the word does depends on whether a row of variables comes next
  rcases parts with _ | ⟨_ | _ | ⟨_ | _ | _, shared⟩, parts⟩ <;> exact Iff.rfl

theorem holdsAll_iff {forms : List Form} {env : String → Value} :
    HoldsAll I facts forms env ↔ ∀ form ∈ forms, form.Holds I facts env := by
  induction forms with
  | nil => simp
  | cons form forms ih => simp [ih]

theorem holdsAny_iff {forms : List Form} {env : String → Value} :
    HoldsAny I facts forms env ↔ ∃ form ∈ forms, form.Holds I facts env := by
  induction forms with
  | nil => simp
  | cons form forms ih => simp [ih]

section

variable {σ : String → String} {S : Set String} (hvar : ∀ v ∈ S, isVariable (σ v) = true)
  {env env' : String → Value} (henv : ∀ v ∈ S, env' v = env (σ v))

include hvar henv

theorem value?_rename {form : Form} (hform : ∀ v ∈ form.vars, v ∈ S) :
    (form.rename σ).value? I env = form.value? I env' := by
  cases form with
  | word name =>
    cases hname : isVariable name with
    | false => simp [Form.rename, Form.value?, hname]
    | true =>
      have hmem : name ∈ S := hform name (by simp [Form.vars_word, hname])
      simp [Form.rename, Form.value?, hname, hvar name hmem, henv name hmem]
  | text content => rfl
  | enclosed bracket items => rfl

theorem values?_rename {forms : List Form} (hforms : ∀ f ∈ forms, ∀ v ∈ f.vars, v ∈ S) :
    Form.values? I env (forms.map (Form.rename σ)) = Form.values? I env' forms := by
  induction forms with
  | nil => rfl
  | cons form forms ih =>
    have hhead := value?_rename (I := I) hvar henv (hforms form List.mem_cons_self)
    have htail := ih fun f hf ↦ hforms f (List.mem_cons_of_mem form hf)
    unfold Form.values? at htail ⊢
    rw [List.map_cons, List.mapM_cons, List.mapM_cons, hhead, htail]

theorem matches_rename {items : List Form} (hitems : ∀ f ∈ items, ∀ v ∈ f.vars, v ∈ S) :
    Form.Matches I facts env (items.map (Form.rename σ)) ↔ Form.Matches I facts env' items := by
  have hdata : (∃ values, Form.values? I env (items.map (Form.rename σ)) = some values ∧
      facts.Has values) ↔ ∃ values, Form.values? I env' items = some values ∧ facts.Has values := by
    rw [values?_rename hvar henv hitems]
  -- only a list that starts with a word is a call, every other row of forms is a data pattern
  rcases items with _ | ⟨_ | _ | ⟨_ | _ | _, _ | ⟨name | _ | _, arguments⟩⟩, results⟩
  case cons.enclosed.round.cons.word =>
    rw [List.forall_mem_cons] at hitems
    have hwords : ∀ f ∈ arguments, ∀ v ∈ f.vars, v ∈ S := fun f hf ↦
      Form.forall_vars_of_enclosed hitems.1 f (List.mem_cons_of_mem _ hf)
    have harguments := values?_rename (I := I) hvar henv hwords
    have hresults := values?_rename (I := I) hvar henv hitems.2
    cases hname : isVariable name with
    | false => simp [Form.rename, Form.Matches, hname, harguments, hresults]
    | true =>
      have hmem : name ∈ S := hitems.1 name (by simp [Form.vars_enclosed, Form.vars_word,
        hname])
      simp [Form.rename, Form.Matches, hname, hvar name hmem]
  all_goals exact hdata

theorem share_rename {inner inner' : String → Value} (hinner : ∀ v ∈ S, inner' v = inner (σ v))
    {forms : List Form} (hforms : ∀ f ∈ forms, ∀ v ∈ f.vars, v ∈ S) :
    Form.Share I (forms.map (Form.rename σ)) env inner ↔ Form.Share I forms env' inner' := by
  have hform : ∀ f ∈ forms, ((f.rename σ).value? I inner = (f.rename σ).value? I env ↔
      f.value? I inner' = f.value? I env') := by
    intro f hf
    rw [value?_rename hvar hinner (hforms f hf), value?_rename hvar henv (hforms f hf)]
  unfold Form.Share
  rw [List.forall_mem_map]
  exact ⟨fun h f hf ↦ (hform f hf).1 (h f hf), fun h f hf ↦ (hform f hf).2 (h f hf)⟩

/-- An assignment of renamed variables stands for one of the original variables. -/
theorem exists_share_rename (hinj : Set.InjOn σ S) {shared : List Form}
    (hshared : ∀ f ∈ shared, ∀ v ∈ f.vars, v ∈ S) {P P' : (String → Value) → Prop}
    (hP : ∀ inner inner', (∀ v ∈ S, inner' v = inner (σ v)) → (P inner ↔ P' inner')) :
    (∃ inner, Form.Share I (shared.map (Form.rename σ)) env inner ∧ P inner) ↔
      ∃ inner, Form.Share I shared env' inner ∧ P' inner := by
  constructor
  · rintro ⟨inner, hshare, hinner⟩
    have hrelated : ∀ v ∈ S, (fun v ↦ inner (σ v)) v = inner (σ v) := fun _ _ ↦ rfl
    exact ⟨fun v ↦ inner (σ v), (share_rename hvar henv hrelated hshared).1 hshare,
      (hP inner _ hrelated).1 hinner⟩
  · rintro ⟨inner, hshare, hinner⟩
    have hrelated : ∀ v ∈ S, inner v = (fun w ↦ inner (Function.invFunOn σ S w)) (σ v) :=
      fun v hv ↦ congrArg inner (hinj.leftInvOn_invFunOn hv).symm
    exact ⟨fun w ↦ inner (Function.invFunOn σ S w),
      (share_rename hvar henv hrelated hshared).2 hshare, (hP _ inner hrelated).2 hinner⟩

end

theorem holds_and {parts : List Form} {env : String → Value} :
    (Form.list (.word "and" :: parts)).Holds I facts env ↔ HoldsAll I facts parts env := by
  simp [holds_list]

theorem holds_or {parts : List Form} {env : String → Value} :
    (Form.list (.word "or" :: parts)).Holds I facts env ↔ HoldsAny I facts parts env := by
  simp [holds_list]

theorem holds_orJoin {shared branches : List Form} {env : String → Value} :
    (Form.list (.word "or-join" :: .vector shared :: branches)).Holds I facts env ↔
      ∃ inner, Form.Share I shared env inner ∧ HoldsAny I facts branches inner := by
  simp [holds_list]

theorem holds_notJoin {shared parts : List Form} {env : String → Value} :
    (Form.list (.word "not-join" :: .vector shared :: parts)).Holds I facts env ↔
      ¬∃ inner, Form.Share I shared env inner ∧ HoldsAll I facts parts inner := by
  simp [holds_list]

/-- The words that combine clauses. -/
def connectives : List String := ["and", "or", "or-join", "not-join"]

theorem not_holds_of_notMem {head : String} (h : head ∉ connectives) (parts : List Form)
    (env : String → Value) : ¬(Form.list (.word head :: parts)).Holds I facts env := by
  simp only [connectives, List.mem_cons, List.not_mem_nil, or_false, not_or] at h
  rcases parts with _ | ⟨_ | _ | ⟨_ | _ | _, shared⟩, parts⟩ <;> simp [holds_list, h]

theorem notMem_connectives {head : String} (h : isVariable head = true) : head ∉ connectives := by
  intro hmem
  have hnot : ∀ word ∈ connectives, isVariable word = false := by decide
  rw [hnot head hmem] at h
  cases h

section

variable {σ : String → String} {S : Set String}

/-- A form whose meaning follows the renaming of its variables, all of which are in the set. -/
def Form.Follows (I : Interpretation Value) (facts : Database Value) (σ : String → String)
    (S : Set String) (form : Form) : Prop :=
  ∀ env env' : String → Value, (∀ v ∈ S, env' v = env (σ v)) →
    ((form.rename σ).Holds I facts env ↔ form.Holds I facts env')

variable {parts : List Form} (hparts : ∀ f ∈ parts, f.Follows I facts σ S)

include hparts

theorem holdsAll_rename {env env' : String → Value} (henv : ∀ v ∈ S, env' v = env (σ v)) :
    HoldsAll I facts (parts.map (Form.rename σ)) env ↔ HoldsAll I facts parts env' := by
  rw [holdsAll_iff, holdsAll_iff, List.forall_mem_map]
  exact forall₂_congr fun f hf ↦ hparts f hf env env' henv

theorem holdsAny_rename {env env' : String → Value} (henv : ∀ v ∈ S, env' v = env (σ v)) :
    HoldsAny I facts (parts.map (Form.rename σ)) env ↔ HoldsAny I facts parts env' := by
  rw [holdsAny_iff, holdsAny_iff]
  constructor
  · rintro ⟨_, hmem, hholds⟩
    obtain ⟨f, hf, rfl⟩ := List.mem_map.1 hmem
    exact ⟨f, hf, (hparts f hf env env' henv).1 hholds⟩
  · rintro ⟨f, hf, hholds⟩
    exact ⟨f.rename σ, List.mem_map_of_mem hf, (hparts f hf env env' henv).2 hholds⟩

/-- A combination of clauses follows a renaming that its parts follow. -/
theorem follows_connective (hvar : ∀ v ∈ S, isVariable (σ v) = true) (hinj : Set.InjOn σ S)
    (hvars : ∀ f ∈ parts, ∀ v ∈ f.vars, v ∈ S) {head : String}
    (hhead : head ∈ connectives) : (Form.list (.word head :: parts)).Follows I facts σ S := by
  have hname : isVariable head = false := by
    cases h : isVariable head with
    | false => rfl
    | true => exact absurd hhead (notMem_connectives h)
  have hlist : (Form.list (.word head :: parts)).rename σ =
      .list (.word head :: parts.map (Form.rename σ)) := by simp [Form.rename, hname]
  intro env env' henv
  rw [hlist]
  simp only [connectives, List.mem_cons, List.not_mem_nil, or_false] at hhead
  rcases hhead with rfl | rfl | rfl | rfl
  · rw [holds_and, holds_and, holdsAll_rename hparts henv]
  · rw [holds_or, holds_or, holdsAny_rename hparts henv]
  -- a join holds nowhere unless the row of its variables comes first
  · rcases parts with _ | ⟨_ | _ | ⟨_ | _ | _, shared⟩, branches⟩
    case cons.enclosed.square =>
      rw [List.forall_mem_cons] at hparts hvars
      have hshared := Form.forall_vars_of_enclosed hvars.1
      have hrow : (Form.vector shared).rename σ = .vector (shared.map (Form.rename σ)) := by
        simp [Form.rename]
      rw [List.map_cons, hrow, holds_orJoin, holds_orJoin]
      exact exists_share_rename hvar henv hinj hshared
        fun inner inner' hinner ↦ holdsAny_rename hparts.2 hinner
    all_goals simp [Form.rename, holds_list]
  · rcases parts with _ | ⟨_ | _ | ⟨_ | _ | _, shared⟩, body⟩
    case cons.enclosed.square =>
      rw [List.forall_mem_cons] at hparts hvars
      have hshared := Form.forall_vars_of_enclosed hvars.1
      have hrow : (Form.vector shared).rename σ = .vector (shared.map (Form.rename σ)) := by
        simp [Form.rename]
      rw [List.map_cons, hrow, holds_notJoin, holds_notJoin, not_iff_not]
      exact exists_share_rename hvar henv hinj hshared
        fun inner inner' hinner ↦ holdsAll_rename hparts.2 hinner
    all_goals simp [Form.rename, holds_list]

end

/-- Renaming the variables of a form, different ones apart, renames them in its meaning. -/
theorem follows {σ : String → String} {S : Set String} (hvar : ∀ v ∈ S, isVariable (σ v) = true)
    (hinj : Set.InjOn σ S) (form : Form) (hform : ∀ v ∈ form.vars, v ∈ S) :
    form.Follows I facts σ S := by
  induction form using Form.induction with
  | word name => exact fun env env' _ ↦ Iff.rfl
  | text content => exact fun env env' _ ↦ Iff.rfl
  | enclosed bracket items ih =>
    have hitems := Form.forall_vars_of_enclosed hform
    have hrename : (Form.enclosed bracket items).rename σ =
        .enclosed bracket (items.map (Form.rename σ)) := by simp [Form.rename]
    cases bracket with
    | square =>
      intro env env' henv
      rw [hrename]
      exact matches_rename hvar henv hitems
    | curly => exact fun env env' _ ↦ Iff.rfl
    | round =>
      rcases items with _ | ⟨name | content | ⟨bracket, inside⟩, parts⟩
      · exact fun env env' _ ↦ Iff.rfl
      · rw [List.forall_mem_cons] at ih hitems
        by_cases hconnective : name ∈ connectives
        · exact follows_connective (fun f hf ↦ ih.2 f hf (hitems.2 f hf)) hvar hinj hitems.2
            hconnective
        · intro env env' henv
          rw [hrename, List.map_cons, Form.rename]
          refine iff_of_false (not_holds_of_notMem ?_ _ env)
            (not_holds_of_notMem hconnective _ env')
          cases hname : isVariable name with
          | true =>
            have hmem : name ∈ S := hitems.1 name (by simp [Form.vars_word, hname])
            exact notMem_connectives (by simpa using hvar name hmem)
          | false => simpa using hconnective
      · exact fun env env' _ ↦ Iff.rfl
      · exact fun env env' _ ↦ Iff.rfl

/-! ## Solutions of a conjunction -/

/-- The variables of a row of forms. -/
def varsOf (forms : List Form) : List String := forms.flatMap Form.vars

theorem isVariable_of_mem {forms : List Form} {v : String} (h : v ∈ varsOf forms) :
    isVariable v = true := by
  obtain ⟨form, -, hv⟩ := List.mem_flatMap.1 h
  exact (List.mem_filter.1 hv).2

theorem varsOf_subset {forms : List Form} {form : Form} (hform : form ∈ forms) {v : String}
    (hv : v ∈ form.vars) : v ∈ varsOf forms :=
  List.mem_flatMap.2 ⟨form, hform, hv⟩

theorem mem_varsOf_flatten {parts : List (List Form)} {v : String} :
    v ∈ varsOf parts.flatten ↔ ∃ part ∈ parts, v ∈ varsOf part := by
  constructor
  · intro hv
    obtain ⟨form, hform, hmem⟩ := List.mem_flatMap.1 hv
    obtain ⟨part, hpart, hin⟩ := List.mem_flatten.1 hform
    exact ⟨part, hpart, varsOf_subset hin hmem⟩
  · rintro ⟨part, hpart, hv⟩
    obtain ⟨form, hform, hmem⟩ := List.mem_flatMap.1 hv
    exact varsOf_subset (List.mem_flatten_of_mem hpart hform) hmem

/-- Two conjunctions share no variable but the entity. -/
def Apart (entity : String) (forms others : List Form) : Prop :=
  ∀ v ∈ varsOf forms, v ∈ varsOf others → v = entity

/-- What a conjunction means depends on the values of its own variables only. -/
theorem holdsAll_congr {forms : List Form} {env env' : String → Value}
    (henv : ∀ v ∈ varsOf forms, env' v = env v) :
    HoldsAll I facts forms env ↔ HoldsAll I facts forms env' := by
  have hfollows : ∀ f ∈ forms, f.Follows I facts id {v | v ∈ varsOf forms} := by
    intro f hf
    exact follows (fun v hv ↦ isVariable_of_mem hv) Function.injective_id.injOn f
      fun v hv ↦ varsOf_subset hf hv
  rw [← holdsAll_rename hfollows henv, List.map_congr_left fun f _ ↦ Form.rename_id f, List.map_id']

section

variable {entity : String} {x : Value}

/-- Helper variables may be renamed, different ones apart, as long as the entity keeps its name. -/
theorem solves_rename {σ : String → String} {S : Set String}
    (hvar : ∀ v ∈ S, isVariable (σ v) = true) (hinj : Set.InjOn σ S) (hentity : σ entity = entity)
    (hmem : entity ∈ S) {forms : List Form} (hforms : ∀ v ∈ varsOf forms, v ∈ S) :
    Solves I facts entity (forms.map (Form.rename σ)) x ↔ Solves I facts entity forms x := by
  have hfollows : ∀ f ∈ forms, f.Follows I facts σ S := fun f hf ↦
    follows hvar hinj f fun v hv ↦ hforms v (varsOf_subset hf hv)
  constructor
  · rintro ⟨env, hx, hholds⟩
    exact ⟨fun v ↦ env (σ v), (congrArg env hentity).trans hx,
      (holdsAll_rename hfollows fun _ _ ↦ rfl).1 hholds⟩
  · rintro ⟨env, hx, hholds⟩
    have henv : ∀ v ∈ S, env v = env (Function.invFunOn σ S (σ v)) :=
      fun v hv ↦ congrArg env (hinj.leftInvOn_invFunOn hv).symm
    refine ⟨fun w ↦ env (Function.invFunOn σ S w), ?_, (holdsAll_rename hfollows henv).2 hholds⟩
    rw [← hx, henv entity hmem, hentity]

theorem solves_nil : Solves I facts entity [] x :=
  ⟨fun _ ↦ x, rfl, trivial⟩

/-- Two conjunctions that share no helper variables are solved apart from each other. -/
theorem solves_append {forms others : List Form} (hapart : Apart entity forms others) :
    Solves I facts entity (forms ++ others) x ↔
      Solves I facts entity forms x ∧ Solves I facts entity others x := by
  have happend : ∀ env : String → Value, HoldsAll I facts (forms ++ others) env ↔
      HoldsAll I facts forms env ∧ HoldsAll I facts others env := by
    intro env
    rw [holdsAll_iff, holdsAll_iff, holdsAll_iff, List.forall_mem_append]
  constructor
  · rintro ⟨env, hx, hholds⟩
    rw [happend] at hholds
    exact ⟨⟨env, hx, hholds.1⟩, ⟨env, hx, hholds.2⟩⟩
  · rintro ⟨⟨env, hx, hforms⟩, ⟨env', hx', hothers⟩⟩
    -- the helper variables of the one conjunction mean nothing to the other
    let joined : String → Value := fun v ↦ if v ∈ varsOf forms then env v else env' v
    have hjoined : joined entity = x := by
      simp only [joined]
      split
      · exact hx
      · exact hx'
    have hleft : ∀ v ∈ varsOf forms, joined v = env v := fun v hv ↦ if_pos hv
    have hright : ∀ v ∈ varsOf others, joined v = env' v := by
      intro v hv
      by_cases hmem : v ∈ varsOf forms
      · rw [hapart v hmem hv, hjoined, hx']
      · exact if_neg hmem
    exact ⟨joined, hjoined, (happend joined).2
      ⟨(holdsAll_congr hleft).1 hforms, (holdsAll_congr hright).1 hothers⟩⟩

/-- Conjunctions of which no two share a helper variable are solved each on its own. -/
theorem solves_flatten {parts : List (List Form)} (hparts : parts.Pairwise (Apart entity)) :
    Solves I facts entity parts.flatten x ↔ ∀ forms ∈ parts, Solves I facts entity forms x := by
  induction parts with
  | nil => simp [solves_nil]
  | cons forms parts ih =>
    rw [List.pairwise_cons] at hparts
    have hapart : Apart entity forms parts.flatten := by
      intro v hv hflat
      obtain ⟨others, hothers, hin⟩ := mem_varsOf_flatten.1 hflat
      exact hparts.1 others hothers v hv hin
    rw [List.flatten_cons, solves_append hapart, ih hparts.2, List.forall_mem_cons]

theorem share_word (hvariable : isVariable entity = true) {env inner : String → Value} :
    Form.Share I [.word entity] env inner ↔ inner entity = env entity := by
  simp [Form.Share, Form.value?, hvariable]

theorem solves_orJoin (hvariable : isVariable entity = true) {parts : List (List Form)} :
    Solves I facts entity [.list (.word "or-join" :: .vector [.word entity] ::
        parts.map fun forms ↦ .list (.word "and" :: forms))] x ↔
      ∃ forms ∈ parts, Solves I facts entity forms x := by
  have hbranches : ∀ env : String → Value,
      HoldsAny I facts (parts.map fun forms ↦ .list (.word "and" :: forms)) env ↔
        ∃ forms ∈ parts, HoldsAll I facts forms env := by
    intro env
    simp only [holdsAny_iff, List.mem_map, exists_exists_and_eq_and, holds_and]
  simp only [Solves, holdsAll_cons, holdsAll_nil, and_true, holds_orJoin,
    share_word hvariable, hbranches]
  constructor
  · rintro ⟨env, hx, inner, hshare, forms, hforms, hholds⟩
    exact ⟨forms, hforms, inner, hshare.trans hx, hholds⟩
  · rintro ⟨forms, hforms, env, hx, hholds⟩
    exact ⟨env, hx, env, rfl, forms, hforms, hholds⟩

theorem solves_notJoin (hvariable : isVariable entity = true) {attr : String}
    (hattr : isVariable attr = false) {forms : List Form} :
    Solves I facts entity [.vector [.word entity, .word attr],
        .list (.word "not-join" :: .vector [.word entity] :: forms)] x ↔
      (∃ value, (x, I.constant attr, value) ∈ facts) ∧ ¬Solves I facts entity forms x := by
  have hpattern : ∀ env : String → Value,
      (Form.vector [.word entity, .word attr]).Holds I facts env ↔
        ∃ value, (env entity, I.constant attr, value) ∈ facts := by
    intro env
    simp [holds_vector, Form.Matches, Form.values?, Form.value?, hvariable, hattr, Database.Has]
  simp only [Solves, holdsAll_cons, holdsAll_nil, and_true, holds_notJoin,
    share_word hvariable, hpattern]
  constructor
  · rintro ⟨env, rfl, hfact, hnot⟩
    exact ⟨hfact, hnot⟩
  · rintro ⟨hfact, hnot⟩
    exact ⟨fun _ ↦ x, rfl, hfact, hnot⟩

end

end

end FilterQuery.Datalog
