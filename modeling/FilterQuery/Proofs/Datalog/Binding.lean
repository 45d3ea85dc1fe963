import FilterQuery.Proofs.Datalog.Vocabulary

/-!
# Clauses that can be evaluated from left to right

A database evaluates the clauses of a conjunction one after the other. Data patterns bind their
variables, and so do the results of a function; a predicate or a function can only be called once
its arguments are bound. An or-join binds the variable that it is on if all of its branches do. A
not-join removes something from what is there already, so its variable has to be bound before it.

What is bound around a clause is known inside of an `and` or an `or`. The branches of an or-join and
the body of a not-join know nothing but the variable that these are on.
-/

namespace FilterQuery.Datalog

namespace Form

/-- The variables that a data pattern, or the result of a function, binds. -/
def bound : Form → List String
  | .vector (.list _ :: results) => results.flatMap vars
  | .vector items => items.flatMap vars
  | _ => []

/-- The variables that are bound behind some clauses of a conjunction. -/
def known (outer : Set String) (before : List Form) : Set String :=
  outer ∪ {v | ∃ form ∈ before, v ∈ form.bound}

/-- A clause that gives a value to a variable whenever it holds. -/
inductive Binds (v : String) : Form → Prop
  | direct {form : Form} (h : v ∈ form.bound) : Binds v form
  | and {parts : List Form} {part : Form} (hpart : part ∈ parts) (h : Binds v part) :
      Binds v (.list (.word "and" :: parts))
  | orJoin {branches : List Form} (hne : branches ≠ []) (h : ∀ branch ∈ branches, Binds v branch) :
      Binds v (.list (.word "or-join" :: .vector [.word v] :: branches))

/-- A clause that can be evaluated behind others of its conjunction, where some outer variables are
bound already. All joins are on the entity. -/
inductive Safe (entity : String) : Set String → List Form → Form → Prop
  /-- A data pattern can always be evaluated. -/
  | pattern {outer : Set String} {before : List Form} {first : String} {items : List Form} :
      Safe entity outer before (.vector (.word first :: items))
  /-- The arguments of a predicate or a function are bound by earlier clauses. -/
  | call {outer : Set String} {before : List Form} {name : String} {arguments results : List Form}
      (h : ∀ argument ∈ arguments, ∀ v ∈ argument.vars, v ∈ known outer before) :
      Safe entity outer before (.vector (.list (.word name :: arguments) :: results))
  /-- The parts of a conjunction can be evaluated one after the other. -/
  | and {outer : Set String} {before : List Form} {parts : List Form}
      (h : ∀ earlier part later, parts = earlier ++ part :: later →
        Safe entity (known outer before) earlier part) :
      Safe entity outer before (.list (.word "and" :: parts))
  /-- Alternatives are about one variable, which is bound by an earlier clause. -/
  | or {outer : Set String} {before : List Form} {v : String} {alternatives : List Form}
      (hbound : v ∈ known outer before)
      (hvars : ∀ alternative ∈ alternatives, alternative.vars = [v])
      (h : ∀ alternative ∈ alternatives, Safe entity (known outer before) [] alternative) :
      Safe entity outer before (.list (.word "or" :: alternatives))
  /-- Every branch of an or-join binds the entity, and is evaluated on its own. -/
  | orJoin {outer : Set String} {before : List Form} {branches : List Form}
      (hbinds : ∀ branch ∈ branches, Binds entity branch)
      (h : ∀ branch ∈ branches, Safe entity (known outer before ∩ {entity}) [] branch) :
      Safe entity outer before (.list (.word "or-join" :: .vector [.word entity] :: branches))
  /-- A pattern before a not-join binds the entity. -/
  | notJoin {outer : Set String} {before : List Form} {parts : List Form} {first : String}
      {items : List Form} (hpattern : .vector (.word first :: items) ∈ before)
      (hbinds : entity ∈ (Form.vector (.word first :: items)).bound)
      (h : ∀ earlier part later, parts = earlier ++ part :: later →
        Safe entity (known outer before ∩ {entity}) earlier part) :
      Safe entity outer before (.list (.word "not-join" :: .vector [.word entity] :: parts))

/-- Clauses that can be evaluated one after the other. -/
def SafeAll (entity : String) (outer : Set String) (before forms : List Form) : Prop :=
  ∀ earlier form later, forms = earlier ++ form :: later →
    form.Safe entity outer (before ++ earlier)

end Form

open Form (known Safe SafeAll Binds)

section

variable {entity v : String} {outer outer' : Set String} {before before' : List Form}

theorem known_mono (houter : outer ⊆ outer') (hbefore : ∀ form ∈ before, form ∈ before') :
    known outer before ⊆ known outer' before' := by
  rintro v (hv | ⟨form, hform, hv⟩)
  · exact .inl (houter hv)
  · exact .inr ⟨form, hbefore form hform, hv⟩

theorem mem_known {form : Form} (hform : form ∈ before) (hv : v ∈ form.bound) :
    v ∈ known outer before :=
  .inr ⟨form, hform, hv⟩

/-- What can be evaluated can still be when more is bound before it. -/
theorem Form.Safe.mono {form : Form} (h : form.Safe entity outer before)
    (houter : outer ⊆ outer') (hbefore : ∀ form ∈ before, form ∈ before') :
    form.Safe entity outer' before' := by
  induction h generalizing outer' before' with
  | pattern => exact .pattern
  | call h =>
    exact .call fun argument hargument v hv ↦ known_mono houter hbefore (h argument hargument v hv)
  | and _ ih =>
    exact .and fun earlier part later heq ↦
      ih earlier part later heq (known_mono houter hbefore) fun _ ↦ id
  | or hbound hvars _ ih =>
    exact .or (known_mono houter hbefore hbound) hvars fun alternative halternative ↦
      ih alternative halternative (known_mono houter hbefore) fun _ ↦ id
  | orJoin hbinds _ ih =>
    exact .orJoin hbinds fun branch hbranch ↦ ih branch hbranch
      (Set.inter_subset_inter_left _ (known_mono houter hbefore)) fun _ ↦ id
  | notJoin hpattern hbinds _ ih =>
    exact .notJoin (hbefore _ hpattern) hbinds fun earlier part later heq ↦
      ih earlier part later heq
        (Set.inter_subset_inter_left _ (known_mono houter hbefore)) fun _ ↦ id

/-! ## Conjunctions -/

theorem safeAll_nil : SafeAll entity outer before [] := by
  intro earlier form later heq
  simp at heq

theorem safeAll_cons {form : Form} {forms : List Form} :
    SafeAll entity outer before (form :: forms) ↔
      form.Safe entity outer before ∧ SafeAll entity outer (before ++ [form]) forms := by
  constructor
  · intro h
    constructor
    · simpa using h [] form forms rfl
    · intro earlier other later heq
      simpa using h (form :: earlier) other later (by rw [heq, List.cons_append])
  · rintro ⟨hform, hforms⟩ earlier other later heq
    cases earlier with
    | nil =>
      cases heq
      simpa using hform
    | cons first earlier =>
      obtain ⟨rfl, hrest⟩ := List.cons.inj heq
      simpa using hforms earlier other later hrest

theorem Form.SafeAll.mono {forms : List Form} (h : SafeAll entity outer before forms)
    (houter : outer ⊆ outer') (hbefore : ∀ form ∈ before, form ∈ before') :
    SafeAll entity outer' before' forms := by
  intro earlier form later heq
  refine (h earlier form later heq).mono houter fun f hf ↦ ?_
  rcases List.mem_append.1 hf with hf | hf
  · exact List.mem_append_left _ (hbefore f hf)
  · exact List.mem_append_right _ hf

/-- Clauses that can be evaluated on their own can be evaluated behind others. -/
theorem Form.SafeAll.weaken {forms : List Form} (h : SafeAll entity ∅ [] forms) :
    SafeAll entity outer before forms :=
  h.mono (Set.empty_subset outer) nofun

theorem Form.SafeAll.append {forms others : List Form} (h : SafeAll entity outer before forms)
    (hothers : SafeAll entity outer (before ++ forms) others) :
    SafeAll entity outer before (forms ++ others) := by
  induction forms generalizing before with
  | nil => simpa using hothers
  | cons form forms ih =>
    obtain ⟨hform, hforms⟩ := safeAll_cons.1 h
    exact safeAll_cons.2 ⟨hform, ih hforms (by simpa using hothers)⟩

/-! ## The forms of clauses -/

namespace Clause

variable {subject attr : String}

theorem mem_bound_pattern {value : Option Operand} (hsubject : isVariable subject = true) :
    subject ∈ (pattern subject attr value).form.bound := by
  simp [Form.bound, Form.vars_word, hsubject]

theorem subset_bound_pattern {value : Operand} :
    ∀ v ∈ value.form.vars, v ∈ (pattern subject attr (some value)).form.bound := by
  intro v hv
  simp [Form.bound, hv]

theorem subset_bound_regex {search : SearchPattern} {bound : String} :
    ∀ v ∈ (Operand.var bound).form.vars, v ∈ (regex search bound).form.bound := by
  intro v hv
  rw [Operand.form] at hv
  simp [Form.bound, hv]

theorem safe_pattern {value : Option Operand} :
    (pattern subject attr value).form.Safe entity outer before := by
  rw [form_pattern]
  exact .pattern

theorem safe_regex {search : SearchPattern} : (regex search v).form.Safe entity outer before := by
  rw [form_regex]
  exact .call (List.forall_mem_singleton.2 fun v hv ↦ absurd hv List.not_mem_nil)

theorem safe_test {predicate : Predicate} {left right : Operand}
    (hleft : ∀ v ∈ left.form.vars, v ∈ known outer before)
    (hright : ∀ v ∈ right.form.vars, v ∈ known outer before) :
    (test predicate left right).form.Safe entity outer before := by
  rw [form_test]
  exact .call (List.forall_mem_cons.2 ⟨hleft, List.forall_mem_singleton.2 hright⟩)

variable {parts : List Clause}

theorem safe_conj {layout : Layout}
    (h : SafeAll entity (known outer before) [] (parts.map form)) :
    (conj layout parts).form.Safe entity outer before := by
  rw [form_conj]
  exact .and h

theorem safe_either (hbound : v ∈ known outer before)
    (hvars : ∀ c ∈ parts, c.form.vars = [v])
    (h : ∀ c ∈ parts, c.form.Safe entity (known outer before) []) :
    (either parts).form.Safe entity outer before := by
  rw [form_either]
  exact .or hbound (List.forall_mem_map.2 hvars) (List.forall_mem_map.2 h)

theorem safe_orJoin {indent : Nat} (hbinds : ∀ c ∈ parts, c.form.Binds entity)
    (h : ∀ c ∈ parts, c.form.Safe entity (known outer before ∩ {entity}) []) :
    (orJoin entity indent parts).form.Safe entity outer before := by
  rw [form_orJoin]
  exact .orJoin (List.forall_mem_map.2 hbinds) (List.forall_mem_map.2 h)

theorem safe_notJoin {value : Option Operand} (hentity : isVariable entity = true)
    (hpattern : (pattern entity attr value).form ∈ before)
    (h : SafeAll entity (known outer before ∩ {entity}) [] (parts.map form)) :
    (notJoin entity parts).form.Safe entity outer before := by
  have hbound : entity ∈ (pattern entity attr value).form.bound := mem_bound_pattern hentity
  rw [form_pattern] at hpattern hbound
  rw [form_notJoin]
  exact .notJoin hpattern hbound h

theorem binds_pattern {value : Option Operand} (hsubject : isVariable subject = true) :
    (pattern subject attr value).form.Binds subject :=
  .direct (mem_bound_pattern hsubject)

theorem binds_conj {layout : Layout} {c : Clause} (hc : c ∈ parts) (h : c.form.Binds entity) :
    (conj layout parts).form.Binds entity := by
  rw [form_conj]
  exact .and (List.mem_map_of_mem hc) h

theorem binds_orJoin {indent : Nat} (hne : parts ≠ []) (h : ∀ c ∈ parts, c.form.Binds entity) :
    (orJoin entity indent parts).form.Binds entity := by
  rw [form_orJoin]
  exact .orJoin (by simpa using hne) (List.forall_mem_map.2 h)

end Clause

end

end FilterQuery.Datalog
