import FilterQuery.Proofs.Datalog.Variables

/-!
# What a form is made of

Every word of a form is a variable or a constant. A vocabulary lists the variables and the literals
that a form may hold; constants, which no renaming touches, may stand everywhere. Both being made of
a vocabulary and being a renaming of other clauses are kept by every way to combine clauses.
-/

namespace FilterQuery.Datalog

/-- A word that is no variable. -/
def IsConstant (word : String) : Prop := IsWord word ∧ isVariable word = false

instance (word : String) : Decidable (IsConstant word) := inferInstanceAs (Decidable (_ ∧ _))

theorem isConstant_of_notMem {word : String} (hword : IsWord word) (h : '?' ∉ word.toList) :
    IsConstant word := by
  refine ⟨hword, ?_⟩
  unfold isVariable
  cases hcs : word.toList with
  | nil => rfl
  | cons c cs =>
    rw [hcs, List.mem_cons, not_or] at h
    simpa using Ne.symm h.1

theorem isConstant_symbol (predicate : Predicate) : IsConstant predicate.symbol := by
  refine ⟨isWord_symbol predicate, ?_⟩
  rcases predicate with _ | _ | _ | _ | _ | comparison
  case compare => cases comparison <;> decide
  all_goals decide

theorem isConstant_renderNumber (x : Binary64) : IsConstant (renderNumber x) := by
  apply isConstant_of_notMem (isWord_renderNumber x)
  intro hmem
  have hlist : (renderNumber x).toList = (Decimal.shortest .up x).positional := by
    simp [renderNumber]
  rw [hlist] at hmem
  rcases mem_positional hmem with h | h | h | h
  · cases h
  · cases h
  · cases h
  · exact absurd (Nat.isDigit_of_mem_toDigits (by decide) (by decide) h) (by decide)

theorem isConstant_toString (n : Int) : IsConstant (toString n) := by
  apply isConstant_of_notMem (isWord_toString n)
  intro hmem
  have hdigits : ∀ m : Nat, '?' ∉ m.repr.toList := by
    intro m h
    rw [Nat.toList_repr] at h
    exact absurd (Nat.isDigit_of_mem_toDigits (by decide) (by decide) h) (by decide)
  rw [Int.toString_eq_repr, Int.repr_eq_if] at hmem
  split at hmem
  · exact hdigits _ hmem
  · rw [String.toList_append, List.mem_append] at hmem
    rcases hmem with hsign | hdigit
    · exact absurd hsign (by decide)
    · exact hdigits _ hdigit

/-- A constant goes on over the characters of a word. -/
theorem isConstant_append {head rest : String} (hhead : IsConstant head)
    (hrest : ∀ c ∈ rest.toList, isPlain c = true) : IsConstant (head ++ rest) := by
  obtain ⟨⟨hne, hplain⟩, hvariable⟩ := hhead
  obtain ⟨c, cs, hcs⟩ : ∃ c cs, head.toList = c :: cs :=
    List.exists_cons_of_ne_nil fun hnil ↦ hne (String.toList_eq_nil_iff.1 hnil)
  have happend : (head ++ rest).toList = head.toList ++ rest.toList := String.toList_append
  refine ⟨⟨?_, ?_⟩, ?_⟩
  · intro hempty
    rw [hempty, hcs] at happend
    cases happend
  · rw [happend]
    exact List.forall_mem_append.2 ⟨hplain, hrest⟩
  · unfold isVariable at hvariable ⊢
    rw [happend, hcs]
    rwa [hcs] at hvariable

/-- The variables and the literals of a form. Constants may stand in every form. -/
structure Vocabulary where
  names : List String
  literals : List String

/-- All words of the form are names or constants, and all of its literals are listed. -/
def Form.MadeOf (form : Form) (vocabulary : Vocabulary) : Prop :=
  (∀ word ∈ form.words, word ∈ vocabulary.names ∨ IsConstant word) ∧
    ∀ s ∈ form.texts, s ∈ vocabulary.literals

section

variable {vocabulary : Vocabulary}

@[simp] theorem madeOf_word {name : String} :
    (Form.word name).MadeOf vocabulary ↔ name ∈ vocabulary.names ∨ IsConstant name := by
  simp [Form.MadeOf]

@[simp] theorem madeOf_text {s : String} :
    (Form.text s).MadeOf vocabulary ↔ s ∈ vocabulary.literals := by
  simp [Form.MadeOf]

@[simp] theorem madeOf_enclosed {bracket : Bracket} {items : List Form} :
    (Form.enclosed bracket items).MadeOf vocabulary ↔ ∀ f ∈ items, f.MadeOf vocabulary := by
  simp only [Form.MadeOf, Form.words_enclosed, Form.texts_enclosed, List.mem_flatMap]
  constructor
  · rintro ⟨hwords, htexts⟩ f hf
    exact ⟨fun w hw ↦ hwords w ⟨f, hf, hw⟩, fun s hs ↦ htexts s ⟨f, hf, hs⟩⟩
  · intro h
    constructor
    · rintro w ⟨f, hf, hw⟩
      exact (h f hf).1 w hw
    · rintro s ⟨f, hf, hs⟩
      exact (h f hf).2 s hs

@[simp] theorem madeOf_number {value : Binary64} :
    (Operand.number value).form.MadeOf vocabulary :=
  madeOf_word.2 (.inr (isConstant_renderNumber value))

@[simp] theorem madeOf_instant {milliseconds : Int} :
    (Operand.instant milliseconds).form.MadeOf vocabulary :=
  madeOf_word.2 (.inr (isConstant_toString milliseconds))

@[simp] theorem madeOf_flag {value : Bool} : (Operand.flag value).form.MadeOf vocabulary := by
  apply madeOf_word.2 (.inr ?_)
  cases value <;> decide

@[simp] theorem madeOf_keyword {name : String} : (Operand.keyword name).form.MadeOf vocabulary ↔
    name ∈ vocabulary.names ∨ IsConstant name := madeOf_word

@[simp] theorem madeOf_literal {s : String} : (Operand.text s).form.MadeOf vocabulary ↔
    s ∈ vocabulary.literals := madeOf_text

@[simp] theorem madeOf_var {name : String} : (Operand.var name).form.MadeOf vocabulary ↔
    name ∈ vocabulary.names ∨ IsConstant name := madeOf_word

theorem madeOf_test {predicate : Predicate} {left right : Operand}
    (hleft : left.form.MadeOf vocabulary) (hright : right.form.MadeOf vocabulary) :
    (Clause.test predicate left right).form.MadeOf vocabulary := by
  have hsymbol : IsConstant predicate.symbol := isConstant_symbol predicate
  simp [hleft, hright, hsymbol]

theorem madeOf_regex {search : SearchPattern} {bound : String}
    (hsource : search.source ∈ vocabulary.literals) (hbound : bound ∈ vocabulary.names) :
    (Clause.regex search bound).form.MadeOf vocabulary := by
  have hhead : IsConstant "re-pattern" := by decide
  simp [hsource, hbound, hhead]

theorem madeOf_conj {layout : Layout} {parts : List Clause}
    (h : ∀ c ∈ parts, c.form.MadeOf vocabulary) :
    (Clause.conj layout parts).form.MadeOf vocabulary := by
  have hhead : IsConstant "and" := by decide
  simpa [hhead] using h

theorem madeOf_either {alternatives : List Clause}
    (h : ∀ c ∈ alternatives, c.form.MadeOf vocabulary) :
    (Clause.either alternatives).form.MadeOf vocabulary := by
  have hhead : IsConstant "or" := by decide
  simpa [hhead] using h

theorem Form.MadeOf.mono {form : Form} {larger : Vocabulary} (h : form.MadeOf vocabulary)
    (hnames : ∀ name ∈ vocabulary.names, name ∈ larger.names)
    (hliterals : ∀ s ∈ vocabulary.literals, s ∈ larger.literals) : form.MadeOf larger :=
  ⟨fun word hword ↦ (h.1 word hword).imp_left (hnames word),
    fun s hs ↦ hliterals s (h.2 s hs)⟩

theorem Form.MadeOf.isWord {form : Form} (h : form.MadeOf vocabulary)
    (hnames : ∀ name ∈ vocabulary.names, IsWord name) : ∀ word ∈ form.words, IsWord word := by
  intro word hword
  rcases h.1 word hword with hname | hconstant
  · exact hnames word hname
  · exact hconstant.1

theorem Form.MadeOf.mem_names {form : Form} (h : form.MadeOf vocabulary) {v : String}
    (hv : v ∈ form.vars) : v ∈ vocabulary.names := by
  obtain ⟨hword, hvariable⟩ := List.mem_filter.1 hv
  rcases h.1 v hword with hname | hconstant
  · exact hname
  · rw [hconstant.2] at hvariable
    cases hvariable

end

/-! ## Renaming -/

section

variable {σ : String → String}

@[simp] theorem rename_enclosed {bracket : Bracket} {items : List Form} :
    (Form.enclosed bracket items).rename σ = .enclosed bracket (items.map (Form.rename σ)) := by
  rw [Form.rename, Form.renameList_eq_map]

@[simp] theorem rename_constant {name : String} (h : IsConstant name) :
    (Form.word name).rename σ = .word name := by
  simp [Form.rename, h.2]

@[simp] theorem rename_text {s : String} : (Form.text s).rename σ = .text s := rfl

@[simp] theorem rename_number {value : Binary64} :
    (Operand.number value).form.rename σ = (Operand.number value).form :=
  rename_constant (isConstant_renderNumber value)

@[simp] theorem rename_instant {milliseconds : Int} :
    (Operand.instant milliseconds).form.rename σ = (Operand.instant milliseconds).form :=
  rename_constant (isConstant_toString milliseconds)

@[simp] theorem rename_flag {value : Bool} :
    (Operand.flag value).form.rename σ = (Operand.flag value).form := by
  cases value <;> exact rename_constant (by decide)

theorem rename_test {predicate : Predicate} {left right left' right' : Operand}
    (hleft : left.form.rename σ = left'.form) (hright : right.form.rename σ = right'.form) :
    (Clause.test predicate left right).form.rename σ =
      (Clause.test predicate left' right').form := by
  have hsymbol : IsConstant predicate.symbol := isConstant_symbol predicate
  simp [hleft, hright, hsymbol]

theorem rename_pattern {subject subject' attr : String} {value value' : Operand}
    (hsubject : (Form.word subject).rename σ = .word subject') (hattr : IsConstant attr)
    (hvalue : value.form.rename σ = value'.form) :
    (Clause.pattern subject attr (some value)).form.rename σ =
      (Clause.pattern subject' attr (some value')).form := by
  simp [hsubject, hattr, hvalue]

theorem rename_regex {search : SearchPattern} {bound bound' : String}
    (hbound : (Form.word bound).rename σ = .word bound') :
    (Clause.regex search bound).form.rename σ = (Clause.regex search bound').form := by
  have hhead : IsConstant "re-pattern" := by decide
  simp [hhead, hbound]

/-- The clauses of one row are those of another with other variables. -/
def Renames (σ : String → String) (clauses clauses' : List Clause) : Prop :=
  (clauses.map Clause.form).map (Form.rename σ) = clauses'.map Clause.form

theorem renames_nil : Renames σ [] [] := rfl

theorem Renames.cons {c c' : Clause} {clauses clauses' : List Clause}
    (h : c.form.rename σ = c'.form) (hrest : Renames σ clauses clauses') :
    Renames σ (c :: clauses) (c' :: clauses') := by
  unfold Renames at hrest ⊢
  rw [List.map_cons, List.map_cons, List.map_cons, h, hrest]

theorem Renames.append {clauses clauses' others others' : List Clause}
    (h : Renames σ clauses clauses') (hothers : Renames σ others others') :
    Renames σ (clauses ++ others) (clauses' ++ others') := by
  unfold Renames at h hothers ⊢
  rw [List.map_append, List.map_append, List.map_append, h, hothers]

theorem Renames.flatMap {α : Type} {items : List α} {f f' : α → List Clause}
    (h : ∀ a, Renames σ (f a) (f' a)) : Renames σ (items.flatMap f) (items.flatMap f') := by
  induction items with
  | nil => rfl
  | cons a items ih => exact (h a).append ih

theorem Renames.map {α : Type} {items : List α} {f f' : α → Clause}
    (h : ∀ a, (f a).form.rename σ = (f' a).form) : Renames σ (items.map f) (items.map f') := by
  induction items with
  | nil => rfl
  | cons a items ih => exact .cons (h a) ih

theorem Renames.conj {clauses clauses' : List Clause} (h : Renames σ clauses clauses')
    (layout : Layout) :
    (Clause.conj layout clauses).form.rename σ = (Clause.conj layout clauses').form := by
  have hhead : IsConstant "and" := by decide
  unfold Renames at h
  simp only [Clause.form_conj, rename_enclosed, List.map_cons, rename_constant hhead, h]

theorem Renames.either {clauses clauses' : List Clause} (h : Renames σ clauses clauses') :
    (Clause.either clauses).form.rename σ = (Clause.either clauses').form := by
  have hhead : IsConstant "or" := by decide
  unfold Renames at h
  simp only [Clause.form_either, rename_enclosed, List.map_cons, rename_constant hhead, h]

end

end FilterQuery.Datalog
