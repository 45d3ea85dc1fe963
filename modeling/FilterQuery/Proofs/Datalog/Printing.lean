import FilterQuery.Datalog.Clause
import FilterQuery.Proofs.Datalog.Form

/-!
# The text of a query reads as its clauses

Every clause has a form, which drops its layout. If all words of the form are single words, the text
of the clause is read as that form and nothing else; texts inside literals are arbitrary.
-/

namespace FilterQuery.Datalog

namespace Form

/-! ## Words and texts of a form -/

mutual

/-- The words and literals of a form from left to right. -/
def leaves : Form → List Form
  | .word name => [.word name]
  | .text content => [.text content]
  | .enclosed _ items => leavesOf items

def leavesOf : List Form → List Form
  | [] => []
  | form :: forms => form.leaves ++ leavesOf forms

end

theorem leavesOf_eq_flatMap (forms : List Form) : leavesOf forms = forms.flatMap leaves := by
  induction forms with
  | nil => rfl
  | cons form forms ih => rw [leavesOf, ih, List.flatMap_cons]

def word? : Form → Option String
  | .word name => some name
  | _ => none

def text? : Form → Option String
  | .text content => some content
  | _ => none

/-- The words of a form, outside its literals. -/
def words (form : Form) : List String := form.leaves.filterMap word?

/-- The contents of the literals of a form. -/
def texts (form : Form) : List String := form.leaves.filterMap text?

@[simp] theorem leaves_enclosed (bracket : Bracket) (items : List Form) :
    (enclosed bracket items).leaves = items.flatMap leaves :=
  leavesOf_eq_flatMap items

@[simp] theorem words_word (name : String) : (word name).words = [name] := rfl

@[simp] theorem words_text (content : String) : (text content).words = [] := rfl

@[simp] theorem words_enclosed (bracket : Bracket) (items : List Form) :
    (enclosed bracket items).words = items.flatMap words := by
  rw [words, leaves_enclosed, List.filterMap_flatMap]
  rfl

@[simp] theorem texts_word (name : String) : (word name).texts = [] := rfl

@[simp] theorem texts_text (content : String) : (text content).texts = [content] := rfl

@[simp] theorem texts_enclosed (bracket : Bracket) (items : List Form) :
    (enclosed bracket items).texts = items.flatMap texts := by
  rw [texts, leaves_enclosed, List.filterMap_flatMap]
  rfl

/-- The query for everything about the entities of a conjunction. -/
def query (entity : String) (body : List Form) : Form :=
  .vector (.word ":find" :: .list [.word "pull", .word entity, .vector [.word "*"]] ::
    .word ":where" :: body)

end Form

/-! ## The form of a clause -/

def Operand.form : Operand → Form
  | .var name => .word name
  | .text content => .text content
  | .keyword name => .word name
  | .flag value => .word (if value then "true" else "false")
  | .number value => .word (renderNumber value)
  | .instant milliseconds => .word (toString milliseconds)

namespace Clause

mutual

def form : Clause → Form
  | .pattern entity attr value =>
    .vector (.word entity :: .word attr :: (value.map Operand.form).toList)
  | .test predicate left right =>
    .vector [.list [.word predicate.symbol, left.form, right.form]]
  | .regex search bound =>
    .vector [.list [.word "re-pattern", .text search.source], .word bound]
  | .either alternatives => .list (.word "or" :: formList alternatives)
  | .conj _ parts => .list (.word "and" :: formList parts)
  | .orJoin entity _ branches =>
    .list (.word "or-join" :: .vector [.word entity] :: formList branches)
  | .notJoin entity parts =>
    .list (.word "not-join" :: .vector [.word entity] :: formList parts)

def formList : List Clause → List Form
  | [] => []
  | clause :: clauses => clause.form :: formList clauses

end

@[simp] theorem formList_eq_map (clauses : List Clause) : formList clauses = clauses.map form := by
  induction clauses with
  | nil => rfl
  | cons clause clauses ih => rw [formList, ih, List.map_cons]

@[simp] theorem form_pattern (entity attr : String) (value : Option Operand) :
    (pattern entity attr value).form =
      .vector (.word entity :: .word attr :: (value.map Operand.form).toList) := rfl

@[simp] theorem form_test (predicate : Predicate) (left right : Operand) :
    (test predicate left right).form =
      .vector [.list [.word predicate.symbol, left.form, right.form]] := rfl

@[simp] theorem form_regex (search : SearchPattern) (bound : String) :
    (regex search bound).form =
      .vector [.list [.word "re-pattern", .text search.source], .word bound] := rfl

@[simp] theorem form_either (alternatives : List Clause) :
    (either alternatives).form = .list (.word "or" :: alternatives.map form) :=
  congrArg (fun forms ↦ Form.list (.word "or" :: forms)) (formList_eq_map alternatives)

@[simp] theorem form_conj (layout : Layout) (parts : List Clause) :
    (conj layout parts).form = .list (.word "and" :: parts.map form) :=
  congrArg (fun forms ↦ Form.list (.word "and" :: forms)) (formList_eq_map parts)

@[simp] theorem form_orJoin (entity : String) (indent : Nat) (branches : List Clause) :
    (orJoin entity indent branches).form =
      .list (.word "or-join" :: .vector [.word entity] :: branches.map form) :=
  congrArg (fun forms ↦ Form.list (.word "or-join" :: .vector [.word entity] :: forms))
    (formList_eq_map branches)

@[simp] theorem form_notJoin (entity : String) (parts : List Clause) :
    (notJoin entity parts).form =
      .list (.word "not-join" :: .vector [.word entity] :: parts.map form) :=
  congrArg (fun forms ↦ Form.list (.word "not-join" :: .vector [.word entity] :: forms))
    (formList_eq_map parts)

theorem words_either (alternatives : List Clause) :
    (either alternatives).form.words =
      "or" :: (alternatives.map form).flatMap Form.words := by
  simp

theorem words_conj (layout : Layout) (parts : List Clause) :
    (conj layout parts).form.words = "and" :: (parts.map form).flatMap Form.words := by
  simp

theorem words_orJoin (entity : String) (indent : Nat) (branches : List Clause) :
    (orJoin entity indent branches).form.words =
      "or-join" :: entity :: (branches.map form).flatMap Form.words := by
  simp

theorem words_notJoin (entity : String) (parts : List Clause) :
    (notJoin entity parts).form.words =
      "not-join" :: entity :: (parts.map form).flatMap Form.words := by
  simp

@[elab_as_elim]
theorem induction {motive : Clause → Prop} (clause : Clause)
    (pattern : ∀ entity attr value, motive (.pattern entity attr value))
    (test : ∀ predicate left right, motive (.test predicate left right))
    (regex : ∀ pattern bound, motive (.regex pattern bound))
    (either : ∀ alternatives, (∀ c ∈ alternatives, motive c) → motive (.either alternatives))
    (conj : ∀ layout parts, (∀ c ∈ parts, motive c) → motive (.conj layout parts))
    (orJoin : ∀ entity indent branches, (∀ c ∈ branches, motive c) →
      motive (.orJoin entity indent branches))
    (notJoin : ∀ entity parts, (∀ c ∈ parts, motive c) → motive (.notJoin entity parts)) :
    motive clause :=
  @Clause.rec motive (fun clauses ↦ ∀ c ∈ clauses, motive c) pattern test regex either conj orJoin
    notJoin (fun _ hc ↦ absurd hc List.not_mem_nil)
    (fun _ _ hhead htail ↦ List.forall_mem_cons.2 ⟨hhead, htail⟩) clause

end Clause

/-- The form of a query. -/
def Query.form (query : Query) : Form := .query query.entity (query.body.map Clause.form)

/-! ## Texts that are read one after the other -/

theorem Reads.list {cs : List Char} {forms : List Form} (h : Reads cs forms) :
    Reads ('(' :: (cs ++ [')'])) [.list forms] :=
  h.enclose .round

theorem Reads.vector {cs : List Char} {forms : List Form} (h : Reads cs forms) :
    Reads ('[' :: (cs ++ [']'])) [.vector forms] :=
  h.enclose .square

/-- Two texts with a blank between them. -/
theorem Reads.space {cs ds : List Char} {forms others : List Form} (h : Reads cs forms)
    (h' : Reads ds others) : Reads (cs ++ ' ' :: ds) (forms ++ others) := by
  have hblank : ∀ c ∈ [' '], Text.isBlank c = true := List.forall_mem_singleton.2 (by decide)
  exact h.separate h' hblank (List.cons_ne_nil _ _)

/-- Two texts with a line feed and some blanks between them. -/
theorem Reads.newLine {cs ds : List Char} {forms others : List Form} (h : Reads cs forms)
    (h' : Reads ds others) (n : Nat) :
    Reads (cs ++ '\n' :: (List.replicate n ' ' ++ ds)) (forms ++ others) := by
  have hblanks : ∀ c ∈ '\n' :: List.replicate n ' ', Text.isBlank c = true := by
    intro c hc
    rcases List.mem_cons.1 hc with rfl | hc
    · decide
    · exact blank_of_mem_replicate hc
  exact h.separate h' hblanks (List.cons_ne_nil _ _)

/-- A row of texts with blanks between them. -/
theorem reads_intercalate {α : Type} {separator : String} {text : α → String} {form : α → Form}
    (hblanks : ∀ c ∈ separator.toList, Text.isBlank c = true) (hne : separator.toList ≠ [])
    {items : List α} (h : ∀ a ∈ items, Reads (text a).toList [form a]) :
    Reads (separator.intercalate (items.map text)).toList (items.map form) := by
  induction items with
  | nil => simpa using Reads.nil
  | cons a items ih =>
    have ha : Reads (text a).toList [form a] := h a List.mem_cons_self
    have hrest := ih fun b hb ↦ h b (List.mem_cons_of_mem a hb)
    cases items with
    | nil => simpa using ha
    | cons b items =>
      rw [List.map_cons, List.map_cons, String.intercalate_cons_cons, ← List.map_cons]
      have hrow := ha.separate hrest hblanks hne
      simpa using hrow

theorem reads_joinLines {α : Type} {text : α → String} {form : α → Form} (n : Nat)
    {items : List α} (h : ∀ a ∈ items, Reads (text a).toList [form a]) :
    Reads (joinLines n (items.map text)).toList (items.map form) := by
  have hseparator : ("\n" ++ spaces n).toList = '\n' :: List.replicate n ' ' := by simp [spaces]
  apply reads_intercalate _ _ h
  · intro c hc
    rw [hseparator] at hc
    rcases List.mem_cons.1 hc with rfl | hc
    · decide
    · exact blank_of_mem_replicate hc
  · rw [hseparator]
    exact List.cons_ne_nil _ _

theorem toList_indentLines (n : Nat) (s : String) :
    (indentLines n s).toList = List.replicate n ' ' ++ indentBreaks n s.toList := by
  simp [indentLines, spaces, indentBreaks]

/-! ## Numbers are words -/

theorem isPlain_of_isAlphanum {c : Char} (h : c.isAlphanum = true) : isPlain c = true := by
  have hascii : ∀ n < 128, (Char.ofNat n).isAlphanum = true → isPlain (Char.ofNat n) = true := by
    decide +kernel
  have hcode : c.toNat < 128 := by
    have hranges : ((65 ≤ c.toNat ∧ c.toNat ≤ 90) ∨ 97 ≤ c.toNat ∧ c.toNat ≤ 122) ∨
        48 ≤ c.toNat ∧ c.toNat ≤ 57 := by
      delta Char.isAlphanum Char.isAlpha Char.isUpper Char.isLower Char.isDigit at h
      simpa [UInt32.le_iff_toNat_le] using h
    omega
  rw [← Char.ofNat_toNat c] at h ⊢
  exact hascii c.toNat hcode h

theorem isPlain_of_mem_toDigits {n : Nat} {c : Char} (h : c ∈ Nat.toDigits 10 n) :
    isPlain c = true :=
  isPlain_of_isAlphanum (by
    simp [Char.isAlphanum, Nat.isDigit_of_mem_toDigits (by decide) (by decide) h])

/-- A decimal without a power of ten holds digits, a point and a minus sign. -/
theorem mem_positional {d : Decimal} {c : Char} (h : c ∈ d.positional) :
    c = '-' ∨ c = '.' ∨ c = '0' ∨ c ∈ Nat.toDigits 10 d.digits := by
  unfold Decimal.positional at h
  grind [List.mem_of_mem_take, List.mem_of_mem_drop]

theorem positional_ne_nil (d : Decimal) : d.positional ≠ [] := by
  have hdigits : Nat.toDigits 10 d.digits ≠ [] := Nat.toDigits_ne_nil
  unfold Decimal.positional
  grind [List.append_eq_nil_iff]

theorem isWord_renderNumber (x : Binary64) : IsWord (renderNumber x) := by
  have hlist : (renderNumber x).toList = (Decimal.shortest .up x).positional := by
    simp [renderNumber]
  constructor
  · intro hempty
    rw [hempty] at hlist
    exact positional_ne_nil _ hlist.symm
  · intro c hc
    rw [hlist] at hc
    rcases mem_positional hc with rfl | rfl | rfl | hdigit
    · decide
    · decide
    · decide
    · exact isPlain_of_mem_toDigits hdigit

theorem isWord_toString (n : Int) : IsWord (toString n) := by
  have hdigits : ∀ m : Nat, IsWord m.repr := by
    intro m
    constructor
    · intro hempty
      have hnil : m.repr.toList = [] := by rw [hempty]; rfl
      rw [Nat.toList_repr] at hnil
      exact Nat.toDigits_ne_nil hnil
    · intro c hc
      rw [Nat.toList_repr] at hc
      exact isPlain_of_mem_toDigits hc
  rw [Int.toString_eq_repr, Int.repr_eq_if]
  split
  · exact hdigits _
  · constructor
    · intro hempty
      simpa using congrArg String.toList hempty
    · intro c hc
      rw [String.toList_append, List.mem_append] at hc
      rcases hc with hsign | hdigit
      · rw [show "-".toList = ['-'] from rfl, List.mem_singleton] at hsign
        rw [hsign]
        decide
      · exact (hdigits _).2 c hdigit

/-! ## Clauses -/

theorem reads_operand {operand : Operand} (h : ∀ w ∈ operand.form.words, IsWord w) :
    Reads operand.render.toList [operand.form] := by
  cases operand with
  | var name => exact reads_word (h name List.mem_cons_self)
  | text content => exact reads_quote content
  | keyword name => exact reads_word (h name List.mem_cons_self)
  | flag value => cases value <;> exact reads_word (by decide)
  | number value => exact reads_word (isWord_renderNumber value)
  | instant milliseconds => exact reads_word (isWord_toString milliseconds)

/-- The words of a clause are words of every row of clauses that it stands in. -/
theorem mem_words_of_mem {clauses : List Clause} {clause : Clause} (hc : clause ∈ clauses)
    {w : String} (hw : w ∈ clause.form.words) :
    w ∈ (clauses.map Clause.form).flatMap Form.words :=
  List.mem_flatMap.2 ⟨clause.form, List.mem_map_of_mem hc, hw⟩

theorem isWord_symbol (predicate : Predicate) : IsWord predicate.symbol := by
  rcases predicate with _ | _ | _ | _ | _ | comparison
  case compare => cases comparison <;> decide
  all_goals decide

/-- A head word with a row of clauses behind it. -/
theorem reads_headed {head : String} (hhead : IsWord head) {row : List Char} {forms : List Form}
    (hrow : Reads row forms) :
    Reads ('(' :: (head.toList ++ ' ' :: row ++ [')'])) [.list (.word head :: forms)] :=
  ((reads_word hhead).space hrow).list

/-- A head word with the entity that is shared, and a row of clauses on new lines. -/
theorem reads_shared {head entity : String} (hhead : IsWord head) (hentity : IsWord entity)
    {row : List Char} {forms : List Form} (hrow : Reads row forms) (n : Nat) :
    Reads ('(' :: (head.toList ++ ' ' :: '[' :: (entity.toList ++ [']']) ++
      '\n' :: (List.replicate n ' ' ++ row) ++ [')']))
      [.list (.word head :: .vector [.word entity] :: forms)] :=
  (((reads_word hhead).space (reads_word hentity).vector).newLine hrow n).list

theorem reads_renderConj (layout : Layout) {parts : List Clause}
    (h : ∀ c ∈ parts, Reads c.render.toList [c.form]) :
    Reads (renderConj layout (parts.map Clause.render)).toList
      [.list (.word "and" :: parts.map Clause.form)] := by
  have hhead : IsWord "and" := by decide
  cases layout with
  | block =>
    have hrow := (reads_joinLines 1 h).indent 2
    simpa [renderConj, toList_indentLines] using ((reads_word hhead).newLine hrow 2).list
  | aligned => simpa [renderConj] using reads_headed hhead (reads_joinLines 7 h)
  | inline =>
    have hblank : ∀ c ∈ " ".toList, Text.isBlank c = true :=
      List.forall_mem_singleton.2 (by decide)
    have hrow := reads_intercalate hblank (by decide) h
    simpa [renderConj] using reads_headed hhead hrow

/-- The text of a clause is read as its form, if the form is made of words. -/
theorem reads_render (clause : Clause) (h : ∀ w ∈ clause.form.words, IsWord w) :
    Reads clause.render.toList [clause.form] := by
  induction clause using Clause.induction with
  | pattern entity attr value =>
    have hentity : Reads entity.toList [.word entity] :=
      reads_word (h entity (by simp))
    have hattr : Reads attr.toList [.word attr] := reads_word (h attr (by simp))
    cases value with
    | none =>
      show Reads ("[" ++ entity ++ " " ++ attr ++ "]").toList _
      simpa using (hentity.space hattr).vector
    | some value =>
      have hvalue : Reads value.render.toList [value.form] :=
        reads_operand fun w hw ↦ h w (by simp [hw])
      show Reads ("[" ++ entity ++ " " ++ attr ++ " " ++ value.render ++ "]").toList _
      simpa using (hentity.space (hattr.space hvalue)).vector
  | test predicate left right =>
    have hleft : Reads left.render.toList [left.form] :=
      reads_operand fun w hw ↦ h w (by simp [hw])
    have hright : Reads right.render.toList [right.form] :=
      reads_operand fun w hw ↦ h w (by simp [hw])
    have hcall := reads_headed (isWord_symbol predicate) (hleft.space hright)
    show Reads ("[(" ++ predicate.symbol ++ " " ++ left.render ++ " " ++ right.render ++
      ")]").toList _
    simpa using hcall.vector
  | regex search bound =>
    have hbound : Reads bound.toList [.word bound] := reads_word (h bound (by simp))
    have hhead : IsWord "re-pattern" := by decide
    have hcall := reads_headed hhead (reads_quote search.source)
    show Reads ("[(re-pattern " ++ Text.Literal.quote search.source ++ ") " ++ bound ++
      "]").toList _
    simpa using (hcall.space hbound).vector
  | either alternatives ih =>
    rw [Clause.words_either, List.forall_mem_cons] at h
    have hparts : ∀ c ∈ alternatives, Reads c.render.toList [c.form] := fun c hc ↦
      ih c hc fun w hw ↦ h.2 w (mem_words_of_mem hc hw)
    show Reads ("(or " ++ joinLines 1 (Clause.renderList alternatives) ++ ")").toList _
    simpa [Clause.renderList_eq_map] using
      reads_headed h.1 (reads_joinLines 1 hparts)
  | conj layout parts ih =>
    rw [Clause.words_conj, List.forall_mem_cons] at h
    have hparts : ∀ c ∈ parts, Reads c.render.toList [c.form] := fun c hc ↦
      ih c hc fun w hw ↦ h.2 w (mem_words_of_mem hc hw)
    show Reads (renderConj layout (Clause.renderList parts)).toList _
    simpa [Clause.renderList_eq_map] using reads_renderConj layout hparts
  | orJoin entity indent branches ih =>
    rw [Clause.words_orJoin, List.forall_mem_cons, List.forall_mem_cons] at h
    obtain ⟨hhead, hentity, hwords⟩ := h
    have hparts : ∀ c ∈ branches, Reads c.render.toList [c.form] := fun c hc ↦
      ih c hc fun w hw ↦ hwords w (mem_words_of_mem hc hw)
    show Reads ("(or-join [" ++ entity ++ "]\n" ++ spaces indent ++
      joinLines indent (Clause.renderList branches) ++ ")").toList _
    simpa [Clause.renderList_eq_map, spaces] using
      reads_shared hhead hentity (reads_joinLines indent hparts) indent
  | notJoin entity parts ih =>
    rw [Clause.words_notJoin, List.forall_mem_cons, List.forall_mem_cons] at h
    obtain ⟨hhead, hentity, hwords⟩ := h
    have hparts : ∀ c ∈ parts, Reads c.render.toList [c.form] := fun c hc ↦
      ih c hc fun w hw ↦ hwords w (mem_words_of_mem hc hw)
    show Reads ("(not-join [" ++ entity ++ "]\n  " ++
      joinLines 1 (Clause.renderList parts) ++ ")").toList _
    simpa [Clause.renderList_eq_map] using
      reads_shared hhead hentity (reads_joinLines 1 hparts) 2

/-- The text of a conjunction is read as the forms of its clauses. -/
theorem reads_renderAll {clauses : List Clause}
    (h : ∀ c ∈ clauses, ∀ w ∈ c.form.words, IsWord w) :
    Reads (Clause.renderAll clauses).toList (clauses.map Clause.form) :=
  reads_joinLines 1 fun c hc ↦ reads_render c (h c hc)

theorem reads_find {query : Query} (hentity : IsWord query.entity) :
    Reads query.find.toList [.list [.word "pull", .word query.entity, .vector [.word "*"]]] := by
  have hall : Reads ['[', '*', ']'] [.vector [.word "*"]] :=
    (reads_word (s := "*") (by decide)).vector
  have hhead : IsWord "pull" := by decide
  have hpull := reads_headed hhead ((reads_word hentity).space hall)
  simpa [Query.find] using hpull

section

variable {query : Query} (hentity : IsWord query.entity)
  (hbody : ∀ c ∈ query.body, ∀ w ∈ c.form.words, IsWord w)

include hentity hbody

/-- The query with its parts on lines of their own, however far these are indented. -/
theorem reads_query (n : Nat) :
    Reads ('[' :: (":find".toList ++ ' ' :: query.find.toList ++ '\n' :: (List.replicate n ' ' ++
      (":where".toList ++ '\n' :: (List.replicate n ' ' ++
        (Clause.renderAll query.body).toList))) ++ [']'])) [query.form] := by
  have hfind := (reads_word (s := ":find") (by decide)).space (reads_find hentity)
  have hwhere := (reads_word (s := ":where") (by decide)).newLine (reads_renderAll hbody) n
  exact (hfind.newLine hwhere n).vector

/-- A query is read to its end as one form. -/
theorem readForms?_raw : readForms? query.raw = some [query.form] := by
  apply Reads.readForms?_eq
  unfold Query.raw
  simpa using reads_query hentity hbody 1

/-- The wrapped query is read to its end as the same form in a map. -/
theorem readForms?_wrapped :
    readForms? query.wrapped = some [.map [.word ":query", query.form]] := by
  have hmap := ((reads_word (s := ":query") (by decide)).newLine (reads_query hentity hbody 2)
    1).enclose .curly
  have htext : query.wrapped.toList = '\x7b' :: (":query".toList ++
      '\n' :: (List.replicate 1 ' ' ++ '[' :: (":find".toList ++ ' ' :: query.find.toList ++
        '\n' :: (List.replicate 2 ' ' ++ (":where".toList ++ '\n' :: (List.replicate 2 ' ' ++
          (Clause.renderAll query.body).toList))) ++ [']'])) ++ ['\x7d']) := by
    unfold Query.wrapped
    simp only [String.toList_append]
    simp
  apply Reads.readForms?_eq
  rw [htext]
  exact hmap

end

end FilterQuery.Datalog
