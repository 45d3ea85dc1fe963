import FilterQuery.Proofs.Datalog.Printing

/-!
# What attributes do to the text of a clause

The words that a reader finds hold neither blanks nor delimiters. So a clause whose form has another
word is not read as that form: the text is split at the blank or the delimiter, or not read at all.
Where all words but the attributes are known to be words, the text of some clauses is therefore read
as their forms exactly if each of their attributes is a word.
-/

namespace FilterQuery.Datalog

/-! ## The words that a reader finds -/

/-- The reader has found nothing but words, and is in the middle of a word at most. -/
structure Reader.HoldsWords (reader : Reader) : Prop where
  enclosing : ∀ entry ∈ reader.enclosing, ∀ form ∈ entry.2, ∀ w ∈ form.words, IsWord w
  forms : ∀ form ∈ reader.forms, ∀ w ∈ form.words, IsWord w
  mode : ∀ name, reader.mode = .word name → name ≠ [] ∧ ∀ c ∈ name, isPlain c = true

namespace Reader.HoldsWords

variable {reader reader' : Reader}

theorem initial : Reader.initial.HoldsWords where
  enclosing := nofun
  forms := nofun
  mode := nofun

/-- Anything else that the reader may be in the middle of. -/
theorem withMode (h : reader.HoldsWords) {mode : ReaderMode}
    (hmode : ∀ name, mode = .word name → name ≠ [] ∧ ∀ c ∈ name, isPlain c = true) :
    (Reader.mk reader.enclosing reader.forms mode).HoldsWords :=
  ⟨h.enclosing, h.forms, hmode⟩

/-- Another form behind those that have been read. -/
theorem push (h : reader.HoldsWords) {form : Form} (hform : ∀ w ∈ form.words, IsWord w) :
    (Reader.mk reader.enclosing (reader.forms ++ [form]) .between).HoldsWords :=
  ⟨h.enclosing, List.forall_mem_append.2 ⟨h.forms, List.forall_mem_singleton.2 hform⟩, nofun⟩

theorem settle (h : reader.HoldsWords) : reader.settle.HoldsWords := by
  obtain ⟨enclosing, forms, mode⟩ := reader
  cases mode with
  | word name =>
    obtain ⟨hne, hplain⟩ := h.mode name rfl
    have hword : IsWord (String.ofList name) := by
      refine ⟨fun hempty ↦ hne ?_, by rwa [String.toList_ofList]⟩
      rw [← String.toList_ofList (l := name), hempty]
      rfl
    have hform : ∀ w ∈ (Form.word (String.ofList name)).words, IsWord w :=
      List.forall_mem_singleton.2 hword
    exact h.push hform
  | _ => exact h

theorem close (h : reader.HoldsWords) {bracket : Bracket}
    (hclose : reader.close bracket = some reader') : reader'.HoldsWords := by
  obtain ⟨enclosing, forms, mode⟩ := reader
  unfold Reader.close at hclose
  split at hclose
  case h_1 => cases hclose
  case h_2 opened before rest henclosing =>
    obtain rfl : enclosing = (opened, before) :: rest := henclosing
    obtain ⟨hbefore, hrest⟩ := List.forall_mem_cons.1 h.enclosing
    have houter : (Reader.mk rest before .between).HoldsWords := ⟨hrest, hbefore, nofun⟩
    split at hclose
    case isTrue =>
      cases hclose
      refine houter.push ?_
      rw [Form.words_enclosed, List.forall_mem_flatMap]
      exact h.forms
    case isFalse => cases hclose

theorem delimit (h : reader.HoldsWords) {c : Char} (hdelimit : reader.delimit c = some reader') :
    reader'.HoldsWords := by
  unfold Reader.delimit at hdelimit
  split at hdelimit
  · cases hdelimit
    exact h
  · split at hdelimit
    · cases hdelimit
      exact h.withMode nofun
    · split at hdelimit
      · cases hdelimit
        exact ⟨List.forall_mem_cons.2 ⟨h.forms, h.enclosing⟩, nofun, nofun⟩
      · exact h.close hdelimit
      · cases hdelimit

/-- Reading a character keeps it so. -/
theorem step (h : reader.HoldsWords) {c : Char} (hstep : reader.step c = some reader') :
    reader'.HoldsWords := by
  unfold Reader.step at hstep
  split at hstep
  case h_1 =>
    split at hstep
    case isTrue hplain =>
      cases hstep
      refine h.withMode fun name hname ↦ ?_
      cases hname
      exact ⟨List.cons_ne_nil c [], List.forall_mem_singleton.2 hplain⟩
    case isFalse => exact h.delimit hstep
  case h_2 name hmode =>
    split at hstep
    case isTrue hplain =>
      cases hstep
      refine h.withMode fun name hname ↦ ?_
      cases hname
      exact ⟨by simp, List.forall_mem_append.2
        ⟨(h.mode _ hmode).2, List.forall_mem_singleton.2 hplain⟩⟩
    case isFalse => exact h.settle.delimit hstep
  case h_3 content _ =>
    split at hstep
    · cases hstep
      exact h.push nofun
    · split at hstep <;> cases hstep <;> exact h.withMode nofun
  case h_4 content _ =>
    obtain ⟨d, -, rfl⟩ := Option.map_eq_some_iff.1 hstep
    exact h.withMode nofun

theorem run (h : reader.HoldsWords) {cs : List Char} (hrun : reader.run cs = some reader') :
    reader'.HoldsWords := by
  induction cs generalizing reader with
  | nil =>
    cases hrun
    exact h
  | cons c cs ih =>
    rw [Reader.run_cons] at hrun
    obtain ⟨next, hstep, hrest⟩ := Option.bind_eq_some_iff.1 hrun
    exact ih (h.step hstep) hrest

end Reader.HoldsWords

/-- Whatever the text, the words of its forms are words. -/
theorem isWord_of_readForms? {s : String} {forms : List Form} (h : readForms? s = some forms) :
    ∀ form ∈ forms, ∀ w ∈ form.words, IsWord w := by
  obtain ⟨reader, hrun, hfinish⟩ := Option.bind_eq_some_iff.1 h
  have hwords := (Reader.HoldsWords.initial.run hrun).settle
  unfold Reader.finish at hfinish
  split at hfinish
  case h_1 found hsettle =>
    cases hfinish
    rw [hsettle] at hwords
    exact hwords.forms
  case h_2 => cases hfinish

/-! ## Attributes -/

namespace Clause

mutual

/-- The attributes of the data patterns in a clause, from left to right. -/
def attributes : Clause → List String
  | .pattern _ attr _ => [attr]
  | .test .. => []
  | .regex .. => []
  | .either alternatives => attributesList alternatives
  | .conj _ parts => attributesList parts
  | .orJoin _ _ branches => attributesList branches
  | .notJoin _ parts => attributesList parts

def attributesList : List Clause → List String
  | [] => []
  | clause :: clauses => clause.attributes ++ attributesList clauses

end

theorem attributesList_eq_flatMap (clauses : List Clause) :
    attributesList clauses = clauses.flatMap attributes := by
  induction clauses with
  | nil => rfl
  | cons clause clauses ih => rw [attributesList, ih, List.flatMap_cons]

@[simp] theorem attributes_either (alternatives : List Clause) :
    (either alternatives).attributes = alternatives.flatMap attributes :=
  attributesList_eq_flatMap alternatives

@[simp] theorem attributes_conj (layout : Layout) (parts : List Clause) :
    (conj layout parts).attributes = parts.flatMap attributes :=
  attributesList_eq_flatMap parts

@[simp] theorem attributes_orJoin (entity : String) (indent : Nat) (branches : List Clause) :
    (orJoin entity indent branches).attributes = branches.flatMap attributes :=
  attributesList_eq_flatMap branches

@[simp] theorem attributes_notJoin (entity : String) (parts : List Clause) :
    (notJoin entity parts).attributes = parts.flatMap attributes :=
  attributesList_eq_flatMap parts

theorem mem_words_of_mem_attributes {clause : Clause} {attr : String}
    (h : attr ∈ clause.attributes) : attr ∈ clause.form.words := by
  have hparts {parts : List Clause}
      (ih : ∀ c ∈ parts, attr ∈ c.attributes → attr ∈ c.form.words)
      (h : attr ∈ parts.flatMap attributes) : attr ∈ (parts.map form).flatMap Form.words := by
    obtain ⟨c, hc, hattr⟩ := List.mem_flatMap.1 h
    exact mem_words_of_mem hc (ih c hc hattr)
  induction clause using Clause.induction with
  | pattern entity name value =>
    obtain rfl := List.mem_singleton.1 h
    simp [form]
  | test => cases h
  | regex => cases h
  | either alternatives ih =>
    rw [words_either]
    exact List.mem_cons_of_mem _ (hparts ih (attributes_either _ ▸ h))
  | conj layout parts ih =>
    rw [words_conj]
    exact List.mem_cons_of_mem _ (hparts ih (attributes_conj _ _ ▸ h))
  | orJoin entity indent branches ih =>
    rw [words_orJoin]
    exact List.mem_cons_of_mem _
      (List.mem_cons_of_mem _ (hparts ih (attributes_orJoin _ _ _ ▸ h)))
  | notJoin entity parts ih =>
    rw [words_notJoin]
    exact List.mem_cons_of_mem _ (List.mem_cons_of_mem _ (hparts ih (attributes_notJoin _ _ ▸ h)))

/-- The attributes of a clause are among those that are allowed, and all of its other words are
words. -/
structure FramedBy (allowed : String → Prop) (clause : Clause) : Prop where
  attributes : ∀ attr ∈ clause.attributes, allowed attr
  words : ∀ w ∈ clause.form.words, w ∈ clause.attributes ∨ IsWord w

section

variable {allowed : String → Prop} {entity attr : String}

theorem FramedBy.mono {larger : String → Prop} {clause : Clause} (h : clause.FramedBy allowed)
    (hlarger : ∀ attr, allowed attr → larger attr) : clause.FramedBy larger :=
  ⟨fun attr hattr ↦ hlarger attr (h.attributes attr hattr), h.words⟩

theorem framedBy_exists (hentity : IsWord entity) (hattr : allowed attr) :
    (pattern entity attr none).FramedBy allowed where
  attributes := List.forall_mem_singleton.2 hattr
  words := by
    intro w hw
    have hcases : w = entity ∨ w = attr := by simpa [form] using hw
    rcases hcases with rfl | rfl
    · exact .inr hentity
    · exact .inl List.mem_cons_self

theorem framedBy_pattern {value : Operand} (hentity : IsWord entity) (hattr : allowed attr)
    (hvalue : ∀ w ∈ value.form.words, IsWord w) :
    (pattern entity attr (some value)).FramedBy allowed where
  attributes := List.forall_mem_singleton.2 hattr
  words := by
    intro w hw
    have hcases : w = entity ∨ w = attr ∨ w ∈ value.form.words := by simpa [form] using hw
    rcases hcases with rfl | rfl | hmem
    · exact .inr hentity
    · exact .inl List.mem_cons_self
    · exact .inr (hvalue w hmem)

theorem framedBy_test {predicate : Predicate} {left right : Operand}
    (hleft : ∀ w ∈ left.form.words, IsWord w) (hright : ∀ w ∈ right.form.words, IsWord w) :
    (test predicate left right).FramedBy allowed where
  attributes := nofun
  words := by
    intro w hw
    have hcases : w = predicate.symbol ∨ w ∈ left.form.words ∨ w ∈ right.form.words := by
      simpa [form] using hw
    rcases hcases with rfl | hmem | hmem
    · exact .inr (isWord_symbol predicate)
    · exact .inr (hleft w hmem)
    · exact .inr (hright w hmem)

theorem framedBy_regex {search : SearchPattern} {bound : String} (hbound : IsWord bound) :
    (regex search bound).FramedBy allowed where
  attributes := nofun
  words := by
    intro w hw
    have hcases : w = "re-pattern" ∨ w = bound := by simpa [form] using hw
    rcases hcases with rfl | rfl
    · exact .inr (by decide)
    · exact .inr hbound

/-- A clause that is made of others, with some words before them. -/
theorem framedBy_of_parts {clause : Clause} {parts : List Clause} {heads : List String}
    (hwords : clause.form.words = heads ++ (parts.map form).flatMap Form.words)
    (hattributes : clause.attributes = parts.flatMap Clause.attributes)
    (hheads : ∀ w ∈ heads, IsWord w) (h : ∀ c ∈ parts, c.FramedBy allowed) :
    clause.FramedBy allowed where
  attributes := by
    rw [hattributes, List.forall_mem_flatMap]
    exact fun c hc ↦ (h c hc).attributes
  words := by
    rw [hwords, hattributes]
    intro w hw
    rcases List.mem_append.1 hw with hhead | hpart
    · exact .inr (hheads w hhead)
    · obtain ⟨_, hform, hmem⟩ := List.mem_flatMap.1 hpart
      obtain ⟨c, hc, rfl⟩ := List.mem_map.1 hform
      exact ((h c hc).words w hmem).imp_left fun hattr ↦ List.mem_flatMap.2 ⟨c, hc, hattr⟩

theorem framedBy_either {alternatives : List Clause}
    (h : ∀ c ∈ alternatives, c.FramedBy allowed) : (either alternatives).FramedBy allowed :=
  framedBy_of_parts (words_either _) (attributes_either _)
    (List.forall_mem_singleton.2 (by decide)) h

theorem framedBy_conj {layout : Layout} {parts : List Clause}
    (h : ∀ c ∈ parts, c.FramedBy allowed) : (conj layout parts).FramedBy allowed :=
  framedBy_of_parts (words_conj _ _) (attributes_conj _ _)
    (List.forall_mem_singleton.2 (by decide)) h

theorem framedBy_orJoin {indent : Nat} {branches : List Clause} (hentity : IsWord entity)
    (h : ∀ c ∈ branches, c.FramedBy allowed) :
    (orJoin entity indent branches).FramedBy allowed := by
  have hheads : ∀ w ∈ ["or-join", entity], IsWord w :=
    List.forall_mem_cons.2 ⟨by decide, List.forall_mem_singleton.2 hentity⟩
  exact framedBy_of_parts (words_orJoin _ _ _) (attributes_orJoin _ _ _) hheads h

theorem framedBy_notJoin {parts : List Clause} (hentity : IsWord entity)
    (h : ∀ c ∈ parts, c.FramedBy allowed) : (notJoin entity parts).FramedBy allowed := by
  have hheads : ∀ w ∈ ["not-join", entity], IsWord w :=
    List.forall_mem_cons.2 ⟨by decide, List.forall_mem_singleton.2 hentity⟩
  exact framedBy_of_parts (words_notJoin _ _) (attributes_notJoin _ _) hheads h

end

/-! ## Reading clauses -/

variable {allowed : String → Prop} {clauses : List Clause}

/-- All words of framed clauses are words exactly if their attributes are. -/
theorem forall_isWord_iff (h : ∀ c ∈ clauses, c.FramedBy allowed) :
    (∀ c ∈ clauses, ∀ w ∈ c.form.words, IsWord w) ↔
      ∀ attr ∈ clauses.flatMap Clause.attributes, IsWord attr := by
  constructor
  · intro hwords attr hattr
    obtain ⟨c, hc, hmem⟩ := List.mem_flatMap.1 hattr
    exact hwords c hc attr (mem_words_of_mem_attributes hmem)
  · intro hattributes c hc w hw
    rcases (h c hc).words w hw with hattr | hword
    · exact hattributes w (List.mem_flatMap.2 ⟨c, hc, hattr⟩)
    · exact hword

/-- The text of framed clauses is read as their forms exactly if their attributes are words. -/
theorem readForms?_renderAll_iff (h : ∀ c ∈ clauses, c.FramedBy allowed) :
    readForms? (renderAll clauses) = some (clauses.map form) ↔
      ∀ attr ∈ clauses.flatMap Clause.attributes, IsWord attr := by
  rw [← forall_isWord_iff h]
  constructor
  · intro hread c hc
    exact isWord_of_readForms? hread c.form (List.mem_map_of_mem hc)
  · exact fun hwords ↦ (reads_renderAll hwords).readForms?_eq

end Clause

section

variable {query : Query}

theorem mem_words_query {c : Clause} (hc : c ∈ query.body) {w : String} (hw : w ∈ c.form.words) :
    w ∈ query.form.words := by
  have hbody : w ∈ (query.body.map Clause.form).flatMap Form.words := mem_words_of_mem hc hw
  simp only [Query.form, Form.query, Form.words_enclosed, List.flatMap_cons, List.mem_append]
  exact .inr (.inr (.inr hbody))

variable {allowed : String → Prop} (hentity : IsWord query.entity)
  (h : ∀ c ∈ query.body, c.FramedBy allowed)

include hentity h

/-- A query is read as its form exactly if its attributes are words. -/
theorem readForms?_raw_iff : readForms? query.raw = some [query.form] ↔
    ∀ attr ∈ query.body.flatMap Clause.attributes, IsWord attr := by
  rw [← Clause.forall_isWord_iff h]
  constructor
  · intro hread c hc w hw
    exact isWord_of_readForms? hread query.form List.mem_cons_self w (mem_words_query hc hw)
  · exact readForms?_raw hentity

theorem readForms?_wrapped_iff :
    readForms? query.wrapped = some [.map [.word ":query", query.form]] ↔
      ∀ attr ∈ query.body.flatMap Clause.attributes, IsWord attr := by
  rw [← Clause.forall_isWord_iff h]
  constructor
  · intro hread c hc w hw
    refine isWord_of_readForms? hread _ List.mem_cons_self w ?_
    simp [mem_words_query hc hw]
  · exact readForms?_wrapped hentity

end

end FilterQuery.Datalog
