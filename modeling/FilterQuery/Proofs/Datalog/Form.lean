import FilterQuery.Text.Blank
import FilterQuery.Text.Literal

/-!
# Forms and their reader

A query is read as forms: bare words, string literals, and forms between brackets. The reader goes
through a text character by character and keeps the brackets that are still open, so that reading a
text behind another one continues in the state that the first one left. Blanks and commas separate
words and mean nothing else; a backslash outside a literal, a semicolon, an unknown escape, a
bracket that does not match and a text that ends inside a literal or a bracket are refused.

`Reads` says what a text contributes wherever it stands between others. It is kept by indentation,
which is what nested groups do to the text of their clauses.
-/

namespace FilterQuery.Datalog

inductive Bracket
  | round
  | square
  | curly
deriving DecidableEq, Repr

namespace Bracket

def opening : Bracket → Char
  | .round => '('
  | .square => '['
  | .curly => '\x7b'

def closing : Bracket → Char
  | .round => ')'
  | .square => ']'
  | .curly => '\x7d'

def all : List Bracket := [.round, .square, .curly]

end Bracket

inductive Form
  | word (name : String)
  | text (content : String)
  | enclosed (bracket : Bracket) (items : List Form)
deriving Repr

namespace Form

@[match_pattern] abbrev list (items : List Form) : Form := .enclosed .round items

@[match_pattern] abbrev vector (items : List Form) : Form := .enclosed .square items

@[match_pattern] abbrev map (items : List Form) : Form := .enclosed .curly items

end Form

/-! ## The reader -/

/-- The characters that are no blanks and still stand in no word. -/
def delimiters : List Char :=
  [',', ';', '"', '\\', '(', ')', '[', ']', '\x7b', '\x7d']

/-- Whether a character may stand in a word. -/
def isPlain (c : Char) : Bool := !Text.isBlank c && !delimiters.contains c

/-- The character that is written with this one behind a backslash. -/
def unescape? : Char → Option Char
  | '\\' => some '\\'
  | '"' => some '"'
  | 'n' => some '\n'
  | 'r' => some '\r'
  | 't' => some '\t'
  | _ => none

/-- What the reader is in the middle of, with the characters of it that have been read. -/
inductive ReaderMode
  | between
  | word (name : List Char)
  | literal (content : List Char)
  | escape (content : List Char)
deriving DecidableEq, Repr

/-- The open brackets, innermost first, each with the forms before it; the forms behind the
innermost of them; and what is being read. -/
structure Reader where
  enclosing : List (Bracket × List Form)
  forms : List Form
  mode : ReaderMode
deriving Repr

namespace Reader

def initial : Reader := ⟨[], [], .between⟩

/-- The reader behind a word, if it is in the middle of one. -/
def settle (reader : Reader) : Reader :=
  match reader.mode with
  | .word name => ⟨reader.enclosing, reader.forms ++ [.word (String.ofList name)], .between⟩
  | _ => reader

/-- Closes the innermost bracket, which must be of the same kind. -/
def close (reader : Reader) (bracket : Bracket) : Option Reader :=
  match reader.enclosing with
  | [] => none
  | (opened, before) :: rest =>
    if opened = bracket then some ⟨rest, before ++ [.enclosed bracket reader.forms], .between⟩
    else none

/-- Reads a character that stands in no word and in no literal. -/
def delimit (reader : Reader) (c : Char) : Option Reader :=
  if Text.isBlank c || c == ',' then some reader
  else if c = '"' then some ⟨reader.enclosing, reader.forms, .literal []⟩
  else match Bracket.all.find? (·.opening == c), Bracket.all.find? (·.closing == c) with
    | some bracket, _ => some ⟨(bracket, reader.forms) :: reader.enclosing, [], .between⟩
    | none, some bracket => reader.close bracket
    | none, none => none

/-- Reads one character. -/
def step (reader : Reader) (c : Char) : Option Reader :=
  match reader.mode with
  | .between =>
    if isPlain c then some ⟨reader.enclosing, reader.forms, .word [c]⟩ else reader.delimit c
  | .word name =>
    if isPlain c then some ⟨reader.enclosing, reader.forms, .word (name ++ [c])⟩
    else reader.settle.delimit c
  | .literal content =>
    if c = '"' then
      some ⟨reader.enclosing, reader.forms ++ [.text (String.ofList content)], .between⟩
    else if c = '\\' then some ⟨reader.enclosing, reader.forms, .escape content⟩
    else some ⟨reader.enclosing, reader.forms, .literal (content ++ [c])⟩
  | .escape content =>
    (unescape? c).map fun d ↦ ⟨reader.enclosing, reader.forms, .literal (content ++ [d])⟩

def run (reader : Reader) (cs : List Char) : Option Reader := cs.foldlM step reader

/-- The forms that have been read, unless a bracket or a literal is open. -/
def finish (reader : Reader) : Option (List Form) :=
  match reader.settle with
  | ⟨[], forms, .between⟩ => some forms
  | _ => none

@[simp] theorem run_nil (reader : Reader) : reader.run [] = some reader := rfl

@[simp] theorem run_cons (reader : Reader) (c : Char) (cs : List Char) :
    reader.run (c :: cs) = (reader.step c).bind (·.run cs) := rfl

theorem run_append (reader : Reader) (cs ds : List Char) :
    reader.run (cs ++ ds) = (reader.run cs).bind (·.run ds) :=
  List.foldlM_append

end Reader

/-- The forms of a text that is read to its end. -/
def readForms? (s : String) : Option (List Form) := (Reader.initial.run s.toList).bind Reader.finish

/-! ## What a text contributes -/

/-- A text with blanks behind each of its line feeds. -/
def indentBreaks (n : Nat) (cs : List Char) : List Char :=
  cs.flatMap fun c ↦ if c = '\n' then '\n' :: List.replicate n ' ' else [c]

theorem indentBreaks_append (n : Nat) (cs ds : List Char) :
    indentBreaks n (cs ++ ds) = indentBreaks n cs ++ indentBreaks n ds := by
  simp [indentBreaks]

theorem indentBreaks_cons {c : Char} (hc : c ≠ '\n') (n : Nat) (cs : List Char) :
    indentBreaks n (c :: cs) = c :: indentBreaks n cs := by
  simp [indentBreaks, hc]

theorem indentBreaks_lineFeed (n : Nat) (cs : List Char) :
    indentBreaks n ('\n' :: cs) = '\n' :: (List.replicate n ' ' ++ indentBreaks n cs) := by
  simp [indentBreaks]

theorem indentBreaks_of_notMem {cs : List Char} (h : '\n' ∉ cs) (n : Nat) :
    indentBreaks n cs = cs := by
  induction cs with
  | nil => rfl
  | cons c cs ih =>
    rw [List.mem_cons, not_or] at h
    rw [indentBreaks_cons (Ne.symm h.1), ih h.2]

theorem indentBreaks_indentBreaks (n m : Nat) (cs : List Char) :
    indentBreaks n (indentBreaks m cs) = indentBreaks (n + m) cs := by
  induction cs with
  | nil => rfl
  | cons c cs ih =>
    by_cases hc : c = '\n'
    · subst hc
      have hblanks : '\n' ∉ List.replicate m ' ' := by simp
      rw [indentBreaks_lineFeed, indentBreaks_lineFeed, indentBreaks_append,
        indentBreaks_of_notMem hblanks, ih, indentBreaks_lineFeed,
        ← List.replicate_append_replicate, List.append_assoc]
    · rw [indentBreaks_cons hc, indentBreaks_cons hc, indentBreaks_cons hc, ih]

theorem indentBreaks_zero (cs : List Char) : indentBreaks 0 cs = cs := by
  induction cs with
  | nil => rfl
  | cons c cs ih =>
    by_cases hc : c = '\n'
    · rw [hc, indentBreaks_lineFeed, ih]
      rfl
    · rw [indentBreaks_cons hc, ih]

theorem head?_indentBreaks (n : Nat) (cs : List Char) : (indentBreaks n cs).head? = cs.head? := by
  cases cs with
  | nil => rfl
  | cons c cs =>
    by_cases hc : c = '\n'
    · rw [hc, indentBreaks_lineFeed]
      rfl
    · rw [indentBreaks_cons hc]
      rfl

/-- Between other texts, and however it is indented, the text is read as these forms. -/
def Reads (cs : List Char) (forms : List Form) : Prop :=
  ∀ (n : Nat) (enclosing : List (Bracket × List Form)) (before : List Form),
    ((Reader.mk enclosing before .between).run (indentBreaks n cs)).map Reader.settle =
      some ⟨enclosing, before ++ forms, .between⟩

theorem blank_of_mem_replicate {n : Nat} {c : Char} (h : c ∈ List.replicate n ' ') :
    Text.isBlank c = true := by
  rw [List.eq_of_mem_replicate h]
  decide

theorem isPlain_of_isBlank {c : Char} (h : Text.isBlank c = true) : isPlain c = false := by
  simp [isPlain, h]

namespace Reader

/-- A character that stands in no word ends the word before it. -/
theorem step_settle {reader : Reader} (h : reader.settle.mode = .between) {c : Char}
    (hc : isPlain c = false) : reader.settle.step c = reader.step c := by
  obtain ⟨enclosing, forms, mode⟩ := reader
  cases mode with
  | between => rfl
  | word name => simp [settle, step, hc]
  | literal content => cases h
  | escape content => cases h

theorem run_settle {reader : Reader} (h : reader.settle.mode = .between) {cs : List Char}
    (hcs : ∀ c ∈ cs.head?, isPlain c = false) :
    (reader.settle.run cs).map settle = (reader.run cs).map settle := by
  cases cs with
  | nil =>
    obtain ⟨enclosing, forms, mode⟩ := reader
    cases mode <;> rfl
  | cons c cs => rw [run_cons, run_cons, step_settle h (hcs c rfl)]

theorem step_blank {c : Char} (hc : Text.isBlank c = true)
    (enclosing : List (Bracket × List Form)) (forms : List Form) :
    step ⟨enclosing, forms, .between⟩ c = some ⟨enclosing, forms, .between⟩ := by
  simp [step, delimit, isPlain_of_isBlank hc, hc]

theorem run_blanks {cs : List Char} (hcs : ∀ c ∈ cs, Text.isBlank c = true)
    (enclosing : List (Bracket × List Form)) (forms : List Form) :
    run ⟨enclosing, forms, .between⟩ cs = some ⟨enclosing, forms, .between⟩ := by
  induction cs with
  | nil => rfl
  | cons c cs ih =>
    have hc : Text.isBlank c = true := hcs c List.mem_cons_self
    have hrest : ∀ d ∈ cs, Text.isBlank d = true := fun d hd ↦ hcs d (List.mem_cons_of_mem c hd)
    rw [run_cons, step_blank hc, Option.bind_some, ih hrest]

/-- A word goes on over plain characters. -/
theorem run_word {cs : List Char} (hcs : ∀ c ∈ cs, isPlain c = true)
    (enclosing : List (Bracket × List Form)) (forms : List Form) (name : List Char) :
    run ⟨enclosing, forms, .word name⟩ cs = some ⟨enclosing, forms, .word (name ++ cs)⟩ := by
  induction cs generalizing name with
  | nil => simp
  | cons c cs ih =>
    have hc : isPlain c = true := hcs c List.mem_cons_self
    have hrest : ∀ d ∈ cs, isPlain d = true := fun d hd ↦ hcs d (List.mem_cons_of_mem c hd)
    have hstep : step ⟨enclosing, forms, .word name⟩ c =
        some ⟨enclosing, forms, .word (name ++ [c])⟩ := by simp [step, hc]
    rw [run_cons, hstep, Option.bind_some, ih hrest, List.append_assoc, List.singleton_append]

/-- Inside a literal a spelled character is read back as that character. -/
theorem run_spell (enclosing : List (Bracket × List Form)) (forms : List Form)
    (content : List Char) (c : Char) :
    run ⟨enclosing, forms, .literal content⟩ (Text.Literal.spell c) =
      some ⟨enclosing, forms, .literal (content ++ [c])⟩ := by
  unfold Text.Literal.spell
  split <;> simp_all [step, unescape?]

theorem run_encode (enclosing : List (Bracket × List Form)) (forms : List Form)
    (content cs : List Char) :
    run ⟨enclosing, forms, .literal content⟩ (Text.Literal.encode cs) =
      some ⟨enclosing, forms, .literal (content ++ cs)⟩ := by
  induction cs generalizing content with
  | nil => simp
  | cons c cs ih =>
    rw [Text.Literal.encode_cons, run_append, run_spell, Option.bind_some, ih, List.append_assoc,
      List.singleton_append]

end Reader

namespace Reads

variable {cs ds : List Char} {forms others : List Form}

theorem nil : Reads [] [] := by
  intro n enclosing before
  simp [indentBreaks, Reader.settle]

theorem readForms?_eq {s : String} (h : Reads s.toList forms) : readForms? s = some forms := by
  have hrun := h 0 [] []
  rw [indentBreaks_zero, Option.map_eq_some_iff] at hrun
  obtain ⟨reader, hreader, hsettle⟩ := hrun
  unfold readForms? Reader.initial
  rw [hreader, Option.bind_some]
  simp [Reader.finish, hsettle]

/-- A text behind another one adds its forms, if it starts with no character of a word. -/
theorem append (h : Reads cs forms) (h' : Reads ds others)
    (hstart : ∀ d ∈ ds.head?, isPlain d = false) : Reads (cs ++ ds) (forms ++ others) := by
  intro n enclosing before
  obtain ⟨reader, hreader, hsettle⟩ := Option.map_eq_some_iff.1 (h n enclosing before)
  have hbetween : reader.settle.mode = .between := by rw [hsettle]
  rw [← head?_indentBreaks n] at hstart
  calc (Reader.run ⟨enclosing, before, .between⟩ (indentBreaks n (cs ++ ds))).map Reader.settle
    _ = (reader.run (indentBreaks n ds)).map Reader.settle := by
      rw [indentBreaks_append, Reader.run_append, hreader, Option.bind_some]
    _ = (reader.settle.run (indentBreaks n ds)).map Reader.settle :=
      (Reader.run_settle hbetween hstart).symm
    _ = some ⟨enclosing, before ++ (forms ++ others), .between⟩ := by
      rw [hsettle, h' n enclosing (before ++ forms), List.append_assoc]

theorem blank_cons (h : Reads cs forms) {c : Char} (hc : Text.isBlank c = true) :
    Reads (c :: cs) forms := by
  intro n enclosing before
  rw [← h n enclosing before]
  by_cases hfeed : c = '\n'
  · have hblanks : ∀ d ∈ List.replicate n ' ', Text.isBlank d = true :=
      fun d hd ↦ blank_of_mem_replicate hd
    subst hfeed
    rw [indentBreaks_lineFeed, Reader.run_cons, Reader.step_blank hc, Option.bind_some,
      Reader.run_append, Reader.run_blanks hblanks, Option.bind_some]
  · rw [indentBreaks_cons hfeed, Reader.run_cons, Reader.step_blank hc, Option.bind_some]

theorem blanks_append {blanks : List Char} (hblanks : ∀ c ∈ blanks, Text.isBlank c = true)
    (h : Reads cs forms) : Reads (blanks ++ cs) forms := by
  induction blanks with
  | nil => exact h
  | cons c blanks ih =>
    have hrest := ih fun d hd ↦ hblanks d (List.mem_cons_of_mem c hd)
    exact hrest.blank_cons (hblanks c List.mem_cons_self)

/-- Two texts with blanks between them are read one after the other. -/
theorem separate (h : Reads cs forms) (h' : Reads ds others) {blanks : List Char}
    (hblanks : ∀ c ∈ blanks, Text.isBlank c = true) (hne : blanks ≠ []) :
    Reads (cs ++ (blanks ++ ds)) (forms ++ others) := by
  apply h.append (blanks_append hblanks h')
  intro d hd
  obtain ⟨c, rest, rfl⟩ := List.exists_cons_of_ne_nil hne
  cases hd
  exact isPlain_of_isBlank (hblanks _ List.mem_cons_self)

theorem indent (h : Reads cs forms) (n : Nat) : Reads (indentBreaks n cs) forms := by
  intro m enclosing before
  rw [indentBreaks_indentBreaks]
  exact h (m + n) enclosing before

theorem enclose (h : Reads cs forms) (bracket : Bracket) :
    Reads (bracket.opening :: (cs ++ [bracket.closing])) [.enclosed bracket forms] := by
  intro n enclosing before
  have hopen : Reader.step ⟨enclosing, before, .between⟩ bracket.opening =
      some ⟨(bracket, before) :: enclosing, [], .between⟩ := by
    cases bracket <;> rfl
  have hclose : Reader.step ⟨(bracket, before) :: enclosing, forms, .between⟩ bracket.closing =
      some ⟨enclosing, before ++ [.enclosed bracket forms], .between⟩ := by
    cases bracket <;> rfl
  have hplain : isPlain bracket.closing = false := by cases bracket <;> decide
  have hbreak : bracket.opening ≠ '\n' ∧ '\n' ∉ [bracket.closing] := by cases bracket <;> decide
  obtain ⟨reader, hreader, hsettle⟩ :=
    Option.map_eq_some_iff.1 (h n ((bracket, before) :: enclosing) [])
  have hbetween : reader.settle.mode = .between := by rw [hsettle]
  rw [indentBreaks_cons hbreak.1, indentBreaks_append, indentBreaks_of_notMem hbreak.2]
  calc (Reader.run ⟨enclosing, before, .between⟩
      (bracket.opening :: (indentBreaks n cs ++ [bracket.closing]))).map Reader.settle
    _ = (Reader.run ⟨(bracket, before) :: enclosing, [], .between⟩
        (indentBreaks n cs ++ [bracket.closing])).map Reader.settle := by
      rw [Reader.run_cons, hopen, Option.bind_some]
    _ = (reader.run [bracket.closing]).map Reader.settle := by
      rw [Reader.run_append, hreader, Option.bind_some]
    _ = (reader.settle.run [bracket.closing]).map Reader.settle := by
      rw [Reader.run_cons, Reader.run_cons, Reader.step_settle hbetween hplain]
    _ = some ⟨enclosing, before ++ [.enclosed bracket forms], .between⟩ := by
      rw [hsettle, List.nil_append, Reader.run_cons, hclose]
      rfl

end Reads

/-- A text that is read as a single word. -/
def IsWord (s : String) : Prop := s ≠ "" ∧ ∀ c ∈ s.toList, isPlain c = true

instance (s : String) : Decidable (IsWord s) :=
  decidable_of_iff (s ≠ "" ∧ s.toList.all isPlain = true) (and_congr_right' List.all_eq_true)

theorem reads_word {s : String} (h : IsWord s) : Reads s.toList [.word s] := by
  intro n enclosing before
  obtain ⟨hne, hplain⟩ := h
  have hbreak : '\n' ∉ s.toList := fun hmem ↦ absurd (hplain _ hmem) (by decide)
  rw [indentBreaks_of_notMem hbreak]
  obtain ⟨c, cs, hcs⟩ : ∃ c cs, s.toList = c :: cs :=
    List.exists_cons_of_ne_nil fun hnil ↦ hne (String.toList_eq_nil_iff.1 hnil)
  rw [hcs] at hplain ⊢
  have hc : isPlain c = true := hplain c List.mem_cons_self
  have hrest : ∀ d ∈ cs, isPlain d = true := fun d hd ↦ hplain d (List.mem_cons_of_mem c hd)
  have hstep : Reader.step ⟨enclosing, before, .between⟩ c =
      some ⟨enclosing, before, .word [c]⟩ := by simp [Reader.step, hc]
  have hname : String.ofList (c :: cs) = s := by rw [← hcs, String.ofList_toList]
  rw [Reader.run_cons, hstep, Option.bind_some, Reader.run_word hrest, List.singleton_append,
    Option.map_some]
  simp only [Reader.settle, hname]

theorem lineFeed_notMem_encode (cs : List Char) : '\n' ∉ Text.Literal.encode cs := by
  induction cs with
  | nil => simp
  | cons c cs ih =>
    rw [Text.Literal.encode_cons, List.mem_append, not_or]
    refine ⟨?_, ih⟩
    unfold Text.Literal.spell
    split <;> simp_all [Ne.symm]

/-- A literal is read as its text, whatever the text is. -/
theorem reads_quote (s : String) : Reads (Text.Literal.quote s).toList [.text s] := by
  intro n enclosing before
  have hquote : (Text.Literal.quote s).toList =
      '"' :: (Text.Literal.encode s.toList ++ ['"']) := by
    simp [Text.Literal.quote, Text.Literal.escape]
  have hbreak : '\n' ∉ '"' :: (Text.Literal.encode s.toList ++ ['"']) := by
    simp [lineFeed_notMem_encode]
  have hopen : Reader.step ⟨enclosing, before, .between⟩ '"' =
      some ⟨enclosing, before, .literal []⟩ := rfl
  have hclose : Reader.step ⟨enclosing, before, .literal s.toList⟩ '"' =
      some ⟨enclosing, before ++ [.text s], .between⟩ := by simp [Reader.step]
  rw [hquote, indentBreaks_of_notMem hbreak, Reader.run_cons, hopen, Option.bind_some,
    Reader.run_append, Reader.run_encode, Option.bind_some, List.nil_append, Reader.run_cons,
    hclose]
  rfl

end FilterQuery.Datalog
