import FilterQuery.Text.Pattern
import Mathlib.Data.List.Forall2

/-!
# Regular expressions and what they match

A regular expression is read character by character. A backslash before a metacharacter stands for
that character, a character that is none stands for itself, and the other metacharacters build
expressions: the dot, the two anchors, repetitions, branches and groups. Classes, counted
repetitions and the escapes of other characters are refused. The flag `(?i)` in front makes
characters match that differ in case only; which ones these are is left open.

A quoted text is read as the row of its characters, so that it matches these and nothing else.
-/

namespace FilterQuery.Text

/-- The characters that mean something of their own in a regular expression. -/
def metacharacters : List Char :=
  ['^', '$', '\\', '.', '*', '+', '?', '(', ')', '[', ']', '\x7b', '\x7d', '|']

inductive Regex
  | empty
  | char (c : Char)
  | any
  | start
  | stop
  | append (first second : Regex)
  | either (first second : Regex)
  | many (body : Regex)
  | oneOrMore (body : Regex)
  | optional (body : Regex)
deriving DecidableEq, Repr

namespace Regex

/-- Expressions one after the other. -/
def ofParts (parts : List Regex) : Regex := parts.foldr append empty

/-- The characters of a text one after the other. -/
def ofText (cs : List Char) : Regex := ofParts (cs.map char)

theorem ofText_injective : Function.Injective ofText := by
  intro cs ds h
  induction cs generalizing ds with
  | nil =>
    cases ds with
    | nil => rfl
    | cons d ds => cases h
  | cons c cs ih =>
    cases ds with
    | nil => cases h
    | cons d ds =>
      injection h with hchar hrest
      injection hchar with hchar
      rw [hchar, ih hrest]

/-! ## Reading -/

/-- What has been read of an expression: the groups that are open, innermost first, each with the
branches and the parts before it; the finished branches and the parts of the present one; and
whether a backslash came last. -/
structure Draft where
  enclosing : List (List Regex × List Regex)
  branches : List Regex
  parts : List Regex
  isEscaped : Bool
deriving Repr

namespace Draft

def initial : Draft := ⟨[], [], [], false⟩

/-- The expression in the innermost group. -/
def body (draft : Draft) : Regex := draft.branches.foldr either (ofParts draft.parts)

def add (draft : Draft) (part : Regex) : Draft :=
  ⟨draft.enclosing, draft.branches, draft.parts ++ [part], false⟩

/-- Repeats the last part, of which there must be one. -/
def amend? (draft : Draft) (repeated : Regex → Regex) : Option Draft :=
  draft.parts.getLast?.map fun last ↦
    ⟨draft.enclosing, draft.branches, draft.parts.dropLast ++ [repeated last], false⟩

/-- Closes the innermost group, of which there must be one. -/
def close? (draft : Draft) : Option Draft :=
  match draft.enclosing with
  | [] => none
  | (branches, parts) :: enclosing => some ⟨enclosing, branches, parts ++ [draft.body], false⟩

/-- Reads one character. -/
def step (draft : Draft) (c : Char) : Option Draft :=
  if draft.isEscaped then
    if c ∈ metacharacters then some (draft.add (.char c)) else none
  else if c ∉ metacharacters then some (draft.add (.char c))
  else match c with
    | '\\' => some ⟨draft.enclosing, draft.branches, draft.parts, true⟩
    | '.' => some (draft.add .any)
    | '^' => some (draft.add .start)
    | '$' => some (draft.add .stop)
    | '*' => draft.amend? .many
    | '+' => draft.amend? .oneOrMore
    | '?' => draft.amend? .optional
    | '|' => some ⟨draft.enclosing, draft.branches ++ [ofParts draft.parts], [], false⟩
    | '(' => some ⟨(draft.branches, draft.parts) :: draft.enclosing, [], [], false⟩
    | ')' => draft.close?
    | _ => none

def run (draft : Draft) (cs : List Char) : Option Draft := cs.foldlM step draft

/-- The expression that has been read, unless a group or an escape is open. -/
def finish? (draft : Draft) : Option Regex :=
  if draft.enclosing.isEmpty && !draft.isEscaped then some draft.body else none

@[simp] theorem run_nil (draft : Draft) : draft.run [] = some draft := rfl

@[simp] theorem run_cons (draft : Draft) (c : Char) (cs : List Char) :
    draft.run (c :: cs) = (draft.step c).bind (·.run cs) := rfl

theorem run_append (draft : Draft) (cs ds : List Char) :
    draft.run (cs ++ ds) = (draft.run cs).bind (·.run ds) :=
  List.foldlM_append

end Draft

/-- The expression that a text writes. -/
def read? (cs : List Char) : Option Regex := (Draft.initial.run cs).bind Draft.finish?

/-! ## Matching -/

/-- Whether an expression matches a text between what stands before and behind it. -/
inductive Matches (alike : Char → Char → Prop) :
    Regex → List Char → List Char → List Char → Prop
  | empty {before after : List Char} : Matches alike .empty before [] after
  | char {before after : List Char} {c d : Char} (h : alike c d) :
      Matches alike (.char c) before [d] after
  | any {before after : List Char} {d : Char} (h : d ≠ '\n') : Matches alike .any before [d] after
  | start {after : List Char} : Matches alike .start [] [] after
  | stop {before : List Char} : Matches alike .stop before [] []
  | append {first second : Regex} {before found others after : List Char}
      (h : Matches alike first before found (others ++ after))
      (h' : Matches alike second (before ++ found) others after) :
      Matches alike (.append first second) before (found ++ others) after
  | left {first second : Regex} {before found after : List Char}
      (h : Matches alike first before found after) :
      Matches alike (.either first second) before found after
  | right {first second : Regex} {before found after : List Char}
      (h : Matches alike second before found after) :
      Matches alike (.either first second) before found after
  | none {body : Regex} {before after : List Char} : Matches alike (.many body) before [] after
  | more {body : Regex} {before found others after : List Char}
      (h : Matches alike body before found (others ++ after))
      (h' : Matches alike (.many body) (before ++ found) others after) :
      Matches alike (.many body) before (found ++ others) after
  | oneOrMore {body : Regex} {before found after : List Char}
      (h : Matches alike (.append body (.many body)) before found after) :
      Matches alike (.oneOrMore body) before found after
  | skipped {body : Regex} {before after : List Char} :
      Matches alike (.optional body) before [] after
  | present {body : Regex} {before found after : List Char}
      (h : Matches alike body before found after) :
      Matches alike (.optional body) before found after

section

variable {alike : Char → Char → Prop} {before found after : List Char}

theorem matches_empty_iff : Matches alike .empty before found after ↔ found = [] := by
  constructor
  · rintro ⟨⟩
    rfl
  · rintro rfl
    exact .empty

theorem matches_start_iff :
    Matches alike .start before found after ↔ before = [] ∧ found = [] := by
  constructor
  · rintro ⟨⟩
    exact ⟨rfl, rfl⟩
  · rintro ⟨rfl, rfl⟩
    exact .start

theorem matches_stop_iff : Matches alike .stop before found after ↔ found = [] ∧ after = [] := by
  constructor
  · rintro ⟨⟩
    exact ⟨rfl, rfl⟩
  · rintro ⟨rfl, rfl⟩
    exact .stop

theorem matches_char_iff {c : Char} :
    Matches alike (.char c) before found after ↔ ∃ d, found = [d] ∧ alike c d := by
  constructor
  · rintro ⟨⟩
    exact ⟨_, rfl, ‹_›⟩
  · rintro ⟨d, rfl, h⟩
    exact .char h

theorem matches_append_iff {first second : Regex} :
    Matches alike (.append first second) before found after ↔
      ∃ start rest, found = start ++ rest ∧ Matches alike first before start (rest ++ after) ∧
        Matches alike second (before ++ start) rest after := by
  constructor
  · intro h
    cases h with
    | append h h' => exact ⟨_, _, rfl, h, h'⟩
  · rintro ⟨start, rest, rfl, h, h'⟩
    exact .append h h'

/-- The characters of a text match a row of characters that are alike, one by one, and what comes
behind them matches the rest. -/
theorem matches_chars_iff (cs : List Char) {rest : Regex} :
    Matches alike ((cs.map char).foldr append rest) before found after ↔
      ∃ start others, found = start ++ others ∧ List.Forall₂ alike cs start ∧
        Matches alike rest (before ++ start) others after := by
  induction cs generalizing before found with
  | nil => simp
  | cons c cs ih =>
    simp only [List.map_cons, List.foldr_cons, matches_append_iff, matches_char_iff, ih]
    constructor
    · rintro ⟨_, _, rfl, ⟨d, rfl, hd⟩, start, others, rfl, hstart, hothers⟩
      exact ⟨d :: start, others, rfl, .cons hd hstart, by simpa using hothers⟩
    · rintro ⟨_, others, rfl, hstart, hothers⟩
      cases hstart with
      | @cons _ d _ start hd hstart =>
        exact ⟨[d], start ++ others, rfl, ⟨d, rfl, hd⟩, start, others, rfl, hstart,
          by simpa using hothers⟩

/-- A row of characters matches exactly the texts that are alike. -/
theorem matches_ofText_iff (cs : List Char) :
    Matches alike (ofText cs) before found after ↔ List.Forall₂ alike cs found := by
  unfold ofText ofParts
  simp only [matches_chars_iff, matches_empty_iff]
  constructor
  · rintro ⟨start, others, rfl, hstart, rfl⟩
    rwa [List.append_nil]
  · exact fun h ↦ ⟨found, [], (List.append_nil found).symm, h, rfl⟩

/-- Between anchors it matches only the whole of such a text. -/
theorem matches_anchored_iff (cs : List Char) :
    Matches alike (ofParts (start :: (cs.map char ++ [stop]))) before found after ↔
      before = [] ∧ after = [] ∧ List.Forall₂ alike cs found := by
  unfold ofParts
  rw [List.foldr_cons, List.foldr_append, matches_append_iff]
  simp only [matches_start_iff, matches_chars_iff, List.foldr_cons, List.foldr_nil,
    matches_append_iff, matches_stop_iff, matches_empty_iff]
  constructor
  · rintro ⟨_, _, rfl, ⟨rfl, rfl⟩, found, _, rfl, hfound, _, _, rfl, ⟨rfl, hafter⟩, rfl⟩
    exact ⟨rfl, by simpa using hafter, by simpa using hfound⟩
  · rintro ⟨rfl, rfl, hfound⟩
    exact ⟨[], found, rfl, ⟨rfl, rfl⟩, found, [], by simp, hfound, [], [], rfl, ⟨rfl, rfl⟩, rfl⟩

end

/-! ## Quoted texts -/

/-- A quoted character is read as that character. -/
theorem run_spell (enclosing : List (List Regex × List Regex)) (branches parts : List Regex)
    (c : Char) : Draft.run ⟨enclosing, branches, parts, false⟩ (Pattern.spell c) =
      some ⟨enclosing, branches, parts ++ [.char c], false⟩ := by
  have hperm : Pattern.operators.Perm metacharacters := by decide
  have hsame : c ∈ Pattern.operators ↔ c ∈ metacharacters := hperm.mem_iff
  unfold Pattern.spell
  simp only [hsame]
  split
  case isTrue hc =>
    have hescape : Draft.step ⟨enclosing, branches, parts, false⟩ '\\' =
        some ⟨enclosing, branches, parts, true⟩ := rfl
    rw [Draft.run_cons, hescape, Option.bind_some, Draft.run_cons]
    simp [Draft.step, hc, Draft.add]
  case isFalse hc => simp [Draft.step, hc, Draft.add]

theorem run_encode (enclosing : List (List Regex × List Regex)) (branches parts : List Regex)
    (cs : List Char) : Draft.run ⟨enclosing, branches, parts, false⟩ (Pattern.encode cs) =
      some ⟨enclosing, branches, parts ++ cs.map .char, false⟩ := by
  induction cs generalizing parts with
  | nil => simp
  | cons c cs ih =>
    rw [Pattern.encode_cons, Draft.run_append, run_spell, Option.bind_some, ih, List.append_assoc,
      List.map_cons, List.singleton_append]

/-- A quoted text is read as the row of its characters. -/
theorem read?_encode (cs : List Char) : read? (Pattern.encode cs) = some (ofText cs) := by
  rw [read?, Draft.initial, run_encode]
  rfl

theorem read?_anchored (cs : List Char) :
    read? ('^' :: (Pattern.encode cs ++ ['$'])) =
      some (ofParts (start :: (cs.map char ++ [stop]))) := by
  have hstart : Draft.step Draft.initial '^' = some ⟨[], [], [start], false⟩ := rfl
  have hstop (parts : List Regex) : Draft.run ⟨[], [], parts, false⟩ ['$'] =
      some ⟨[], [], parts ++ [stop], false⟩ := rfl
  rw [read?, Draft.run_cons, hstart, Option.bind_some, Draft.run_append, run_encode,
    Option.bind_some, hstop]
  rfl

/-! ## Expressions with their flag -/

/-- An expression, and whether it matches characters that differ in case only. -/
structure Search where
  ignoreCase : Bool
  regex : Regex
deriving DecidableEq, Repr

namespace Search

/-- The expression of a text, behind the flag if the text starts with it. -/
def read? : List Char → Option Search
  | '(' :: '?' :: 'i' :: ')' :: cs => (Regex.read? cs).map (Search.mk true)
  | cs => (Regex.read? cs).map (Search.mk false)

variable (alike : Char → Char → Prop) (search : Search)

/-- Whether two characters match, where `alike` are those that differ in case at most. -/
def Equates (c d : Char) : Prop := if search.ignoreCase then alike c d else c = d

theorem equates_ignoreCase (regex : Regex) : Equates alike ⟨true, regex⟩ = alike := by
  funext c d
  rw [Equates, if_pos rfl]

/-- Whether the expression is found somewhere in a text. -/
def Finds (text : List Char) : Prop :=
  ∃ before found after, text = before ++ found ++ after ∧
    search.regex.Matches (search.Equates alike) before found after

/-- Whether the expression matches the whole of a text. -/
def MatchesWhole (text : List Char) : Prop :=
  search.regex.Matches (search.Equates alike) [] text []

end Search

end Regex

end FilterQuery.Text
