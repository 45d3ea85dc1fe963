import FilterQuery.Proofs.Json.Faults
import FilterQuery.Session.Command

/-!
# Lines of a session

The first word of a line decides what is done with it, and only the line itself decides what it
prints. So a session prints what its lines print one by one, a line that fails adds a line of
report, and a tree is compiled alike as an argument, from a file that a line loads and as a line.
-/

namespace FilterQuery.Session

open Text (behindWord firstWord isBlank trim)

/-! ## Commands -/

namespace Command

/-- The first word decides; blanks at the ends of a line and of a path do not count. -/
theorem ofLine_eq (line : String) :
    ofLine line =
      if firstWord line = "" then .nothing
      else if firstWord line = ":quit" ∨ firstWord line = ":q" then .quit
      else if firstWord line = ":help" then .help
      else if firstWord line = ":load" then .load (trim (behindWord line))
      else .tree (trim line) := by
  simp only [ofLine, Text.trim_eq_empty_iff, Text.splitWord_trim_fst,
    Text.trim_splitWord_trim_snd]

theorem ofLine_congr {line line' : String} (h : trim line = trim line') :
    ofLine line = ofLine line' := by
  simp only [ofLine, h]

/-- The words that are commands, behind the empty one. -/
def words : List String := ["", ":quit", ":q", ":help", ":load"]

theorem ofLine_of_notMem {line : String} (h : firstWord line ∉ words) :
    ofLine line = .tree (trim line) := by
  simp only [words, List.mem_cons, List.not_mem_nil, or_false, not_or] at h
  obtain ⟨hblank, hquit, hq, hhelp, hload⟩ := h
  rw [ofLine_eq, if_neg hblank, if_neg (not_or.2 ⟨hquit, hq⟩), if_neg hhelp, if_neg hload]

/-- No command starts with anything but a colon. -/
theorem ofLine_of_trim {line : String} {c : Char} {cs : List Char}
    (htrim : (trim line).toList = c :: cs) (hc : isBlank c = false) (hcolon : c ≠ ':') :
    ofLine line = .tree (trim line) := by
  have hhead : (firstWord line).toList.head? = some c := by
    rw [← Text.splitWord_trim_fst, Text.splitWord, htrim]
    simp [hc]
  have hcolons : ∀ word ∈ words, word.toList.head? = none ∨ word.toList.head? = some ':' := by
    decide
  apply ofLine_of_notMem
  intro hmem
  rcases hcolons _ hmem with hnone | hsome
  · rw [hhead] at hnone
    cases hnone
  · rw [hhead] at hsome
    exact hcolon (Option.some.inj hsome)

theorem ofLine_load {before gap path after : List Char} (hbefore : ∀ c ∈ before, isBlank c = true)
    (hgap : ∀ c ∈ gap, isBlank c = true) (hne : gap ≠ [])
    (hafter : ∀ c ∈ after, isBlank c = true)
    (hpath : trim (String.ofList path) = String.ofList path) :
    ofLine (String.ofList (before ++ (":load".toList ++ (gap ++ (path ++ after))))) =
      .load (String.ofList path) := by
  have hrest : ∀ c ∈ (gap ++ (path ++ after)).head?, isBlank c = true := by
    intro c hc
    rw [List.head?_append_of_ne_nil _ hne] at hc
    exact hgap c (List.mem_of_mem_head? hc)
  have hload : ∀ c ∈ ":load".toList, isBlank c = false := by
    have hall : (":load".toList.all fun c ↦ !isBlank c) = true := by decide
    simpa using List.all_eq_true.1 hall
  obtain ⟨hword, hbehind⟩ := Text.firstWord_append hbefore (by decide) hload hrest
  have htrim : trim (String.ofList (gap ++ (path ++ after))) = String.ofList path := by
    have hblanks := Calendar.trim_blanks hgap hafter (String.ofList path)
    rwa [String.toList_ofList, hpath] at hblanks
  rw [ofLine_eq, hword, hbehind, htrim]
  rfl

theorem ofLine_eq_quit_iff (line : String) :
    ofLine line = .quit ↔ firstWord line = ":quit" ∨ firstWord line = ":q" := by
  rw [ofLine_eq]
  split_ifs with hblank hquit
  · simp [hblank]
  · simp [hquit]
  all_goals simp [hquit]

end Command

/-- Lines that fail: what they load cannot be read or is no JSON, or they are no JSON themselves. -/
inductive Fails (files : Files) (line : String) : Failure → Prop
  | unreadable {path : String} {reason : ReadFailure} (hword : firstWord line = ":load")
      (hpath : path = trim (behindWord line)) (hfile : files path = .error reason) :
      Fails files line ⟨"无法读取文件 " ++ path, reason.message⟩
  | malformedFile {source : String} {error : Json.ReadError} (hword : firstWord line = ":load")
      (hfile : files (trim (behindWord line)) = .ok source)
      (hsource : Json.parse source = .error error) :
      Fails files line ⟨"无法解析过滤树 JSON", error.message⟩
  | malformedLine {error : Json.ReadError} (hword : firstWord line ∉ Command.words)
      (hsource : Json.parse (trim line) = .error error) :
      Fails files line ⟨"无法解析过滤树 JSON", error.message⟩

theorem compileText_of_parse {source : String} {value : Json} (h : Json.parse source = .ok value)
    (compiler : SessionCompiler) :
    compileText compiler source = .ok (queryReport (compiler.compile (Node.read value)).value) := by
  rw [compileText, Node.parse, h]
  rfl

theorem compileFile_of_parse {files : Files} {path source : String} {value : Json}
    (hfile : files path = .ok source) (h : Json.parse source = .ok value)
    (compiler : SessionCompiler) :
    compileFile compiler path (files path) =
      .ok (queryReport (compiler.compile (Node.read value)).value) := by
  rw [hfile]
  exact compileText_of_parse h compiler

theorem compileText_eq_error_iff {compiler : SessionCompiler} {source : String}
    {failure : Failure} :
    compileText compiler source = .error failure ↔
      ∃ error, Json.parse source = .error error ∧
        failure = ⟨"无法解析过滤树 JSON", error.message⟩ := by
  cases h : Json.parse source with
  | ok value =>
    rw [compileText_of_parse h]
    simp
  | error error =>
    have hfailed : compileText compiler source = .error ⟨"无法解析过滤树 JSON", error.message⟩ := by
      rw [compileText, Node.parse, h]
      rfl
    rw [hfailed]
    simp [eq_comm]

theorem output_eq_error_iff {compiler : SessionCompiler} {files : Files} {line : String}
    {failure : Failure} :
    (Command.ofLine line).output compiler files = .error failure ↔ Fails files line failure := by
  constructor
  · intro h
    rw [Command.ofLine_eq] at h
    split_ifs at h with hblank hquit hhelp hload
    · cases h
    · cases h
    · cases h
    · cases hfile : files (trim (behindWord line)) with
      | ok source =>
        simp only [Command.output, compileFile, hfile] at h
        obtain ⟨error, hsource, rfl⟩ := compileText_eq_error_iff.1 h
        exact .malformedFile hload hfile hsource
      | error reason =>
        simp only [Command.output, compileFile, hfile] at h
        cases h
        exact .unreadable hload rfl hfile
    · rw [Command.output] at h
      obtain ⟨error, hsource, rfl⟩ := compileText_eq_error_iff.1 h
      refine .malformedLine ?_ hsource
      simp only [Command.words, List.mem_cons, List.not_mem_nil, or_false, not_or]
      exact ⟨hblank, (not_or.1 hquit).1, (not_or.1 hquit).2, hhelp, hload⟩
  · intro h
    have hload (h : firstWord line = ":load") :
        Command.ofLine line = .load (trim (behindWord line)) := by
      rw [Command.ofLine_eq, h]
      rfl
    cases h with
    | unreadable hword hpath hfile =>
      subst hpath
      simp only [hload hword, Command.output, compileFile, hfile]
    | malformedFile hword hfile hsource =>
      simp only [hload hword, Command.output, compileFile, hfile]
      exact compileText_eq_error_iff.2 ⟨_, hsource, rfl⟩
    | malformedLine hword hsource =>
      rw [Command.ofLine_of_notMem hword, Command.output]
      exact compileText_eq_error_iff.2 ⟨_, hsource, rfl⟩

/-! ## Lines as they are typed -/

theorem suffix_dropBytes (size : Nat) (cs : List Char) : Text.dropBytes size cs <:+ cs := by
  induction cs generalizing size with
  | nil => exact List.suffix_refl []
  | cons c cs ih =>
    rw [Text.dropBytes]
    split
    · exact (ih _).trans (List.suffix_cons c cs)
    · exact List.suffix_refl _

theorem mem_of_mem_foldl_enter {clusters : List (List Char)} {line : Text.TypedLine} {c : Char}
    (h : c ∈ (clusters.foldl Text.TypedLine.enter line).text) :
    c ∈ clusters.flatten ∨ c ∈ line.text := by
  induction clusters generalizing line with
  | nil => exact .inr h
  | cons cluster clusters ih =>
    rw [List.flatten_cons, List.mem_append]
    rcases ih h with hmem | hmem
    · exact .inl (.inr hmem)
    · unfold Text.TypedLine.enter Text.TypedLine.takeBack at hmem
      split at hmem
      · split at hmem
        · exact .inr hmem
        · exact .inr ((suffix_dropBytes _ _).subset hmem)
      · rcases List.mem_append.1 hmem with hmem | hmem
        · exact .inl (.inl (List.mem_reverse.1 hmem))
        · exact .inr hmem

/-- Nothing stands in a line that has not been typed. -/
theorem mem_of_mem_typed {line : List Char} {c : Char} (h : c ∈ (typed line).toList) :
    c ∈ line := by
  have hkept : (if line.getLast? = some '\r' then line.dropLast else line) <+: line := by
    split
    · exact List.dropLast_prefix line
    · exact List.prefix_refl line
  rw [typed, String.toList_ofList, Text.applyBackspaces, List.mem_reverse] at h
  rcases mem_of_mem_foldl_enter h with hmem | hmem
  · rw [Text.flatten_clusters] at hmem
    exact hkept.subset hmem
  · cases hmem

/-- The end of a line is blank, so nothing changes if it stays. -/
theorem trim_typed {line : List Char} (h : '\x08' ∉ line) :
    trim (typed line) = trim (String.ofList line) := by
  by_cases hend : line.getLast? = some '\r'
  · obtain ⟨front, rfl⟩ : ∃ front, line = front ++ ['\r'] :=
      ⟨line.dropLast, (List.dropLast_append_getLast? _ hend).symm⟩
    have hfront : '\x08' ∉ front := fun hmem ↦ h (List.mem_append_left _ hmem)
    have hblank := Calendar.trim_blanks (List.forall_mem_nil _)
      (List.forall_mem_singleton.2 (by decide : isBlank '\r' = true)) (String.ofList front)
    rw [String.toList_ofList, List.nil_append] at hblank
    rw [typed, if_pos hend, List.dropLast_concat, Text.applyBackspaces_of_notMem hfront, hblank]
  · rw [typed, if_neg hend, Text.applyBackspaces_of_notMem h]

theorem lines_of_notMem {line : List Char} (h : '\n' ∉ line) (hne : line ≠ []) :
    Text.lines line = [line] := by
  induction line with
  | nil => exact absurd rfl hne
  | cons c line ih =>
    simp only [List.mem_cons, not_or] at h
    cases line with
    | nil => simp [Text.lines, Ne.symm h.1]
    | cons d line =>
      rw [Text.lines, if_neg (Ne.symm h.1), ih h.2 (List.cons_ne_nil d line)]

/-! ## Reports on one line -/

/-- Failures whose reasons, as far as the system words them, have no line feed. -/
def PlainReasons (files : Files) : Prop :=
  ∀ path reason, files path = .error (.other reason) → '\n' ∉ reason.toList

theorem lineFeed_notMem_of_reason {files : Files} (h : PlainReasons files) {path : String}
    {reason : ReadFailure} (hfile : files path = .error reason) :
    '\n' ∉ reason.message.toList := by
  cases reason with
  | other text => exact h path text hfile
  | _ => decide

/-- The report on a line that fails is a line. -/
theorem Fails.exists_line {files : Files} (hplain : PlainReasons files) {line : List Char}
    (hline : '\n' ∉ line) {failure : Failure} (h : Fails files (typed line) failure) :
    ∃ text, failure.line = text ++ "\n" ∧ '\n' ∉ text.toList := by
  have hread : '\n' ∉ ("无法读取文件 " : String).toList := by decide
  have hparse : '\n' ∉ ("无法解析过滤树 JSON" : String).toList := by decide
  have hparts : '\n' ∉ failure.context.toList ∧ '\n' ∉ failure.cause.toList := by
    cases h with
    | unreadable hword hpath hfile =>
      refine ⟨?_, lineFeed_notMem_of_reason hplain hfile⟩
      rw [String.toList_append, List.mem_append, hpath]
      refine not_or.2 ⟨hread, fun hmem ↦ hline ?_⟩
      exact mem_of_mem_typed (Text.mem_of_mem_behindWord (Text.mem_of_mem_trim hmem))
    | malformedFile hword hfile hsource => exact ⟨hparse, Json.lineFeed_notMem_of_parse hsource⟩
    | malformedLine hword hsource => exact ⟨hparse, Json.lineFeed_notMem_of_parse hsource⟩
  have hmark : '\n' ∉ ("✗ " : String).toList := by decide
  have hcolon : '\n' ∉ (": " : String).toList := by decide
  refine ⟨"✗ " ++ failure.context ++ ": " ++ failure.cause, rfl, ?_⟩
  simp only [String.toList_append, List.mem_append, not_or]
  exact ⟨⟨⟨hmark, hparts.1⟩, hcolon⟩, hparts.2⟩

/-! ## Whole sessions -/

section

variable (files : Files)

/-- The configuration that a session finds. -/
def configurationIn : Except ConfigurationError Configuration :=
  Configuration.load Configuration.defaultPath (files Configuration.defaultPath)

/-- What is printed before the first line is read. -/
def header : String := opening (configurationIn files) ++ "\n" ++ help

/-- What a line of the input makes a session print. -/
def printed (line : List Char) : String :=
  reply (compilerOf (configurationIn files)) files (typed line)

/-- What is printed for a tree. -/
def block (node : Node) : String :=
  queryReport ((compilerOf (configurationIn files)).compile node).value

/-- Whether a line of the input ends the session, which is up to its first word. -/
def quits (line : List Char) : Bool :=
  firstWord (typed line) == ":quit" || firstWord (typed line) == ":q"

variable {files}

theorem quits_iff {line : List Char} :
    quits line = true ↔ Command.ofLine (typed line) = .quit := by
  rw [Command.ofLine_eq_quit_iff, quits, Bool.or_eq_true, beq_iff_eq, beq_iff_eq]

theorem transcript_eq_join {compiler : SessionCompiler} (lines : List (List Char)) :
    transcript compiler files (lines.map typed) =
      String.join ((lines.takeWhile fun line ↦ !quits line).map fun line ↦
        reply compiler files (typed line)) := by
  induction lines with
  | nil => rfl
  | cons line lines ih =>
    by_cases hquit : quits line = true
    · rw [List.map_cons, transcript, if_pos (quits_iff.1 hquit),
        List.takeWhile_cons_of_neg (by simp [hquit])]
      rfl
    · rw [List.map_cons, transcript, if_neg (mt quits_iff.2 hquit), ih,
        List.takeWhile_cons_of_pos (by simp [hquit]), List.map_cons, String.join_cons]

theorem run_input (input : String) :
    run files [] input =
      ⟨header files ++
        String.join (((Text.lines input.toList).takeWhile fun line ↦ !quits line).map
          (printed files)), "", 0⟩ := by
  show Outcome.mk (header files ++ transcript _ files (linesOf input)) "" 0 = _
  rw [linesOf, transcript_eq_join]
  rfl

theorem printed_of_ok {line : List Char} {text : String}
    (h : (Command.ofLine (typed line)).output (compilerOf (configurationIn files)) files =
      .ok text) : printed files line = text := by
  rw [printed, reply, h]

theorem printed_of_quits {line : List Char} (h : quits line = true) : printed files line = "" := by
  apply printed_of_ok
  rw [quits_iff.1 h]
  rfl

theorem run_line {line : List Char} (h : '\n' ∉ line) :
    run files [] (String.ofList line) = ⟨header files ++ printed files line, "", 0⟩ := by
  rw [run_input, String.toList_ofList]
  by_cases hne : line = []
  · subst hne
    rfl
  · rw [lines_of_notMem h hne]
    by_cases hquit : quits line = true
    · rw [List.takeWhile_cons_of_neg (by simp [hquit]), printed_of_quits hquit]
      rfl
    · rw [List.takeWhile_cons_of_pos (by simp [hquit])]
      simp

theorem printed_of_fails {line : List Char} {failure : Failure}
    (h : Fails files (typed line) failure) :
    printed files line = failure.line ∧ quits line = false := by
  have houtput : (Command.ofLine (typed line)).output (compilerOf (configurationIn files)) files =
      .error failure := output_eq_error_iff.2 h
  constructor
  · rw [printed, reply, houtput]
  · rw [Bool.eq_false_iff]
    intro hquit
    rw [quits_iff.1 hquit] at houtput
    cases houtput

theorem run_argument {path source : String} {value : Json} (hfile : files path = .ok source)
    (h : Json.parse source = .ok value) (others : List String) (input : String) :
    run files (path :: others) input =
      ⟨opening (configurationIn files) ++ block files (Node.read value), "", 0⟩ := by
  have hcompile := compileFile_of_parse hfile h (compilerOf (configurationIn files))
  unfold configurationIn at hcompile
  simp only [run, hcompile]
  rfl

theorem notMem_of_isBlank {blanks : List Char} (h : ∀ c ∈ blanks, isBlank c = true) :
    '\x08' ∉ blanks := fun hmem ↦ absurd (h _ hmem) (by decide)

/-- What a file holds is printed for a line that loads it. -/
theorem printed_load {before gap path after : List Char} {source : String} {value : Json}
    (hbefore : ∀ c ∈ before, isBlank c = true) (hgap : ∀ c ∈ gap, isBlank c = true)
    (hne : gap ≠ []) (hafter : ∀ c ∈ after, isBlank c = true)
    (hpath : trim (String.ofList path) = String.ofList path) (hback : '\x08' ∉ path)
    (hfile : files (String.ofList path) = .ok source) (h : Json.parse source = .ok value) :
    printed files (before ++ (":load".toList ++ (gap ++ (path ++ after)))) =
      block files (Node.read value) := by
  have hnone : '\x08' ∉ before ++ (":load".toList ++ (gap ++ (path ++ after))) := by
    have hword : '\x08' ∉ ":load".toList := by decide
    simp only [List.mem_append, not_or]
    exact ⟨notMem_of_isBlank hbefore, hword, notMem_of_isBlank hgap, hback,
      notMem_of_isBlank hafter⟩
  apply printed_of_ok
  rw [Command.ofLine_congr (trim_typed hnone),
    Command.ofLine_load hbefore hgap hne hafter hpath]
  exact compileFile_of_parse hfile h (compilerOf (configurationIn files))

/-- A tree that is itself a line is printed as it is from a file, whatever blanks are around it. -/
theorem printed_tree {before after : List Char} {source : String} {value : Json}
    (hbefore : ∀ c ∈ before, isBlank c = true) (hafter : ∀ c ∈ after, isBlank c = true)
    (h : Json.parse source = .ok value) :
    printed files (before ++ (source.toList ++ after)) = block files (Node.read value) := by
  obtain ⟨hback, hagain, c, cs, hstart, hc, hcolon⟩ := Json.exists_of_parse h
  have hnone : '\x08' ∉ before ++ (source.toList ++ after) := by
    simp only [List.mem_append, not_or]
    exact ⟨notMem_of_isBlank hbefore, hback, notMem_of_isBlank hafter⟩
  have htrim : trim (typed (before ++ (source.toList ++ after))) = trim source := by
    rw [trim_typed hnone, Calendar.trim_blanks hbefore hafter]
  apply printed_of_ok
  rw [Command.ofLine_of_trim (by rw [htrim, hstart]) hc hcolon, htrim]
  exact compileText_of_parse hagain (compilerOf (configurationIn files))

end

/-! ## Lines, files and arguments -/

/-- A folder that holds one tree. -/
def treeFolder : Files := fun path ↦
  if path = "tree.json" then .ok "[\"page\", \"is\", \"Foo\"]" else .error .notFound

theorem plainReasons_treeFolder : PlainReasons treeFolder := by
  intro path reason h
  unfold treeFolder at h
  split at h <;> cases h

end FilterQuery.Session
