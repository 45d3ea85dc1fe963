import FilterQuery.Proofs.Calendar.Reading
import FilterQuery.Proofs.Compiler.Selection
import FilterQuery.Proofs.Graph.Keywords
import Mathlib.Data.List.Nodup

/-!
# A table of attributes and a graph that knows the same

A table finds an attribute with or without its colon, and so does a graph that holds the same
schemas. They take liberties of their own beyond that: a table overlooks any number of colons but no
blanks, and a graph overlooks blanks but no second colon. For all other texts they give the same
schemas, up to the colon of the attribute, which is put in front again wherever it is missing. So a
tree is compiled to the same query, unless it names an attribute in one of these ways.
-/

namespace FilterQuery

open FilterQuery.Graph

/-! ## Spellings -/

namespace Graph

/-- A text is a name, or a name behind one colon. -/
def Spells (s : String) (name : List Char) : Prop :=
  IsName name ∧ (s.toList = name ∨ s.toList = ':' :: name)

theorem writes_iff {s : String} {name : List Char} : Writes s name ↔ Spells (Text.trim s) name :=
  Iff.rfl

section

variable {s : String} {name other : List Char}

theorem ne_colon_of_isName {c : Char} {cs : List Char} (h : IsName (c :: cs)) : c ≠ ':' := by
  rintro rfl
  exact absurd (congrArg List.length (dropColon_of_isName h)) (by simp [dropColon])

theorem dropWhile_of_isName (h : IsName name) : name.dropWhile (· == ':') = name := by
  cases name with
  | nil => rfl
  | cons c cs => exact List.dropWhile_cons_of_neg (by simpa using ne_colon_of_isName h)

/-- A name is what is left without colons exactly if nothing but colons stands before it. -/
theorem dropColons_eq_iff (h : IsName name) :
    dropColons s = String.ofList name ↔ ∃ n, s.toList = List.replicate n ':' ++ name := by
  rw [dropColons, String.ofList_inj]
  constructor
  · rintro rfl
    have hcolons : ∀ c ∈ s.toList.takeWhile (· == ':'), c = ':' :=
      fun c hc ↦ by simpa using List.all_eq_true.1 List.all_takeWhile c hc
    refine ⟨(s.toList.takeWhile (· == ':')).length, ?_⟩
    rw [← List.eq_replicate_of_mem hcolons, List.takeWhile_append_dropWhile]
  · rintro ⟨n, hs⟩
    rw [hs, List.dropWhile_append_of_pos (by simp), dropWhile_of_isName h]

theorem Spells.exists_colons (h : Spells s name) : ∃ n, s.toList = List.replicate n ':' ++ name :=
  h.2.elim (fun heq ↦ ⟨0, heq⟩) fun heq ↦ ⟨1, heq⟩

theorem Spells.dropColons_eq (h : Spells s name) : dropColons s = String.ofList name :=
  (dropColons_eq_iff h.1).2 h.exists_colons

theorem isBlank_eq_false_of_isName (h : IsName name) : ∀ c ∈ name, Text.isBlank c = false := by
  intro c hc
  have hplain := isPlain_of_isKeywordName ((isKeywordName_iff name).2 h) c hc
  simp only [Datalog.isPlain, Bool.and_eq_true, Bool.not_eq_true'] at hplain
  exact hplain.1

/-- There is nothing to trim around a name and the colons before it. -/
theorem trim_of_colons (h : IsName name) {n : Nat} (hs : s.toList = List.replicate n ':' ++ name) :
    Text.trim s = s := by
  have hcolon : Text.isBlank ':' = false := by decide
  apply Calendar.trim_of_forall
  rw [hs, List.forall_mem_append]
  exact ⟨fun c hc ↦ List.eq_of_mem_replicate hc ▸ hcolon, isBlank_eq_false_of_isName h⟩

theorem Spells.trim_eq (h : Spells s name) : Text.trim s = s := by
  obtain ⟨n, hs⟩ := h.exists_colons
  exact trim_of_colons h.1 hs

theorem Spells.writes (h : Spells s name) : Writes s name := by
  rwa [writes_iff, h.trim_eq]

theorem spells_or_colons (h : IsName name) (hs : dropColons s = String.ofList name) :
    Spells s name ∨ ∃ n, s.toList = List.replicate (n + 2) ':' ++ name := by
  obtain ⟨n, hs⟩ := (dropColons_eq_iff h).1 hs
  rcases n with _ | _ | n
  · exact .inl ⟨h, .inl hs⟩
  · exact .inl ⟨h, .inr hs⟩
  · exact .inr ⟨n, hs⟩

/-- What stands behind two colons or more is not spelled as a keyword. -/
theorem not_spells_of_colons {n : Nat} (hs : s.toList = List.replicate (n + 2) ':' ++ name) :
    ¬Spells s other := by
  rintro ⟨hother, heq | heq⟩
  · obtain rfl := heq.symm.trans hs
    exact ne_colon_of_isName hother rfl
  · obtain rfl := List.cons_inj_right _ |>.1 (heq.symm.trans hs)
    exact ne_colon_of_isName hother rfl

end

end Graph

/-! ## Tables -/

namespace SchemaTable

/-- A table of keywords, each under itself as its key, that differ even without their colons. -/
structure IsByIdent (table : SchemaTable) : Prop where
  keys : ∀ entry ∈ table, entry.1 = entry.2.ident
  keywords : ∀ schema ∈ table.map Prod.snd, ∃ name, Spells schema.ident name
  apart : ((table.map Prod.snd).map fun schema ↦ dropColons schema.ident).Nodup

/-- A text that names an attribute of the table in a way that only one of a table and a graph
overlooks: behind two colons or more, or with blanks around it. -/
inductive IsMisspelling (table : SchemaTable) (s : String) : Prop
  | colons {schema : PropertySchema} (hschema : schema ∈ table.map Prod.snd) (n : Nat)
      (hs : s.toList = List.replicate (n + 2) ':' ++ (dropColons schema.ident).toList)
  | blanks {schema : PropertySchema} (hschema : schema ∈ table.map Prod.snd)
      (hblanks : Text.trim s ≠ s) (hs : Writes s (dropColons schema.ident).toList)

end SchemaTable

/-- What a query takes from a schema, and how many values it allows. -/
def PropertySchema.known (schema : PropertySchema) : String × ValueType × Cardinality :=
  (schema.keyword, schema.valueType, schema.cardinality)

namespace Graph

/-- A row that says which values an attribute has, and how many. -/
def Carries (row : Json) (schema : PropertySchema) : Prop :=
  ∃ entity, rowEntity? row = some entity ∧
    (attribute? entity "db/valueType").bind ValueType.variants.read? = some schema.valueType ∧
    ((attribute? entity "db/cardinality").map Cardinality.read).getD .one = schema.cardinality

/-- A graph that holds the schemas of a table, each in one row, and nothing else. -/
structure Serves (executor : Executor) (graph : String) (table : SchemaTable) : Prop where
  answers : ∀ schema ∈ table.map Prod.snd, ∀ query, schemaQuery? schema.ident = some query →
    ∃ row, executor graph query = .ok [row] ∧ Carries row schema
  silent : ∀ query, (∀ schema ∈ table.map Prod.snd, schemaQuery? schema.ident ≠ some query) →
    executor graph query = .ok []

end Graph

section

variable {table : SchemaTable} {executor : Executor} {graph s : String} {schema : PropertySchema}

namespace SchemaTable

variable (htable : table.IsByIdent)

include htable

/-- Only one schema of the table has an attribute. -/
theorem find?_eq_some_of_mem {p : PropertySchema → Bool} (hschema : schema ∈ table.map Prod.snd)
    (hp : p schema = true) (h : ∀ other ∈ table.map Prod.snd, p other = true →
      dropColons other.ident = dropColons schema.ident) :
    (table.map Prod.snd).find? p = some schema := by
  obtain ⟨found, hfind⟩ :=
    Option.isSome_iff_exists.1 (List.find?_isSome.2 ⟨schema, hschema, hp⟩)
  have hfound := List.mem_of_find?_eq_some hfind
  have hident := h found hfound (List.find?_some hfind)
  rw [hfind, List.inj_on_of_nodup_map htable.apart hfound hschema hident]

theorem mem_of_lookup (h : table.lookup s = some schema) :
    schema ∈ table.map Prod.snd ∧ schema.ident = s := by
  obtain ⟨before, after, hentries, -⟩ := List.lookup_eq_some_iff.1 h
  have hentry : (s, schema) ∈ table := by simp [hentries]
  exact ⟨List.mem_map_of_mem hentry, (htable.keys _ hentry).symm⟩

/-- A table finds the attribute that a text is without its colons. -/
theorem find?_eq_some_iff : table.find? s = some schema ↔
    schema ∈ table.map Prod.snd ∧ dropColons schema.ident = dropColons s := by
  constructor
  · intro hfound
    rcases Option.or_eq_some_iff.1 hfound with hkey | ⟨-, hident⟩
    · obtain ⟨hschema, rfl⟩ := mem_of_lookup htable hkey
      exact ⟨hschema, rfl⟩
    · exact ⟨List.mem_of_find?_eq_some hident, by simpa using List.find?_some hident⟩
  · rintro ⟨hschema, hident⟩
    rw [find?]
    cases hkey : table.lookup s with
    | none =>
      rw [Option.none_or]
      refine find?_eq_some_of_mem htable hschema (by simpa using hident) fun other _ hother ↦ ?_
      exact (beq_iff_eq.1 hother).trans hident.symm
    | some found =>
      obtain ⟨hfound, rfl⟩ := mem_of_lookup htable hkey
      rw [Option.some_or, List.inj_on_of_nodup_map htable.apart hfound hschema hident.symm]

theorem spells_ident (hschema : schema ∈ table.map Prod.snd) :
    Spells schema.ident (dropColons schema.ident).toList := by
  obtain ⟨name, hspells⟩ := htable.keywords schema hschema
  rwa [hspells.dropColons_eq, String.toList_ofList]

theorem schemaQuery?_ident (hschema : schema ∈ table.map Prod.snd) :
    schemaQuery? schema.ident = some (keywordQuery (":" ++ dropColons schema.ident)) := by
  have hwrites := (spells_ident htable hschema).writes
  exact (schemaQuery?_eq_some_iff _ _).2 ⟨_, hwrites, by rw [String.ofList_toList]⟩

end SchemaTable

namespace Graph

section

variable (htable : table.IsByIdent) (hserves : Serves executor graph table)

include htable hserves

/-- A graph finds the attribute that a text writes. -/
theorem known_schemaLookup_of_writes (hschema : schema ∈ table.map Prod.snd)
    (h : Writes s (dropColons schema.ident).toList) :
    (schemaLookup executor graph s).value.map PropertySchema.known = some schema.known := by
  have hspells := SchemaTable.spells_ident htable hschema
  have hquery : schemaQuery? s = some (keywordQuery (":" ++ dropColons schema.ident)) :=
    (schemaQuery?_eq_some_iff s _).2 ⟨_, h, by rw [String.ofList_toList]⟩
  obtain ⟨row, hrow, entity, hentity, htype, hcardinality⟩ :=
    hserves.answers schema hschema _ (SchemaTable.schemaQuery?_ident htable hschema)
  have hfound : (schemaLookup executor graph s).value =
      some ⟨Text.trim s, schema.valueType, schema.cardinality⟩ := by
    simp only [schemaLookup_eq, hquery, Option.bind_some, hrow, schemaOfAnswer?, schemaOfRows?,
      firstEntity?, List.head?_cons, hentity, htype, hcardinality, Option.bind_eq_bind,
      Option.pure_def]
  have hkeyword : PropertySchema.keyword ⟨Text.trim s, schema.valueType, schema.cardinality⟩ =
      schema.keyword :=
    (keyword_of_writes h rfl).trans (keyword_of_writes hspells.writes hspells.trim_eq.symm).symm
  rw [hfound]
  exact congrArg (fun keyword ↦ some (keyword, schema.valueType, schema.cardinality)) hkeyword

/-- A graph finds nothing for a text that writes no attribute. -/
theorem schemaLookup_of_not_writes
    (h : ∀ schema ∈ table.map Prod.snd, ¬Writes s (dropColons schema.ident).toList) :
    (schemaLookup executor graph s).value = none := by
  rw [schemaLookup_eq]
  cases hquery : schemaQuery? s with
  | none => rfl
  | some query =>
    obtain ⟨name, hname, rfl⟩ := (schemaQuery?_eq_some_iff s query).1 hquery
    have hsilent : executor graph (keywordQuery (":" ++ String.ofList name)) = .ok [] := by
      refine hserves.silent _ fun schema hschema hsame ↦ h schema hschema ?_
      rw [SchemaTable.schemaQuery?_ident htable hschema, Option.some.injEq,
        keywordQuery_injective.eq_iff, String.append_right_inj] at hsame
      rwa [hsame, String.toList_ofList]
    simp only [Option.bind_some, hsilent]
    rfl

/-- What a table finds the graph finds too, unless too many colons stand before it. -/
theorem known_schemaLookup_iff (hschema : schema ∈ table.map Prod.snd)
    (hident : dropColons schema.ident = dropColons s) :
    some schema.known = (schemaLookup executor graph s).value.map PropertySchema.known ↔
      ¬table.IsMisspelling s := by
  have hname := (SchemaTable.spells_ident htable hschema).1
  have hbare : dropColons s = String.ofList (dropColons schema.ident).toList := by
    rw [String.ofList_toList, hident]
  rcases spells_or_colons hname hbare with hspells | ⟨n, hcolons⟩
  · refine iff_of_true
      (known_schemaLookup_of_writes htable hserves hschema hspells.writes).symm ?_
    rintro (⟨-, n, hs⟩ | ⟨-, hblanks, -⟩)
    · exact not_spells_of_colons hs hspells
    · exact hblanks hspells.trim_eq
  · have hnone : (schemaLookup executor graph s).value = none := by
      refine schemaLookup_of_not_writes htable hserves fun other _ hwrites ↦ ?_
      rw [writes_iff, trim_of_colons hname hcolons] at hwrites
      exact not_spells_of_colons hcolons hwrites
    rw [hnone]
    exact iff_of_false nofun (not_not.2 (.colons hschema n hcolons))

/-- What a table does not find the graph does not find either, unless it has blanks around it. -/
theorem known_schemaLookup_eq_none_iff
    (hnone : ∀ schema ∈ table.map Prod.snd, dropColons schema.ident ≠ dropColons s) :
    none = (schemaLookup executor graph s).value.map PropertySchema.known ↔
      ¬table.IsMisspelling s := by
  have hcolons {schema : PropertySchema} (hschema : schema ∈ table.map Prod.snd) (n : Nat) :
      s.toList ≠ List.replicate n ':' ++ (dropColons schema.ident).toList := by
    intro hs
    have hbare := (dropColons_eq_iff (SchemaTable.spells_ident htable hschema).1).2 ⟨n, hs⟩
    exact hnone schema hschema (by rw [hbare, String.ofList_toList])
  by_cases hwritten : ∃ schema ∈ table.map Prod.snd, Writes s (dropColons schema.ident).toList
  · obtain ⟨schema, hschema, hwrites⟩ := hwritten
    rw [known_schemaLookup_of_writes htable hserves hschema hwrites]
    refine iff_of_false nofun (not_not.2 (.blanks hschema (fun htrim ↦ ?_) hwrites))
    rw [writes_iff, htrim] at hwrites
    obtain ⟨n, hs⟩ := hwrites.exists_colons
    exact hcolons hschema n hs
  · rw [schemaLookup_of_not_writes htable hserves fun schema hschema hwrites ↦
      hwritten ⟨schema, hschema, hwrites⟩]
    refine iff_of_true rfl ?_
    rintro (⟨hschema, n, hs⟩ | ⟨hschema, -, hwrites⟩)
    · exact hcolons hschema (n + 2) hs
    · exact hwritten ⟨_, hschema, hwrites⟩

/-- A table and a graph that holds the same schemas agree on all texts but the misspelled ones. -/
theorem known_find?_eq_iff : (table.find? s).map PropertySchema.known =
      (schemaLookup executor graph s).value.map PropertySchema.known ↔ ¬table.IsMisspelling s := by
  cases hfind : table.find? s with
  | some schema =>
    obtain ⟨hschema, hident⟩ := (SchemaTable.find?_eq_some_iff htable).1 hfind
    exact known_schemaLookup_iff htable hserves hschema hident
  | none =>
    refine known_schemaLookup_eq_none_iff htable hserves fun schema hschema hident ↦ ?_
    rw [(SchemaTable.find?_eq_some_iff htable).2 ⟨hschema, hident⟩] at hfind
    cases hfind

end

/-- The type and the cardinality of a schema as a row. -/
def rowOf (schema : PropertySchema) : Json :=
  .object [("db/cardinality", .string schema.cardinality.name),
    ("db/valueType", .string schema.valueType.name)]

theorem carries_rowOf (schema : PropertySchema) : Carries (rowOf schema) schema :=
  ⟨_, rfl, ValueType.read?_name _, Cardinality.read_name _⟩

/-- Holds the schemas of a table and nothing else. -/
def holding (table : SchemaTable) : Executor := fun _ query ↦
  .ok (((table.map Prod.snd).find? fun schema ↦
    schemaQuery? schema.ident == some query).map rowOf).toList

/-- For every table there is a graph that holds the same schemas. -/
theorem serves_holding (htable : table.IsByIdent) (graph : String) :
    Serves (holding table) graph table := by
  constructor
  · intro schema hschema query hquery
    have hfind : ((table.map Prod.snd).find? fun schema ↦
        schemaQuery? schema.ident == some query) = some schema := by
      refine SchemaTable.find?_eq_some_of_mem htable hschema (by simpa using hquery)
        fun other hother hsame ↦ ?_
      rwa [beq_iff_eq, ← hquery, SchemaTable.schemaQuery?_ident htable hother,
        SchemaTable.schemaQuery?_ident htable hschema, Option.some.injEq,
        keywordQuery_injective.eq_iff, String.append_right_inj] at hsame
    refine ⟨rowOf schema, ?_, carries_rowOf schema⟩
    rw [holding, hfind]
    rfl
  · intro query hquery
    have hnone : ((table.map Prod.snd).find? fun schema ↦
        schemaQuery? schema.ident == some query) = none :=
      List.find?_eq_none.2 fun schema hschema ↦ by simpa using hquery schema hschema
    rw [holding, hnone]
    rfl

end Graph

end

/-! ## Compiling -/

theorem dropColons_keyword (schema : PropertySchema) :
    dropColons schema.keyword = dropColons schema.ident := by
  unfold PropertySchema.keyword
  split
  · rfl
  · simp [dropColons]

namespace PropertyFilter

variable {filter : PropertyFilter}

/-- The cardinality of a schema, and whether its attribute came with a colon, make no difference. -/
theorem condition?_congr {found found' : Option PropertySchema}
    (h : found.map PropertySchema.known = found'.map PropertySchema.known) (ignoreCase : Bool) :
    filter.condition? ignoreCase found = filter.condition? ignoreCase found' := by
  cases found with
  | none =>
    obtain rfl : found' = none := Option.map_eq_none_iff.1 h.symm
    rfl
  | some schema =>
    obtain ⟨schema', rfl, hknown⟩ := Option.map_eq_some_iff.1 h.symm
    obtain ⟨hkeyword, htype, -⟩ :
        schema'.keyword = schema.keyword ∧ schema'.valueType = schema.valueType ∧ _ := by
      simpa [PropertySchema.known] using hknown
    have hnamed : schema.isNamed = schema'.isNamed := by
      rw [PropertySchema.isNamed, PropertySchema.isNamed, ← dropColons_keyword, ← hkeyword,
        dropColons_keyword]
    simp only [condition?, hnamed, typed?, hkeyword, htype]

/-- The texts that a property filter looks up in a table: its attribute, and its name if the
attribute is not found. -/
def lookedUp (filter : PropertyFilter) (table : SchemaTable) : List String :=
  if filter.operator = .unrecognized ∨ filter.propertySchema.isSome then []
  else filter.propertyIdent.toList ++
    if (filter.propertyIdent.bind table.find?).isSome then []
    else [Text.trim filter.propertyName]

end PropertyFilter

/-- The texts that a filter looks up in a table. -/
def Filter.lookedUp (table : SchemaTable) : Filter → List String
  | .property filter => filter.lookedUp table
  | _ => []

namespace SchemaLookup

variable {Step : Type}

theorem value_firstOf (lookup : SchemaLookup Step) (first : Option String) (second : String) :
    (lookup.firstOf first second).value =
      (first.bind fun name ↦ (lookup name).value).or (lookup second).value := by
  cases first with
  | none => rfl
  | some name =>
    rw [firstOf, Option.bind_some, Recorded.bind_value]
    cases (lookup name).value <;> rfl

/-- The second of two texts matters only if nothing is found for the first. -/
theorem known_firstOf_congr {Step' : Type} {lookup : SchemaLookup Step}
    {lookup' : SchemaLookup Step'} {first : Option String} {second : String}
    (hfirst : ∀ name ∈ first, (lookup name).value.map PropertySchema.known =
      (lookup' name).value.map PropertySchema.known)
    (hsecond : (first.bind fun name ↦ (lookup name).value) = none →
      (lookup second).value.map PropertySchema.known =
        (lookup' second).value.map PropertySchema.known) :
    (lookup.firstOf first second).value.map PropertySchema.known =
      (lookup'.firstOf first second).value.map PropertySchema.known := by
  have hfound : (first.bind fun name ↦ (lookup name).value).map PropertySchema.known =
      (first.bind fun name ↦ (lookup' name).value).map PropertySchema.known := by
    cases first with
    | none => rfl
    | some name => exact hfirst name rfl
  rw [value_firstOf, value_firstOf, Option.map_or, Option.map_or, ← hfound]
  cases hbind : first.bind fun name ↦ (lookup name).value with
  | none => rw [hsecond hbind]
  | some schema => rfl

end SchemaLookup

namespace Compiler

section

variable {Step Step' : Type} {compiler : Compiler Step} {compiler' : Compiler Step'}

mutual

/-- Compilers that give each filter of a tree the same condition make the same plan of it. -/
theorem value_plan_congr (node : Node)
    (h : ∀ filter ∈ node.filters, compiler.condition? filter = compiler'.condition? filter) :
    (compiler.plan node).value = (compiler'.plan node).value := by
  cases node with
  | leaf filter =>
    rw [plan_leaf, plan_leaf, h filter (by simp [Node.filters])]
  | group mode children =>
    rw [Node.filters] at h
    rw [plan_group, plan_group, value_planList_congr children h]

theorem value_planList_congr (children : List Node) (h : ∀ filter ∈ Node.filtersOf children,
    compiler.condition? filter = compiler'.condition? filter) :
    (compiler.planList children).value = (compiler'.planList children).value := by
  cases children with
  | nil => rfl
  | cons child children =>
    rw [Node.filtersOf, List.forall_mem_append] at h
    rw [planList_cons, planList_cons, value_plan_congr child h.1,
      value_planList_congr children h.2]

end

/-- Compilers that give each valid filter of a tree the same condition compile it to the same
query. -/
theorem value_compile_congr {node : Node} (h : ∀ filter ∈ node.validFilters,
    (compiler.condition filter).value = (compiler'.condition filter).value) :
    (compiler.compile node).value = (compiler'.compile node).value := by
  have hcondition : ∀ filter ∈ node.filters,
      compiler.condition? filter = compiler'.condition? filter := by
    intro filter hfilter
    unfold condition?
    split
    case isTrue hvalid => exact h filter (List.mem_filter.2 ⟨hfilter, hvalid⟩)
    case isFalse => rfl
  cases node with
  | leaf filter => rfl
  | group mode children =>
    let node := Node.group mode children
    have hbody : (compiler.combine node.entity node).value =
        (compiler'.combine node.entity node).value :=
      congrArg (Plan.clauses node.entity) (value_plan_congr node hcondition)
    have hcompile {Step : Type} (compiler : Compiler Step) : (compiler.compile node).value =
        if (compiler.combine node.entity node).value.isEmpty then none
        else some ⟨node.entity, (compiler.combine node.entity node).value⟩ := rfl
    rw [hcompile, hcompile, hbody]

end

/-- A filter that looks up no misspelled text has the same condition, whether the schemas come from
a table or from a graph that holds the same ones. -/
theorem value_condition_eq {Step : Type} {table : SchemaTable} {executor : Executor}
    {graph : String} (htable : table.IsByIdent) (hserves : Serves executor graph table)
    (ignoreCase : Bool) {filter : Filter}
    (h : ∀ s ∈ filter.lookedUp table, ¬table.IsMisspelling s) :
    ((⟨ignoreCase, table.byKeyOrIdent⟩ : Compiler Step).condition filter).value =
      ((⟨ignoreCase, schemaLookup executor graph⟩ : Compiler Call).condition filter).value := by
  have hagree {s : String} (hs : ¬table.IsMisspelling s) :
      (table.find? s).map PropertySchema.known =
        (schemaLookup executor graph s).value.map PropertySchema.known :=
    (known_find?_eq_iff htable hserves).2 hs
  cases filter with
  | property filter =>
    by_cases hoperator : filter.operator = .unrecognized
    · have hunrecognized : (Filter.property filter).IsUnrecognized := hoperator
      rw [condition_of_isUnrecognized hunrecognized, condition_of_isUnrecognized hunrecognized]
    rw [condition_property hoperator, condition_property hoperator]
    apply PropertyFilter.condition?_congr
    unfold PropertyFilter.findSchema
    cases hschema : filter.propertySchema with
    | some schema => simp only [Recorded.pure_value]
    | none =>
      have hlookedUp : ∀ s ∈ filter.propertyIdent.toList ++
          if (filter.propertyIdent.bind table.find?).isSome then []
          else [Text.trim filter.propertyName], ¬table.IsMisspelling s := by
        simpa [Filter.lookedUp, PropertyFilter.lookedUp, hoperator, hschema] using h
      rw [List.forall_mem_append] at hlookedUp
      refine SchemaLookup.known_firstOf_congr
        (fun name hname ↦ hagree (hlookedUp.1 name (Option.mem_toList.2 hname))) fun hnone ↦ ?_
      have hbind : filter.propertyIdent.bind table.find? = none := hnone
      refine hagree (hlookedUp.2 _ ?_)
      rw [hbind]
      exact List.mem_singleton_self _
  | _ => simp only [condition, Filter.condition, Recorded.pure_value]

end Compiler

/-- A table of attributes and a graph that holds the same schemas find the same for a text unless it
is misspelled. So a tree is compiled to the same query with either of them, if none of the texts
that its filters look up is misspelled. -/
theorem table_and_graph_compile_alike {Step : Type} {table : SchemaTable} {executor : Executor}
    {graph : String} (htable : table.IsByIdent) (hserves : Serves executor graph table) :
    (∀ s, (table.find? s).map PropertySchema.known =
      (schemaLookup executor graph s).value.map PropertySchema.known ↔ ¬table.IsMisspelling s) ∧
    ∀ (ignoreCase : Bool) (node : Node),
      (∀ filter ∈ node.validFilters, ∀ s ∈ filter.lookedUp table, ¬table.IsMisspelling s) →
      ((⟨ignoreCase, table.byKeyOrIdent⟩ : Compiler Step).compile node).value =
        ((⟨ignoreCase, schemaLookup executor graph⟩ : Compiler Call).compile node).value :=
  ⟨fun _ ↦ known_find?_eq_iff htable hserves, fun ignoreCase _ h ↦
    Compiler.value_compile_congr fun filter hfilter ↦
      Compiler.value_condition_eq htable hserves ignoreCase (h filter hfilter)⟩

/-- The colon of an attribute is left out, and another attribute is found by a name with blanks
around it, after one that nothing is known of. -/
theorem table_and_graph_compile_alike_of_rating :
    let table : SchemaTable := [(":user.property/rating", ⟨":user.property/rating", .number, .one⟩),
      ("due", ⟨"due", .instant, .many⟩)]
    let node := Node.group .any [
      .leaf (.property ⟨"stars", some "user.property/rating", none, .gt, .single "3"⟩),
      .leaf (.property ⟨" due ", some "::to be", none, .lt, .single "2024-01-31"⟩)]
    table.IsByIdent ∧ Serves (holding table) "notes" table ∧
      ((⟨true, table.byKeyOrIdent⟩ : Compiler Unit).compile node).value =
        ((⟨true, schemaLookup (holding table) "notes"⟩ : Compiler Call).compile node).value := by
  intro table node
  have hrating : IsName "user.property/rating".toList := (isKeywordName_iff _).1 (by decide +kernel)
  have hdue : IsName "due".toList := (isKeywordName_iff _).1 (by decide +kernel)
  have htable : table.IsByIdent := by
    refine ⟨by decide, ?_, by decide +kernel⟩
    exact forall_mem_pair.2 ⟨⟨_, hrating, .inr rfl⟩, ⟨_, hdue, .inl rfl⟩⟩
  have hserves := serves_holding htable "notes"
  obtain ⟨hlookup, hcompile⟩ := @table_and_graph_compile_alike Unit _ _ _ htable hserves
  have hfilters : node.validFilters.flatMap (Filter.lookedUp table) =
      ["user.property/rating", "::to be", "due"] := by decide +kernel
  have hspelled : ∀ s ∈ node.validFilters.flatMap (Filter.lookedUp table),
      ¬table.IsMisspelling s := by
    rw [hfilters]
    refine List.forall_mem_cons.2 ⟨(hlookup _).1 ?_, forall_mem_pair.2
      ⟨(hlookup _).1 ?_, (hlookup _).1 ?_⟩⟩
    all_goals decide +kernel
  exact ⟨htable, hserves, hcompile true node (List.forall_mem_flatMap.1 hspelled)⟩

/-- Blanks around an attribute are overlooked by the graph only. -/
theorem table_overlooks_no_blanks :
    ¬ ∀ (table : SchemaTable) (executor : Executor) (graph : String), table.IsByIdent →
      Serves executor graph table → ∀ (ignoreCase : Bool) (node : Node),
        ((⟨ignoreCase, table.byKeyOrIdent⟩ : Compiler Unit).compile node).value =
          ((⟨ignoreCase, schemaLookup executor graph⟩ : Compiler Call).compile node).value := by
  intro h
  let table : SchemaTable := [(":user.property/rating", ⟨":user.property/rating", .number, .one⟩)]
  let node := Node.group .all [
    .leaf (.property ⟨"stars", some " user.property/rating", none, .gt, .single "3"⟩)]
  have hrating : IsName "user.property/rating".toList := (isKeywordName_iff _).1 (by decide +kernel)
  have htable : table.IsByIdent :=
    ⟨by decide, List.forall_mem_singleton.2 ⟨_, hrating, .inr rfl⟩, by decide +kernel⟩
  have hsame := congrArg Option.isSome
    (h table (holding table) "notes" htable (serves_holding htable "notes") true node)
  have hnone : ((⟨true, table.byKeyOrIdent⟩ : Compiler Unit).compile
      node).value.isSome = false := by decide +kernel
  have hsome : ((⟨true, schemaLookup (holding table) "notes"⟩ : Compiler Call).compile
      node).value.isSome = true := by decide +kernel
  rw [hnone, hsome] at hsame
  cases hsame

end FilterQuery
