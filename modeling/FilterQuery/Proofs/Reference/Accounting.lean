import FilterQuery.Proofs.Reference.Collecting
import Mathlib.Data.List.Perm.Basic
import Mathlib.Logic.Relation

/-!
# Every reference is accounted for once

Workers take the uuids that are waiting and answer them, each in its own time. Whatever the order in
which the lookups begin and end, each uuid is looked up once, and in the end it has its title or is
unresolved, but not both. The outcome is put together from the answers by their uuids, so it does
not tell in which order they came, nor how many workers there were.
-/

namespace FilterQuery.Reference

/-- Answers a uuid and records that it was asked for it. -/
def asking (answer : String → Answer) : TitleLookup String := fun uuid ↦ ⟨answer uuid, [uuid]⟩

/-! ## Workers -/

/-- What has become of the uuids at some time: which are still waiting, which ones a lookup has been
called for so far, in this order, which of these are being looked up, and the answers in the order
in which they came. -/
structure Pool where
  waiting : List String
  calls : List String
  running : List String
  answers : List (String × Answer)

namespace Pool

/-- Nothing has been looked up yet. -/
def start (ids : List String) : Pool := ⟨ids, [], [], []⟩

/-- Nothing is left to be looked up. -/
def IsDone (pool : Pool) : Prop := pool.waiting = [] ∧ pool.running = []

/-- A worker that is free begins any of the lookups that wait, or any of the running lookups ends
with the answer for its uuid. -/
inductive Step (answer : String → Answer) (workers : Nat) : Pool → Pool → Prop
  | begin (uuid : String) (before after calls running : List String)
      (answers : List (String × Answer)) (hfree : running.length < workers) :
      Step answer workers ⟨before ++ uuid :: after, calls, running, answers⟩
        ⟨before ++ after, calls ++ [uuid], uuid :: running, answers⟩
  | finish (uuid : String) (waiting calls before after : List String)
      (answers : List (String × Answer)) :
      Step answer workers ⟨waiting, calls, before ++ uuid :: after, answers⟩
        ⟨waiting, calls, before ++ after, answers ++ [(uuid, answer uuid)]⟩

/-- The steps from one time to a later one. -/
abbrev Run (answer : String → Answer) (workers : Nat) : Pool → Pool → Prop :=
  Relation.ReflTransGen (Step answer workers)

variable {answer : String → Answer} {workers : Nat} {ids : List String}

/-- No uuid is lost or comes twice: each waits or has been called for, each that has been called for
is running or answered, and answers are those of their uuids. -/
structure Keeps (answer : String → Answer) (ids : List String) (pool : Pool) : Prop where
  called : (pool.waiting ++ pool.calls).Perm ids
  answered : (pool.running ++ pool.answers.map Prod.fst).Perm pool.calls
  answer_eq : ∀ entry ∈ pool.answers, entry.2 = answer entry.1

theorem keeps_start : Keeps answer ids (start ids) where
  called := by rw [start, List.append_nil]
  answered := List.Perm.refl []
  answer_eq := nofun

theorem perm_of_moved {α : Type} (a : α) (before after held : List α) :
    (before ++ after ++ (held ++ [a])).Perm (before ++ a :: after ++ held) :=
  calc
    List.Perm (before ++ after ++ (held ++ [a])) (before ++ after ++ a :: held) :=
      (List.perm_append_singleton a held).append_left _
    List.Perm _ (a :: (before ++ after ++ held)) := List.perm_middle
    List.Perm _ (before ++ a :: after ++ held) := List.perm_middle.symm.append_right held

theorem Keeps.step {pool pool' : Pool} (h : Keeps answer ids pool)
    (hstep : Step answer workers pool pool') : Keeps answer ids pool' := by
  obtain ⟨hcalled, hanswered, heq⟩ := h
  cases hstep with
  | begin uuid before after calls running answers hfree =>
    refine ⟨(perm_of_moved uuid before after calls).trans hcalled, ?_, heq⟩
    exact (hanswered.cons uuid).trans (List.perm_append_singleton uuid calls).symm
  | finish uuid waiting calls before after answers =>
    refine ⟨hcalled, ?_, fun entry hentry ↦ ?_⟩
    · rw [List.map_append]
      exact (perm_of_moved uuid before after (answers.map Prod.fst)).trans hanswered
    · rcases List.mem_append.mp hentry with hold | hnew
      · exact heq entry hold
      · rw [List.mem_singleton.mp hnew]

theorem Keeps.run {pool pool' : Pool} (h : Keeps answer ids pool)
    (hrun : Run answer workers pool pool') : Keeps answer ids pool' := by
  induction hrun with
  | refl => exact h
  | tail _ hstep ih => exact ih.step hstep

/-- In the end each uuid has been called for once and been answered once, with its answer. -/
theorem perm_of_run {pool : Pool} (hrun : Run answer workers (start ids) pool)
    (hdone : pool.IsDone) : pool.calls.Perm ids ∧ (pool.answers.map Prod.fst).Perm ids ∧
      pool.answers = (pool.answers.map Prod.fst).map fun uuid ↦ (uuid, answer uuid) := by
  obtain ⟨hcalled, hanswered, heq⟩ := keeps_start.run hrun
  obtain ⟨hwaiting, hrunning⟩ := hdone
  rw [hwaiting, List.nil_append] at hcalled
  rw [hrunning, List.nil_append] at hanswered
  refine ⟨hcalled, hanswered.trans hcalled, ?_⟩
  calc
    pool.answers = pool.answers.map id := (List.map_id _).symm
    _ = pool.answers.map fun entry ↦ (entry.1, answer entry.1) :=
      List.map_congr_left fun entry hentry ↦ Prod.ext rfl (heq entry hentry)
    _ = (pool.answers.map Prod.fst).map fun uuid ↦ (uuid, answer uuid) := by
      rw [List.map_map]
      rfl

/-- How much is left to be done: waiting uuids have still to begin and to end. -/
def remaining (pool : Pool) : Nat := 2 * pool.waiting.length + pool.running.length

theorem remaining_lt_of_step {pool pool' : Pool} (hstep : Step answer workers pool pool') :
    pool'.remaining < pool.remaining := by
  cases hstep <;> simp only [remaining, List.length_append, List.length_cons] <;> omega

/-- As long as something is left to be looked up and there is a worker at all, it goes on. -/
theorem exists_step (answer : String → Answer) (hworkers : 0 < workers) {pool : Pool}
    (h : ¬pool.IsDone) : ∃ pool', Step answer workers pool pool' := by
  obtain ⟨waiting, calls, running, answers⟩ := pool
  cases running with
  | cons uuid rest => exact ⟨_, .finish uuid waiting calls [] rest answers⟩
  | nil =>
    cases waiting with
    | nil => exact absurd ⟨rfl, rfl⟩ h
    | cons uuid rest => exact ⟨_, .begin uuid [] rest calls [] answers hworkers⟩

/-- Every run can be completed, and does not go on for ever. -/
theorem exists_run (answer : String → Answer) (hworkers : 0 < workers) (pool : Pool) :
    ∃ pool', Run answer workers pool pool' ∧ pool'.IsDone := by
  by_cases hdone : pool.IsDone
  · exact ⟨pool, .refl, hdone⟩
  · obtain ⟨next, hstep⟩ := exists_step answer hworkers hdone
    have hlt := remaining_lt_of_step hstep
    obtain ⟨last, hrun, hlast⟩ := exists_run answer hworkers next
    exact ⟨last, .head hstep hrun, hlast⟩
termination_by pool.remaining

end Pool

/-! ## Answers -/

namespace Unresolved

/-- The answer that leaves a uuid unresolved. -/
def answer : Unresolved → Answer
  | ⟨_, none⟩ => .ok none
  | ⟨_, some error⟩ => .error error

end Unresolved

theorem titleOf?_eq_some_iff {entry : String × Answer} {uuid title : String} :
    titleOf? entry = some (uuid, title) ↔ entry = (uuid, .ok (some title)) := by
  obtain ⟨other, answer⟩ := entry
  rcases answer with error | (_ | found) <;> simp [titleOf?]

theorem unresolvedOf?_eq_some_iff {entry : String × Answer} {unresolved : Unresolved} :
    unresolvedOf? entry = some unresolved ↔ entry = (unresolved.uuid, unresolved.answer) := by
  obtain ⟨other, answer⟩ := entry
  obtain ⟨uuid, _ | error⟩ := unresolved <;> rcases answer with found | (_ | found) <;>
    simp [unresolvedOf?, Unresolved.answer]

/-- Each answer either gives a title or leaves its uuid unresolved. -/
theorem perm_titles_unresolved (answers : List (String × Answer)) :
    ((answers.filterMap titleOf?).map Prod.fst ++
      (answers.filterMap unresolvedOf?).map Unresolved.uuid).Perm (answers.map Prod.fst) := by
  induction answers with
  | nil => exact .nil
  | cons entry answers ih =>
    obtain ⟨uuid, answer⟩ := entry
    rcases answer with error | (_ | title)
    · exact List.perm_middle.trans (ih.cons uuid)
    · exact List.perm_middle.trans (ih.cons uuid)
    · exact ih.cons uuid

/-! ## Outcomes -/

/-- What is put together from the answers, in whatever order they came. -/
def assemble (field : String) (records : List Record) (answers : List (String × Answer)) :
    Outcome :=
  let ordered := inOrder answers (collect field records)
  let titles := ordered.filterMap titleOf?
  { records := records.map (recordWithTitles field titles)
    titles := titles
    unresolved := ordered.filterMap unresolvedOf? }

/-- Which lookups were made and what has become of the uuids that some records refer to. -/
structure AccountedFor (answer : String → Answer) (field : String) (records : List Record)
    (calls : List String) (outcome : Outcome) : Prop where
  calls_nodup : calls.Nodup
  mem_calls : ∀ uuid, uuid ∈ calls ↔ IsReferenced field records uuid
  mem_titles : ∀ uuid title, (uuid, title) ∈ outcome.titles ↔
    IsReferenced field records uuid ∧ answer uuid = .ok (some title)
  mem_unresolved : ∀ unresolved, unresolved ∈ outcome.unresolved ↔
    IsReferenced field records unresolved.uuid ∧ answer unresolved.uuid = unresolved.answer
  once : (outcome.titles.map Prod.fst ++ outcome.unresolved.map Unresolved.uuid).Perm calls
  ascending : outcome.unresolved.Pairwise fun first second ↦ first.uuid < second.uuid

section

variable {Step : Type} {settings : Settings} {schedule : Schedule} {records : List Record}

theorem lookUpAll_steps (lookup : TitleLookup Step) (ids : List String) :
    (lookUpAll lookup ids).steps = ids.flatMap fun uuid ↦ (lookup uuid).steps := by
  induction ids with
  | nil => rfl
  | cons uuid ids ih =>
    rw [lookUpAll, Recorded.bind_steps, Recorded.bind_steps, Recorded.pure_steps, List.append_nil,
      ih, List.flatMap_cons]

/-- The order in which the uuids are looked up. -/
def order (settings : Settings) (schedule : Schedule) (ids : List String) : List String :=
  if settings.isShared ids then schedule ids else ids

theorem perm_order (settings : Settings) (hschedule : ∀ ids, (schedule ids).Perm ids)
    (ids : List String) : (order settings schedule ids).Perm ids := by
  unfold order
  split
  · exact hschedule ids
  · exact .refl ids

theorem inOrder_answers (answer : String → Answer) {order ids : List String}
    (h : order.Perm ids) : inOrder (order.map fun uuid ↦ (uuid, answer uuid)) ids =
      ids.map fun uuid ↦ (uuid, answer uuid) := by
  have hvalue := lookUpAll_value (asking answer) order
  have hmem : ∀ uuid ∈ ids, uuid ∈ order := fun _ ↦ h.mem_iff.mpr
  have hordered := inOrder_lookUpAll (asking answer) hmem
  rwa [hvalue] at hordered

/-- Resolving puts the outcome together from the answers to its calls. -/
theorem value_resolve (lookup : TitleLookup Step) :
    (resolve settings schedule lookup records).value = assemble settings.textField records
      ((order settings schedule (collect settings.textField records)).map fun uuid ↦
        (uuid, (lookup uuid).value)) := by
  have hmodify : ∀ titles, records.map (Keyed.modify settings.textField (valueWithTitles titles)) =
      records.map (recordWithTitles settings.textField titles) := fun titles ↦
    List.map_congr_left fun record _ ↦ (recordWithTitles_eq_modify _ titles record).symm
  rw [resolve_eq_resolveThroughout]
  simp only [resolveThroughout, Recorded.bind_value, Recorded.pure_value, lookUpAll_value, hmodify]
  rfl

theorem steps_resolve (lookup : TitleLookup Step) :
    (resolve settings schedule lookup records).steps =
      (order settings schedule (collect settings.textField records)).flatMap fun uuid ↦
        (lookup uuid).steps := by
  rw [resolve_eq_resolveThroughout]
  simp only [resolveThroughout, Recorded.bind_steps, Recorded.pure_steps, lookUpAll_steps,
    List.append_nil]
  rfl

theorem calls_resolve (answer : String → Answer) :
    (resolve settings schedule (asking answer) records).steps =
      order settings schedule (collect settings.textField records) := by
  rw [steps_resolve]
  exact List.flatMap_singleton' _

/-- An outcome is the same in whatever order the answers came. -/
theorem assemble_of_perm (answer : String → Answer) {field : String} {uuids : List String}
    (h : uuids.Perm (collect field records)) :
    assemble field records (uuids.map fun uuid ↦ (uuid, answer uuid)) =
      assemble field records ((collect field records).map fun uuid ↦ (uuid, answer uuid)) := by
  unfold assemble
  rw [inOrder_answers answer h, inOrder_answers answer (.refl _)]

theorem mem_answers_iff {answer : String → Answer} {field : String} {entry : String × Answer} :
    entry ∈ (collect field records).map (fun uuid ↦ (uuid, answer uuid)) ↔
      IsReferenced field records entry.1 ∧ answer entry.1 = entry.2 := by
  rw [← mem_collect_iff]
  obtain ⟨uuid, given⟩ := entry
  simp

/-- One call and one answer for each uuid account for all of them. -/
theorem accountedFor_assemble (answer : String → Answer) {field : String}
    {calls uuids : List String} (hcalls : calls.Perm (collect field records))
    (huuids : uuids.Perm (collect field records)) :
    AccountedFor answer field records calls
      (assemble field records (uuids.map fun uuid ↦ (uuid, answer uuid))) where
  calls_nodup := hcalls.nodup_iff.mpr (nodup_collect field records)
  mem_calls uuid := hcalls.mem_iff.trans mem_collect_iff
  mem_titles uuid title := by
    simp only [assemble, inOrder_answers answer huuids, List.mem_filterMap, titleOf?_eq_some_iff,
      exists_eq_right, mem_answers_iff]
  mem_unresolved unresolved := by
    simp only [assemble, inOrder_answers answer huuids, List.mem_filterMap,
      unresolvedOf?_eq_some_iff, exists_eq_right, mem_answers_iff]
  once := by
    simp only [assemble, inOrder_answers answer huuids]
    refine (perm_titles_unresolved _).trans ?_
    rw [List.map_map]
    exact (List.Perm.of_eq (List.map_id _)).trans hcalls.symm
  ascending := by
    have hpairs : ((collect field records).map fun uuid ↦ (uuid, answer uuid)).Pairwise
        fun first second ↦ first.1 < second.1 :=
      List.pairwise_map.mpr (pairwise_collect field records)
    simp only [assemble, inOrder_answers answer huuids]
    refine hpairs.filterMap unresolvedOf? fun first second hlt left hleft right hright ↦ ?_
    rwa [unresolvedOf?_eq_some_iff.mp hleft, unresolvedOf?_eq_some_iff.mp hright] at hlt

/-- The lookups that resolving makes, in whatever order, are one for each uuid that the records
refer to, and each of these has either the title that it was answered with or is unresolved. The
same goes for workers that begin and end the lookups in whatever order; the outcome is the same for
them, for every number of workers. -/
theorem resolve_accounts_for_references {answer : String → Answer} {workers : Nat} {pool : Pool}
    (hschedule : ∀ ids, (schedule ids).Perm ids)
    (hrun : Pool.Run answer workers (.start (collect settings.textField records)) pool)
    (hdone : pool.IsDone) :
    let resolved := resolve settings schedule (asking answer) records
    AccountedFor answer settings.textField records resolved.steps resolved.value ∧
      AccountedFor answer settings.textField records pool.calls
        (assemble settings.textField records pool.answers) ∧
      assemble settings.textField records pool.answers = resolved.value ∧
      ∀ (concurrency : Nat) (other : Schedule), (∀ ids, (other ids).Perm ids) →
        (resolve { settings with concurrency } other (asking answer) records).value =
          resolved.value := by
  intro resolved
  have horder := perm_order settings hschedule (collect settings.textField records)
  obtain ⟨hcalls, hanswered, hanswers⟩ := Pool.perm_of_run hrun hdone
  have hvalue : resolved.value = assemble settings.textField records
      ((collect settings.textField records).map fun uuid ↦ (uuid, answer uuid)) :=
    (value_resolve (asking answer)).trans (assemble_of_perm answer horder)
  refine ⟨?_, ?_, ?_, fun concurrency other hother ↦ ?_⟩
  · rw [hvalue, calls_resolve]
    exact accountedFor_assemble answer horder (.refl _)
  · rw [hanswers]
    exact accountedFor_assemble answer hcalls hanswered
  · rw [hvalue, hanswers, assemble_of_perm answer hanswered]
  · rw [hvalue]
    exact (value_resolve (asking answer)).trans
      (assemble_of_perm answer (perm_order { settings with concurrency } hother _))

/-- Two workers begin with the later uuid, whose lookup fails before the other one ends. -/
theorem resolve_accounts_for_references_of_two_workers :
    let alpha := "0a1b2c3d-0000-4000-8000-000000000001"
    let beta := "0a1b2c3d-0000-4000-8000-000000000002"
    let failure : Answer := .error (.other "offline")
    let answer : String → Answer := fun uuid ↦ if uuid = alpha then .ok (some "A") else failure
    let records : List Record :=
      [[("block/title", .string ("[[" ++ beta ++ "]] and [[" ++ alpha ++ "]]"))],
        [("block/title", .string ("[[" ++ alpha ++ "]]"))]]
    let pool : Pool := ⟨[], [beta, alpha], [], [(beta, failure), (alpha, .ok (some "A"))]⟩
    let settings : Settings := ⟨"block/title", 2⟩
    let resolved := resolve settings List.reverse (asking answer) records
    AccountedFor answer settings.textField records resolved.steps resolved.value ∧
      assemble settings.textField records pool.answers = resolved.value := by
  intro alpha beta failure answer records pool settings resolved
  have hids : collect settings.textField records = [alpha, beta] := by decide +kernel
  have hrun : Pool.Run answer 2 (.start (collect settings.textField records)) pool := by
    rw [hids]
    exact .head (.begin beta [alpha] [] [] [] [] (by decide)) <|
      .head (.begin alpha [] [] [beta] [beta] [] (by decide)) <|
      .head (.finish beta [] [beta, alpha] [alpha] [] []) <|
      .single (.finish alpha [] [beta, alpha] [] [] [(beta, failure)])
  have hschedule : ∀ ids : List String, (List.reverse ids).Perm ids := List.reverse_perm
  have hall := resolve_accounts_for_references hschedule hrun ⟨rfl, rfl⟩
  exact ⟨hall.1, hall.2.2.1⟩

end

end FilterQuery.Reference
