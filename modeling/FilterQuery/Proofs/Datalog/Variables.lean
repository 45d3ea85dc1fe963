import FilterQuery.Datalog.Scope
import FilterQuery.Proofs.Datalog.Meaning

/-!
# No variable is issued twice

A name without an underscore can be read off every variable that is named after it, together with
the number of the variable. So the variables of a row of requests are all different, and those of a
later row differ from those of an earlier one.
-/

namespace FilterQuery.Datalog

/-- What a variable may be named after: characters of a word, none of them an underscore. -/
def IsBase (base : String) : Prop := ∀ c ∈ base.toList, isPlain c = true ∧ c ≠ '_'

instance (base : String) : Decidable (IsBase base) :=
  decidable_of_iff (base.toList.all fun c ↦ isPlain c && c != '_') (by simp [IsBase])

/-- What stands behind the name in the variable that is the `count`-th of it. -/
def numbering (count : Nat) : List Char := if count = 1 then [] else '_' :: Nat.toDigits 10 count

theorem toList_variableName (base : String) (count : Nat) :
    (variableName base count).toList = '?' :: (base.toList ++ numbering count) := by
  unfold variableName numbering
  split <;> simp

theorem numbering_injective : Function.Injective numbering := by
  intro count other h
  unfold numbering at h
  split at h <;> split at h
  · simp_all
  · cases h
  · cases h
  · rw [List.cons.injEq] at h
    rw [← @Nat.ofDigitChars_ten_toDigits count, h.2, Nat.ofDigitChars_ten_toDigits]

theorem takeWhile_append_numbering {base : String} (hbase : IsBase base) (count : Nat) :
    (base.toList ++ numbering count).takeWhile (· != '_') = base.toList := by
  have hnone : ∀ c ∈ base.toList, (c != '_') = true := fun c hc ↦ by simpa using (hbase c hc).2
  rw [List.takeWhile_append_of_pos hnone]
  unfold numbering
  split <;> simp

/-- The name and the number can be read off a variable. -/
theorem variableName_inj {base other : String} (hbase : IsBase base) (hother : IsBase other)
    {count n : Nat} :
    variableName base count = variableName other n ↔ base = other ∧ count = n := by
  constructor
  · intro h
    have hchars : base.toList ++ numbering count = other.toList ++ numbering n := by
      have hlist := congrArg String.toList h
      rwa [toList_variableName, toList_variableName, List.cons.injEq, and_iff_right rfl] at hlist
    have hname : base.toList = other.toList := by
      rw [← takeWhile_append_numbering hbase count, hchars, takeWhile_append_numbering hother]
    rw [hname, List.append_cancel_left_eq] at hchars
    exact ⟨String.toList_inj.1 hname, numbering_injective hchars⟩
  · rintro ⟨rfl, rfl⟩
    rfl

theorem isVariable_variableName (base : String) (count : Nat) :
    isVariable (variableName base count) = true := by
  simp [isVariable, toList_variableName]

theorem isWord_variableName {base : String} (hbase : IsBase base) (count : Nat) :
    IsWord (variableName base count) := by
  constructor
  · intro hempty
    have hlist := toList_variableName base count
    rw [hempty] at hlist
    cases hlist
  · intro c hc
    rw [toList_variableName, List.mem_cons, List.mem_append] at hc
    rcases hc with rfl | hc | hc
    · decide
    · exact (hbase c hc).1
    · unfold numbering at hc
      split at hc
      · cases hc
      · rcases List.mem_cons.1 hc with rfl | hdigit
        · decide
        · exact isPlain_of_mem_toDigits hdigit

theorem variableName_one (base : String) : variableName base 1 = "?" ++ base := if_pos rfl

namespace Scope

theorem freshList_cons (scope : Scope) (base : String) (bases : List String) :
    scope.freshList (base :: bases) = scope.next base :: (scope.issue [base]).freshList bases := rfl

theorem freshList_append (scope : Scope) (bases others : List String) :
    scope.freshList (bases ++ others) =
      scope.freshList bases ++ (scope.issue bases).freshList others := by
  induction bases generalizing scope with
  | nil => simp [freshList]
  | cons base bases ih =>
    have hissue : (scope.issue [base]).issue bases = scope.issue (base :: bases) := by
      simp [issue]
    rw [List.cons_append, freshList_cons, ih, hissue, freshList_cons, List.cons_append]

/-- Every variable that is issued is numbered behind those of its name that the scope knows. -/
theorem mem_freshList {scope : Scope} {bases : List String} {v : String}
    (h : v ∈ scope.freshList bases) :
    ∃ base ∈ bases, ∃ n, scope.issued.count base < n ∧ v = variableName base n := by
  induction bases generalizing scope with
  | nil => cases h
  | cons base bases ih =>
    rcases List.mem_cons.1 h with rfl | hrest
    · exact ⟨base, List.mem_cons_self, _, Nat.lt_succ_self _, rfl⟩
    · obtain ⟨other, hother, n, hn, rfl⟩ := ih hrest
      have hcount : scope.issued.count other ≤ (scope.issue [base]).issued.count other := by
        simp [issue, List.count_append]
      exact ⟨other, List.mem_cons_of_mem base hother, n, hcount.trans_lt hn, rfl⟩

/-- No variable is issued twice. -/
theorem freshList_nodup (scope : Scope) {bases : List String} (h : ∀ base ∈ bases, IsBase base) :
    (scope.freshList bases).Nodup := by
  induction bases generalizing scope with
  | nil => exact List.nodup_nil
  | cons base bases ih =>
    rw [List.forall_mem_cons] at h
    refine List.nodup_cons.2 ⟨fun hmem ↦ ?_, ih _ h.2⟩
    obtain ⟨other, hother, n, hn, heq⟩ := mem_freshList hmem
    obtain ⟨rfl, rfl⟩ := (variableName_inj h.1 (h.2 other hother)).1 heq
    simp [issue, List.count_append] at hn

/-- A row without repetitions gets for each name the variable that is next for it. -/
theorem freshList_eq_map {scope : Scope} {bases : List String} (h : bases.Nodup) :
    scope.freshList bases = bases.map scope.next := by
  induction bases generalizing scope with
  | nil => rfl
  | cons base bases ih =>
    rw [List.nodup_cons] at h
    have hnext : ∀ other ∈ bases, (scope.issue [base]).next other = scope.next other := by
      intro other hother
      have hne : base ≠ other := fun heq ↦ h.1 (heq ▸ hother)
      simp [next, issue, List.count_append, hne]
    rw [freshList_cons, ih h.2, List.map_congr_left hnext, List.map_cons]

end Scope

end FilterQuery.Datalog
