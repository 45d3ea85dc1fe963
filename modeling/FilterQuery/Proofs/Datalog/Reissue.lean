import FilterQuery.Proofs.Datalog.Variables
import Mathlib.Data.List.Nodup

/-!
# Which rows of requests get a variable twice

The variables of one name are numbered, and the number stands behind an underscore. A name may
itself end like that: the first variable of `t_2` and the second one of `t` are both `?t_2`. So a
row of requests gets different variables exactly when it holds no name that is spelled like a later
variable of another name in it.
-/

namespace FilterQuery.Datalog

/-- A number is all that stands behind the last underscore before it. -/
theorem takeWhile_reverse_append_toDigits (base : List Char) (n : Nat) :
    (base ++ '_' :: Nat.toDigits 10 n).reverse.takeWhile (· != '_') =
      (Nat.toDigits 10 n).reverse := by
  have hdigits : ∀ c ∈ (Nat.toDigits 10 n).reverse, (c != '_') = true := by
    intro c hc
    rw [bne_iff_ne]
    rintro rfl
    exact absurd (Nat.isDigit_of_mem_toDigits (by decide) (by decide) (List.mem_reverse.1 hc))
      (by decide)
  rw [List.reverse_append, List.reverse_cons, List.append_assoc, List.singleton_append,
    List.takeWhile_append_of_pos hdigits]
  simp

theorem append_underscore_toDigits_inj {base other : List Char} {count n : Nat} :
    base ++ '_' :: Nat.toDigits 10 count = other ++ '_' :: Nat.toDigits 10 n ↔
      base = other ∧ count = n := by
  constructor
  · intro h
    have hdigits : Nat.toDigits 10 count = Nat.toDigits 10 n := by
      rw [← List.reverse_inj, ← takeWhile_reverse_append_toDigits base, h,
        takeWhile_reverse_append_toDigits]
    rw [hdigits, List.append_cancel_right_eq] at h
    refine ⟨h, ?_⟩
    rw [← @Nat.ofDigitChars_ten_toDigits count, hdigits, Nat.ofDigitChars_ten_toDigits]
  · rintro ⟨rfl, rfl⟩
    rfl

/-- Two variables are the same only when their names and numbers are, or when the name of one is
spelled like a later variable of the other. -/
theorem variableName_eq_iff {base other : String} {count n : Nat} :
    variableName base count = variableName other n ↔
      (base = other ∧ count = n) ∨ (count = 1 ∧ n ≠ 1 ∧ base = other ++ "_" ++ toString n) ∨
        (count ≠ 1 ∧ n = 1 ∧ other = base ++ "_" ++ toString count) := by
  rw [← String.toList_inj, toList_variableName, toList_variableName, List.cons.injEq,
    and_iff_right rfl]
  by_cases hcount : count = 1 <;> by_cases hn : n = 1
  · simp [numbering, hcount, hn, String.toList_inj]
  · simp [numbering, hcount, hn, ← String.toList_inj, Ne.symm hn]
  · simp [numbering, hcount, hn, ← String.toList_inj, eq_comm]
  · simp only [numbering, hcount, hn, if_false, append_underscore_toDigits_inj, String.toList_inj,
      false_and, ne_eq, not_false_eq_true, or_false, and_false]

namespace Scope

/-- The requests of a row, each with the number that its variable gets. -/
def numbered : Scope → List String → List (String × Nat)
  | _, [] => []
  | scope, base :: bases =>
    (base, scope.issued.count base + 1) :: numbered (scope.issue [base]) bases

theorem freshList_eq_map_numbered (scope : Scope) (bases : List String) :
    scope.freshList bases =
      (scope.numbered bases).map fun request ↦ variableName request.1 request.2 := by
  induction bases generalizing scope with
  | nil => rfl
  | cons base bases ih => rw [freshList_cons, ih, numbered, List.map_cons, next]

/-- The numbers of a name go on from those that have been issued, one for each request. -/
theorem mem_numbered {scope : Scope} {bases : List String} {base : String} {n : Nat} :
    (base, n) ∈ scope.numbered bases ↔
      scope.issued.count base < n ∧ n ≤ scope.issued.count base + bases.count base := by
  induction bases generalizing scope with
  | nil => simp [numbered]
  | cons other bases ih =>
    have hissued : (scope.issue [other]).issued.count base =
        scope.issued.count base + [other].count base := List.count_append
    rw [numbered, List.mem_cons, ih, Prod.mk.injEq, hissued]
    by_cases hbase : base = other
    · subst hbase
      simp only [true_and, List.count_cons_self, List.count_nil]
      omega
    · simp [hbase, Ne.symm hbase]

theorem numbered_nodup (scope : Scope) (bases : List String) : (scope.numbered bases).Nodup := by
  induction bases generalizing scope with
  | nil => exact List.nodup_nil
  | cons base bases ih =>
    refine List.nodup_cons.2 ⟨fun hmem ↦ ?_, ih _⟩
    have hcount := (mem_numbered.1 hmem).1
    simp [issue, List.count_append] at hcount

/-- A row of requests gets different variables exactly when none of its names is spelled like the
second or a later variable of another of its names. -/
theorem nodup_freshList_empty_iff (bases : List String) :
    (empty.freshList bases).Nodup ↔
      ∀ base n, 2 ≤ n → n ≤ bases.count base → base ++ "_" ++ toString n ∉ bases := by
  have hnumbered : ∀ base n,
      (base, n) ∈ empty.numbered bases ↔ 1 ≤ n ∧ n ≤ bases.count base := fun base n ↦ by
    simp [mem_numbered, empty, Nat.lt_iff_add_one_le]
  rw [freshList_eq_map_numbered, List.nodup_map_iff_inj_on (numbered_nodup _ _)]
  constructor
  · intro hinj base n htwo hn hmem
    have hlater := (hnumbered base n).2 ⟨by omega, hn⟩
    have hfirst := (hnumbered (base ++ "_" ++ toString n) 1).2 ⟨le_rfl, List.count_pos_iff.2 hmem⟩
    have hsame := hinj _ hlater _ hfirst
      (variableName_eq_iff.2 (.inr (.inr ⟨by omega, rfl, rfl⟩)))
    have hone : n = 1 := congrArg Prod.snd hsame
    omega
  · rintro hspelling ⟨base, count⟩ hbase ⟨other, n⟩ hother hsame
    obtain ⟨hcount, hcountLe⟩ := (hnumbered _ _).1 hbase
    obtain ⟨hn, hnLe⟩ := (hnumbered _ _).1 hother
    rcases variableName_eq_iff.1 hsame with ⟨rfl, rfl⟩ | ⟨rfl, hne, rfl⟩ | ⟨hne, rfl, rfl⟩
    · rfl
    · exact absurd (List.count_pos_iff.1 hcountLe) (hspelling other n (by omega) hnLe)
    · exact absurd (List.count_pos_iff.1 hnLe) (hspelling base count (by omega) hcountLe)

/-- The first variable of a name that is requested here is the second one of another. -/
theorem freshList_repeats_variable :
    ¬ ∀ bases : List String, (empty.freshList bases).Nodup := fun h ↦
  absurd (h ["t", "t", "t_2"]) (by decide +kernel)

end Scope

end FilterQuery.Datalog
