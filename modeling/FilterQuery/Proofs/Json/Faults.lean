import FilterQuery.Proofs.Json.Trimming

/-!
# Faults of a text

A value is read whatever it says, so a text is refused only because it is no JSON, and for one of
finitely many causes. Its report takes one line; only a mismatch, which is a fault in what a text
says, repeats parts of it.
-/

namespace FilterQuery.Json

/-- What a text is refused for if it is no JSON. -/
def Cause.IsSyntax : Cause → Prop
  | .mismatch _ => False
  | _ => True

theorem Cause.IsSyntax.lineFeed_notMem {cause : Cause} (h : cause.IsSyntax) :
    '\n' ∉ cause.message.toList := by
  cases cause with
  | mismatch => exact h.elim
  | _ => decide

theorem lineFeed_notMem_toString (n : Nat) : '\n' ∉ (toString n).toList := by
  intro hmem
  rw [Nat.toString_eq_repr, Nat.toList_repr] at hmem
  exact absurd (Nat.isDigit_of_mem_toDigits (by decide) (by decide) hmem) (by decide)

theorem ReadError.lineFeed_notMem {error : ReadError} (h : error.cause.IsSyntax) :
    '\n' ∉ error.message.toList := by
  have hline : '\n' ∉ (" at line " : String).toList := by decide
  have hcolumn : '\n' ∉ (" column " : String).toList := by decide
  simp only [ReadError.message, String.toList_append, List.mem_append, not_or]
  exact ⟨⟨⟨⟨h.lineFeed_notMem, hline⟩, lineFeed_notMem_toString _⟩, hcolumn⟩,
    lineFeed_notMem_toString _⟩

namespace Reader

/-- Fails only if the text is no JSON. -/
def Syntactic {α : Type} (x : Except Stop α) : Prop :=
  ∀ ⦃stop⦄, x = .error stop → stop.cause.IsSyntax

section

variable {α β : Type}

theorem Syntactic.ok (a : α) : Syntactic (.ok a) := fun _ h ↦ by cases h

theorem Syntactic.error {stop : Stop} (h : stop.cause.IsSyntax) :
    Syntactic (.error stop : Except Stop α) := by
  rintro _ ⟨⟩
  exact h

theorem Syntactic.bind {x : Except Stop α} {f : α → Except Stop β} (hx : Syntactic x)
    (hf : ∀ a, Syntactic (f a)) : Syntactic (x >>= f) := by
  cases x with
  | error stop => exact .error (hx rfl)
  | ok a => exact hf a

theorem Syntactic.ite {p : Prop} [Decidable p] {x y : Except Stop α} (hx : Syntactic x)
    (hy : Syntactic y) : Syntactic (if p then x else y) := by
  split
  · exact hx
  · exact hy

/-! ## Words and strings -/

theorem syntactic_word (letters cs : List Char) : Syntactic (word letters cs) := by
  fun_induction word letters cs with
  | case1 => exact .ok _
  | case2 => exact .error trivial
  | case3 _ _ _ ih => exact ih
  | case4 => exact .error trivial

theorem syntactic_hexEscape (cs : List Char) : Syntactic (hexEscape cs) := by
  refine .ite (.error trivial) ?_
  split
  · exact .ok _
  · exact .error trivial

theorem syntactic_pairCharacter (expected : Char) (cs : List Char) :
    Syntactic (pairCharacter expected cs) := by
  cases cs with
  | nil => exact .error trivial
  | cons => exact .ite (.ok _) (.error trivial)

theorem syntactic_unicodeEscape (cs : List Char) : Syntactic (unicodeEscape cs) := by
  refine (syntactic_hexEscape cs).bind fun _ ↦ .ite (.error trivial) (.ite ?_ (.ok _))
  refine (syntactic_pairCharacter _ _).bind fun _ ↦ (syntactic_pairCharacter _ _).bind fun _ ↦ ?_
  exact (syntactic_hexEscape _).bind fun _ ↦ .ite (.ok _) (.error trivial)

theorem syntactic_escape (cs : List Char) : Syntactic (escape cs) := by
  cases cs with
  | nil => exact .error trivial
  | cons c cs =>
    refine .ite (syntactic_unicodeEscape cs) ?_
    split
    · exact .ok _
    · exact .error trivial

theorem syntactic_characters (fuel : Nat) (cs : List Char) : Syntactic (characters fuel cs) := by
  induction fuel generalizing cs with
  | zero => exact .error trivial
  | succ fuel ih =>
    cases cs with
    | nil => exact .error trivial
    | cons c cs =>
      refine .ite (.ok _) (.ite ?_ (.ite (.error trivial) ?_))
      · exact (syntactic_escape cs).bind fun _ ↦ (ih _).bind fun _ ↦ .ok _
      · exact (ih cs).bind fun _ ↦ .ok _

theorem syntactic_string (cs : List Char) : Syntactic (string cs) :=
  (syntactic_characters _ cs).bind fun _ ↦ .ok _

/-! ## Numbers -/

theorem syntactic_float (negative : Bool) (significand : Nat) (power : Int) (cs : List Char) :
    Syntactic (float negative significand power cs) := by
  unfold float
  split
  · exact .ok _
  · exact .error trivial

theorem syntactic_exponentPart (negative : Bool) (significand : Nat) (power : Int)
    (cs : List Char) : Syntactic (exponentPart negative significand power cs) := by
  unfold exponentPart
  dsimp only
  split
  · exact .error trivial
  · refine .ite ?_ (.error trivial)
    exact .ite (syntactic_float _ _ _ _) (.ite (.error trivial) (.ok _))

theorem syntactic_fractionPart (negative : Bool) (significand : Nat) (power : Int)
    (cs : List Char) : Syntactic (fractionPart negative significand power cs) := by
  refine .ite (.error ?_) ?_
  · show Cause.IsSyntax (if _ then _ else _)
    split <;> trivial
  · split
    · exact .ite (syntactic_exponentPart _ _ _ _) (syntactic_float _ _ _ _)
    · exact syntactic_float _ _ _ _

theorem syntactic_number (negative : Bool) (cs : List Char) : Syntactic (number negative cs) := by
  unfold number
  split
  · exact .error trivial
  · refine .ite (.error trivial) (.ite (.error trivial) ?_)
    dsimp only
    split
    · exact syntactic_fractionPart _ _ _ _
    · exact .ite (syntactic_exponentPart _ _ _ _) (.ite (.ok _) (syntactic_float _ _ _ _))
    · exact .ite (.ok _) (syntactic_float _ _ _ _)

/-! ## Lists and objects -/

theorem syntactic_nextItem? (isFirst : Bool) (cs : List Char) :
    Syntactic (nextItem? isFirst cs) := by
  unfold nextItem?
  split
  · exact .error trivial
  · refine .ite (.ok _) (.ite (.ok _) (.ite ?_ (.error trivial)))
    split
    · exact .error trivial
    · exact .ite (.error trivial) (.ok _)

theorem syntactic_nextName? (isFirst : Bool) (cs : List Char) :
    Syntactic (nextName? isFirst cs) := by
  unfold nextName?
  split
  · exact .error trivial
  · refine .ite (.ok _) (.ite (.ite (.ok _) (.error trivial)) (.ite ?_ (.error trivial)))
    split
    · exact .error trivial
    · refine .ite (.ok _) (.error ?_)
      show Cause.IsSyntax (if _ then _ else _)
      split <;> trivial

theorem syntactic_colon (cs : List Char) : Syntactic (colon cs) := by
  unfold colon
  split
  · exact .error trivial
  · exact .ite (.ok _) (.error trivial)

theorem syntactic_row {next : Bool → List Char → Except Stop (Option (List Char))}
    {item : List Char → Except Stop (α × List Char)} {exhausted : Cause}
    (hnext : ∀ isFirst cs, Syntactic (next isFirst cs)) (hitem : ∀ cs, Syntactic (item cs))
    (hexhausted : exhausted.IsSyntax) (fuel : Nat) (isFirst : Bool) (cs : List Char) :
    Syntactic (row next item exhausted fuel isFirst cs) := by
  induction fuel generalizing isFirst cs with
  | zero => exact .error hexhausted
  | succ fuel ih =>
    refine (hnext isFirst cs).bind fun start ↦ ?_
    cases start with
    | none => exact .ok _
    | some start => exact (hitem start).bind fun _ ↦ (ih false _).bind fun _ ↦ .ok _

theorem syntactic_member {value : List Char → Except Stop (α × List Char)}
    (h : ∀ cs, Syntactic (value cs)) (cs : List Char) : Syntactic (member value cs) :=
  (syntactic_string cs).bind fun _ ↦ (syntactic_colon _).bind fun _ ↦ (h _).bind fun _ ↦ .ok _

end

/-! ## Values and whole texts -/

theorem syntactic_value (depth : Nat) (cs : List Char) : Syntactic (value depth cs) := by
  induction depth using Nat.strong_induction_on generalizing cs with
  | h depth ih =>
    rw [value.eq_def]
    dsimp only
    split
    · exact .error trivial
    · refine .ite ((syntactic_word _ _).bind fun _ ↦ .ok _) ?_
      refine .ite ((syntactic_word _ _).bind fun _ ↦ .ok _) ?_
      refine .ite ((syntactic_word _ _).bind fun _ ↦ .ok _) ?_
      refine .ite ((syntactic_string _).bind fun _ ↦ .ok _) ?_
      refine .ite ((syntactic_number _ _).bind fun _ ↦ .ok _) ?_
      refine .ite ((syntactic_number _ _).bind fun _ ↦ .ok _) ?_
      refine .ite ?_ (.error trivial)
      cases depth with
      | zero => exact .error trivial
      | succ depth =>
        have hinner := ih depth (Nat.lt_succ_self depth)
        simp only [items_eq_row, members_eq_row]
        refine .ite (.bind ?_ fun _ ↦ .ok _) (.bind ?_ fun _ ↦ .ok _)
        · have hcause : Cause.endInList.IsSyntax := trivial
          exact syntactic_row syntactic_nextItem? hinner hcause _ _ _
        · have hcause : Cause.endInObject.IsSyntax := trivial
          exact syntactic_row syntactic_nextName? (syntactic_member hinner) hcause _ _ _

theorem syntactic_finish (cs : List Char) : Syntactic (finish cs) := by
  unfold finish
  split
  · exact .ok _
  · exact .error trivial

end Reader

/-- A text that is no JSON is reported on one line. -/
theorem lineFeed_notMem_of_parse {text : String} {error : ReadError}
    (h : parse text = .error error) : '\n' ∉ error.message.toList := by
  have hsyntactic : Reader.Syntactic (Reader.whole (Reader.value depthLimit) text.toList) :=
    (Reader.syntactic_value _ _).bind fun _ ↦ (Reader.syntactic_finish _).bind fun _ ↦ .ok _
  unfold parse readText at h
  cases hwhole : Reader.whole (Reader.value depthLimit) text.toList with
  | ok json =>
    rw [hwhole] at h
    cases h
  | error stop =>
    rw [hwhole] at h
    cases h
    exact ReadError.lineFeed_notMem (hsyntactic hwhole)

end FilterQuery.Json
