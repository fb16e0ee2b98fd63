import SExpr.Proofs.Scanned

/-!
# The parentheses of a text

Whether a text balances depends on its parentheses alone, taken one after the other: what stands
between them may be replaced. Cutting a text into tokens loses none of them, since no parenthesis is
white space, and the quote that may be supplied is none either.
-/

namespace SExpr

/-- Is this character one that the balance check counts? -/
def isParenthesis (c : Char) : Bool :=
  c == '(' || c == ')'

/-- The parentheses of a text in order, those inside strings as well. -/
def parentheses (s : Text) : Text :=
  s.filter isParenthesis

@[simp]
theorem parentheses_append (s t : Text) : parentheses (s ++ t) = parentheses s ++ parentheses t :=
  List.filter_append ..

theorem parentheses_cons_of_not {c : Char} (hc : isParenthesis c = false) (s : Text) :
    parentheses (c :: s) = parentheses s :=
  List.filter_cons_of_neg (by simp [hc])

/-! ## What the check depends on -/

namespace Balance

/-- A check that succeeds, succeeds on the parentheses alone, whatever the offsets are. -/
theorem check_parentheses_iff {opened opened' : List Nat} (h : opened.length = opened'.length)
    (m n : Nat) (s : Text) :
    check opened m s = .ok () ↔ check opened' n (parentheses s) = .ok () := by
  induction s generalizing opened opened' m n with
  | nil =>
    cases opened <;> cases opened' <;> simp_all [check, parentheses]
  | cons c s ih =>
    -- Only the number of open parentheses decides, so the two stacks need not hold the same offsets.
    by_cases hopen : c = '('
    · subst hopen
      have hkeep : parentheses ('(' :: s) = '(' :: parentheses s := rfl
      rw [hkeep]
      simp only [check, if_true]
      exact ih (by simp [h]) (m + 1) (n + 1)
    · by_cases hclose : c = ')'
      · subst hclose
        have hkeep : parentheses (')' :: s) = ')' :: parentheses s := rfl
        rw [hkeep]
        simp only [check, hopen, if_false, if_true]
        cases opened with
        | nil =>
          cases opened' with
          | nil => simp
          | cons _ _ => cases h
        | cons _ outer =>
          cases opened' with
          | nil => cases h
          | cons _ outer' => exact ih (Nat.succ.inj h) (m + 1) (n + 1)
      · rw [parentheses_cons_of_not (by simp [isParenthesis, hopen, hclose])]
        simp only [check, hopen, hclose, if_false]
        exact ih h (m + 1) n

end Balance

/-- Texts with the same parentheses balance or do not balance together. -/
theorem checkBalance_congr {s t : Text} (h : parentheses s = parentheses t) :
    checkBalance s = .ok () ↔ checkBalance t = .ok () := by
  calc
    checkBalance s = .ok () ↔ Balance.check [] 0 (parentheses s) = .ok () :=
      Balance.check_parentheses_iff rfl 0 0 s
    _ ↔ Balance.check [] 0 (parentheses t) = .ok () := by rw [h]
    _ ↔ checkBalance t = .ok () := (Balance.check_parentheses_iff rfl 0 0 t).symm

/-! ## What the check blames -/

/-- The error is about parentheses that do not balance. -/
def LexError.Unbalanced : LexError → Prop
  | .unmatchedClose _ | .unclosedOpen _ => True
  | .unexpectedCharacter _ _ | .unterminatedString _ => False

namespace Balance

theorem unbalanced_of_check {opened : List Nat} {n : Nat} {s : Text} {cause : LexError}
    (h : check opened n s = .error cause) : cause.Unbalanced := by
  induction s generalizing opened n with
  | nil =>
    cases opened with
    | nil => cases h
    | cons innermost _ =>
      cases h
      trivial
  | cons c s ih =>
    unfold check at h
    split at h
    · exact ih h
    · split at h
      · cases opened with
        | nil =>
          cases h
          trivial
        | cons _ outer => exact ih h
      · exact ih h

end Balance

theorem unbalanced_of_checkBalance {s : Text} {cause : LexError}
    (h : checkBalance s = .error cause) : cause.Unbalanced :=
  Balance.unbalanced_of_check h

/-! ## Parentheses of tokens -/

theorem mem_marks_of_isParenthesis {c : Char} (hc : isParenthesis c = true) : c ∈ marks := by
  have hcases : c = '(' ∨ c = ')' := by simpa [isParenthesis] using hc
  rcases hcases with rfl | rfl <;> decide

theorem isParenthesis_of_isBlank {c : Char} (hc : isBlank c = true) : isParenthesis c = false := by
  rw [Bool.eq_false_iff]
  intro hparen
  rw [(classes_of_mem_marks (mem_marks_of_isParenthesis hparen)).1] at hc
  cases hc

theorem parentheses_of_isDecimal {s : Text} (hs : ∀ c ∈ s, isDecimal c = true) :
    parentheses s = [] := by
  rw [parentheses, List.filter_eq_nil_iff]
  intro c hc hparen
  have hdecimal := hs c hc
  rw [(classes_of_mem_marks (mem_marks_of_isParenthesis hparen)).2.1] at hdecimal
  cases hdecimal

/-- The parentheses of a text are those of its tokens, in the same order. -/
theorem Scanned.parentheses_eq {strict : Bool} {n : Nat} {s : Text} {ts : List Token}
    (h : Scanned strict n s ts) : parentheses s = parentheses (ts.flatMap Token.text) := by
  induction h with
  | nil => rfl
  | blank hc _ ih => rw [parentheses_cons_of_not (isParenthesis_of_isBlank hc), ih]
  | token _ _ _ ih => rw [parentheses_append, ih, List.flatMap_cons, parentheses_append]
  | unclosed =>
    have hquote : parentheses ['"'] = [] := rfl
    rw [List.flatMap_cons, List.flatMap_nil, List.append_nil, parentheses_append, hquote,
      List.append_nil]

end SExpr
