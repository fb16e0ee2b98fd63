import Mathlib.Order.Bounds.Defs
import SExpr.Proofs.Level

/-!
# The parenthesis that is blamed

The balance check keeps the offsets of the open parentheses on a stack. `Opens` says what such a stack
means: between an open parenthesis and the next one, and behind the last one, everything is balanced.
Levels then tell what the check blames without a stack: the first closing parenthesis behind which the
level is negative, or else the last opening one that the level never comes back from. These are the
last ones that match nothing.
-/

namespace SExpr

namespace Balance

/-! ## Parentheses that match -/

/-- The parenthesis at the offset is an opening one, and the level stays above the one before it. -/
def StaysOpen (src : Text) (i : Nat) : Prop :=
  src[i]? = some '(' ∧ ∀ k, i < k → level (src.take i) < level (src.take k)

/-- The parenthesis at `i` is closed by the one at `k`: what stands between them is balanced. -/
structure Matches (src : Text) (i k : Nat) : Prop where
  ordered : i < k
  opening : src[i]? = some '('
  closing : src[k]? = some ')'
  inside : Balanced (src.extract (i + 1) k)

section Levels

variable {src : Text} {c : Char} {i k : Nat}

theorem level_openParen : level ['('] = 1 := rfl

theorem level_closeParen : level [')'] = -1 := rfl

theorem level_other (hopen : c ≠ '(') (hclose : c ≠ ')') : level [c] = 0 :=
  level_of_neither (by simp [Nesting.opens, hopen]) (by simp [Nesting.closes, hclose])

/-- The level only falls at a closing parenthesis, and by one. -/
theorem level_falls (h : level (src.take (k + 1)) < level (src.take k)) :
    src[k]? = some ')' ∧ level (src.take k) = level (src.take (k + 1)) + 1 := by
  have hlt : k < src.length := by
    by_contra hge
    rw [List.take_of_length_le (by omega), List.take_of_length_le (by omega)] at h
    exact absurd h (Int.lt_irrefl _)
  have hget : src[k]? = some src[k] := List.getElem?_eq_getElem hlt
  have hstep := level_take_succ hget
  by_cases hclose : src[k] = ')'
  · rw [hclose] at hget hstep
    rw [level_closeParen] at hstep
    exact ⟨hget, by omega⟩
  · have hnonneg : 0 ≤ level [src[k]] := by
      by_cases hopen : src[k] = '('
      · rw [hopen]
        decide
      · rw [level_other hopen hclose]
    omega

/-- An opening parenthesis from which the level comes back is closed where it first does. -/
theorem exists_matches (hopen : src[i]? = some '(')
    (hback : ∃ k, i < k ∧ level (src.take k) ≤ level (src.take i)) : ∃ k, Matches src i k := by
  classical
  have hfirst := Nat.find_spec hback
  have hleast : ∀ j, i < j → j < Nat.find hback → level (src.take i) < level (src.take j) := by
    intro j hij hj
    have hnot := Nat.find_min hback hj
    omega
  generalize Nat.find hback = n at hfirst hleast
  have hup : level (src.take (i + 1)) = level (src.take i) + 1 := level_take_succ hopen
  -- The level is higher right behind the parenthesis, so it comes back later, by one character.
  obtain ⟨k, rfl⟩ : ∃ k, n = k + 1 := Nat.exists_eq_succ_of_ne_zero (by omega)
  have hik : i < k := by
    rcases Nat.lt_or_ge i k with hlt | hge
    · exact hlt
    · obtain rfl : k = i := by omega
      omega
  have habove := hleast k hik (Nat.lt_succ_self k)
  rcases level_falls (Int.lt_of_le_of_lt hfirst.2 habove) with ⟨hclose, hdown⟩
  refine ⟨k, hik, hopen, hclose, .extract hik (by omega) ?_⟩
  intro j hij hjk
  have hj := hleast j hij (by omega)
  omega

/-- An opening parenthesis that is closed does not stay open. -/
theorem Matches.not_staysOpen (h : Matches src i k) : ¬ StaysOpen src i := by
  rintro ⟨_, hstays⟩
  have hup := level_take_succ h.opening
  have hinside := level_take_extract src h.ordered
  have hdown := level_take_succ h.closing
  have hlevel := hstays (k + 1) (Nat.lt_succ_of_lt h.ordered)
  rw [h.inside.total] at hinside
  rw [level_openParen] at hup
  rw [level_closeParen] at hdown
  simp only [Nat.succ_eq_add_one] at hinside
  omega

/-- The parentheses that stay open are those that match nothing. -/
theorem staysOpen_iff :
    StaysOpen src i ↔ src[i]? = some '(' ∧ ∀ k, ¬ Matches src i k := by
  constructor
  · intro h
    exact ⟨h.1, fun k hk => hk.not_staysOpen h⟩
  · rintro ⟨hopen, hnone⟩
    refine ⟨hopen, fun k hk => ?_⟩
    by_contra hback
    rcases exists_matches hopen ⟨k, hk, Int.not_lt.1 hback⟩ with ⟨m, hm⟩
    exact hnone m hm

/-- Behind the last one that stays open, all are closed. -/
theorem exists_matches_behind (h : IsGreatest {j | StaysOpen src j} i) (hk : i < k)
    (hopen : src[k]? = some '(') : ∃ m, Matches src k m := by
  by_contra hnone
  have hle : k ≤ i := h.2 (staysOpen_iff.2 ⟨hopen, not_exists.1 hnone⟩)
  omega

end Levels

/-! ## Stacks of open parentheses -/

/-- The offsets are those of the open parentheses of the text, innermost first: behind each of them,
up to the next one or the end, everything is balanced. -/
inductive Opens : Text → List Nat → Prop where
  | balanced {s : Text} : Balanced s → Opens s []
  | opening {before inside : Text} {outer : List Nat} : Opens before outer → Balanced inside →
      Opens (before ++ '(' :: inside) (before.length :: outer)

namespace Opens

variable {s t : Text} {opened outer : List Nat} {i : Nat}

/-- What is balanced changes nothing. -/
theorem append (h : Opens s opened) (ht : Balanced t) : Opens (s ++ t) opened := by
  cases h with
  | balanced hs => exact .balanced (hs.append ht)
  | opening houter hinside =>
    rw [List.append_assoc, List.cons_append]
    exact .opening houter (hinside.append ht)

theorem concat_openParen (h : Opens s opened) : Opens (s ++ ['(']) (s.length :: opened) :=
  .opening h Balanced.nil

/-- A closing parenthesis closes the innermost one. -/
theorem concat_closeParen (h : Opens s (i :: outer)) : Opens (s ++ [')']) outer := by
  cases h with
  | @opening before inside _ houter hinside =>
    have hpair : Balanced ('(' :: (inside ++ [')'])) := hinside.enclosed rfl rfl
    rw [List.append_assoc, List.cons_append]
    exact houter.append hpair

/-- As many parentheses are open as the level says. -/
theorem level_eq (h : Opens s opened) : level s = opened.length := by
  induction h with
  | balanced hs => exact hs.total
  | @opening before inside outer _ hinside ih =>
    rw [level_append, level_cons, ih, level_openParen, hinside.total, List.length_cons]
    omega

/-- Nothing has been closed that was not open. -/
theorem level_nonneg (h : Opens s opened) (k : Nat) : 0 ≤ level (s.take k) := by
  induction h generalizing k with
  | balanced hs => exact hs.nonneg k
  | @opening before inside outer houter hinside ih =>
    rw [List.take_append, level_append]
    have hbefore := ih k
    rcases Nat.eq_zero_or_pos (k - before.length) with hzero | hpos
    · rw [hzero, List.take_zero, level_nil]
      omega
    · have hnonneg := hinside.nonneg (k - before.length - 1)
      rw [show k - before.length = (k - before.length - 1) + 1 by omega, List.take_succ_cons,
        level_cons, level_openParen]
      omega

/-- Where nothing is open, one closing parenthesis more is the first that is one too many. -/
theorem isLeast (h : Opens s []) (rest : Text) :
    IsLeast {j | level ((s ++ ')' :: rest).take (j + 1)) < 0} s.length := by
  refine ⟨?_, ?_⟩
  · have hget : (s ++ ')' :: rest)[s.length]? = some ')' := by simp
    have hlevel := level_take_succ hget
    rw [List.take_left, h.level_eq, level_closeParen] at hlevel
    show level ((s ++ ')' :: rest).take (s.length + 1)) < 0
    rw [hlevel]
    decide
  · intro j hj
    by_contra hlt
    have hsame : (s ++ ')' :: rest).take (j + 1) = s.take (j + 1) :=
      List.take_append_of_le_length (by omega)
    have hnegative : level ((s ++ ')' :: rest).take (j + 1)) < 0 := hj
    rw [hsame] at hnegative
    exact absurd (h.level_nonneg (j + 1)) (Int.not_le.2 hnegative)

/-- The innermost open parenthesis is the last one that stays open. -/
theorem isGreatest (h : Opens s (i :: outer)) : IsGreatest {j | StaysOpen s j} i := by
  cases h with
  | @opening before inside _ houter hinside =>
    have htake : ∀ k, level ((before ++ '(' :: inside).take (before.length + (k + 1))) =
        level before + 1 + level (inside.take k) := by
      intro k
      rw [List.take_length_add_append, List.take_succ_cons, level_append, level_cons,
        level_openParen, Int.add_assoc]
    refine ⟨⟨by simp, ?_⟩, ?_⟩
    · intro k hk
      obtain ⟨m, rfl⟩ := Nat.exists_eq_add_of_lt hk
      have hnonneg := hinside.nonneg m
      rw [List.take_left, Nat.add_assoc, htake]
      omega
    · -- Behind it the level ends where it started, so nothing that was opened there stays open.
      rintro j ⟨_, hstays⟩
      by_contra hj
      obtain ⟨m, rfl⟩ := Nat.exists_eq_add_of_lt (Nat.lt_of_not_le hj)
      have hnonneg := hinside.nonneg m
      have hend := hstays (before.length + (m + 1 + inside.length + 1)) (by omega)
      have hlast : level (inside.take (m + 1 + inside.length)) = 0 := by
        rw [List.take_of_length_le (by omega), hinside.total]
      rw [Nat.add_assoc, htake, htake, hlast] at hend
      omega

end Opens

/-! ## The check -/

/-- What the check comes to on a text: nothing is open behind it, a closing parenthesis stands where
nothing is open, or some are left open, of which the innermost is blamed. -/
inductive Checked (src : Text) : Except LexError Unit → Prop where
  | balanced : Opens src [] → Checked src (.ok ())
  | unmatched {taken rest : Text} : Opens taken [] → src = taken ++ ')' :: rest →
      Checked src (.error (.unmatchedClose taken.length))
  | unclosed {innermost : Nat} {outer : List Nat} : Opens src (innermost :: outer) →
      Checked src (.error (.unclosedOpen innermost))

/-- The check goes on with the offsets of the open parentheses behind each character. -/
theorem checked_of_opens {taken : Text} {opened : List Nat} (h : Opens taken opened) (s : Text) :
    Checked (taken ++ s) (check opened taken.length s) := by
  induction s generalizing taken opened with
  | nil =>
    rw [List.append_nil]
    cases opened with
    | nil => exact .balanced h
    | cons innermost outer => exact .unclosed h
  | cons c s ih =>
    have hnext : taken ++ c :: s = taken ++ [c] ++ s := by simp
    by_cases hopen : c = '('
    · subst hopen
      rw [hnext]
      simpa [check] using ih h.concat_openParen
    · by_cases hclose : c = ')'
      · subst hclose
        cases opened with
        | nil => exact .unmatched h rfl
        | cons innermost outer =>
          rw [hnext]
          simpa [check] using ih h.concat_closeParen
      · have hsingle : Balanced [c] :=
          .single (by simp [Nesting.opens, hopen]) (by simp [Nesting.closes, hclose])
        rw [hnext]
        simpa [check, hopen, hclose] using ih (h.append hsingle)

theorem checked (src : Text) : Checked src (checkBalance src) :=
  checked_of_opens (.balanced Balanced.nil) src

end Balance

/-! ## What the check blames -/

/-- A text passes the check exactly when its level is never negative and zero at its end. Where it is
negative, the first parenthesis behind which it is so is blamed, whatever is left open later. Otherwise
the last opening parenthesis that the level stays above is blamed, and all behind it are closed. -/
theorem checkBalance_blames (src : Text) :
    (checkBalance src = .ok () ↔ (∀ k, 0 ≤ level (src.take k)) ∧ level src = 0) ∧
    ((∃ k, level (src.take k) < 0) →
      ∃ i : Nat, IsLeast {j | level (src.take (j + 1)) < 0} i ∧ src[i]? = some ')' ∧
        checkBalance src = .error (.unmatchedClose i)) ∧
    ((∀ k, 0 ≤ level (src.take k)) → 0 < level src →
      ∃ i : Nat, IsGreatest {j | Balance.StaysOpen src j} i ∧
        (∀ j, i < j → src[j]? = some '(' → ∃ k, Balance.Matches src j k) ∧
        checkBalance src = .error (.unclosedOpen i)) := by
  refine ⟨?_, ?_, ?_⟩
  · rw [checkBalance_eq_ok_iff]
    exact ⟨fun h => ⟨h.nonneg, h.total⟩, fun h => ⟨h.1, h.2⟩⟩
  · rintro ⟨k, hk⟩
    have hchecked := Balance.checked src
    generalize checkBalance src = result at hchecked ⊢
    cases hchecked with
    | balanced hopens | unclosed hopens => exact absurd (hopens.level_nonneg k) (Int.not_le.2 hk)
    | @unmatched taken rest hopens hsrc =>
      subst hsrc
      exact ⟨taken.length, hopens.isLeast rest, by simp, rfl⟩
  · intro hnonneg hpos
    have hchecked := Balance.checked src
    generalize checkBalance src = result at hchecked ⊢
    cases hchecked with
    | balanced hopens =>
      rw [hopens.level_eq] at hpos
      exact absurd hpos (by decide)
    | @unmatched taken rest hopens hsrc =>
      subst hsrc
      exact absurd (hopens.isLeast rest).1 (Int.not_lt.2 (hnonneg (taken.length + 1)))
    | @unclosed innermost outer hopens =>
      exact ⟨innermost, hopens.isGreatest, fun j => Balance.exists_matches_behind hopens.isGreatest,
        rfl⟩

/-- In `())((` the second closing parenthesis is blamed, though two are left open behind it. In `(()(()`
the fourth character is: the first one is left open as well, the one behind it is closed. -/
theorem blames_of_crossed :
    ((∃ k, level (['(', ')', ')', '(', '('].take k) < 0) ∧
      IsLeast {j | level (['(', ')', ')', '(', '('].take (j + 1)) < 0} 2 ∧
      checkBalance ['(', ')', ')', '(', '('] = .error (.unmatchedClose 2)) ∧
    (∀ k, 0 ≤ level (['(', '(', ')', '(', '(', ')'].take k)) ∧
      0 < level ['(', '(', ')', '(', '(', ')'] ∧
      IsGreatest {j | Balance.StaysOpen ['(', '(', ')', '(', '(', ')'] j} 3 ∧
      (∃ k, Balance.Matches ['(', '(', ')', '(', '(', ')'] 4 k) ∧
      checkBalance ['(', '(', ')', '(', '(', ')'] = .error (.unclosedOpen 3) := by
  have hnegative : ∃ k, level (['(', ')', ')', '(', '('].take k) < 0 := ⟨3, by decide⟩
  have hnonneg : ∀ k, 0 ≤ level (['(', '(', ')', '(', '(', ')'].take k) := by
    have hshort : ∀ k < 6, 0 ≤ level (['(', '(', ')', '(', '(', ')'].take k) := by decide
    intro k
    rcases Nat.lt_or_ge k 6 with hlt | hge
    · exact hshort k hlt
    · rw [List.take_of_length_le hge]
      decide
  have hpos : 0 < level ['(', '(', ')', '(', '(', ')'] := by decide
  rcases (checkBalance_blames _).2.1 hnegative with ⟨i, hleast, _, hblamed⟩
  rcases (checkBalance_blames _).2.2 hnonneg hpos with ⟨m, hgreatest, hclosed, hleft⟩
  cases hblamed
  cases hleft
  exact ⟨⟨hnegative, hleast, rfl⟩, hnonneg, hpos, hgreatest, hclosed 4 (by decide) rfl, rfl⟩

end SExpr
