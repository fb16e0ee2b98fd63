import Mathlib.Data.List.Chain
import Mathlib.Tactic.SplitIfs
import SExpr.Token.OfText

/-!
# Characters of different classes

White space, digits and letters exclude each other, and none of them is a parenthesis, a quote or an
operator. So one character tells which kind of token it starts, and the order in which the scanner
asks for the classes does not matter.

The tables of the classes are in increasing order, which lets two of them be compared in one pass.
-/

namespace SExpr

/-! ## Tables in increasing order -/

namespace Ranges

/-- The range `r` is not reversed and ends before `s` starts. -/
def Precedes (r s : Nat × Nat) : Prop :=
  r.1 ≤ r.2 ∧ r.2 < s.1

instance : DecidableRel Precedes := fun r s =>
  inferInstanceAs (Decidable (r.1 ≤ r.2 ∧ r.2 < s.1))

instance : IsTrans (Nat × Nat) Precedes where
  trans := by
    intro r s t hrs hst
    have hlt : r.2 < t.1 := Nat.lt_of_lt_of_le hrs.2 (Nat.le_trans hst.1 (Nat.le_of_lt hst.2))
    exact ⟨hrs.1, hlt⟩

/-- Every range of the table precedes the next one. -/
def Increasing (ranges : Ranges) : Prop :=
  ranges.IsChain Precedes

instance : DecidablePred Increasing := fun ranges =>
  inferInstanceAs (Decidable (ranges.IsChain Precedes))

/-- Does each range of the first table fall into a gap of the second one? What lies before a range
need not be looked at again. -/
def apart : Ranges → Ranges → Bool
  | [], _ => true
  | r :: rs, ss =>
    match ss.dropWhile fun s => s.2 < r.1 with
    | [] => true
    | s :: later => decide (r.2 < s.1) && apart rs (s :: later)

theorem holds_iff {ranges : Ranges} {n : Nat} :
    ranges.holds n = true ↔ ∃ r ∈ ranges, r.1 ≤ n ∧ n ≤ r.2 := by
  simp [holds]

theorem Increasing.precedes {r s : Nat × Nat} {ranges : Ranges} (h : Increasing (r :: ranges))
    (hs : s ∈ ranges) : Precedes r s :=
  List.rel_of_pairwise_cons (List.isChain_iff_pairwise.1 h) hs

theorem not_holds_of_lt_head {r : Nat × Nat} {ranges : Ranges} {n : Nat}
    (h : Increasing (r :: ranges)) (hn : n < r.1) : ¬ holds (r :: ranges) n = true := by
  intro hmem
  rcases holds_iff.1 hmem with ⟨s, hs, hle, _⟩
  rcases List.mem_cons.1 hs with rfl | hs
  · omega
  · have hrs : Precedes r s := h.precedes hs
    have hlt : r.1 < s.1 := Nat.lt_of_le_of_lt hrs.1 hrs.2
    omega

theorem holds_dropWhile {m n : Nat} (h : m ≤ n) (ranges : Ranges) :
    holds (ranges.dropWhile fun r => r.2 < m) n = holds ranges n := by
  induction ranges with
  | nil => rfl
  | cons r ranges ih =>
    by_cases hr : r.2 < m
    · have hno : (decide (r.1 ≤ n) && decide (n ≤ r.2)) = false := by
        have hgt : ¬ n ≤ r.2 := by omega
        simp [hgt]
      rw [List.dropWhile_cons_of_pos (by simpa using hr), ih]
      simp only [holds, List.any_cons, hno, Bool.false_or]
    · rw [List.dropWhile_cons_of_neg (by simpa using hr)]

/-- Tables that are apart share no code point. -/
theorem not_holds_of_apart {rs ss : Ranges} {n : Nat} (hrs : Increasing rs) (hss : Increasing ss)
    (h : apart rs ss = true) (hn : rs.holds n = true) : ¬ ss.holds n = true := by
  induction rs generalizing ss with
  | nil => simp [holds] at hn
  | cons r rs ih =>
    have hle : r.1 ≤ n := by
      rcases holds_iff.1 hn with ⟨s, hs, hle, _⟩
      rcases List.mem_cons.1 hs with rfl | hs
      · exact hle
      · have hprec : Precedes r s := hrs.precedes hs
        exact Nat.le_trans hprec.1 (Nat.le_trans (Nat.le_of_lt hprec.2) hle)
    -- From the start of the range on, only what `dropWhile` leaves of the second table counts.
    rw [← holds_dropWhile hle ss]
    have hsuffix := List.dropWhile_suffix (l := ss) fun s => decide (s.2 < r.1)
    unfold apart at h
    split at h
    · next hnil => simp [hnil, holds]
    · next s later hcons =>
      rw [hcons] at hsuffix ⊢
      have hinc : Increasing (s :: later) := List.IsChain.suffix hss hsuffix
      rw [Bool.and_eq_true, decide_eq_true_eq] at h
      -- Inside the range the gap settles it; behind the range the rest of the table does.
      by_cases hr : n ≤ r.2
      · exact not_holds_of_lt_head hinc (Nat.lt_of_le_of_lt hr h.1)
      · have hlater : holds rs n = true := by
          rcases holds_iff.1 hn with ⟨t, ht, hbounds⟩
          rcases List.mem_cons.1 ht with rfl | ht
          · exact absurd hbounds.2 hr
          · exact holds_iff.2 ⟨t, ht, hbounds⟩
        exact ih (List.IsChain.of_cons hrs) hinc h.2 hlater

end Ranges

theorem increasing_decimalRanges : decimalRanges.Increasing := by
  decide +kernel

theorem increasing_letterRanges : letterRanges.Increasing := by
  decide +kernel

theorem increasing_blankRanges : blankRanges.Increasing := by
  decide +kernel

/-! ## Classes -/

theorem isLetter_of_isDecimal {c : Char} (hc : isDecimal c = true) : isLetter c = false := by
  have hapart : decimalRanges.apart letterRanges = true := by decide +kernel
  simpa [isLetter] using
    Ranges.not_holds_of_apart increasing_decimalRanges increasing_letterRanges hapart hc

theorem isDecimal_of_isBlank {c : Char} (hc : isBlank c = true) : isDecimal c = false := by
  have hapart : blankRanges.apart decimalRanges = true := by decide +kernel
  simpa [isDecimal] using
    Ranges.not_holds_of_apart increasing_blankRanges increasing_decimalRanges hapart hc

theorem isLetter_of_isBlank {c : Char} (hc : isBlank c = true) : isLetter c = false := by
  have hapart : blankRanges.apart letterRanges = true := by decide +kernel
  simpa [isLetter] using
    Ranges.not_holds_of_apart increasing_blankRanges increasing_letterRanges hapart hc

/-! ## Marks -/

/-- The characters that are tokens by themselves or enclose one. -/
def marks : List Char :=
  ['(', ')', '"', '+', '-', '*', '/', '<', '>', '=', ',']

/-- A mark is neither white space nor a digit nor a letter. -/
theorem classes_of_mem_marks {c : Char} (hc : c ∈ marks) :
    isBlank c = false ∧ isDecimal c = false ∧ isLetter c = false := by
  have hall : (marks.all fun c => !isBlank c && !isDecimal c && !isLetter c) = true := by
    decide +kernel
  simpa [and_assoc] using List.all_eq_true.1 hall c hc

theorem mem_marks_of_isOperator {c : Char} (hc : isOperator c = true) : c ∈ marks := by
  have hmem : c ∈ ['+', '-', '*', '/', '<', '>', '=', ','] := by simpa [isOperator] using hc
  exact List.mem_cons_of_mem _ (List.mem_cons_of_mem _ (List.mem_cons_of_mem _ hmem))

theorem isIdentifierChar_iff {c : Char} :
    isIdentifierChar c = true ↔ isLetter c = true ∨ isDecimal c = true ∨ c = '-' := by
  simp [isIdentifierChar, or_assoc]

namespace TokenKind

/-- The characters that a token of the kind starts with. -/
def StartsWith : TokenKind → Char → Prop
  | .openParen, c => c = '('
  | .closeParen, c => c = ')'
  | .number, c => isDecimal c = true
  | .identifier, c => isLetter c = true
  | .string, c => c = '"'
  | .operator, c => isOperator c = true

theorem StartsWith.isBlank {kind : TokenKind} {c : Char} (h : kind.StartsWith c) :
    isBlank c = false := by
  cases kind with
  | openParen | closeParen | string =>
    cases h
    exact (classes_of_mem_marks (by decide)).1
  | operator => exact (classes_of_mem_marks (mem_marks_of_isOperator h)).1
  | number =>
    rw [Bool.eq_false_iff]
    intro hblank
    have hdecimal : isDecimal c = true := h
    simp [isDecimal_of_isBlank hblank] at hdecimal
  | identifier =>
    rw [Bool.eq_false_iff]
    intro hblank
    have hletter : isLetter c = true := h
    simp [isLetter_of_isBlank hblank] at hletter

/-- The scanner asks for the classes one after the other, but only one can apply. -/
theorem starting?_eq_some_iff {kind : TokenKind} {c : Char} :
    starting? c = some kind ↔ kind.StartsWith c := by
  constructor
  · intro h
    unfold starting? at h
    -- The test that succeeds is what the kind asks for.
    split_ifs at h <;> cases h <;> assumption
  · intro h
    cases kind with
    | openParen | closeParen =>
      cases h
      rfl
    -- Quotes and operators are asked for last, but no class before them holds a mark.
    | string =>
      cases h
      rcases classes_of_mem_marks (c := '"') (by decide) with ⟨_, hdecimal, hletter⟩
      simp [starting?, hdecimal, hletter]
    | number =>
      have hc : isDecimal c = true := h
      have hmark : c ∉ marks := by
        intro hmem
        simp [(classes_of_mem_marks hmem).2.1] at hc
      simp only [marks, List.mem_cons, not_or] at hmark
      simp [starting?, hc, hmark]
    | identifier =>
      have hc : isLetter c = true := h
      have hmark : c ∉ marks := by
        intro hmem
        simp [(classes_of_mem_marks hmem).2.2] at hc
      have hdecimal : isDecimal c = false := by
        rw [Bool.eq_false_iff]
        intro hd
        simp [isLetter_of_isDecimal hd] at hc
      simp only [marks, List.mem_cons, not_or] at hmark
      simp [starting?, hc, hdecimal, hmark]
    | operator =>
      have hc : isOperator c = true := h
      rcases classes_of_mem_marks (mem_marks_of_isOperator hc) with ⟨_, hdecimal, hletter⟩
      have hother : c ≠ '(' ∧ c ≠ ')' ∧ c ≠ '"' := by
        refine ⟨?_, ?_, ?_⟩ <;> rintro rfl <;> exact absurd hc (by decide)
      simp [starting?, hc, hdecimal, hletter, hother]

end TokenKind

theorem isBlank_of_isIdentifierChar {c : Char} (hc : isIdentifierChar c = true) :
    isBlank c = false := by
  rcases isIdentifierChar_iff.1 hc with hletter | hdecimal | rfl
  · exact (show TokenKind.StartsWith .identifier c from hletter).isBlank
  · exact (show TokenKind.StartsWith .number c from hdecimal).isBlank
  · exact (classes_of_mem_marks (by decide)).1

end SExpr
