import Mathlib.Data.List.TakeWhile
import Mathlib.Data.Nat.Digits.Lemmas
import SExpr.Proofs.Grammar
import SExpr.Proofs.Numeral
import SExpr.Reading

/-!
# Leading zeros

A number is refused without a conversion when more than 19 digits are left behind its leading zeros. A
numeral whose first digit is not zero is then at least 10 ^ 19, so nothing in range is refused that way,
with one exception: only ASCII zeros are left out. Where a zero of another script leads so many digits,
the number is refused whatever its value is.
-/

namespace SExpr

namespace Numeral

/-! ## Values and lengths -/

/-- The number that the digits stand for by their places, the last one in the place of the units. -/
def positional (s : Text) : Nat :=
  Nat.ofDigits 10 (s.reverse.map fun c => (digitValue? c).getD 0)

/-- ASCII zeros in front do not count. -/
theorem value_dropWhile_zeros (s : Text) : value (s.dropWhile (· == '0')) = value s := by
  induction s with
  | nil => rfl
  | cons c s ih =>
    by_cases hc : c = '0'
    · subst hc
      exact ih
    · rw [List.dropWhile_cons_of_neg (by simpa using hc)]

/-- A numeral with another first digit than zero is at least the power of ten at its place. -/
theorem pow_length_le_value {c : Char} {s : Text} (hc : (digitValue? c).getD 0 ≠ 0) :
    10 ^ s.length ≤ value (c :: s) := by
  have hle := Nat.pow_length_le_mul_ofDigits (b := 8)
    (l := (c :: s).reverse.map fun c => (digitValue? c).getD 0) (by simp) (by simpa using hc)
  rw [List.length_map, List.length_reverse, List.length_cons, Nat.pow_succ', ← value_eq_ofDigits] at hle
  exact Nat.le_of_mul_le_mul_left hle (by decide)

/-! ## Zeros of other scripts -/

/-- Behind nothing but ASCII zeros stands a zero of another script, with 19 digits or more behind it. -/
def HidesZero (s : Text) : Prop :=
  ∃ zeros c rest, s = zeros ++ c :: rest ∧ (∀ z ∈ zeros, z = '0') ∧ c ≠ '0' ∧
    digitValue? c = some 0 ∧ 19 ≤ rest.length

/-- A numeral that hides a zero is plainly too long. -/
theorem HidesZero.long {s : Text} (h : HidesZero s) : 19 < (s.dropWhile (· == '0')).length := by
  rcases h with ⟨zeros, c, rest, rfl, hzeros, hc, _, hlength⟩
  rw [List.dropWhile_append_of_pos (by simpa using hzeros),
    List.dropWhile_cons_of_neg (by simpa using hc), List.length_cons]
  omega

/-- A numeral that is plainly too long hides a zero or is out of range. -/
theorem hidesZero_or_of_long {s : Text} (hs : ∀ c ∈ s, isDecimal c = true)
    (hlong : 19 < (s.dropWhile (· == '0')).length) : HidesZero s ∨ 2 ^ 63 - 1 < value s := by
  cases hstripped : s.dropWhile (· == '0') with
  | nil => simp [hstripped] at hlong
  | cons c rest =>
    have hrest : 19 ≤ rest.length := by
      rw [hstripped, List.length_cons] at hlong
      omega
    have hsplit : s.takeWhile (· == '0') ++ c :: rest = s := by
      rw [← hstripped, List.takeWhile_append_dropWhile]
    by_cases hvalue : (digitValue? c).getD 0 = 0
    · -- The first digit left is a zero, but not the one that was left out.
      have hmem : c ∈ s := by
        rw [← hsplit]
        exact List.mem_append_right _ (List.mem_cons_self ..)
      have hdecimal : (digitValue? c).isSome = true := by
        rw [isSome_digitValue?]
        exact hs c hmem
      have hzero : digitValue? c = some 0 := by
        rcases Option.isSome_iff_exists.1 hdecimal with ⟨d, hd⟩
        simpa [hd] using hvalue
      have hother : c ≠ '0' := by
        have hnot := List.head?_dropWhile_not (· == '0') s
        simpa [hstripped] using hnot
      refine .inl ⟨s.takeWhile (· == '0'), c, rest, hsplit.symm, ?_, hother, hzero, hrest⟩
      intro z hz
      simpa using List.mem_takeWhile_imp hz
    · have hpow : 10 ^ 19 ≤ value s := by
        calc
          10 ^ 19 ≤ 10 ^ rest.length := Nat.pow_le_pow_right (by decide) hrest
          _ ≤ value (c :: rest) := pow_length_le_value hvalue
          _ = value s := by rw [← hstripped, value_dropWhile_zeros]
      have hmax : 2 ^ 63 - 1 < 10 ^ 19 := by decide
      exact .inr (Nat.lt_of_lt_of_le hmax hpow)

end Numeral

/-! ## Number tokens -/

section Tokens

variable {config : Config} {t : Token}

/-- A token that is a number is parsed by its integer alone. -/
theorem parse_number (hroom : ∀ c ∈ config.capacity, 0 < c) (hkind : t.kind = .number) :
    parse config [t] = t.integer.map fun n => .atom (.int n) := by
  have hfull : Frame.full config.capacity [] = false := Cursor.not_full_iff.2 hroom
  unfold parse parseFrom Cursor.expression Cursor.ofTokens Cursor.readWithin
  simp only [hfull, Bool.false_and, Bool.false_eq_true, if_false, Progress.step, hkind]
  cases t.integer <;> rfl

/-- A number token whose numeral can be converted gives the value of its digits if that is in range,
whatever scripts they are from, and is refused as out of range otherwise. The exception are numerals
that hide a zero: they are refused although their value may be in range. -/
theorem parse_number_range (hroom : ∀ c ∈ config.capacity, 0 < c) (hkind : t.kind = .number)
    (hne : t.text ≠ []) (hdecimal : ∀ c ∈ t.text, isDecimal c = true)
    (hlength : t.text.length ≤ 4300) :
    (Numeral.positional t.text ≤ 2 ^ 63 - 1 ∧ ¬ Numeral.HidesZero t.text →
      parse config [t] = .ok (.atom (.int (Numeral.positional t.text)))) ∧
    (2 ^ 63 - 1 < Numeral.positional t.text ∨ Numeral.HidesZero t.text →
      parse config [t] = .error (.integerOutOfRange t)) := by
  have hvalue : Numeral.value t.text = Numeral.positional t.text := Numeral.value_eq_ofDigits t.text
  rw [parse_number hroom hkind]
  refine ⟨?_, ?_⟩
  · rintro ⟨hrange, hhides⟩
    have hshort : (t.text.dropWhile (· == '0')).length ≤ 19 := by
      by_contra hlong
      rcases Numeral.hidesZero_or_of_long hdecimal (Nat.lt_of_not_le hlong) with h | h
      · exact hhides h
      · omega
    have hdenotes : Numeral.Denotes t.text (Numeral.positional t.text) :=
      ⟨hne, hdecimal, hshort, hlength, rfl, hrange⟩
    rw [Token.integer_eq_ok_iff.2 hdenotes]
    rfl
  · intro hrefused
    cases hinteger : t.integer with
    | ok n =>
      -- An integer that is given is in range, and its numeral is short.
      have hdenotes := Token.integer_eq_ok_iff.1 hinteger
      rcases hrefused with hrange | hhides
      · have hn : Numeral.positional t.text = n := hdenotes.value
        have hin := hdenotes.inRange
        omega
      · exact absurd hdenotes.short (Nat.not_le_of_lt hhides.long)
    | error cause =>
      rcases Token.integer_error_cases hinteger with ⟨hinvalid, _⟩ | rfl | ⟨hpadded, _⟩
      · rw [Numeral.isValid_iff.2 ⟨hne, hdecimal⟩] at hinvalid
        cases hinvalid
      · rfl
      · exact absurd hlength (Nat.not_le_of_lt hpadded.long)

/-- Twenty ASCII zeros, then a zero and a seven of another script. -/
theorem number_range_of_mixed_scripts :
    parse {} [⟨.number, List.replicate 20 '0' ++ ['\u0660', '\u0667'], 0⟩] =
      .ok (.atom (.int 7)) := by
  have hdecimal : (List.replicate 20 '0' ++ ['\u0660', '\u0667']).all isDecimal = true := by
    decide +kernel
  have hhides : ¬ Numeral.HidesZero (List.replicate 20 '0' ++ ['\u0660', '\u0667']) := by
    intro h
    exact absurd h.long (by decide)
  exact (parse_number_range (t := ⟨.number, List.replicate 20 '0' ++ ['\u0660', '\u0667'], 0⟩)
    (by decide) rfl (by decide) (List.all_eq_true.1 hdecimal) (by decide)).1 ⟨by decide, hhides⟩

/-- Nineteen zeros of another script in front of a seven are too many, although seven is in range. -/
theorem not_in_range_of_hidden_zeros :
    Numeral.positional (List.replicate 19 '\u0660' ++ ['\u0667']) = 7 ∧
      parse {} [⟨.number, List.replicate 19 '\u0660' ++ ['\u0667'], 0⟩] =
        .error (.integerOutOfRange ⟨.number, List.replicate 19 '\u0660' ++ ['\u0667'], 0⟩) := by
  decide

end Tokens

end SExpr
