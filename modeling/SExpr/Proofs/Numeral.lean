import Mathlib.Data.List.Induction
import Mathlib.Data.Nat.Digits.Defs
import Mathlib.Tactic.IntervalCases
import SExpr.Token.Integer

/-!
# Numerals and integers

Which texts stand for an integer, and for which one. The value of a numeral is the positional number
of its digits; leading zeros are free as long as the numeral is not too long to be converted. Every
integer in range is denoted by the way it is written.
-/

namespace SExpr

namespace Numeral

/-- The numeral `s` stands for the integer `n`: it consists of digits, it is not plainly too long,
neither for an integer in range nor for a conversion, and its positional value is `n`. -/
structure Denotes (s : Text) (n : Nat) : Prop where
  nonempty : s ≠ []
  decimal : ∀ c ∈ s, isDecimal c = true
  short : (s.dropWhile (· == '0')).length ≤ 19
  convertible : s.length ≤ 4300
  value : Nat.ofDigits 10 (s.reverse.map fun c => (digitValue? c).getD 0) = n
  inRange : n ≤ 2 ^ 63 - 1

/-- Reading digits from the left gives their positional value. -/
theorem value_eq_ofDigits (s : Text) :
    Numeral.value s = Nat.ofDigits 10 (s.reverse.map fun c => (digitValue? c).getD 0) := by
  induction s using List.reverseRecOn with
  | nil => rfl
  | append_singleton s c ih =>
    -- The last digit counts once, and it is the first one of the reversed text.
    calc
      Numeral.value (s ++ [c]) = (digitValue? c).getD 0 + 10 * Numeral.value s := by
        rw [value_concat, Nat.add_comm]
      _ = (digitValue? c).getD 0 +
            10 * Nat.ofDigits 10 (s.reverse.map fun c => (digitValue? c).getD 0) := by rw [ih]
      _ = Nat.ofDigits 10 ((s ++ [c]).reverse.map fun c => (digitValue? c).getD 0) := by
        rw [List.reverse_append, List.reverse_singleton, List.singleton_append, List.map_cons,
          Nat.ofDigits_cons]

theorem isValid_iff {s : Text} : isValid s = true ↔ s ≠ [] ∧ ∀ c ∈ s, isDecimal c = true := by
  simp [isValid]

end Numeral

/-- A number token gives an integer exactly when its text stands for it. -/
theorem Token.integer_eq_ok_iff {t : Token} {n : Nat} :
    t.integer = .ok n ↔ Numeral.Denotes t.text n := by
  constructor
  · intro h
    unfold Token.integer at h
    split at h
    · cases h
    · next hvalid =>
      -- A number is given only behind all four tests, and each is one field.
      have hnumeral := Numeral.isValid_iff.1 (by simpa using hvalid)
      split at h
      · cases h
      · next hshort =>
        split at h
        · cases h
        · next hlength =>
          split at h
          · cases h
          · next hrange =>
            cases h
            exact ⟨hnumeral.1, hnumeral.2, Nat.le_of_not_lt hshort, Nat.le_of_not_lt hlength,
              (Numeral.value_eq_ofDigits _).symm, Nat.le_of_not_lt hrange⟩
  · intro h
    have hvalid : Numeral.isValid t.text = true := Numeral.isValid_iff.2 ⟨h.nonempty, h.decimal⟩
    have hvalue : Numeral.value t.text = n := (Numeral.value_eq_ofDigits _).trans h.value
    have hshort : ¬ maxIntegerDigits < (t.text.dropWhile (· == '0')).length :=
      Nat.not_lt_of_le h.short
    have hlength : ¬ maxNumeralLength < t.text.length := Nat.not_lt_of_le h.convertible
    have hrange : ¬ maxInteger < n := Nat.not_lt_of_le h.inRange
    simp [Token.integer, hvalid, hshort, hlength, hvalue, hrange]

/-- The numeral is not plainly too long for an integer in range, but its leading zeros make it too long
to be converted. -/
structure Numeral.Padded (s : Text) : Prop where
  decimal : ∀ c ∈ s, isDecimal c = true
  short : (s.dropWhile (· == '0')).length ≤ 19
  long : 4300 < s.length

/-- What a number token without an integer is refused for. -/
theorem Token.integer_error_cases {t : Token} {cause : ParseError} (h : t.integer = .error cause) :
    (Numeral.isValid t.text = false ∧ cause = .numeral (.malformed t.text)) ∨
      cause = .integerOutOfRange t ∨
        (Numeral.Padded t.text ∧ cause = .numeral (.tooLong t.text.length)) := by
  unfold Token.integer at h
  split at h
  · next hinvalid =>
    cases h
    exact .inl ⟨by simpa using hinvalid, rfl⟩
  · next hvalid =>
    have hnumeral := Numeral.isValid_iff.1 (by simpa using hvalid)
    split at h
    · cases h
      exact .inr (.inl rfl)
    · next hshort =>
      split at h
      · next hlong =>
        cases h
        exact .inr (.inr ⟨⟨hnumeral.2, Nat.le_of_not_lt hshort, hlong⟩, rfl⟩)
      · split at h
        · cases h
          exact .inr (.inl rfl)
        · cases h

theorem Token.integer_of_padded {t : Token} (h : Numeral.Padded t.text) :
    t.integer = .error (.numeral (.tooLong t.text.length)) := by
  have hne : t.text ≠ [] := List.ne_nil_of_length_pos (Nat.zero_lt_of_lt h.long)
  have hvalid : Numeral.isValid t.text = true := Numeral.isValid_iff.2 ⟨hne, h.decimal⟩
  have hshort : ¬ maxIntegerDigits < (t.text.dropWhile (· == '0')).length :=
    Nat.not_lt_of_le h.short
  have hlong : maxNumeralLength < t.text.length := h.long
  simp [Token.integer, hvalid, hshort, hlong]

/-! ## Written integers -/

namespace Numeral

theorem digitValue?_digitChar {d : Nat} (hd : d < 10) : digitValue? (Nat.digitChar d) = some d := by
  interval_cases d <;> decide

theorem value_ofNat (n : Nat) : value (ofNat n) = n := by
  unfold ofNat
  induction n using Nat.strong_induction_on with
  | _ n ih =>
    -- The last digit is the remainder, and the others are those of the quotient.
    rw [Nat.toDigits_eq_if (by decide)]
    split
    · next hn => simp [value, digitValue?_digitChar hn]
    · next hn =>
      rw [value_concat, ih (n / 10) (by omega), digitValue?_digitChar (Nat.mod_lt n (by decide))]
      exact Nat.div_add_mod n 10

theorem isDecimal_of_mem_ofNat {n : Nat} : ∀ c ∈ ofNat n, isDecimal c = true := by
  intro c hc
  exact isDecimal_of_isDigit c (Nat.isDigit_of_mem_toDigits (by decide) (by decide) hc)

/-- An integer in range is denoted by its digits. -/
theorem denotes_ofNat {n : Nat} (hn : n ≤ 2 ^ 63 - 1) : Denotes (ofNat n) n := by
  -- No integer in range has more than 19 digits, so no bound on the length is met.
  have hlength : (ofNat n).length ≤ 19 := by
    rw [ofNat, Nat.length_toDigits_le_iff (by decide) (by decide)]
    omega
  refine ⟨Nat.toDigits_ne_nil, isDecimal_of_mem_ofNat, ?_, ?_, ?_, hn⟩
  · exact Nat.le_trans (List.dropWhile_suffix _).length_le hlength
  · exact Nat.le_trans hlength (by decide)
  · rw [← value_eq_ofDigits, value_ofNat]

end Numeral

end SExpr
