import SExpr.Proofs.CharClass
import SExpr.Proofs.Numeral
import SExpr.Text.Spelled

/-!
# Integers in plain digits

The simplest way to spell an integer: its digits, after a hyphen when it is negative. There is nothing
to trim and nothing to ungroup, so the integer spelled is the one that the digits stand for.
-/

namespace SExpr

/-- An integer in plain digits, of any script and with any leading zeros: at least one of them, and no
more than can be converted. -/
structure PlainInteger where
  negative : Bool
  digits : Text
  nonempty : digits ≠ []
  decimal : ∀ c ∈ digits, isDecimal c = true
  short : digits.length ≤ 4300
  deriving DecidableEq

namespace PlainInteger

/-- How the integer is spelled. -/
def text (p : PlainInteger) : Text :=
  if p.negative then '-' :: p.digits else p.digits

/-- The integer itself. -/
def value (p : PlainInteger) : Int :=
  if p.negative then -(Numeral.value p.digits : Int) else Numeral.value p.digits

end PlainInteger

namespace Spelled

variable {s : Text}

/-- What is no digit does not stand among digits. -/
theorem not_mem_of_isDecimal {c : Char} (hs : ∀ d ∈ s, isDecimal d = true)
    (hc : isDecimal c = false) : c ∉ s := by
  intro hmem
  rw [hs c hmem] at hc
  cases hc

theorem isMargin_of_isDecimal {c : Char} (hc : isDecimal c = true) : isMargin c = false := by
  have hblank : isBlank c = false := (show TokenKind.StartsWith .number c from hc).isBlank
  simp [isMargin, hblank]

/-- A text without margins is not trimmed. -/
theorem trimmed_eq_self (hs : ∀ c ∈ s, isMargin c = false) : trimmed s = s := by
  have hkeep : ∀ t : Text, (∀ c ∈ t, isMargin c = false) → t.dropWhile isMargin = t := by
    intro t ht
    cases t with
    | nil => rfl
    | cons c t => exact List.dropWhile_cons_of_neg (by simp [ht c (List.mem_cons_self ..)])
  have hend : ∀ c ∈ s.reverse, isMargin c = false := by
    simpa using hs
  rw [trimmed, hkeep s hs, hkeep s.reverse hend, List.reverse_reverse]

theorem ungrouped?_of_isDecimal (hne : s ≠ []) (hs : ∀ c ∈ s, isDecimal c = true) :
    ungrouped? s = some s := by
  induction s with
  | nil => exact absurd rfl hne
  | cons c s ih =>
    rcases List.forall_mem_cons.1 hs with ⟨hc, hs⟩
    cases s with
    | nil => simp [ungrouped?, hc]
    | cons d s =>
      -- No digit is an underscore, so the next character is no group mark.
      have hd : d ≠ '_' := by
        rintro rfl
        exact not_mem_of_isDecimal hs (by decide +kernel) (List.mem_cons_self ..)
      rw [ungrouped?, ih (List.cons_ne_nil d s) hs]
      · simp [hc]
      · simp
      · simpa using hd

end Spelled

namespace PlainInteger

variable (p : PlainInteger)

theorem hyphen_not_mem : '-' ∉ p.digits :=
  Spelled.not_mem_of_isDecimal p.decimal (by decide +kernel)

/-- Plain digits spell the integer that they stand for. -/
theorem integer?_text : Spelled.integer? maxNumeralLength p.text = some p.value := by
  have hdigits : Spelled.natural? maxNumeralLength p.digits = some (Numeral.value p.digits) := by
    simp [Spelled.natural?, Spelled.ungrouped?_of_isDecimal p.nonempty p.decimal, maxNumeralLength,
      p.short]
  have hmargin : ∀ c ∈ p.digits, Spelled.isMargin c = false := fun c hc =>
    Spelled.isMargin_of_isDecimal (p.decimal c hc)
  cases hnegative : p.negative with
  | true =>
    have hhyphen : Spelled.isMargin '-' = false := by decide +kernel
    have htrimmed : Spelled.trimmed ('-' :: p.digits) = '-' :: p.digits :=
      Spelled.trimmed_eq_self (List.forall_mem_cons.2 ⟨hhyphen, hmargin⟩)
    simp [Spelled.integer?, text, value, hnegative, htrimmed, hdigits]
  | false =>
    have htext : p.text = p.digits := by simp [text, hnegative]
    rw [Spelled.integer?, htext, Spelled.trimmed_eq_self hmargin]
    -- A sign is no digit, so only the last case is left.
    split
    · next hsign => exact absurd (by simp [hsign]) p.hyphen_not_mem
    · next hsign =>
      have hplus : '+' ∉ p.digits := Spelled.not_mem_of_isDecimal p.decimal (by decide +kernel)
      exact absurd (by simp [hsign]) hplus
    · simp [hdigits, value, hnegative]

end PlainInteger

end SExpr
