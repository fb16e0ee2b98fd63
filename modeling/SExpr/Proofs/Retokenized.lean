import SExpr.Proofs.Refusal
import SExpr.Proofs.Successive

/-!
# Tokens of a token's text

A text that fits a kind is a token of that kind by itself: nothing in it ends the token before its end.
So the text of a token has the token as its only one again, unless the balance check refuses it first.
It refuses the parentheses, which have no partner any more, and the strings whose inside does not
balance; the quote that may have been supplied is part of the text and does no harm.
-/

namespace SExpr

/-! ## Texts of tokens that balance -/

/-- Without parentheses there is nothing to balance. -/
theorem checkBalance_of_parentheses {s : Text} (hs : parentheses s = []) : checkBalance s = .ok () :=
  (checkBalance_congr (t := []) hs).2 rfl

/-- Quotes do not count, so a string balances when its inside does. -/
theorem checkBalance_string {body : Text} :
    checkBalance ('"' :: body ++ ['"']) = .ok () ↔ Balanced body := by
  have hinside : parentheses ('"' :: body ++ ['"']) = parentheses body := by
    rw [parentheses_append, parentheses_cons_of_not (by decide)]
    exact List.append_nil _
  rw [checkBalance_congr hinside, checkBalance_eq_ok_iff]

/-! ## The text of a token -/

namespace Token

variable {t : Token}

/-- The text of the token, taken as a text of its own and read by default, has the same token and no
other one. -/
def Stable (t : Token) : Prop :=
  ∃ us, tokenize {} t.text = .ok us ∧ t.isOnly us = true

theorem stable_iff (ht : t.kind.Spells t.text) : t.Stable ↔ checkBalance t.text = .ok () := by
  constructor
  · rintro ⟨us, hus, _⟩
    exact (tokenize_eq_ok_iff.1 hus).1
  · intro hbalance
    exact ⟨_, tokenize_of_spells {} ht hbalance, by simp [isOnly, Same, key]⟩

theorem stable_of_other (ht : t.kind.Spells t.text)
    (hkind : t.kind = .number ∨ t.kind = .identifier ∨ t.kind = .operator) : t.Stable := by
  have hother : t.kind ≠ .openParen ∧ t.kind ≠ .closeParen ∧ t.kind ≠ .string := by
    rcases hkind with hkind | hkind | hkind <;> simp [hkind]
  have hnone : parentheses t.text = [] :=
    parentheses_text ht hother.1 hother.2.1 fun hstring => absurd hstring hother.2.2
  exact (stable_iff ht).2 (checkBalance_of_parentheses hnone)

theorem stable_string_iff (ht : t.kind.Spells t.text) (hkind : t.kind = .string) :
    ∃ body, t.text = '"' :: body ++ ['"'] ∧ '"' ∉ body ∧ (t.Stable ↔ Balanced body) := by
  have hstring := ht
  rw [hkind] at hstring
  rcases hstring with ⟨body, htext, hbody⟩
  refine ⟨body, htext, hbody, ?_⟩
  rw [stable_iff ht, htext, checkBalance_string]

theorem not_stable_of_parenthesis (ht : t.kind.Spells t.text)
    (hkind : t.kind = .openParen ∨ t.kind = .closeParen) : ¬ t.Stable := by
  rw [stable_iff ht]
  rcases hkind with hkind | hkind
  · rw [hkind] at ht
    rw [show t.text = ['('] from ht]
    decide
  · rw [hkind] at ht
    rw [show t.text = [')'] from ht]
    decide

end Token

/-- The text of a token has that token as its only one exactly when its parentheses balance; otherwise
the balance check refuses it. It does so for no number, identifier or operator, for a string exactly
when what stands between its quotes does not balance, and for every parenthesis. -/
theorem retokenize_token {config : Config} {src : Text} {ts : List Token} {t : Token}
    (h : tokenize config src = .ok ts) (ht : t ∈ ts) :
    (t.Stable ↔ checkBalance t.text = .ok ()) ∧
    (∀ cause, checkBalance t.text = .error cause →
      cause.Unbalanced ∧ tokenize {} t.text = .error cause) ∧
    (t.kind = .number ∨ t.kind = .identifier ∨ t.kind = .operator → t.Stable) ∧
    (t.kind = .string →
      ∃ body, t.text = '"' :: body ++ ['"'] ∧ '"' ∉ body ∧ (t.Stable ↔ Balanced body)) ∧
    (t.kind = .openParen ∨ t.kind = .closeParen → ¬ t.Stable) := by
  have hspells : t.kind.Spells t.text := spells_of_tokenize h t ht
  refine ⟨Token.stable_iff hspells, ?_, Token.stable_of_other hspells,
    Token.stable_string_iff hspells, Token.not_stable_of_parenthesis hspells⟩
  intro cause hcause
  exact ⟨unbalanced_of_checkBalance hcause, tokenize_of_unbalanced hcause⟩

/-- In `(")"` the string closes what the parenthesis opens, so neither is a text by itself. In `"()`
the quote is supplied, and the string is. -/
theorem retokenize_of_brackets_in_strings :
    (tokenize {} ['(', '"', ')', '"'] = .ok [⟨.openParen, ['('], 0⟩, ⟨.string, ['"', ')', '"'], 1⟩] ∧
      ¬ Token.Stable ⟨.openParen, ['('], 0⟩ ∧ ¬ Token.Stable ⟨.string, ['"', ')', '"'], 1⟩ ∧
      tokenize {} ['"', ')', '"'] = .error (.unmatchedClose 1)) ∧
    tokenize {} ['"', '(', ')'] = .ok [⟨.string, ['"', '(', ')', '"'], 0⟩] ∧
      Token.Stable ⟨.string, ['"', '(', ')', '"'], 0⟩ := by
  have hopen : TokenKind.Spells .openParen ['('] := rfl
  have hstring : TokenKind.Spells .string ['"', ')', '"'] := ⟨[')'], rfl, by decide⟩
  have hclosed : tokenize {} ['(', '"', ')', '"'] =
      .ok [⟨.openParen, ['('], 0⟩, ⟨.string, ['"', ')', '"'], 1⟩] :=
    tokenize_eq_ok_iff.2 ⟨by decide, .token hopen trivial (.token hstring trivial .nil)⟩
  have hunclosed : tokenize {} ['"', '(', ')'] = .ok [⟨.string, ['"', '(', ')', '"'], 0⟩] :=
    tokenize_eq_ok_iff.2 ⟨by decide, .unclosed rfl (show '"' ∉ ['(', ')'] by decide)⟩
  have hfirst := retokenize_token hclosed (List.mem_cons_self ..)
  have hsecond := retokenize_token hclosed (List.mem_cons_of_mem _ (List.mem_cons_self ..))
  have hlast := retokenize_token hunclosed (List.mem_cons_self ..)
  refine ⟨⟨hclosed, hfirst.2.2.2.2 (.inl rfl), ?_, (hsecond.2.1 _ rfl).2⟩, hunclosed, ?_⟩
  · rw [hsecond.1]
    decide
  · rw [hlast.1]
    decide

end SExpr
