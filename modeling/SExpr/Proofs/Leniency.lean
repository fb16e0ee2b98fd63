import SExpr.Proofs.Refusal

/-!
# Strict and lenient scans

A strict scan differs from a lenient one only at a string that no quote closes, and there is one exactly
when the quotes of the text are odd in number. Then the lenient scan reads the text as if the missing
quote stood behind it, and the strict one goes as far and refuses the last string.
-/

namespace SExpr

/-! ## One quote more -/

/-- A character that is no parenthesis may stand behind the text. -/
theorem Balance.check_concat {c : Char} (hc : isParenthesis c = false) (opened : List Nat) (n : Nat)
    (s : Text) : check opened n (s ++ [c]) = check opened n s := by
  induction s generalizing opened n with
  | nil =>
    have hneither : c ≠ '(' ∧ c ≠ ')' := by simpa [isParenthesis] using hc
    simp [check, hneither]
  | cons d s ih => cases opened <;> simp [check, ih]

theorem checkBalance_append_quote (src : Text) : checkBalance (src ++ ['"']) = checkBalance src :=
  Balance.check_concat (by decide) [] 0 src

namespace Scanner

variable {n : Nat} {s : Text}

/-- With an even number of quotes every string is closed, and nothing is left to be lenient about. -/
theorem tokens_of_even (h : Even (s.count '"')) (n : Nat) :
    tokens true ⟨n, s⟩ = tokens false ⟨n, s⟩ := by
  induction s using inductionOnPieces generalizing n with
  | nil => rw [tokens_nil, tokens_nil]
  | blank c rest hblank ih =>
    have hpiece : Neutral [c] := neutral_of_legal (by simp [Legal, hblank])
    rw [tokens_blank hblank, tokens_blank hblank]
    exact ih ((hpiece.even_count_append_iff rest).1 h) (n + 1)
  | unexpected c rest hblank hk => rw [tokens_unexpected hblank hk, tokens_unexpected hblank hk]
  | token kind s rest hs hstop ih =>
    rw [tokens_append hs hstop, tokens_append hs hstop,
      ih ((hs.neutral.even_count_append_iff rest).1 h)]
  | unclosed body hbody => exact absurd h (odd_count_of_quote hbody)

/-- With an odd number of quotes one more quote closes the last string. -/
theorem tokens_append_quote (h : ¬ Even (s.count '"')) (strict : Bool) (n : Nat) :
    tokens strict ⟨n, s ++ ['"']⟩ = tokens false ⟨n, s⟩ := by
  induction s using inductionOnPieces generalizing n with
  | nil => exact absurd Even.zero h
  | blank c rest hblank ih =>
    have hpiece : Neutral [c] := neutral_of_legal (by simp [Legal, hblank])
    rw [List.cons_append, tokens_blank hblank, tokens_blank hblank]
    exact ih (mt (hpiece.even_count_append_iff rest).2 h) (n + 1)
  | unexpected c rest hblank hk =>
    rw [List.cons_append, tokens_unexpected hblank hk, tokens_unexpected hblank hk]
  | token kind s rest hs hstop ih =>
    have hquote : kind.StopsBefore ['"'] := TokenKind.stopsBefore_cons (by decide +kernel) [] kind
    rw [List.append_assoc, tokens_append hs (hstop.append hquote), tokens_append hs hstop,
      ih (mt (hs.neutral.even_count_append_iff rest).2 h)]
  | unclosed body hbody =>
    -- The string that was open is closed by the quote and ends the text.
    have hstring : TokenKind.Spells .string ('"' :: body ++ ['"']) := ⟨body, rfl, hbody⟩
    have hstop : TokenKind.StopsBefore .string [] := trivial
    have hscan : tokens strict ⟨n, '"' :: body ++ ['"'] ++ []⟩ = _ := tokens_append hstring hstop
    rw [List.append_nil, tokens_nil] at hscan
    rw [tokens_unclosed hbody]
    exact hscan

/-- With an odd number of quotes a strict scan fails like the lenient one, if this fails at all, and
otherwise refuses the last of its tokens, a string. -/
theorem tokens_of_odd (h : ¬ Even (s.count '"')) (n : Nat) :
    (∀ cause, tokens false ⟨n, s⟩ = .error cause → tokens true ⟨n, s⟩ = .error cause) ∧
      ∀ ts, tokens false ⟨n, s⟩ = .ok ts → ∃ last, ts.getLast? = some last ∧
        last.kind = .string ∧ tokens true ⟨n, s⟩ = .error (.unterminatedString last.position) := by
  induction s using inductionOnPieces generalizing n with
  | nil => exact absurd Even.zero h
  | blank c rest hblank ih =>
    have hpiece : Neutral [c] := neutral_of_legal (by simp [Legal, hblank])
    rw [tokens_blank hblank, tokens_blank hblank]
    exact ih (mt (hpiece.even_count_append_iff rest).2 h) (n + 1)
  | unexpected c rest hblank hk =>
    rw [tokens_unexpected hblank hk, tokens_unexpected hblank hk]
    exact ⟨fun _ hcause => hcause, by simp⟩
  | token kind s rest hs hstop ih =>
    have hrest := ih (mt (hs.neutral.even_count_append_iff rest).2 h) (n + s.length)
    rw [tokens_append hs hstop, tokens_append hs hstop]
    cases hlenient : tokens false ⟨n + s.length, rest⟩ with
    | error cause =>
      rw [hrest.1 cause hlenient]
      exact ⟨fun _ hcause => hcause, by simp [Except.map]⟩
    | ok ts =>
      rcases hrest.2 ts hlenient with ⟨last, hlast, hkind, hstrict⟩
      rw [hstrict]
      refine ⟨by simp [Except.map], ?_⟩
      rintro _ ⟨⟩
      exact ⟨last, by simp [List.getLast?_cons, hlast], hkind, rfl⟩
  | unclosed body hbody =>
    rw [tokens_unclosed hbody, tokens_unterminated hbody]
    refine ⟨by simp, ?_⟩
    rintro _ ⟨⟩
    exact ⟨⟨.string, '"' :: body ++ ['"'], n⟩, rfl, rfl, rfl⟩

end Scanner

/-! ## Texts -/

/-- With an even number of quotes it does not matter whether a text is scanned strictly. With an odd
number the lenient scan gives what the strict one gives once the missing quote stands behind the text;
on the text itself the strict scan fails with the same error if the lenient one fails, and otherwise
refuses the last token found, which is a string. -/
theorem tokenize_strict_lenient (config : Config) (src : Text) :
    (Even (src.count '"') →
      tokenize { config with strictStrings := true } src =
        tokenize { config with strictStrings := false } src) ∧
    (¬ Even (src.count '"') →
      tokenize { config with strictStrings := false } src =
        tokenize { config with strictStrings := true } (src ++ ['"']) ∧
      (∀ cause, tokenize { config with strictStrings := false } src = .error cause →
        tokenize { config with strictStrings := true } src = .error cause) ∧
      ∀ ts, tokenize { config with strictStrings := false } src = .ok ts →
        ∃ last, ts.getLast? = some last ∧ last.kind = .string ∧
          tokenize { config with strictStrings := true } src =
            .error (.unterminatedString last.position)) := by
  cases hbalance : checkBalance src with
  | error cause =>
    -- The balance is checked first, and the quote does not count in it.
    have hquote : checkBalance (src ++ ['"']) = .error cause := by
      rw [checkBalance_append_quote, hbalance]
    simp only [tokenize_of_unbalanced hbalance, tokenize_of_unbalanced hquote]
    simp
  | ok u =>
    have hquote : checkBalance (src ++ ['"']) = .ok () := by
      rw [checkBalance_append_quote, hbalance]
    simp only [tokenize_of_balanced hbalance, tokenize_of_balanced hquote]
    refine ⟨fun heven => Scanner.tokens_of_even heven 0, fun hodd => ⟨?_, ?_⟩⟩
    · exact (Scanner.tokens_append_quote hodd true 0).symm
    · exact Scanner.tokens_of_odd hodd 0

/-- A string behind a number is left open, with parentheses in it. -/
theorem strict_lenient_of_unclosed :
    ¬ Even (['7', '"', '(', ')'].count '"') ∧
      tokenize { strictStrings := true } ['7', '"', '(', ')', '"'] =
        .ok [⟨.number, ['7'], 0⟩, ⟨.string, ['"', '(', ')', '"'], 1⟩] ∧
      tokenize { strictStrings := true } ['7', '"', '(', ')'] = .error (.unterminatedString 1) := by
  have hodd : ¬ Even (['7', '"', '(', ')'].count '"') := by decide
  have hseven : isDecimal '7' = true ∧ isDecimal '"' = false := by decide +kernel
  have hnumber : TokenKind.Spells .number ['7'] := ⟨by simp, by simp [hseven.1]⟩
  have hstring : Scanned false 1 ['"', '(', ')'] [⟨.string, ['"', '(', ')', '"'], 1⟩] :=
    .unclosed rfl (show '"' ∉ ['(', ')'] by decide)
  have hlenient : tokenize { strictStrings := false } ['7', '"', '(', ')'] =
      .ok [⟨.number, ['7'], 0⟩, ⟨.string, ['"', '(', ')', '"'], 1⟩] := by
    refine tokenize_eq_ok_iff.2 ⟨by decide, .token hnumber ?_ hstring⟩
    simpa [TokenKind.StopsBefore] using hseven.2
  rcases (tokenize_strict_lenient {} _).2 hodd with ⟨hclosed, _, hlast⟩
  rcases hlast _ hlenient with ⟨last, hts, _, hstrict⟩
  cases hts
  exact ⟨hodd, hclosed.symm.trans hlenient, hstrict⟩

end SExpr
