import SExpr.Proofs.Refusal
import SExpr.Proofs.Spacing

/-!
# Texts one behind the other

A text in which every string is closed ends where its last token does, as soon as something follows
that ends every token. What stands behind it is then scanned as if it stood alone, only further on:
the same tokens are found there, or the same thing is wrong, with all positions moved by what stands
before. The balance check sees it the same way, since nothing is open behind a balanced text.

White space ends every token, so tokens may be found separately in texts that it keeps apart.
-/

namespace SExpr

/-! ## Further on in a text -/

/-- The token `n` characters further on. -/
def Token.shift (n : Nat) (t : Token) : Token :=
  { t with position := t.position + n }

/-- What is wrong, `n` characters further on. -/
def LexError.shift (n : Nat) : LexError → LexError
  | .unmatchedClose p => .unmatchedClose (p + n)
  | .unclosedOpen p => .unclosedOpen (p + n)
  | .unexpectedCharacter found p => .unexpectedCharacter found (p + n)
  | .unterminatedString p => .unterminatedString (p + n)

/-- The tokens of a text, or what is wrong with it, `n` characters further on. -/
def Scanner.shiftResult (n : Nat) : Except LexError (List Token) → Except LexError (List Token)
  | .ok ts => .ok (ts.map (Token.shift n))
  | .error cause => .error (cause.shift n)

/-- Tokens stay the same further on. -/
@[simp]
theorem Token.map_key_shift (n : Nat) (ts : List Token) :
    (ts.map (Token.shift n)).map Token.key = ts.map Token.key := by
  rw [List.map_map]
  exact List.map_congr_left fun _ _ => rfl

theorem add_length_cons (n : Nat) (c : Char) (s : Text) :
    n + (c :: s).length = n + 1 + s.length := by
  rw [List.length_cons, Nat.add_assoc, Nat.add_comm 1]

/-! ## The balance check -/

namespace Balance

variable {opened : List Nat} {n : Nat} {s : Text}

/-- Behind a text that closes what is open the check goes on with what was open outside of it. -/
theorem check_append (h : check opened n s = .ok ()) (outer : List Nat) (rest : Text) :
    check (opened ++ outer) n (s ++ rest) = check outer (n + s.length) rest := by
  -- What is open outside lies below what the text itself opens, and is never reached.
  induction s generalizing opened n with
  | nil =>
    cases opened with
    | nil => rfl
    | cons innermost others => cases h
  | cons c s ih =>
    rw [List.cons_append, add_length_cons]
    by_cases hopen : c = '('
    · subst hopen
      have hnext : check (n :: opened) (n + 1) s = .ok () := h
      exact ih hnext
    · by_cases hclose : c = ')'
      · subst hclose
        cases opened with
        | nil => cases h
        | cons innermost others =>
          have hnext : check others (n + 1) s = .ok () := h
          exact ih hnext
      · have hnext : check opened (n + 1) s = .ok () := by
          simpa [check, hopen, hclose] using h
        simpa [check, hopen, hclose] using ih hnext

/-- Further on the check blames what it blames here. -/
theorem check_shift (k : Nat) (opened : List Nat) (n : Nat) (s : Text) :
    check (opened.map (· + k)) (n + k) s = (check opened n s).mapError (LexError.shift k) := by
  induction s generalizing opened n with
  | nil =>
    cases opened with
    | nil => rfl
    | cons innermost outer => simp [check, Except.mapError, LexError.shift]
  | cons c s ih =>
    have hnext : n + k + 1 = n + 1 + k := Nat.add_right_comm n k 1
    by_cases hopen : c = '('
    · simpa [check, hopen, hnext] using ih (n :: opened) (n + 1)
    · by_cases hclose : c = ')'
      · cases opened with
        | nil => simp [check, hclose, Except.mapError, LexError.shift]
        | cons innermost outer => simpa [check, hclose, hnext] using ih outer (n + 1)
      · simpa [check, hopen, hclose, hnext] using ih opened (n + 1)

end Balance

/-- Behind a balanced text and white space the check sees what it sees without them. -/
theorem checkBalance_append {src w : Text} (h : checkBalance src = .ok ())
    (hw : ∀ c ∈ w, isBlank c = true) (later : Text) :
    checkBalance (src ++ w ++ later) =
      (checkBalance later).mapError (LexError.shift (src.length + w.length)) := by
  -- White space holds no parentheses, so the balanced text may as well end behind it.
  have hnone : parentheses w = [] := by
    rw [parentheses, List.filter_eq_nil_iff]
    intro c hc
    simp [isParenthesis_of_isBlank (hw c hc)]
  have hbalance : checkBalance (src ++ w) = .ok () :=
    (checkBalance_congr (by simp [hnone])).1 h
  calc
    checkBalance (src ++ w ++ later) = Balance.check [] (0 + (src ++ w).length) later :=
      Balance.check_append hbalance [] later
    _ = (checkBalance later).mapError (LexError.shift (src ++ w).length) :=
      Balance.check_shift (src ++ w).length [] 0 later
    _ = (checkBalance later).mapError (LexError.shift (src.length + w.length)) := by
      rw [List.length_append]

/-! ## The scan -/

namespace Scanner

variable {strict : Bool} {n : Nat} {s w rest : Text} {ts : List Token}

/-- Further on a text has the same tokens, or the same is wrong with it. -/
theorem tokens_shift (strict : Bool) (k n : Nat) (s : Text) :
    tokens strict ⟨n + k, s⟩ = shiftResult k (tokens strict ⟨n, s⟩) := by
  induction s using inductionOnPieces generalizing n with
  | nil => simp [tokens_nil, shiftResult]
  | blank c rest hblank ih =>
    rw [tokens_blank hblank, tokens_blank hblank, Nat.add_right_comm]
    exact ih (n + 1)
  | unexpected c rest hblank hk =>
    simp [tokens_unexpected hblank hk, shiftResult, LexError.shift]
  | token kind s rest hs hstop ih =>
    rw [tokens_append hs hstop, tokens_append hs hstop, Nat.add_right_comm, ih (n + s.length)]
    cases tokens strict ⟨n + s.length, rest⟩ with
    | error cause => rfl
    | ok ts => simp [shiftResult, Except.map, Token.shift]
  | unclosed body hbody =>
    cases strict with
    | true => simp [tokens_unterminated hbody, shiftResult, LexError.shift]
    | false => simp [tokens_unclosed hbody, shiftResult, Token.shift]

theorem tokens_blanks (hw : ∀ c ∈ w, isBlank c = true) :
    tokens strict ⟨n, w ++ rest⟩ = tokens strict ⟨n + w.length, rest⟩ := by
  induction w generalizing n with
  | nil => rfl
  | cons c w ih =>
    rcases List.forall_mem_cons.1 hw with ⟨hc, hw⟩
    rw [List.cons_append, tokens_blank hc, add_length_cons]
    exact ih hw

/-- Behind a text whose strings are all closed the scan goes on by itself, if what follows ends
every token. -/
theorem tokens_append_of_even (h : Scanned strict n s ts) (heven : Even (s.count '"'))
    (hend : ∀ kind : TokenKind, kind.StopsBefore rest) :
    tokens strict ⟨n, s ++ rest⟩ = (tokens strict ⟨n + s.length, rest⟩).map (ts ++ ·) := by
  induction h with
  | @nil n =>
    show tokens strict ⟨n, rest⟩ = (tokens strict ⟨n, rest⟩).map id
    exact (congrFun Except.map_id _).symm
  | @blank n c s ts hblank _ ih =>
    have hpiece : Neutral [c] := neutral_of_legal (by simp [Legal, hblank])
    rw [List.cons_append, tokens_blank hblank, add_length_cons]
    exact ih ((hpiece.even_count_append_iff s).1 heven)
  | @token n kind s later ts hs hstop _ ih =>
    -- The token ends where it did: what stopped it still follows it, or what ends every token does.
    have hlater := ih ((hs.neutral.even_count_append_iff later).1 heven)
    rw [List.append_assoc, tokens_append hs (hstop.append (hend kind)), hlater, List.length_append,
      Nat.add_assoc]
    cases tokens strict ⟨n + (s.length + later.length), rest⟩ with
    | error cause => rfl
    | ok us => rfl
  -- A string that is not closed has the last of an odd number of quotes.
  | unclosed _ hbody => exact absurd heven (odd_count_of_quote hbody)

end Scanner

/-! ## Texts kept apart by white space -/

section Separated

variable {config : Config} {src w : Text} {ts : List Token}

/-- What is found in a text behind another one and white space is found further on. -/
theorem tokenize_append_eq (h : tokenize config src = .ok ts) (heven : Even (src.count '"'))
    (hw : Separator w) (later : Text) :
    tokenize config (src ++ w ++ later) =
      (Scanner.shiftResult (src.length + w.length) (tokenize config later)).map (ts ++ ·) := by
  rcases tokenize_eq_ok_iff.1 h with ⟨hbalance, hscanned⟩
  have hboth := checkBalance_append hbalance hw.blank later
  cases hlater : checkBalance later with
  | error cause =>
    -- The balance of the whole text is at fault where that of the second one is.
    rw [hlater] at hboth
    rw [tokenize_of_unbalanced hlater, tokenize_of_unbalanced hboth]
    rfl
  | ok u =>
    rw [hlater] at hboth
    have hscan : (Scanner.ofText (src ++ w ++ later)).tokens config.strictStrings =
        (Scanner.tokens config.strictStrings ⟨0 + (src.length + w.length), later⟩).map
          (ts ++ ·) := by
      calc
        Scanner.tokens config.strictStrings ⟨0, src ++ w ++ later⟩
            = Scanner.tokens config.strictStrings ⟨0, src ++ (w ++ later)⟩ := by
              rw [List.append_assoc]
        _ = (Scanner.tokens config.strictStrings ⟨0 + src.length, w ++ later⟩).map (ts ++ ·) :=
              Scanner.tokens_append_of_even hscanned heven (hw.stopsBefore later)
        _ = (Scanner.tokens config.strictStrings ⟨0 + (src.length + w.length), later⟩).map
              (ts ++ ·) := by
              rw [Scanner.tokens_blanks hw.blank, Nat.add_assoc]
    rw [tokenize_of_balanced hlater, tokenize_of_balanced hboth, hscan, Scanner.tokens_shift]
    rfl

end Separated

/-- Tokens are found separately in a text whose strings are all closed and in one that white space
keeps apart from it. If the second one has tokens, they stand behind those of the first, each as
much further on as the first text and the white space are long. If something is wrong with the
second one, the same is wrong with the whole, as much further on. -/
theorem tokenize_append_separated {config : Config} {src w : Text} {ts : List Token}
    (h : tokenize config src = .ok ts) (heven : Even (src.count '"')) (hw : Separator w)
    (later : Text) :
    (∀ us, tokenize config later = .ok us →
      tokenize config (src ++ w ++ later) =
        .ok (ts ++ us.map (Token.shift (src.length + w.length)))) ∧
    ∀ cause, tokenize config later = .error cause →
      tokenize config (src ++ w ++ later) = .error (cause.shift (src.length + w.length)) := by
  have hwhole := tokenize_append_eq h heven hw later
  refine ⟨?_, ?_⟩
  · intro us hus
    rw [hwhole, hus]
    rfl
  · intro cause hcause
    rw [hwhole, hcause]
    rfl

/-- A name is not carried on behind a line break, whether a digit follows or what follows does not
balance. -/
theorem append_separated_behind_name :
    tokenize {} ['x'] = .ok [⟨.identifier, ['x'], 0⟩] ∧
      tokenize {} ['x', '\n', ' ', '7'] = .ok [⟨.identifier, ['x'], 0⟩, ⟨.number, ['7'], 3⟩] ∧
      tokenize {} ['x', '\n', ' ', '-', ')', '('] = .error (.unmatchedClose 4) := by
  have hx : isLetter 'x' = true ∧ isDecimal '7' = true := by decide +kernel
  have hblank : isBlank '\n' = true ∧ isBlank ' ' = true := by decide +kernel
  have hname : TokenKind.Spells .identifier ['x'] := ⟨'x', [], rfl, hx.1, by simp⟩
  have hseven : TokenKind.Spells .number ['7'] := ⟨by simp, by simp [hx.2]⟩
  have hfirst : tokenize {} ['x'] = .ok [⟨.identifier, ['x'], 0⟩] :=
    tokenize_eq_ok_iff.2 ⟨by decide, .token hname (TokenKind.stopsBefore_nil _) .nil⟩
  have hsecond : tokenize {} ['7'] = .ok [⟨.number, ['7'], 0⟩] :=
    tokenize_eq_ok_iff.2 ⟨by decide, .token hseven (TokenKind.stopsBefore_nil _) .nil⟩
  have hgap : Separator ['\n', ' '] := ⟨by simp, by simp [hblank]⟩
  have heven : Even (['x'].count '"') := by decide
  exact ⟨hfirst, (tokenize_append_separated hfirst heven hgap ['7']).1 _ hsecond,
    (tokenize_append_separated hfirst heven hgap ['-', ')', '(']).2 _ rfl⟩

end SExpr
