import Mathlib.Data.List.TakeWhile
import SExpr.Proofs.CharClass

/-!
# What a scan does

A text is scanned by leaving out white space and cutting off tokens. `Scanned` says so one token at a
time, without the scanner: the characters of a token fit its kind, and the text behind a number or an
identifier does not go on with one. The scanner finds a token sequence exactly when the relation
holds, so there is at most one.
-/

namespace SExpr

/-! ## Tokens and what follows them -/

namespace TokenKind

/-- The texts of the tokens of a kind. -/
def Spells : TokenKind → Text → Prop
  | .openParen, s => s = ['(']
  | .closeParen, s => s = [')']
  | .number, s => s ≠ [] ∧ ∀ c ∈ s, isDecimal c = true
  | .identifier, s =>
    ∃ c after, s = c :: after ∧ isLetter c = true ∧ ∀ d ∈ after, isIdentifierChar d = true
  | .string, s => ∃ body, s = '"' :: body ++ ['"'] ∧ '"' ∉ body
  | .operator, s => ∃ c, s = [c] ∧ isOperator c = true

/-- The texts that may stand right behind a token of a kind: a number and an identifier are as long
as they can be. -/
def StopsBefore : TokenKind → Text → Prop
  | .number, rest => ∀ c ∈ rest.head?, isDecimal c = false
  | .identifier, rest => ∀ c ∈ rest.head?, isIdentifierChar c = false
  | _, _ => True

/-- The first character of a token tells its kind. -/
theorem Spells.startsWith {kind : TokenKind} {s : Text} (h : kind.Spells s) :
    ∃ c after, s = c :: after ∧ kind.StartsWith c := by
  cases kind with
  | openParen => exact ⟨'(', [], h, rfl⟩
  | closeParen => exact ⟨')', [], h, rfl⟩
  | number =>
    rcases h with ⟨hne, hall⟩
    rcases List.exists_cons_of_ne_nil hne with ⟨c, after, rfl⟩
    exact ⟨c, after, rfl, hall c (List.mem_cons_self ..)⟩
  | identifier =>
    rcases h with ⟨c, after, rfl, hc, _⟩
    exact ⟨c, after, rfl, hc⟩
  | string =>
    rcases h with ⟨body, rfl, _⟩
    exact ⟨'"', body ++ ['"'], rfl, rfl⟩
  | operator =>
    rcases h with ⟨c, rfl, hc⟩
    exact ⟨c, [], rfl, hc⟩

theorem Spells.ne_nil {kind : TokenKind} {s : Text} (h : kind.Spells s) : s ≠ [] := by
  rcases h.startsWith with ⟨c, after, rfl, _⟩
  exact List.cons_ne_nil c after

theorem Spells.isIdentifierChar {s : Text} (h : Spells .identifier s) :
    ∀ c ∈ s, isIdentifierChar c = true := by
  rcases h with ⟨d, after, rfl, hd, hafter⟩
  intro c hc
  rcases List.mem_cons.1 hc with rfl | hc
  · exact isIdentifierChar_iff.2 (.inl hd)
  · exact hafter c hc

theorem stopsBefore_nil (kind : TokenKind) : kind.StopsBefore [] := by
  cases kind <;> simp [StopsBefore]

/-- A character that continues no identifier ends every token before it. -/
theorem stopsBefore_cons {c : Char} (hc : isIdentifierChar c = false) (rest : Text)
    (kind : TokenKind) : kind.StopsBefore (c :: rest) := by
  cases kind with
  | number =>
    intro d hd
    cases hd
    rw [Bool.eq_false_iff] at hc ⊢
    intro hdecimal
    exact hc (isIdentifierChar_iff.2 (.inr (.inl hdecimal)))
  | identifier =>
    intro d hd
    cases hd
    exact hc
  | openParen | closeParen | string | operator => trivial

/-- What ends every token may stand behind any text that ends the token. -/
theorem StopsBefore.append {kind : TokenKind} {rest after : Text} (h : kind.StopsBefore rest)
    (hafter : kind.StopsBefore after) : kind.StopsBefore (rest ++ after) := by
  cases rest with
  | nil => exact hafter
  | cons c rest => cases kind <;> exact h

end TokenKind

/-! ## The relation -/

/-- The text that starts at the offset is cut into the tokens. A strict scan has no string without
its last quote; another one supplies the quote at the end of the text. -/
inductive Scanned (strict : Bool) : Nat → Text → List Token → Prop where
  | nil {n : Nat} : Scanned strict n [] []
  | blank {n : Nat} {c : Char} {rest : Text} {ts : List Token} :
      isBlank c = true → Scanned strict (n + 1) rest ts → Scanned strict n (c :: rest) ts
  | token {n : Nat} {kind : TokenKind} {s rest : Text} {ts : List Token} :
      kind.Spells s → kind.StopsBefore rest → Scanned strict (n + s.length) rest ts →
      Scanned strict n (s ++ rest) (⟨kind, s, n⟩ :: ts)
  | unclosed {n : Nat} {body : Text} :
      strict = false → '"' ∉ body →
      Scanned strict n ('"' :: body) [⟨.string, '"' :: body ++ ['"'], n⟩]

namespace Scanned

variable {strict : Bool} {n : Nat} {s : Text} {ts : List Token}

/-- Every token that is cut off fits its kind, the one whose quote is supplied as well. -/
theorem spells (h : Scanned strict n s ts) : ∀ t ∈ ts, t.kind.Spells t.text := by
  induction h with
  | nil => simp
  | blank _ _ ih => exact ih
  | token hs _ _ ih =>
    intro t ht
    rcases List.mem_cons.1 ht with rfl | ht
    · exact hs
    · exact ih t ht
  | @unclosed n body _ hbody =>
    intro t ht
    rcases List.mem_singleton.1 ht with rfl
    exact ⟨body, rfl, hbody⟩

theorem eq_nil (h : Scanned strict n [] ts) : ts = [] := by
  generalize hs : ([] : Text) = s at h
  cases h with
  | nil => rfl
  | blank => cases hs
  | token hspell => exact absurd (List.append_eq_nil_iff.1 hs.symm).1 hspell.ne_nil
  | unclosed => cases hs

theorem lenient (h : Scanned strict n s ts) : Scanned false n s ts := by
  induction h with
  | nil => exact .nil
  | blank hc _ ih => exact .blank hc ih
  | token hs hstop _ ih => exact .token hs hstop ih
  | unclosed _ hbody => exact .unclosed rfl hbody

end Scanned

/-! ## Taking one token -/

namespace Scanner

variable {strict : Bool} {n : Nat} {kind : TokenKind} {c : Char} {s rest after taken : Text}
  {p : Char → Bool}

theorem takeRun_append_of_stop (hs : ∀ c ∈ s, p c = true) (hrest : ∀ c ∈ rest.head?, p c = false) :
    takeRun p ⟨n, s ++ rest⟩ = (s, ⟨n + s.length, rest⟩) := by
  have htake : rest.takeWhile p = [] := by
    cases rest with
    | nil => rfl
    | cons c rest => simp [hrest c rfl]
  have hdrop : rest.dropWhile p = rest := by
    cases rest with
    | nil => rfl
    | cons c rest => simp [hrest c rfl]
  simp [takeRun, List.takeWhile_append_of_pos hs, List.dropWhile_append_of_pos hs, htake, hdrop]

theorem takeString_append (hs : '"' ∉ s) :
    takeString strict ⟨n, '"' :: s ++ '"' :: rest⟩ =
      .ok ('"' :: s ++ ['"'], ⟨n + s.length + 2, rest⟩) := by
  have hall : ∀ c ∈ s, (c != '"') = true := by
    intro c hc
    have hne : c ≠ '"' := by
      rintro rfl
      exact hs hc
    simpa using hne
  simp [takeString, List.takeWhile_append_of_pos hall, List.dropWhile_append_of_pos hall]

theorem dropWhile_of_not_mem {c : Char} (hs : c ∉ s) : s.dropWhile (· != c) = [] := by
  rw [List.dropWhile_eq_nil_iff]
  intro d hd
  have hne : d ≠ c := by
    rintro rfl
    exact hs hd
  simpa using hne

/-- A string goes up to the first quote behind its first character, whatever that is. If there is none,
all that is left is taken, and the quote supplied, or nothing is. -/
theorem takeString_cases (strict : Bool) (s : Scanner) :
    (∃ c body rest, s.rest = c :: (body ++ '"' :: rest) ∧ '"' ∉ body ∧
      s.takeString strict = .ok (c :: body ++ ['"'], ⟨s.offset + body.length + 2, rest⟩)) ∨
    ('"' ∉ s.rest.tail ∧
      (strict = false →
        s.takeString strict = .ok (s.rest ++ ['"'], ⟨s.offset + s.rest.length, []⟩)) ∧
      (strict = true → s.takeString strict = .error (.unterminatedString s.offset))) := by
  rcases s with ⟨n, _ | ⟨c, left⟩⟩
  · refine .inr ⟨by simp, ?_, ?_⟩ <;> rintro rfl <;> rfl
  · have hsplit := List.takeWhile_append_dropWhile (p := (· != '"')) (l := left)
    have hbody : '"' ∉ left.takeWhile (· != '"') := by
      intro hmem
      simpa using List.mem_takeWhile_imp hmem
    cases hdrop : left.dropWhile (· != '"') with
    | nil =>
      rw [hdrop, List.append_nil] at hsplit
      rw [hsplit] at hbody
      refine .inr ⟨hbody, ?_, ?_⟩ <;> rintro rfl <;> simp [takeString, hdrop]
    | cons quote rest =>
      -- What is left starts with the first character that is a quote.
      have hquote : quote = '"' := by
        have hnot := List.head?_dropWhile_not (· != '"') left
        simpa [hdrop] using hnot
      subst hquote
      rw [hdrop] at hsplit
      exact .inl ⟨c, _, rest, by simp [hsplit], hbody, by simp [takeString, hdrop]⟩

theorem takeString_of_not_mem (hs : '"' ∉ s) :
    takeString false ⟨n, '"' :: s⟩ = .ok ('"' :: s ++ ['"'], ⟨n + s.length + 1, []⟩) := by
  simp [takeString, dropWhile_of_not_mem hs, Nat.add_assoc]

theorem takeString_of_not_mem_strict (hs : '"' ∉ s) :
    takeString true ⟨n, '"' :: s⟩ = .error (.unterminatedString n) := by
  simp [takeString, dropWhile_of_not_mem hs]

theorem takeToken_append (hs : kind.Spells s) (hstop : kind.StopsBefore rest) :
    takeToken strict ⟨n, s ++ rest⟩ kind = .ok (s, ⟨n + s.length, rest⟩) := by
  cases kind with
  | openParen | closeParen =>
    cases hs
    rfl
  | operator =>
    rcases hs with ⟨c, rfl, _⟩
    rfl
  | number => exact congrArg Except.ok (takeRun_append_of_stop hs.2 hstop)
  | identifier => exact congrArg Except.ok (takeRun_append_of_stop hs.isIdentifierChar hstop)
  | string =>
    rcases hs with ⟨body, rfl, hbody⟩
    have htake : takeString strict ⟨n, '"' :: body ++ '"' :: rest⟩ =
        .ok ('"' :: body ++ ['"'], ⟨n + body.length + 2, rest⟩) := takeString_append hbody
    simpa [takeToken, Nat.add_assoc] using htake

theorem stop_of_takeRun (s : Scanner) : ∀ c ∈ (s.takeRun p).2.rest.head?, p c = false := by
  intro c hc
  have hnot := List.head?_dropWhile_not p s.rest
  rw [show (s.rest.dropWhile p).head? = some c from hc] at hnot
  simpa using hnot

/-- A token taken fits its kind and is as long as it can be, unless it is a string whose quote had to
be supplied. -/
theorem takeToken_eq_ok {next : Scanner} (hc : kind.StartsWith c)
    (h : takeToken strict ⟨n, c :: after⟩ kind = .ok (taken, next)) :
    (∃ rest, c :: after = taken ++ rest ∧ next = ⟨n + taken.length, rest⟩ ∧ kind.Spells taken ∧
      kind.StopsBefore rest) ∨
    (kind = .string ∧ strict = false ∧ '"' ∉ after ∧ c :: after = '"' :: after ∧
      taken = '"' :: after ++ ['"'] ∧ next = ⟨n + after.length + 1, []⟩) := by
  cases kind with
  | openParen | closeParen =>
    cases hc
    cases h
    exact .inl ⟨after, rfl, rfl, rfl, trivial⟩
  | operator =>
    cases h
    exact .inl ⟨after, rfl, rfl, ⟨c, rfl, hc⟩, trivial⟩
  | number =>
    cases h
    refine .inl ⟨_, (takeRun_append isDecimal ⟨n, c :: after⟩).symm, rfl, ⟨?_, ?_⟩,
      stop_of_takeRun ⟨n, c :: after⟩⟩
    · simp [show isDecimal c = true from hc]
    · intro d hd
      exact List.mem_takeWhile_imp hd
  | identifier =>
    have hident : isIdentifierChar c = true := isIdentifierChar_iff.2 (.inl hc)
    cases h
    refine .inl ⟨_, (takeRun_append isIdentifierChar ⟨n, c :: after⟩).symm, rfl, ?_,
      stop_of_takeRun ⟨n, c :: after⟩⟩
    refine ⟨c, after.takeWhile isIdentifierChar, by simp [hident], hc, ?_⟩
    intro d hd
    exact List.mem_takeWhile_imp hd
  | string =>
    cases hc
    rcases takeString_cases strict ⟨n, '"' :: after⟩ with
      ⟨quote, body, rest, hsplit, hbody, htake⟩ | ⟨hnone, hlenient, hstrict⟩
    · obtain ⟨rfl, hafter⟩ := List.cons.inj hsplit
      cases htake.symm.trans h
      refine .inl ⟨rest, by simp [hafter], by simp [Nat.add_assoc], ⟨body, rfl, hbody⟩, trivial⟩
    -- No quote is left: the body is all of the text.
    · cases strict with
      | true => cases (hstrict rfl).symm.trans h
      | false =>
        cases (hlenient rfl).symm.trans h
        exact .inr ⟨rfl, rfl, hnone, rfl, rfl, by simp [Nat.add_assoc]⟩

/-- The tokens found are tokens that the text is cut into. -/
theorem scanned_of_tokens {s : Scanner} {ts : List Token} (h : s.tokens strict = .ok ts) :
    Scanned strict s.offset s.rest ts := by
  -- The cases are those of the scanner: the end, a blank, no token, a failure now or later, a token.
  fun_induction tokens strict s generalizing ts with
  | case1 s hs =>
    cases h
    rw [hs]
    exact .nil
  | case2 s c after hs hblank ih =>
    rw [hs]
    exact .blank hblank (ih h)
  | case3 => cases h
  | case4 => cases h
  | case5 => cases h
  | case6 s c after hs hblank kind hkind taken next htake others hothers ih =>
    cases h
    rcases s with ⟨n, rest⟩
    cases hs
    have hstart : kind.StartsWith c := TokenKind.starting?_eq_some_iff.1 hkind
    have hnext : Scanned strict next.offset next.rest others := ih hothers
    rcases takeToken_eq_ok hstart htake with
      ⟨left, hsplit, rfl, hspell, hstop⟩ | ⟨rfl, hstrict, hquote, hfirst, rfl, rfl⟩
    · simp only [hsplit]
      exact .token hspell hstop hnext
    · -- The quote is supplied only at the end of the text, so nothing is left to cut.
      cases hnext.eq_nil
      simp only [hfirst]
      exact .unclosed hstrict hquote

/-! ## The tokens behind one piece -/

/-- A token that stops where it should is followed by the tokens of what it leaves. -/
theorem tokens_append (hs : kind.Spells s) (hstop : kind.StopsBefore rest) :
    tokens strict ⟨n, s ++ rest⟩ =
      (tokens strict ⟨n + s.length, rest⟩).map (⟨kind, s, n⟩ :: ·) := by
  -- The scanner looks at the first character, so the token is split there.
  rcases hs.startsWith with ⟨c, after, rfl, hc⟩
  have htake : takeToken strict ⟨n, c :: (after ++ rest)⟩ kind =
      .ok (c :: after, ⟨n + (c :: after).length, rest⟩) := takeToken_append hs hstop
  rw [List.cons_append]
  exact tokens_of_takeToken hc.isBlank (TokenKind.starting?_eq_some_iff.2 hc) htake

/-- A lenient scan supplies the quote, and behind it nothing is left. -/
theorem tokens_unclosed (hs : '"' ∉ s) :
    tokens false ⟨n, '"' :: s⟩ = .ok [⟨.string, '"' :: s ++ ['"'], n⟩] := by
  have hstart : TokenKind.StartsWith .string '"' := rfl
  rw [tokens_of_takeToken hstart.isBlank (TokenKind.starting?_eq_some_iff.2 hstart)
    (takeString_of_not_mem hs), tokens_nil]
  rfl

/-- A strict scan refuses the string where it starts. -/
theorem tokens_unterminated (hs : '"' ∉ s) :
    tokens true ⟨n, '"' :: s⟩ = .error (.unterminatedString n) := by
  have hstart : TokenKind.StartsWith .string '"' := rfl
  exact tokens_of_takeToken_error hstart.isBlank (TokenKind.starting?_eq_some_iff.2 hstart)
    (takeString_of_not_mem_strict hs)

/-- A text that can be cut into tokens is cut that way. -/
theorem tokens_of_scanned {ts : List Token} (h : Scanned strict n s ts) :
    tokens strict ⟨n, s⟩ = .ok ts := by
  induction h with
  | nil => exact tokens_nil
  | blank hc _ ih => rw [tokens_blank hc, ih]
  | token hs hstop _ ih =>
    rw [tokens_append hs hstop, ih]
    rfl
  | unclosed hstrict hbody =>
    rw [hstrict]
    exact tokens_unclosed hbody

end Scanner

/-- A text is cut into tokens in one way at most. -/
theorem Scanned.unique {strict : Bool} {n : Nat} {s : Text} {ts us : List Token}
    (hts : Scanned strict n s ts) (hus : Scanned strict n s us) : ts = us := by
  have hboth := (Scanner.tokens_of_scanned hts).symm.trans (Scanner.tokens_of_scanned hus)
  simpa using hboth

/-- A text has tokens exactly when its parentheses balance and it can be cut into them. -/
theorem tokenize_eq_ok_iff {config : Config} {src : Text} {ts : List Token} :
    tokenize config src = .ok ts ↔
      checkBalance src = .ok () ∧ Scanned config.strictStrings 0 src ts := by
  unfold tokenize
  cases checkBalance src with
  | error cause => simp
  | ok u =>
    simp only [true_and]
    exact ⟨Scanner.scanned_of_tokens, Scanner.tokens_of_scanned⟩

/-- A text that fits a kind is one token of it, if its parentheses balance. -/
theorem tokenize_of_spells {kind : TokenKind} {s : Text} (config : Config) (hs : kind.Spells s)
    (hbalance : checkBalance s = .ok ()) : tokenize config s = .ok [⟨kind, s, 0⟩] := by
  have hwhole : Scanned config.strictStrings 0 (s ++ []) [⟨kind, s, (0 : Nat)⟩] :=
    .token hs (TokenKind.stopsBefore_nil kind) .nil
  rw [List.append_nil] at hwhole
  exact tokenize_eq_ok_iff.2 ⟨hbalance, hwhole⟩

end SExpr
