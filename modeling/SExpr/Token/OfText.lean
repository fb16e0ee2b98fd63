import SExpr.Balance
import SExpr.Config
import SExpr.Scanner

/-!
# The tokens of a text

A text is cut into tokens from left to right. The next character decides: a blank one is skipped,
any other one starts a token of some kind or none at all. Parentheses and operators are tokens of
one character; numbers and identifiers are the longest runs; strings go from quote to quote. The
parentheses are checked first, over the whole text.
-/

namespace SExpr

/-- The kind of token that a character starts. -/
def TokenKind.starting? (c : Char) : Option TokenKind :=
  if c = '(' then some .openParen
  else if c = ')' then some .closeParen
  else if isDecimal c then some .number
  else if isLetter c then some .identifier
  else if c = '"' then some .string
  else if isOperator c then some .operator
  else none

namespace Scanner

/-- Take the text of a token of the kind, which the next character starts. -/
def takeToken (strict : Bool) (s : Scanner) : TokenKind → Except LexError (Text × Scanner)
  | .number => .ok (s.takeRun isDecimal)
  | .identifier => .ok (s.takeRun isIdentifierChar)
  | .string => s.takeString strict
  | .openParen | .closeParen | .operator => .ok s.takeOne

theorem length_rest_takeRun {p : Char → Bool} {s : Scanner} {c : Char} {after : Text}
    (hs : s.rest = c :: after) (hc : p c = true) :
    (s.takeRun p).2.rest.length < s.rest.length := by
  have hle : (after.dropWhile p).length ≤ after.length := (List.dropWhile_suffix _).length_le
  simp only [takeRun, hs, List.dropWhile_cons, hc, if_true, List.length_cons]
  omega

/-- A token takes at least the character that starts it. -/
theorem length_rest_of_takeToken {strict : Bool} {s next : Scanner} {c : Char} {after taken : Text}
    {kind : TokenKind} (hs : s.rest = c :: after) (hk : TokenKind.starting? c = some kind)
    (h : s.takeToken strict kind = .ok (taken, next)) : next.rest.length < s.rest.length := by
  cases kind with
  | openParen | closeParen | operator =>
    simp only [takeToken, takeOne, Except.ok.injEq, Prod.mk.injEq] at h
    simp [← h.2, hs]
  | number =>
    have hc : isDecimal c = true := by
      unfold TokenKind.starting? at hk
      grind
    simp only [takeToken, Except.ok.injEq] at h
    have := length_rest_takeRun hs hc
    rwa [h] at this
  | identifier =>
    have hc : isIdentifierChar c = true := by
      unfold TokenKind.starting? at hk
      grind [isIdentifierChar]
    simp only [takeToken, Except.ok.injEq] at h
    have := length_rest_takeRun hs hc
    rwa [h] at this
  | string =>
    exact length_rest_of_takeString (by simp [hs]) h

/-- The tokens from a scanner to the end of its text. -/
def tokens (strict : Bool) (s : Scanner) : Except LexError (List Token) :=
  match _hs : s.rest with
  | [] => .ok []
  | c :: after =>
    if isBlank c then tokens strict ⟨s.offset + 1, after⟩
    else
      match _hk : TokenKind.starting? c with
      | none => .error (.unexpectedCharacter [c] s.offset)
      | some kind =>
        match _ht : s.takeToken strict kind with
        | .error cause => .error cause
        | .ok (taken, next) =>
          match tokens strict next with
          | .error cause => .error cause
          | .ok others => .ok (⟨kind, taken, s.offset⟩ :: others)
termination_by s.rest.length
decreasing_by
  · simp [_hs]
  · exact length_rest_of_takeToken _hs _hk _ht

/-! ## One token at a time -/

variable {strict : Bool} {n : Nat} {c : Char} {after : Text}

theorem tokens_nil : tokens strict ⟨n, []⟩ = .ok [] := by
  rw [tokens]

theorem tokens_blank (hc : isBlank c = true) :
    tokens strict ⟨n, c :: after⟩ = tokens strict ⟨n + 1, after⟩ := by
  rw [tokens]
  simp [hc]

/-- A character that is not blank and starts no token is refused. -/
theorem tokens_unexpected (hc : isBlank c = false) (hk : TokenKind.starting? c = none) :
    tokens strict ⟨n, c :: after⟩ = .error (.unexpectedCharacter [c] n) := by
  rw [tokens]
  simp only [hc, Bool.false_eq_true, if_false]
  split
  · rfl
  · simp_all

theorem tokens_of_takeToken_error {kind : TokenKind} {cause : LexError} (hc : isBlank c = false)
    (hk : TokenKind.starting? c = some kind)
    (ht : takeToken strict ⟨n, c :: after⟩ kind = .error cause) :
    tokens strict ⟨n, c :: after⟩ = .error cause := by
  rw [tokens]
  simp only [hc, Bool.false_eq_true, if_false]
  split <;> grind

/-- A token is followed by the tokens of what it leaves. -/
theorem tokens_of_takeToken {kind : TokenKind} {taken : Text} {next : Scanner}
    (hc : isBlank c = false) (hk : TokenKind.starting? c = some kind)
    (ht : takeToken strict ⟨n, c :: after⟩ kind = .ok (taken, next)) :
    tokens strict ⟨n, c :: after⟩ = (tokens strict next).map (⟨kind, taken, n⟩ :: ·) := by
  rw [tokens]
  simp only [hc, Bool.false_eq_true, if_false]
  split
  · simp_all
  · next k hk' =>
    obtain rfl : kind = k := by simp_all
    split
    · simp_all
    · next taken' next' ht' =>
      obtain ⟨rfl, rfl⟩ : taken = taken' ∧ next = next' := by simp_all
      cases tokens strict next <;> rfl

end Scanner

/-- The tokens of a text. -/
def tokenize (config : Config) (src : Text) : Except LexError (List Token) :=
  match checkBalance src with
  | .error cause => .error cause
  | .ok () => (Scanner.ofText src).tokens config.strictStrings

end SExpr
