import Mathlib.Algebra.Group.Nat.Even
import SExpr.Proofs.Balance
import SExpr.Proofs.Pieces

/-!
# Texts without tokens

When a text is refused, and for what. Behind the balance check only the characters outside strings can
be at fault, and at most the last string. Whether a character stands outside strings is a matter of
the quotes before it: every token leaves an even number of them behind, whatever it is. So the text
may be looked at as a whole: the first character outside strings that is not legal is refused; without
one a strict scan still refuses an odd number of quotes.
-/

namespace SExpr

/-! ## Characters outside strings -/

/-- The character may stand outside strings. -/
def Legal (c : Char) : Prop :=
  isBlank c = true ∨ c = '(' ∨ c = ')' ∨ isDecimal c = true ∨ isLetter c = true ∨
    isOperator c = true

/-- The character at the offset stands outside strings: it is no quote, and the quotes before it
are even in number. -/
def Exposed (src : Text) (i : Nat) : Prop :=
  Even ((src.take i).count '"') ∧ ∃ c, src[i]? = some c ∧ c ≠ '"'

/-- A character that is not legal stands outside strings at the offset. -/
def Illegal (src : Text) (i : Nat) : Prop :=
  Exposed src i ∧ ∃ c, src[i]? = some c ∧ ¬ Legal c

theorem Legal.ne_quote {c : Char} (hc : Legal c) : c ≠ '"' := by
  rintro rfl
  rcases classes_of_mem_marks (c := '"') (by decide) with ⟨hblank, hdecimal, hletter⟩
  have hoperator : isOperator '"' = false := by decide
  simp [Legal, hblank, hdecimal, hletter, hoperator] at hc

theorem legal_of_isIdentifierChar {c : Char} (hc : isIdentifierChar c = true) : Legal c := by
  rcases isIdentifierChar_iff.1 hc with hletter | hdecimal | rfl
  · exact .inr (.inr (.inr (.inr (.inl hletter))))
  · exact .inr (.inr (.inr (.inl hdecimal)))
  · exact .inr (.inr (.inr (.inr (.inr (by decide)))))

/-- What is not white space and starts no token is not legal, and it is no quote. -/
theorem not_legal_of_starting? {c : Char} (hblank : isBlank c = false)
    (hk : TokenKind.starting? c = none) : ¬ Legal c ∧ c ≠ '"' := by
  have hnone : ∀ kind : TokenKind, ¬ kind.StartsWith c := by
    intro kind hstart
    rw [TokenKind.starting?_eq_some_iff.2 hstart] at hk
    cases hk
  refine ⟨?_, hnone .string⟩
  rintro (hc | hc | hc | hc | hc | hc)
  · rw [hblank] at hc
    cases hc
  · exact hnone .openParen hc
  · exact hnone .closeParen hc
  · exact hnone .number hc
  · exact hnone .identifier hc
  · exact hnone .operator hc

/-! ## Pieces that change nothing -/

section Neutral

variable {s t body : Text} {c : Char} {i p : Nat}

/-- The piece of text holds no illegal character, and behind it one is outside strings again. -/
structure Neutral (s : Text) : Prop where
  even : Even (s.count '"')
  legal : ∀ i, ¬ Illegal s i

theorem neutral_of_legal (hs : ∀ c ∈ s, Legal c) : Neutral s where
  even := by
    have hnone : s.count '"' = 0 := List.count_eq_zero.2 fun hmem => (hs _ hmem).ne_quote rfl
    rw [hnone]
    exact Even.zero
  legal := by
    rintro i ⟨_, c, hc, hnot⟩
    exact hnot (hs c (List.mem_of_getElem? hc))

/-- Inside a string nothing is exposed. -/
theorem not_exposed_of_quote (hbody : '"' ∉ body) : ¬ Exposed ('"' :: body) i := by
  rintro ⟨heven, c, hc, hne⟩
  cases i with
  | zero => exact hne (Option.some.inj hc).symm
  | succ i =>
    -- One quote stands before everything in the body.
    have hnone : (body.take i).count '"' = 0 :=
      List.count_eq_zero.2 fun hmem => hbody (List.mem_of_mem_take hmem)
    rw [List.take_succ_cons, List.count_cons_self, hnone] at heven
    exact absurd heven (by decide)

theorem odd_count_of_quote (hbody : '"' ∉ body) : ¬ Even (('"' :: body).count '"') := by
  rw [List.count_cons_self, List.count_eq_zero.2 hbody]
  decide

theorem neutral_string (hbody : '"' ∉ body) : Neutral ('"' :: body ++ ['"']) where
  even := by
    have hnone : body.count '"' = 0 := List.count_eq_zero.2 hbody
    rw [List.count_append, List.count_cons_self, hnone]
    decide
  legal := by
    rintro i ⟨⟨heven, c, hc, hne⟩, _⟩
    rcases Nat.lt_or_ge i ('"' :: body).length with hlt | hge
    · rw [List.take_append_of_le_length (Nat.le_of_lt hlt)] at heven
      rw [List.getElem?_append_left hlt] at hc
      exact not_exposed_of_quote hbody ⟨heven, c, hc, hne⟩
    · -- Behind the body there is only the last quote.
      rw [List.getElem?_append_right hge] at hc
      exact hne (List.mem_singleton.1 (List.mem_of_getElem? hc))

theorem TokenKind.Spells.neutral {kind : TokenKind} (h : kind.Spells s) : Neutral s := by
  cases kind with
  | openParen =>
    cases h
    exact neutral_of_legal (by simp [Legal])
  | closeParen =>
    cases h
    exact neutral_of_legal (by simp [Legal])
  | number => exact neutral_of_legal fun c hc => .inr (.inr (.inr (.inl (h.2 c hc))))
  | identifier => exact neutral_of_legal fun c hc => legal_of_isIdentifierChar (h.isIdentifierChar c hc)
  | operator =>
    rcases h with ⟨c, rfl, hc⟩
    apply neutral_of_legal
    intro d hd
    rcases List.mem_singleton.1 hd with rfl
    exact .inr (.inr (.inr (.inr (.inr hc))))
  | string =>
    rcases h with ⟨body, rfl, hbody⟩
    exact neutral_string hbody

namespace Neutral

theorem even_count_append_iff (h : Neutral s) (t : Text) :
    Even ((s ++ t).count '"') ↔ Even (t.count '"') := by
  rw [List.count_append, Nat.even_add]
  simp [h.even]

/-- Behind a neutral piece the same is illegal as without it. -/
theorem illegal_append_iff (h : Neutral s) (t : Text) (p : Nat) :
    Illegal (s ++ t) (s.length + p) ↔ Illegal t p := by
  have hget : (s ++ t)[s.length + p]? = t[p]? := by
    rw [List.getElem?_append_right (Nat.le_add_right ..), Nat.add_sub_cancel_left]
  unfold Illegal Exposed
  rw [List.take_length_add_append, h.even_count_append_iff, hget]

theorem le_of_illegal_append (h : Neutral s) {t : Text} {q : Nat} (hq : Illegal (s ++ t) q) :
    s.length ≤ q := by
  by_contra hlt
  have hlt' : q < s.length := Nat.lt_of_not_le hlt
  rcases hq with ⟨⟨heven, hexposed⟩, hillegal⟩
  rw [List.take_append_of_le_length (Nat.le_of_lt hlt')] at heven
  rw [List.getElem?_append_left hlt'] at hexposed hillegal
  exact h.legal q ⟨⟨heven, hexposed⟩, hillegal⟩

theorem not_illegal_append (h : Neutral s) {t : Text} (ht : ∀ q, ¬ Illegal t q) (q : Nat) :
    ¬ Illegal (s ++ t) q := by
  intro hq
  obtain ⟨p, rfl⟩ := Nat.exists_eq_add_of_le (h.le_of_illegal_append hq)
  exact ht p ((h.illegal_append_iff t p).1 hq)

end Neutral

end Neutral

/-! ## The verdict on a text -/

/-- What the tokens of a text that starts at the offset come to: the first illegal character is
refused, or else the last string, if it is not closed and the scan is strict. -/
inductive Verdict (strict : Bool) (n : Nat) (s : Text) : Except LexError (List Token) → Prop where
  | unexpected {p : Nat} {c : Char} : Illegal s p → (∀ q < p, ¬ Illegal s q) → s[p]? = some c →
      Verdict strict n s (.error (.unexpectedCharacter [c] (n + p : Nat)))
  | unterminated {p : Nat} : (∀ q, ¬ Illegal s q) → strict = true → ¬ Even (s.count '"') →
      s[p]? = some '"' → '"' ∉ s.drop (p + 1) →
      Verdict strict n s (.error (.unterminatedString (n + p : Nat)))
  | accepted {ts : List Token} : (∀ q, ¬ Illegal s q) → (strict = true → Even (s.count '"')) →
      Verdict strict n s (.ok ts)

namespace Verdict

variable {strict : Bool} {n : Nat} {s rest : Text} {result : Except LexError (List Token)}

/-- A neutral piece in front moves the verdict by its length. -/
theorem append (hs : Neutral s) (h : Verdict strict (n + s.length) rest result)
    (f : List Token → List Token) : Verdict strict n (s ++ rest) (result.map f) := by
  have hget : ∀ p : Nat, (s ++ rest)[s.length + p]? = rest[p]? := by
    intro p
    rw [List.getElem?_append_right (Nat.le_add_right ..), Nat.add_sub_cancel_left]
  cases h with
  | @unexpected p c hp hleast hc =>
    rw [Nat.add_assoc]
    refine .unexpected ((hs.illegal_append_iff rest p).2 hp) ?_ (by rw [hget, hc])
    intro q hq hillegal
    obtain ⟨r, rfl⟩ := Nat.exists_eq_add_of_le (hs.le_of_illegal_append hillegal)
    exact hleast r (Nat.lt_of_add_lt_add_left hq) ((hs.illegal_append_iff rest r).1 hillegal)
  | @unterminated p hnone hstrict hodd hp hlast =>
    rw [Nat.add_assoc]
    refine .unterminated (hs.not_illegal_append hnone) hstrict ?_ (by rw [hget, hp]) ?_
    · rwa [hs.even_count_append_iff]
    · rwa [Nat.add_assoc, List.drop_length_add_append]
  | accepted hnone heven =>
    refine .accepted (hs.not_illegal_append hnone) ?_
    intro hstrict
    rw [hs.even_count_append_iff]
    exact heven hstrict

end Verdict

/-- The tokens found, or the error met, are what the verdict on the text says. -/
theorem Scanner.verdict (strict : Bool) (n : Nat) (s : Text) :
    Verdict strict n s (Scanner.tokens strict ⟨n, s⟩) := by
  induction s using inductionOnPieces generalizing n with
  | nil =>
    rw [tokens_nil]
    refine .accepted ?_ fun _ => Even.zero
    rintro q ⟨_, c, hc, _⟩
    cases hc
  | blank c rest hblank ih =>
    have hpiece : Neutral [c] := neutral_of_legal (by simp [Legal, hblank])
    rw [tokens_blank hblank]
    simpa using (Verdict.append hpiece (ih (n + 1)) id)
  | unexpected c rest hblank hk =>
    rcases not_legal_of_starting? hblank hk with ⟨hnot, hquote⟩
    have hillegal : Illegal (c :: rest) 0 := ⟨⟨Even.zero, c, rfl, hquote⟩, c, rfl, hnot⟩
    rw [tokens_unexpected hblank hk]
    exact .unexpected hillegal (fun q hq => absurd hq (Nat.not_lt_zero q)) rfl
  | token kind s rest hs hstop ih =>
    rw [tokens_append hs hstop]
    exact Verdict.append hs.neutral (ih (n + s.length)) _
  | unclosed body hbody =>
    have hnone : ∀ q, ¬ Illegal ('"' :: body) q := fun q hq => not_exposed_of_quote hbody hq.1
    cases strict with
    | true =>
      rw [tokens_unterminated hbody]
      exact .unterminated (p := 0) hnone rfl (odd_count_of_quote hbody) rfl hbody
    | false =>
      rw [tokens_unclosed hbody]
      exact .accepted hnone nofun

/-! ## Refused texts -/

section Tokenize

variable {config : Config} {src : Text} {cause : LexError}

theorem tokenize_of_unbalanced (h : checkBalance src = .error cause) :
    tokenize config src = .error cause := by
  rw [tokenize, h]

theorem tokenize_of_balanced (h : checkBalance src = .ok ()) :
    tokenize config src = (Scanner.ofText src).tokens config.strictStrings := by
  rw [tokenize, h]

theorem verdict_of_balanced (config : Config) (h : checkBalance src = .ok ()) :
    Verdict config.strictStrings 0 src (tokenize config src) := by
  rw [tokenize_of_balanced h]
  exact Scanner.verdict config.strictStrings 0 src

/-- The balance check alone blames a parenthesis. -/
theorem tokenize_unbalanced_iff :
    cause.Unbalanced ∧ tokenize config src = .error cause ↔ checkBalance src = .error cause := by
  constructor
  · rintro ⟨hunbalanced, h⟩
    cases hbalance : checkBalance src with
    | error e =>
      rw [tokenize_of_unbalanced hbalance] at h
      cases h
      rfl
    | ok u =>
      -- A scan never blames a parenthesis.
      have hverdict := verdict_of_balanced config hbalance
      rw [h] at hverdict
      cases hverdict <;> cases hunbalanced
  · intro h
    exact ⟨unbalanced_of_checkBalance h, tokenize_of_unbalanced h⟩

end Tokenize

/-- A text is refused by the balance check, with the error that this gives, exactly when its
parentheses do not balance, whatever else is wrong with it. Otherwise the first illegal character is
refused if there is one. If there is none, a strict scan refuses an odd number of quotes for the last
of them, and in every other case the text has tokens. -/
theorem tokenize_verdict (config : Config) (src : Text) :
    (∀ cause : LexError, cause.Unbalanced ∧ tokenize config src = .error cause ↔
      checkBalance src = .error cause) ∧
    (checkBalance src = .ok () →
      ((∃ q, Illegal src q) → ∃ p c, Illegal src p ∧ (∀ q < p, ¬ Illegal src q) ∧
        src[p]? = some c ∧ tokenize config src = .error (.unexpectedCharacter [c] p)) ∧
      ((∀ q, ¬ Illegal src q) →
        (config.strictStrings = true ∧ ¬ Even (src.count '"') →
          ∃ p : Nat, src[p]? = some '"' ∧ '"' ∉ src.drop (p + 1) ∧
            tokenize config src = .error (.unterminatedString p)) ∧
        (¬ (config.strictStrings = true ∧ ¬ Even (src.count '"')) →
          ∃ ts, tokenize config src = .ok ts))) := by
  refine ⟨fun cause => tokenize_unbalanced_iff, fun hbalance => ?_⟩
  have hverdict := verdict_of_balanced config hbalance
  generalize tokenize config src = result at hverdict ⊢
  cases hverdict with
  | @unexpected p c hp hleast hc =>
    rw [Nat.zero_add]
    exact ⟨fun _ => ⟨p, c, hp, hleast, hc, rfl⟩, fun hnone => absurd hp (hnone p)⟩
  | @unterminated p hnone hstrict hodd hp hlast =>
    rw [Nat.zero_add]
    refine ⟨fun ⟨q, hq⟩ => absurd hq (hnone q), fun _ => ⟨fun _ => ⟨p, hp, hlast, rfl⟩, ?_⟩⟩
    intro hother
    exact absurd ⟨hstrict, hodd⟩ hother
  | @accepted ts hnone heven =>
    refine ⟨fun ⟨q, hq⟩ => absurd hq (hnone q), fun _ => ⟨?_, fun _ => ⟨ts, rfl⟩⟩⟩
    rintro ⟨hstrict, hodd⟩
    exact absurd (heven hstrict) hodd

/-- A question mark inside a string is passed over, the one behind it is refused. -/
theorem verdict_on_question_marks :
    checkBalance ['"', '?', '"', '?'] = .ok () ∧ Illegal ['"', '?', '"', '?'] 3 ∧
      tokenize {} ['"', '?', '"', '?'] = .error (.unexpectedCharacter ['?'] 3) := by
  have hclasses : isBlank '?' = false ∧ isDecimal '?' = false ∧ isLetter '?' = false := by
    decide +kernel
  have hnot : ¬ Legal '?' := by
    have hoperator : isOperator '?' = false := by decide
    simp [Legal, hclasses, hoperator]
  have hillegal : Illegal ['"', '?', '"', '?'] 3 := ⟨⟨by decide, '?', rfl, by decide⟩, '?', rfl, hnot⟩
  have hstring : Neutral ('"' :: ['?'] ++ ['"']) := neutral_string (by decide)
  have hbalance : checkBalance ['"', '?', '"', '?'] = .ok () := by decide
  rcases ((tokenize_verdict {} _).2 hbalance).1 ⟨3, hillegal⟩ with ⟨p, c, hp, hleast, hc, herror⟩
  have hge : 3 ≤ p := hstring.le_of_illegal_append hp
  have hle : ¬ 3 < p := fun hlt => hleast 3 hlt hillegal
  obtain rfl : p = 3 := by omega
  cases hc
  exact ⟨hbalance, hillegal, herror⟩

end SExpr
