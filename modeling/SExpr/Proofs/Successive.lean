import SExpr.Proofs.Outcome
import SExpr.Proofs.RoundTrip

/-!
# Values one after the other

What the tokens of a text can make go wrong when values are read from them one after the other. The
balance check has seen the parentheses of the text, the cursor sees the tokens that are parentheses,
and the two differ by the parentheses inside strings alone. So a list can only stay open when a string
has taken a closing parenthesis away, and without parentheses in strings nothing is closed that is not
open.
-/

namespace SExpr

/-! ## Levels of tokens and of their texts -/

theorem isParenthesis_iff {c : Char} :
    isParenthesis c = true ↔ Nesting.opens c = true ∨ Nesting.closes c = true := by
  simp [isParenthesis, Nesting.opens, Nesting.closes]

/-- A text has the level of its parentheses. -/
theorem level_parentheses (s : Text) : level (parentheses s) = level s := by
  induction s with
  | nil => rfl
  | cons c s ih =>
    cases hc : isParenthesis c with
    | true =>
      have hkeep : parentheses (c :: s) = c :: parentheses s := List.filter_cons_of_pos hc
      rw [hkeep, level_cons, ih, level_cons c s]
    | false =>
      have hneither : ¬ (Nesting.opens c = true ∨ Nesting.closes c = true) := by
        rw [← isParenthesis_iff, hc]
        decide
      rw [not_or, Bool.not_eq_true, Bool.not_eq_true] at hneither
      rw [parentheses_cons_of_not hc, ih, level_cons, level_of_neither hneither.1 hneither.2,
        Int.zero_add]

theorem parentheses_of_isIdentifierChar {s : Text} (hs : ∀ c ∈ s, isIdentifierChar c = true) :
    parentheses s = [] := by
  rw [parentheses, List.filter_eq_nil_iff]
  intro c hc hparen
  rcases isIdentifierChar_iff.1 (hs c hc) with hletter | hdecimal | rfl
  · rw [(classes_of_mem_marks (mem_marks_of_isParenthesis hparen)).2.2] at hletter
    cases hletter
  · rw [(classes_of_mem_marks (mem_marks_of_isParenthesis hparen)).2.1] at hdecimal
    cases hdecimal
  · cases hparen

theorem parentheses_of_isOperator {c : Char} (hc : isOperator c = true) : parentheses [c] = [] := by
  rw [parentheses, List.filter_eq_nil_iff]
  intro d hd hparen
  rcases List.mem_singleton.1 hd with rfl
  have hcases : d = '(' ∨ d = ')' := by simpa [isParenthesis] using hparen
  rcases hcases with rfl | rfl <;> exact absurd hc (by decide)

namespace Token

variable {t : Token} {ts us : List Token}

/-- A token that is no parenthesis has none in its text either, a string aside that holds some. -/
theorem parentheses_text (ht : t.kind.Spells t.text) (hopen : t.kind ≠ .openParen)
    (hclose : t.kind ≠ .closeParen) (hplain : t.kind = .string → parentheses t.text = []) :
    parentheses t.text = [] := by
  cases hkind : t.kind with
  | openParen => exact absurd hkind hopen
  | closeParen => exact absurd hkind hclose
  | string => exact hplain hkind
  | number =>
    rw [hkind] at ht
    exact parentheses_of_isDecimal ht.2
  | identifier =>
    rw [hkind] at ht
    exact parentheses_of_isIdentifierChar ht.isIdentifierChar
  | operator =>
    rw [hkind] at ht
    rcases ht with ⟨c, hc, hoperator⟩
    rw [hc]
    exact parentheses_of_isOperator hoperator

/-- The text of a token opens and closes what the token does, a string with parentheses aside. -/
theorem level_text (ht : t.kind.Spells t.text)
    (hplain : t.kind = .string → parentheses t.text = []) : level t.text = level [t] := by
  by_cases hopen : t.kind = .openParen
  · rw [hopen] at ht
    rw [show t.text = ['('] from ht, level_openParen hopen]
    rfl
  by_cases hclose : t.kind = .closeParen
  · rw [hclose] at ht
    rw [show t.text = [')'] from ht, level_closeParen hclose]
    rfl
  rw [← level_parentheses, parentheses_text ht hopen hclose hplain, level_other hopen hclose]
  rfl

/-- The texts of the strings among the tokens, one after the other. -/
def quoted (ts : List Token) : Text :=
  (ts.filter (·.kind = .string)).flatMap Token.text

/-- The level of the texts is the level of the tokens, but for what stands in strings. -/
theorem level_texts (hspells : ∀ t ∈ ts, t.kind.Spells t.text) :
    level (ts.flatMap Token.text) = level ts + level (quoted ts) := by
  induction ts with
  | nil => rfl
  | cons t ts ih =>
    rcases List.forall_mem_cons.1 hspells with ⟨ht, hts⟩
    rw [List.flatMap_cons, level_append, ih hts, level_cons t ts]
    by_cases hkind : t.kind = .string
    · have hquoted : quoted (t :: ts) = t.text ++ quoted ts := by
        simp [quoted, hkind]
      rw [hquoted, level_append, level_other (by simp [hkind]) (by simp [hkind])]
      omega
    · have hquoted : quoted (t :: ts) = quoted ts := by
        simp [quoted, hkind]
      rw [hquoted, level_text ht fun hstring => absurd hstring hkind, Int.add_assoc]

theorem mem_quoted_iff {c : Char} : c ∈ quoted ts ↔ ∃ t ∈ ts, t.kind = .string ∧ c ∈ t.text := by
  simp [quoted, and_assoc]

/-- No string holds a parenthesis. -/
def Plain (ts : List Token) : Prop :=
  ∀ t ∈ ts, t.kind = .string → parentheses t.text = []

instance (ts : List Token) : Decidable (Plain ts) :=
  inferInstanceAs (Decidable (∀ t ∈ ts, t.kind = .string → parentheses t.text = []))

theorem Plain.level_quoted (h : Plain ts) : level (quoted ts) = 0 := by
  have hnone : parentheses (quoted ts) = [] := by
    rw [parentheses, List.filter_eq_nil_iff]
    intro c hc
    rcases mem_quoted_iff.1 hc with ⟨t, ht, hkind, hmem⟩
    exact List.filter_eq_nil_iff.1 (h t ht hkind) c hmem
  rw [← level_parentheses, hnone, level_nil]

theorem Plain.not_mem_quoted (h : Plain ts) : ')' ∉ quoted ts := by
  intro hmem
  rcases mem_quoted_iff.1 hmem with ⟨t, ht, hkind, hclose⟩
  exact List.filter_eq_nil_iff.1 (h t ht hkind) _ hclose rfl

/-- Where no string closes anything, the tokens open no more than their texts do. -/
theorem level_le_of_not_mem_quoted (hspells : ∀ t ∈ ts, t.kind.Spells t.text)
    (h : ')' ∉ quoted ts) : level ts ≤ level (ts.flatMap Token.text) := by
  have hcloses : (quoted ts).countP Nesting.closes = 0 := by
    rw [List.countP_eq_zero]
    intro c hc hclose
    obtain rfl : c = ')' := by simpa [Nesting.closes] using hclose
    exact h hc
  have hnonneg : 0 ≤ level (quoted ts) := by
    rw [level, hcloses]
    omega
  rw [level_texts hspells]
  omega

end Token

/-! ## Tokens of a balanced text -/

section Tokens

variable {config : Config} {src : Text} {ts used left : List Token}

/-- The texts of the tokens are balanced when the text they are cut from is. -/
theorem balanced_texts_of_tokenize (h : tokenize config src = .ok ts) :
    Balanced (ts.flatMap Token.text) := by
  rcases tokenize_eq_ok_iff.1 h with ⟨hbalance, hscanned⟩
  have hsame : parentheses src = parentheses (ts.flatMap Token.text) := hscanned.parentheses_eq
  exact checkBalance_eq_ok_iff.1 ((checkBalance_congr hsame).1 hbalance)

theorem level_nonneg_of_plain (h : tokenize config src = .ok (used ++ left))
    (hplain : Token.Plain (used ++ left)) : 0 ≤ level used := by
  have hbalanced := balanced_texts_of_tokenize h
  rw [List.flatMap_append] at hbalanced
  have hspells : ∀ t ∈ used, t.kind.Spells t.text := by
    intro t ht
    exact spells_of_tokenize h t (List.mem_append_left left ht)
  have hused : Token.Plain used := fun t ht => hplain t (List.mem_append_left left ht)
  have hlevel := Token.level_texts hspells
  rw [hused.level_quoted, Int.add_zero] at hlevel
  rw [← hlevel]
  exact hbalanced.level_nonneg

theorem level_le_zero_of_not_mem_quoted (h : tokenize config src = .ok ts)
    (hquoted : ')' ∉ Token.quoted ts) : level ts ≤ 0 := by
  rw [← (balanced_texts_of_tokenize h).total]
  exact Token.level_le_of_not_mem_quoted (spells_of_tokenize h) hquoted

/-- The first token of a text closes nothing. -/
theorem first_ne_closeParen {t : Token} (h : tokenize config src = .ok (t :: left)) :
    t.kind ≠ .closeParen := by
  intro hkind
  have hbalanced := balanced_texts_of_tokenize h
  have hspells := spells_of_tokenize h t (List.mem_cons_self ..)
  have hnonneg : 0 ≤ level t.text := hbalanced.level_nonneg
  rw [Token.level_text hspells (by simp [hkind]), Token.level_closeParen hkind] at hnonneg
  exact absurd hnonneg (by decide)

/-- A text is cut into no tokens exactly when all of it is white space. -/
theorem Scanned.eq_nil_iff {strict : Bool} {n : Nat} {s : Text} (h : Scanned strict n s ts) :
    ts = [] ↔ ∀ c ∈ s, isBlank c = true := by
  induction h with
  | nil => simp
  | blank hc _ ih => simpa [hc] using ih
  | token hs _ _ _ =>
    rcases hs.startsWith with ⟨c, after, rfl, hc⟩
    simp [hc.isBlank]
  | unclosed =>
    have hquote : isBlank '"' = false := (classes_of_mem_marks (by decide)).1
    simp [hquote]

end Tokens

/-! ## Reading on -/

namespace Cursor

variable {limit : Int} {capacity : Option Nat} {c after : Cursor} {vs : List Value}

/-- Values are read one after the other, each where the last one left the cursor. -/
inductive ReadsTo (limit : Int) (capacity : Option Nat) : Cursor → List Value → Cursor → Prop where
  | none (c : Cursor) : ReadsTo limit capacity c [] c
  | value {c next after : Cursor} {v : Value} {vs : List Value} :
      c.expression limit capacity = (.ok v, next) → ReadsTo limit capacity next vs after →
        ReadsTo limit capacity c (v :: vs) after

/-- The tokens that values are read from fall into parts, each of which derives one of the values,
within the limits. -/
theorem ReadsTo.exists_parts (h : ReadsTo limit capacity c vs after) :
    ∃ parts : List (List Token × Value), c.rest = parts.flatMap Prod.fst ++ after.rest ∧
      parts.map Prod.snd = vs ∧
        ∀ p ∈ parts, Derives p.1 p.2 ∧ Admits limit capacity c.depth 0 p.2 := by
  induction h with
  | none c => exact ⟨[], rfl, rfl, by simp⟩
  | @value c next after v vs hread _ ih =>
    rcases expression_eq_ok_iff.1 hread with ⟨used, hused, hderives, hadmits, _, hdepth⟩
    rcases ih with ⟨parts, hrest, rfl, hparts⟩
    rw [hdepth] at hparts
    refine ⟨(used, v) :: parts, ?_, rfl, List.forall_mem_cons.2 ⟨⟨hderives, hadmits⟩, hparts⟩⟩
    rw [hused, hrest, List.flatMap_cons, List.append_assoc]

/-- What values are read from is balanced. -/
theorem ReadsTo.balanced (h : ReadsTo limit capacity c vs after) :
    ∃ used, c.rest = used ++ after.rest ∧ Balanced used := by
  rcases h.exists_parts with ⟨parts, hrest, _, hparts⟩
  exact ⟨_, hrest, Derives.balanced_items fun p hp => (hparts p hp).1⟩

theorem length_rest_of_expression {v : Value} (h : c.expression limit capacity = (.ok v, after)) :
    after.rest.length < c.rest.length := by
  rcases expression_eq_ok_iff.1 h with ⟨used, hused, hderives, _⟩
  have hlength : 0 < used.length := List.length_pos_of_ne_nil hderives.ne_nil
  rw [hused, List.length_append]
  omega

/-- From any cursor on, values are read until reading fails. -/
theorem exists_readsTo_error (limit : Int) (capacity : Option Nat) (c : Cursor) :
    ∃ vs last cause, ReadsTo limit capacity c vs last ∧
      (last.expression limit capacity).1 = .error cause := by
  -- Each value read leaves fewer tokens.
  induction hleft : c.rest.length using Nat.strong_induction_on generalizing c with
  | _ left ih =>
    cases hread : c.expression limit capacity with
    | mk result next =>
      cases result with
      | error cause => exact ⟨[], c, cause, .none c, by rw [hread]⟩
      | ok v =>
        have hlt : next.rest.length < left := hleft ▸ length_rest_of_expression hread
        rcases ih _ hlt next rfl with ⟨vs, last, cause, hvs, hcause⟩
        exact ⟨v :: vs, last, cause, .value hread hvs, hcause⟩

end Cursor

/-! ## What can go wrong -/

/-- The error is about a limit: on how deep lists nest, or on numbers. -/
def ParseError.OfLimit : ParseError → Prop
  | .depthExceeded _ _ | .capacityExceeded _ _ | .integerOutOfRange _ | .numeral (.tooLong _) => True
  | .unexpectedEnd | .missingClose _ | .unexpectedToken _ | .numeral (.malformed _) => False

/-- A token of a text is refused for a limit only. -/
theorem Token.Refused.ofLimit {limit height : Int} {t : Token} {cause : ParseError}
    (h : t.Refused limit height cause) (ht : t.kind.Spells t.text) : cause.OfLimit := by
  cases h with
  | tooDeep => trivial
  | noInteger hkind hcause =>
    rw [hkind] at ht
    rcases Token.integer_error_cases hcause with ⟨hinvalid, _⟩ | rfl | ⟨_, rfl⟩
    · rw [Numeral.isValid_iff.2 ht] at hinvalid
      cases hinvalid
    · trivial
    · trivial

namespace Cursor

variable {config : Config} {src : Text} {ts : List Token} {limit : Int} {capacity : Option Nat}
  {c : Cursor} {vs : List Value} {cause : ParseError}

theorem expression_of_rest_nil (h : c.rest = []) :
    (c.expression limit capacity).1 = .error .unexpectedEnd := by
  rw [expression, h]
  rfl

/-- What can be wrong behind the values that are read from a text: no tokens are left, a closing
parenthesis is one too many, a list stays open, or a limit is met. -/
theorem failure_cases (htokens : tokenize config src = .ok ts)
    (hreads : ReadsTo limit capacity (ofTokens ts) vs c)
    (h : (c.expression limit capacity).1 = .error cause) :
    (c.rest = [] ∧ cause = .unexpectedEnd) ∨
      (∃ t, cause = .unexpectedToken t ∧ c ≠ ofTokens ts ∧ ¬ Token.Plain ts) ∨
        (∃ p, cause = .missingClose p ∧ ')' ∈ Token.quoted ts) ∨ cause.OfLimit := by
  rcases hreads.balanced with ⟨used, hused, hbalanced⟩
  have hts : ts = used ++ c.rest := hused
  cases failsFor_of_expression h with
  | full => exact .inr (.inr (.inr trivial))
  | atEnd hrest => exact .inl ⟨hrest, rfl⟩
  | @closing t left hrest hkind =>
    refine .inr (.inl ⟨t, rfl, ?_, ?_⟩)
    · rintro rfl
      have hfirst : ts = t :: left := hrest
      rw [hfirst] at htokens
      exact first_ne_closeParen htokens hkind
    · -- Behind balanced tokens a closing parenthesis brings the level below zero.
      intro hplain
      have hsplit : ts = (used ++ [t]) ++ left := by
        rw [hts, hrest, List.append_assoc, List.singleton_append]
      rw [hsplit] at htokens hplain
      have hnonneg := level_nonneg_of_plain htokens hplain
      rw [level_append, hbalanced.total, Token.level_closeParen hkind] at hnonneg
      exact absurd hnonneg (by decide)
  | unclosed hopened =>
    refine .inr (.inr (.inl ⟨_, rfl, ?_⟩))
    by_contra hnone
    -- Without such a string the tokens open no more than they close.
    have hle := level_le_zero_of_not_mem_quoted htokens hnone
    rw [hts, level_append, hbalanced.total, hopened.level_eq, List.length_cons] at hle
    omega
  | refused hmem hrefused =>
    refine .inr (.inr (.inr (hrefused.ofLimit (spells_of_tokenize htokens _ ?_))))
    rw [hts]
    exact List.mem_append_right used hmem

section Failures

variable (htokens : tokenize config src = .ok ts)
  (hreads : ReadsTo limit capacity (ofTokens ts) vs c)
include htokens hreads

theorem ne_malformed (s : Text) :
    (c.expression limit capacity).1 ≠ .error (.numeral (.malformed s)) := by
  intro h
  simpa [ParseError.OfLimit] using failure_cases htokens hreads h

theorem unexpectedEnd_iff :
    (c.expression limit capacity).1 = .error .unexpectedEnd ↔ c.rest = [] := by
  refine ⟨fun h => ?_, expression_of_rest_nil⟩
  simpa [ParseError.OfLimit] using failure_cases htokens hreads h

theorem mem_quoted_of_missingClose {p : Int}
    (h : (c.expression limit capacity).1 = .error (.missingClose p)) : ')' ∈ Token.quoted ts := by
  simpa [ParseError.OfLimit] using failure_cases htokens hreads h

theorem not_plain_of_unexpectedToken {t : Token}
    (h : (c.expression limit capacity).1 = .error (.unexpectedToken t)) :
    c ≠ ofTokens ts ∧ ¬ Token.Plain ts := by
  simpa [ParseError.OfLimit] using failure_cases htokens hreads h

end Failures

/-- Without parentheses in strings only the end of the tokens or a limit stops the reading. -/
theorem exists_readsTo_of_plain (htokens : tokenize config src = .ok ts)
    (hplain : Token.Plain ts) (limit : Int) (capacity : Option Nat) :
    ∃ vs c, ReadsTo limit capacity (ofTokens ts) vs c ∧
      (c.rest = [] ∨ ∃ cause : ParseError, cause.OfLimit ∧
        (c.expression limit capacity).1 = .error cause) := by
  rcases exists_readsTo_error limit capacity (ofTokens ts) with ⟨vs, last, cause, hreads, hcause⟩
  refine ⟨vs, last, hreads, ?_⟩
  rcases failure_cases htokens hreads hcause with
    ⟨hrest, _⟩ | ⟨_, _, _, hnot⟩ | ⟨_, _, hmem⟩ | hlimit
  · exact .inl hrest
  · exact absurd hplain hnot
  · exact absurd hmem hplain.not_mem_quoted
  · exact .inr ⟨cause, hlimit, hcause⟩

end Cursor

/-- When values are read one after the other from the tokens of a text, under any limits: a number is
never malformed; a token is missed exactly at the end of the tokens; a parenthesis is missed only when
some string holds a closing one; and without parentheses in strings no token is unexpected and no
parenthesis missed. The first value never starts with an unexpected token, and it is missed exactly
when the text is white space. Without parentheses in strings the values go on to the end of the
tokens, unless a limit is met. -/
theorem successive_failures {config : Config} {src : Text} {ts : List Token}
    (htokens : tokenize config src = .ok ts) (limit : Int) (capacity : Option Nat) :
    (∀ vs c, Cursor.ReadsTo limit capacity (Cursor.ofTokens ts) vs c →
      (∀ s, (c.expression limit capacity).1 ≠ .error (.numeral (.malformed s))) ∧
      ((c.expression limit capacity).1 = .error .unexpectedEnd ↔ c.rest = []) ∧
      (∀ p, (c.expression limit capacity).1 = .error (.missingClose p) →
        ∃ t ∈ ts, t.kind = .string ∧ ')' ∈ t.text) ∧
      (Token.Plain ts →
        (∀ t, (c.expression limit capacity).1 ≠ .error (.unexpectedToken t)) ∧
          ∀ p, (c.expression limit capacity).1 ≠ .error (.missingClose p))) ∧
    (∀ t, ((Cursor.ofTokens ts).expression limit capacity).1 ≠ .error (.unexpectedToken t)) ∧
    (((Cursor.ofTokens ts).expression limit capacity).1 = .error .unexpectedEnd ↔
      ∀ ch ∈ src, isBlank ch = true) ∧
    (Token.Plain ts → ∃ vs c, Cursor.ReadsTo limit capacity (Cursor.ofTokens ts) vs c ∧
      (c.rest = [] ∨ ∃ cause : ParseError, cause.OfLimit ∧
        (c.expression limit capacity).1 = .error cause)) := by
  refine ⟨?_, ?_, ?_, ?_⟩
  · intro vs c hreads
    refine ⟨Cursor.ne_malformed htokens hreads, Cursor.unexpectedEnd_iff htokens hreads, ?_, ?_⟩
    · intro p h
      exact Token.mem_quoted_iff.1 (Cursor.mem_quoted_of_missingClose htokens hreads h)
    · intro hplain
      refine ⟨?_, ?_⟩
      · intro t h
        exact (Cursor.not_plain_of_unexpectedToken htokens hreads h).2 hplain
      · intro p h
        exact hplain.not_mem_quoted (Cursor.mem_quoted_of_missingClose htokens hreads h)
  · intro t h
    exact (Cursor.not_plain_of_unexpectedToken htokens (.none _) h).1 rfl
  · rw [Cursor.unexpectedEnd_iff htokens (.none _)]
    exact (tokenize_eq_ok_iff.1 htokens).2.eq_nil_iff
  · intro hplain
    exact Cursor.exists_readsTo_of_plain htokens hplain limit capacity

/-- A string that runs to the end of the text takes the parenthesis that closes the list. -/
theorem failure_of_bracket_in_string :
    tokenize {} ['(', 'a', ' ', '"', 'b', ')'] = .ok [⟨.openParen, ['('], 0⟩,
        ⟨.identifier, ['a'], 1⟩, ⟨.string, ['"', 'b', ')', '"'], 3⟩] ∧
      ((Cursor.ofTokens [⟨.openParen, ['('], 0⟩, ⟨.identifier, ['a'], 1⟩,
        ⟨.string, ['"', 'b', ')', '"'], 3⟩]).expression 256 none).1 = .error (.missingClose 0) ∧
      ∃ t ∈ ([⟨.openParen, ['('], 0⟩, ⟨.identifier, ['a'], 1⟩,
        ⟨.string, ['"', 'b', ')', '"'], 3⟩] : List Token), t.kind = .string ∧ ')' ∈ t.text := by
  have hletter : isLetter 'a' = true ∧ isIdentifierChar ' ' = false := by decide +kernel
  have hname : TokenKind.Spells .identifier ['a'] := ⟨'a', [], rfl, hletter.1, by simp⟩
  have hstring : Scanned false 3 ['"', 'b', ')'] [⟨.string, ['"', 'b', ')', '"'], 3⟩] :=
    .unclosed rfl (show '"' ∉ ['b', ')'] by decide)
  have hopen : TokenKind.Spells .openParen ['('] := rfl
  have htokens : tokenize {} ['(', 'a', ' ', '"', 'b', ')'] = .ok [⟨.openParen, ['('], 0⟩,
      ⟨.identifier, ['a'], 1⟩, ⟨.string, ['"', 'b', ')', '"'], 3⟩] := by
    refine tokenize_eq_ok_iff.2 ⟨by decide, .token hopen trivial (.token hname ?_ ?_)⟩
    · simpa [TokenKind.StopsBefore] using hletter.2
    · exact .blank (by decide +kernel) hstring
  have hread : ((Cursor.ofTokens [⟨.openParen, ['('], 0⟩, ⟨.identifier, ['a'], 1⟩,
      ⟨.string, ['"', 'b', ')', '"'], 3⟩]).expression 256 none).1 = .error (.missingClose 0) := by
    rfl
  exact ⟨htokens, hread,
    ((successive_failures htokens 256 none).1 [] _ (.none _)).2.2.1 0 hread⟩

end SExpr
