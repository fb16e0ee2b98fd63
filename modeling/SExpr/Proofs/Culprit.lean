import SExpr.Proofs.Blame
import SExpr.Proofs.Diagnostic
import SExpr.Proofs.Refusal

/-!
# What an error points at

An error that is told names a place in the text, unless what is wrong is that the text has no value at
all. The place is where the culprit stands: a parenthesis, a character that is not legal, the quote
that opens a string, or a whole numeral. Only the balance check looks into strings; every other culprit
stands outside of them. Positions come from the tokens, so the places of these are settled first.
-/

namespace SExpr

/-! ## Where tokens stand -/

/-- Where a token of a text stands: outside strings, at a character that its kind starts with; a number
is the whole run of digits there. -/
structure Token.Stands (src : Text) (p : Nat) (t : Token) : Prop where
  position : t.position = p
  outside : Even ((src.take p).count '"')
  starts : ∃ c, src[p]? = some c ∧ t.kind.StartsWith c
  whole : t.kind = .number → t.text = (src.drop p).takeWhile isDecimal ∧
    ∀ c ∈ (src.take p).getLast?, isDecimal c = false

/-- No run of digits goes on from the first text into the second one. -/
def Severed (before rest : Text) : Prop :=
  ∀ c ∈ before.getLast?, ∀ d ∈ rest.head?, isDecimal c = true → isDecimal d = false

theorem severed_of_not_isDecimal {before rest : Text} {c : Char} (hc : isDecimal c = false) :
    Severed (before ++ [c]) rest := by
  intro d hd _ _ hdecimal
  rw [List.getLast?_concat] at hd
  obtain rfl : c = d := Option.some.inj hd
  rw [hc] at hdecimal
  cases hdecimal

namespace TokenKind

variable {kind : TokenKind} {before s rest : Text}

/-- A token severs the digits in it from those behind it. -/
theorem Spells.severed (hs : kind.Spells s) (hstop : kind.StopsBefore rest) :
    Severed (before ++ s) rest := by
  cases kind with
  | number =>
    intro _ _ d hd _
    exact hstop d hd
  | identifier =>
    intro _ _ d hd _
    have hnot := hstop d hd
    rw [Bool.eq_false_iff] at hnot ⊢
    intro hdecimal
    exact hnot (isIdentifierChar_iff.2 (.inr (.inl hdecimal)))
  | openParen | closeParen =>
    cases hs
    exact severed_of_not_isDecimal (classes_of_mem_marks (by decide)).2.1
  | operator =>
    rcases hs with ⟨c, rfl, hc⟩
    exact severed_of_not_isDecimal (classes_of_mem_marks (mem_marks_of_isOperator hc)).2.1
  | string =>
    rcases hs with ⟨body, rfl, _⟩
    rw [← List.append_assoc]
    exact severed_of_not_isDecimal (classes_of_mem_marks (by decide)).2.1

/-- A token that is cut off where strings and digits before it have ended stands there. -/
theorem Spells.stands (hs : kind.Spells s) (hstop : kind.StopsBefore rest)
    (heven : Even (before.count '"')) (hsevered : Severed before (s ++ rest)) :
    Token.Stands (before ++ (s ++ rest)) before.length ⟨kind, s, before.length⟩ := by
  rcases hs.startsWith with ⟨c, after, hfirst, hc⟩
  refine ⟨rfl, by rwa [List.take_left], ⟨c, by simp [hfirst], hc⟩, ?_⟩
  rintro rfl
  refine ⟨?_, ?_⟩
  · have hrun := Scanner.takeRun_append_of_stop (n := 0) hs.2 hstop
    rw [List.drop_left]
    exact (congrArg Prod.fst hrun).symm
  · intro d hd
    rw [List.take_left] at hd
    rw [Bool.eq_false_iff]
    intro hdecimal
    have hnot := hsevered d hd c (by simp [hfirst]) hdecimal
    rw [show isDecimal c = true from hc] at hnot
    cases hnot

end TokenKind

/-- What is cut into tokens where strings and digits before it have ended holds them where they say. -/
theorem Scanned.stands {strict : Bool} {n : Nat} {s before : Text} {ts : List Token}
    (h : Scanned strict n s ts) (hn : before.length = n) (heven : Even (before.count '"'))
    (hsevered : Severed before s) : ∀ t ∈ ts, ∃ p, t.Stands (before ++ s) p := by
  induction h generalizing before with
  | nil => simp
  | @blank n c rest ts hblank _ ih =>
    have hpiece : Neutral [c] := neutral_of_legal (by simp [Legal, hblank])
    have hlength : (before ++ [c]).length = n + 1 := by simp [hn]
    have hquotes : Even ((before ++ [c]).count '"') := by
      rw [List.count_append]
      exact heven.add hpiece.even
    simpa using ih hlength hquotes (severed_of_not_isDecimal (isDecimal_of_isBlank hblank))
  | @token n kind s rest ts hs hstop _ ih =>
    subst hn
    have hquotes : Even ((before ++ s).count '"') := by
      rw [List.count_append]
      exact heven.add hs.neutral.even
    have hnext := ih List.length_append hquotes (hs.severed hstop)
    rw [List.append_assoc] at hnext
    exact List.forall_mem_cons.2 ⟨⟨_, hs.stands hstop heven hsevered⟩, hnext⟩
  | @unclosed n body _ _ =>
    subst hn
    intro t ht
    rcases List.mem_singleton.1 ht with rfl
    refine ⟨before.length, rfl, by rwa [List.take_left], ⟨'"', by simp, rfl⟩, ?_⟩
    intro hnumber
    cases hnumber

theorem stands_of_tokenize {config : Config} {src : Text} {ts : List Token}
    (h : tokenize config src = .ok ts) : ∀ t ∈ ts, ∃ p, t.Stands src p := by
  have hsevered : Severed [] src := by simp [Severed]
  exact (tokenize_eq_ok_iff.1 h).2.stands rfl Even.zero hsevered

theorem Token.Stands.at_openParen {src : Text} {p : Nat} {t : Token} (h : t.Stands src p)
    (hkind : t.kind = .openParen) : src[p]? = some '(' := by
  rcases h.starts with ⟨c, hc, hstart⟩
  rw [hkind] at hstart
  rw [hc, show c = '(' from hstart]

/-- The innermost open list was opened by one of the tokens taken. -/
theorem Opened.exists_opening {inner : Frame} {outer : List Frame} {taken : List Token}
    (h : Opened (inner :: outer) taken) :
    ∃ t ∈ taken, t.kind = .openParen ∧ t.position = inner.opened := by
  cases h with
  | @cons _ _ before opening parts _ hkind hposition _ _ =>
    exact ⟨opening, by simp, hkind, hposition⟩

/-! ## Culprits -/

/-- The error points at the offset of the text, where its culprit stands. -/
inductive Culprit (src : Text) (p : Nat) : ReadError → Prop where
  | unmatchedClose : src[p]? = some ')' → Culprit src p (.lex (.unmatchedClose p))
  | unclosedOpen : src[p]? = some '(' → Culprit src p (.lex (.unclosedOpen p))
  | unexpectedCharacter {c : Char} : src[p]? = some c →
      Culprit src p (.lex (.unexpectedCharacter [c] p))
  | unterminatedString : src[p]? = some '"' → Culprit src p (.lex (.unterminatedString p))
  | missingClose : src[p]? = some '(' → Culprit src p (.parse (.missingClose p))
  | depthExceeded {limit : Int} : src[p]? = some '(' →
      Culprit src p (.parse (.depthExceeded limit p))
  /-- The number is all digits there, and none stands before it. -/
  | integerOutOfRange {t : Token} : t.position = p → t.text ≠ [] →
      t.text = (src.drop p).takeWhile isDecimal →
      (∀ c ∈ (src.take p).getLast?, isDecimal c = false) →
      Culprit src p (.parse (.integerOutOfRange t))

section Culprits

variable {config : Config} {src : Text} {p : Nat} {ts : List Token}

theorem Culprit.lt_length {cause : ReadError} (h : Culprit src p cause) : p < src.length := by
  cases h with
  | integerOutOfRange _ hne htext _ =>
    by_contra hle
    rw [List.drop_eq_nil_of_le (Nat.le_of_not_lt hle)] at htext
    exact hne htext
  | _ hc => exact (List.getElem?_eq_some_iff.1 hc).1

/-- The parenthesis that the balance check blames stands where it says. -/
theorem culprit_of_checkBalance {cause : LexError} (h : checkBalance src = .error cause) :
    ∃ p : Nat, cause.position = p ∧ Culprit src p (.lex cause) := by
  have hchecked := Balance.checked src
  rw [h] at hchecked
  cases hchecked with
  | unmatched _ hsrc => exact ⟨_, rfl, .unmatchedClose (by simp [hsrc])⟩
  | unclosed hopens => exact ⟨_, rfl, .unclosedOpen hopens.isGreatest.1.1⟩

/-- Before the last quote of an odd number stands an even number of them. -/
theorem even_count_of_last_quote (hodd : ¬ Even (src.count '"')) (hp : src[p]? = some '"')
    (hlast : '"' ∉ src.drop (p + 1)) : Even ((src.take p).count '"') := by
  rcases List.getElem?_eq_some_iff.1 hp with ⟨hlt, hquote⟩
  have hsplit : src = src.take p ++ '"' :: src.drop (p + 1) := by
    rw [← hquote, ← List.drop_eq_getElem_cons hlt, List.take_append_drop]
  have hcount : src.count '"' = (src.take p).count '"' + 1 := by
    calc
      src.count '"' = (src.take p ++ '"' :: src.drop (p + 1)).count '"' := by rw [← hsplit]
      _ = (src.take p).count '"' + 1 := by
        rw [List.count_append, List.count_cons_self, List.count_eq_zero.2 hlast]
  rw [hcount, Nat.even_add_one, not_not] at hodd
  exact hodd

/-- What is wrong with a text that has no tokens stands where it is said to, and outside strings unless
it is a parenthesis that does not balance. -/
theorem culprit_of_tokenize {cause : LexError} (h : tokenize config src = .error cause) :
    ∃ p : Nat, cause.position = p ∧ Culprit src p (.lex cause) ∧
      (cause.Unbalanced ∨ Even ((src.take p).count '"')) := by
  cases hbalance : checkBalance src with
  | error e =>
    rw [tokenize_of_unbalanced hbalance] at h
    cases h
    rcases culprit_of_checkBalance hbalance with ⟨p, hp, hculprit⟩
    exact ⟨p, hp, hculprit, .inl (unbalanced_of_checkBalance hbalance)⟩
  | ok u =>
    have hverdict := verdict_of_balanced config hbalance
    rw [h] at hverdict
    cases hverdict with
    | @unexpected p c hp _ hc =>
      rw [Nat.zero_add]
      exact ⟨p, rfl, .unexpectedCharacter hc, .inr hp.1.1⟩
    | @unterminated p _ _ hodd hp hlast =>
      rw [Nat.zero_add]
      exact ⟨p, rfl, .unterminatedString hp, .inr (even_count_of_last_quote hodd hp hlast)⟩

/-- What is wrong with the tokens of a text, other than that there are none or that more lists are open
than can be held, stands in the text where it is said to, and outside strings. -/
theorem culprit_of_expression (htokens : tokenize config src = .ok ts) {limit : Int}
    {capacity : Option Nat} {cause : ParseError}
    (h : ((Cursor.ofTokens ts).expression limit capacity).1 = .error cause)
    (hheld : ∀ depth position, cause ≠ .capacityExceeded depth position)
    (hnumeral : ∀ fault, cause ≠ .numeral fault) (hend : cause ≠ .unexpectedEnd) :
    ∃ p : Nat, cause.position? = some (p : Int) ∧ Culprit src p (.parse cause) ∧
      Even ((src.take p).count '"') := by
  have hstands := stands_of_tokenize htokens
  cases Cursor.failsFor_of_expression h with
  | full => exact absurd rfl (hheld _ _)
  | atEnd => exact absurd rfl hend
  | @closing t left hts hkind =>
    have hfirst : ts = t :: left := hts
    rw [hfirst] at htokens
    exact absurd hkind (first_ne_closeParen htokens)
  | @unclosed inner _ hopened =>
    rcases hopened.exists_opening with ⟨t, ht, hkind, hposition⟩
    rcases hstands t ht with ⟨p, hp⟩
    rw [← hposition, hp.position]
    exact ⟨p, rfl, .missingClose (hp.at_openParen hkind), hp.outside⟩
  | @refused t height _ ht hrefused =>
    rcases hstands t ht with ⟨p, hp⟩
    cases hrefused with
    | tooDeep hkind =>
      rw [hp.position]
      exact ⟨p, rfl, .depthExceeded (hp.at_openParen hkind), hp.outside⟩
    | noInteger hkind hn =>
      rcases Token.integer_error_cases hn with ⟨_, rfl⟩ | rfl | ⟨_, rfl⟩
      · exact absurd rfl (hnumeral _)
      · have hne := (spells_of_tokenize htokens t ht).ne_nil
        rcases hp.whole hkind with ⟨hrun, hbefore⟩
        exact ⟨p, by rw [ParseError.position?, hp.position],
          .integerOutOfRange hp.position hne hrun hbefore, hp.outside⟩
      · exact absurd rfl (hnumeral _)

end Culprits

/-! ## What is told of a text that is refused -/

/-- A text is refused because it has no tokens, or because these have no value. -/
theorem read_error_cases {config : Config} {src : Text} {cause : ReadError}
    (h : read config src = .error cause) :
    (∃ e, tokenize config src = .error e ∧ cause = .lex e) ∨
      ∃ ts e, tokenize config src = .ok ts ∧
        ((Cursor.ofTokens ts).expression config.maxDepth config.capacity).1 = .error e ∧
          cause = .parse e := by
  cases htokens : tokenize config src with
  | error e =>
    rw [read, htokens] at h
    cases h
    exact .inl ⟨e, rfl, rfl⟩
  | ok ts =>
    rw [read_of_tokenize htokens] at h
    cases hread : ((Cursor.ofTokens ts).expression config.maxDepth config.capacity).1 with
    | ok v =>
      rw [hread] at h
      cases h
    | error e =>
      rw [hread] at h
      cases h
      exact .inr ⟨ts, e, rfl, hread, rfl⟩

theorem ParseError.diagnostic?_eq_ok {e : ParseError} {d : Diagnostic}
    (h : e.diagnostic? = .ok d) : (∀ fault, e ≠ .numeral fault) ∧ d.position? = e.position? := by
  cases e with
  | numeral fault => cases h
  | _ =>
    cases h
    exact ⟨by simp, rfl⟩

theorem ParseError.position?_eq_none_iff {e : ParseError} (h : ∀ fault, e ≠ .numeral fault) :
    e.position? = none ↔ e = .unexpectedEnd := by
  cases e with
  | numeral fault => exact absurd rfl (h fault)
  | _ => simp [ParseError.position?]

/-- What is told of a refused text names a place exactly when it is not that no value is there; more
lists than can be held aside. The place lies in the text, the culprit stands there, and it stands outside
strings unless it is a parenthesis that does not balance. -/
theorem read_error_culprit {config : Config} {src : Text} {cause : ReadError} {d : Diagnostic}
    (h : read config src = .error cause) (hd : cause.diagnostic? = .ok d)
    (hheld : ∀ depth position, cause ≠ .parse (.capacityExceeded depth position)) :
    (d.position? = none ↔ cause = .parse .unexpectedEnd) ∧
      (cause ≠ .parse .unexpectedEnd → ∃ p : Nat, d.position? = some (p : Int) ∧ p < src.length ∧
        Culprit src p cause ∧
          ((∃ e : LexError, e.Unbalanced ∧ cause = .lex e) ∨ Even ((src.take p).count '"'))) := by
  rcases read_error_cases h with ⟨e, htokens, rfl⟩ | ⟨ts, e, htokens, hread, rfl⟩
  · cases hd
    refine ⟨by simp [LexError.diagnostic], fun _ => ?_⟩
    rcases culprit_of_tokenize htokens with ⟨p, hp, hculprit, houtside⟩
    refine ⟨p, congrArg some hp, hculprit.lt_length, hculprit, ?_⟩
    exact houtside.imp_left fun hunbalanced => ⟨e, hunbalanced, rfl⟩
  · rcases ParseError.diagnostic?_eq_ok hd with ⟨hnumeral, hposition⟩
    rw [hposition, ParseError.position?_eq_none_iff hnumeral]
    refine ⟨by simp, fun hend => ?_⟩
    rcases culprit_of_expression htokens hread (fun _ _ he => hheld _ _ (congrArg _ he)) hnumeral
      (fun he => hend (congrArg _ he)) with ⟨p, hp, hculprit, houtside⟩
    exact ⟨p, hp, hculprit.lt_length, hculprit, .inr houtside⟩

/-- In `("("(")))"` the strings hold what balances the text, so both lists stay open. The inner one is
blamed: its parenthesis stands behind the one inside a string, and outside strings itself. -/
theorem culprit_of_brackets_in_strings :
    read {} ['(', '"', '(', '"', '(', '"', ')', ')', ')', '"'] =
        .error (.parse (.missingClose 4)) ∧
      ∃ p : Nat, Culprit ['(', '"', '(', '"', '(', '"', ')', ')', ')', '"'] p
          (.parse (.missingClose 4)) ∧
        Even ((List.take p ['(', '"', '(', '"', '(', '"', ')', ')', ')', '"']).count '"') := by
  have hopen : TokenKind.Spells .openParen ['('] := rfl
  have hfirst : TokenKind.Spells .string ['"', '(', '"'] := ⟨['('], rfl, by decide⟩
  have hsecond : TokenKind.Spells .string ['"', ')', ')', ')', '"'] :=
    ⟨[')', ')', ')'], rfl, by decide⟩
  have htokens : tokenize {} ['(', '"', '(', '"', '(', '"', ')', ')', ')', '"'] = .ok
      [⟨.openParen, ['('], 0⟩, ⟨.string, ['"', '(', '"'], 1⟩, ⟨.openParen, ['('], 4⟩,
        ⟨.string, ['"', ')', ')', ')', '"'], 5⟩] :=
    tokenize_eq_ok_iff.2 ⟨by decide, .token hopen trivial (.token hfirst trivial
      (.token hopen trivial (.token hsecond trivial .nil)))⟩
  have hread : read {} ['(', '"', '(', '"', '(', '"', ')', ')', ')', '"'] =
      .error (.parse (.missingClose 4)) := by
    rw [read, htokens]
    rfl
  have hheld : ∀ depth position, ReadError.parse (.missingClose 4) ≠
      .parse (.capacityExceeded depth position) := by simp
  have hmissed : ReadError.parse (.missingClose 4) ≠ .parse .unexpectedEnd := by simp
  rcases (read_error_culprit hread rfl hheld).2 hmissed with
    ⟨p, _, _, hculprit, ⟨e, _, he⟩ | houtside⟩
  · cases he
  · exact ⟨hread, p, hculprit, houtside⟩

end SExpr
