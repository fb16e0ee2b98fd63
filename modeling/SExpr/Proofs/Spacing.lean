import SExpr.Proofs.Balance

/-!
# White space between tokens

Some texts are cut into the same tokens wherever they stand, as long as what follows ends every token:
the texts of tokens are such, and so are texts that are put together from them with white space in
between. So a text may be laid out anew. Its tokens, one after the other with any white space between
each two, are found again, and no quote is missing any more.
-/

namespace SExpr

/-! ## Separators -/

/-- The text separates tokens: white space, and at least one character of it. -/
structure Separator (w : Text) : Prop where
  nonempty : w ≠ []
  blank : ∀ c ∈ w, isBlank c = true

/-- The texts in order, with the separator `gap i` behind the text number `i`, except the last one. -/
def spread (gap : Nat → Text) : List Text → Text
  | [] => []
  | [s] => s
  | s :: t :: later => s ++ (gap 0 ++ spread (fun i => gap (i + 1)) (t :: later))

theorem spread_const (w : Text) (parts : List Text) : spread (fun _ => w) parts = w.intercalate parts := by
  induction parts with
  | nil => rfl
  | cons s parts ih =>
    cases parts with
    | nil => simp [spread]
    | cons t later => rw [spread, ih, List.intercalate_cons_cons, List.append_assoc]

theorem isIdentifierChar_of_isBlank {c : Char} (hc : isBlank c = true) :
    isIdentifierChar c = false := by
  rw [Bool.eq_false_iff]
  intro hident
  rw [isBlank_of_isIdentifierChar hident] at hc
  cases hc

/-- A separator ends every token before it. -/
theorem Separator.stopsBefore {w : Text} (hw : Separator w) (rest : Text) (kind : TokenKind) :
    kind.StopsBefore (w ++ rest) := by
  rcases List.exists_cons_of_ne_nil hw.nonempty with ⟨c, after, rfl⟩
  have hc : isBlank c = true := hw.blank c (List.mem_cons_self ..)
  exact TokenKind.stopsBefore_cons (isIdentifierChar_of_isBlank hc) (after ++ rest) kind

/-! ## Texts that are cut anywhere -/

/-- Wherever the text stands, it is cut into tokens that agree with the given ones, and what follows
is cut by itself, as long as it ends the last token of the text. -/
def CutsInto (s : Text) (us : List Token) : Prop :=
  ∀ (strict : Bool) (n : Nat) (rest : Text) (ts : List Token),
    (∀ kind : TokenKind, kind.StopsBefore rest) → Scanned strict (n + s.length) rest ts →
      ∃ us', us'.map Token.key = us.map Token.key ∧ Scanned strict n (s ++ rest) (us' ++ ts)

namespace CutsInto

variable {s t : Text} {us vs : List Token}

theorem nil : CutsInto [] [] := by
  intro strict n rest ts _ hrest
  exact ⟨[], rfl, hrest⟩

theorem token {u : Token} (hu : u.kind.Spells u.text) : CutsInto u.text [u] := by
  intro strict n rest ts hstop hrest
  exact ⟨[⟨u.kind, u.text, n⟩], rfl, .token hu (hstop u.kind) hrest⟩

theorem openParen (hs : CutsInto s us) : CutsInto ('(' :: s) (⟨.openParen, ['('], 0⟩ :: us) := by
  intro strict n rest ts hstop hrest
  rw [List.length_cons, Nat.add_comm s.length, ← Nat.add_assoc] at hrest
  rcases hs strict (n + 1) rest ts hstop hrest with ⟨us', hkeys, hcut⟩
  have hopen : TokenKind.Spells .openParen ['('] := rfl
  exact ⟨⟨.openParen, ['('], n⟩ :: us', by simp [hkeys, Token.key], .token hopen trivial hcut⟩

/-- Texts are cut one after the other if the second one ends every token before it. -/
theorem append (hs : CutsInto s us) (ht : CutsInto t vs)
    (hend : ∀ (kind : TokenKind) (rest : Text), kind.StopsBefore (t ++ rest)) :
    CutsInto (s ++ t) (us ++ vs) := by
  intro strict n rest ts hstop hrest
  rw [List.length_append, ← Nat.add_assoc] at hrest
  -- The second text is cut first: what it leaves is what the first one stands before.
  rcases ht strict (n + s.length) rest ts hstop hrest with ⟨vs', hvs, hsecond⟩
  rcases hs strict n (t ++ rest) (vs' ++ ts) (fun kind => hend kind rest) hsecond with
    ⟨us', hus, hfirst⟩
  refine ⟨us' ++ vs', by rw [List.map_append, List.map_append, hus, hvs], ?_⟩
  rw [List.append_assoc, List.append_assoc]
  exact hfirst

/-- White space in front is left out. -/
theorem blank {w : Text} (hw : ∀ c ∈ w, isBlank c = true) (hs : CutsInto s us) :
    CutsInto (w ++ s) us := by
  induction w with
  | nil => exact hs
  | cons c w ih =>
    rcases List.forall_mem_cons.1 hw with ⟨hc, hw⟩
    intro strict n rest ts hstop hrest
    rw [List.cons_append, List.length_cons, Nat.add_comm (w ++ s).length, ← Nat.add_assoc] at hrest
    rcases ih hw strict (n + 1) rest ts hstop hrest with ⟨us', hkeys, hcut⟩
    exact ⟨us', hkeys, .blank hc hcut⟩

/-- Texts with separators between each two are cut one after the other. -/
theorem spread {α : Type} {text : α → Text} {tokens : α → List Token} {items : List α}
    {gap : Nat → Text} (hgap : ∀ i, i + 1 < items.length → Separator (gap i))
    (h : ∀ x ∈ items, CutsInto (text x) (tokens x)) :
    CutsInto (spread gap (items.map text)) (items.flatMap tokens) := by
  induction items generalizing gap with
  | nil => exact nil
  | cons x items ih =>
    rcases List.forall_mem_cons.1 h with ⟨hx, hitems⟩
    cases items with
    | nil => simpa [SExpr.spread] using hx
    | cons y items =>
      have hfirst : Separator (gap 0) := hgap 0 (by simp)
      have hlater : CutsInto (SExpr.spread (fun i => gap (i + 1)) ((y :: items).map text))
          ((y :: items).flatMap tokens) :=
        ih (fun i hi => hgap (i + 1) (Nat.succ_lt_succ hi)) hitems
      refine hx.append (blank hfirst.blank hlater) fun kind rest => ?_
      rw [List.append_assoc]
      exact hfirst.stopsBefore _ kind

/-- By itself the text is cut the same way. -/
theorem scanned (h : CutsInto s us) (strict : Bool) :
    ∃ us', us'.map Token.key = us.map Token.key ∧ Scanned strict 0 s us' := by
  have hend : Scanned strict (0 + s.length) [] [] := .nil
  rcases h strict 0 [] [] TokenKind.stopsBefore_nil hend with ⟨us', hkeys, hcut⟩
  rw [List.append_nil, List.append_nil] at hcut
  exact ⟨us', hkeys, hcut⟩

end CutsInto

/-! ## Texts laid out anew -/

theorem texts_of_keys_eq {us ts : List Token} (h : us.map Token.key = ts.map Token.key) :
    us.flatMap Token.text = ts.flatMap Token.text := by
  have htexts : us.map Token.text = ts.map Token.text := by
    simpa [Function.comp_def, Token.key] using congrArg (List.map Prod.snd) h
  rw [List.flatMap_def, htexts, List.flatMap_def]

/-- The tokens of a text are those of their texts with any white space between each two, whether or not
this is scanned strictly. -/
theorem tokenize_spread {config : Config} {src : Text} {ts : List Token} {gap : Nat → Text}
    (h : tokenize config src = .ok ts) (hgap : ∀ i, i + 1 < ts.length → Separator (gap i))
    (other : Config) :
    ∃ us, tokenize other (spread gap (ts.map Token.text)) = .ok us ∧
      us.map Token.key = ts.map Token.key := by
  rcases tokenize_eq_ok_iff.1 h with ⟨hbalance, hscanned⟩
  have hcuts : CutsInto (spread gap (ts.map Token.text)) (ts.flatMap fun t => [t]) :=
    .spread hgap fun t ht => .token (hscanned.spells t ht)
  rw [List.flatMap_singleton'] at hcuts
  rcases hcuts.scanned other.strictStrings with ⟨us, hkeys, hcut⟩
  -- Nothing but white space has changed, so the parentheses are the same ones.
  have hsame : parentheses src = parentheses (spread gap (ts.map Token.text)) := by
    calc
      parentheses src = parentheses (ts.flatMap Token.text) := hscanned.parentheses_eq
      _ = parentheses (us.flatMap Token.text) := by rw [texts_of_keys_eq hkeys]
      _ = parentheses (spread gap (ts.map Token.text)) := hcut.parentheses_eq.symm
  exact ⟨us, tokenize_eq_ok_iff.2 ⟨(checkBalance_congr hsame).1 hbalance, hcut⟩, hkeys⟩

/-- A hyphen that touches a name, and a string whose quote is missing. -/
theorem spread_of_unclosed :
    tokenize {} ['(', '-', 'x', '"', ')'] = .ok [⟨.openParen, ['('], 0⟩, ⟨.operator, ['-'], 1⟩,
        ⟨.identifier, ['x'], 2⟩, ⟨.string, ['"', ')', '"'], 3⟩] ∧
      ∃ us, tokenize { strictStrings := true }
          ['(', ' ', '-', '\n', '\t', 'x', ' ', '"', ')', '"'] = .ok us ∧
        us.map Token.key = [(.openParen, ['(']), (.operator, ['-']), (.identifier, ['x']),
          (.string, ['"', ')', '"'])] := by
  have hletter : isLetter 'x' = true ∧ isIdentifierChar '"' = false := by decide +kernel
  have hopen : TokenKind.Spells .openParen ['('] := rfl
  have hhyphen : TokenKind.Spells .operator ['-'] := ⟨'-', rfl, by decide⟩
  have hname : TokenKind.Spells .identifier ['x'] := ⟨'x', [], rfl, hletter.1, by simp⟩
  have hstring : Scanned false 3 ['"', ')'] [⟨.string, ['"', ')', '"'], 3⟩] :=
    .unclosed rfl (show '"' ∉ [')'] by decide)
  have htokens : tokenize {} ['(', '-', 'x', '"', ')'] = .ok [⟨.openParen, ['('], 0⟩,
      ⟨.operator, ['-'], 1⟩, ⟨.identifier, ['x'], 2⟩, ⟨.string, ['"', ')', '"'], 3⟩] := by
    refine tokenize_eq_ok_iff.2 ⟨by decide, .token hopen trivial (.token hhyphen trivial
      (.token hname ?_ hstring))⟩
    simpa [TokenKind.StopsBefore] using hletter.2
  have hgap : ∀ i, Separator (if i = 1 then ['\n', '\t'] else [' ']) := by
    intro i
    have hblank : isBlank '\n' = true ∧ isBlank '\t' = true ∧ isBlank ' ' = true := by
      decide +kernel
    split <;> exact ⟨by simp, by simp [hblank]⟩
  exact ⟨htokens, tokenize_spread htokens (fun i _ => hgap i) { strictStrings := true }⟩

end SExpr
