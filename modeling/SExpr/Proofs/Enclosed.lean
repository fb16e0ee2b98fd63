import SExpr.Proofs.Diagnostic
import SExpr.Proofs.Joined

/-!
# Values between parentheses

Parentheses around a text make one list of all its values. The tokens of the text are found between
them, since a parenthesis ends every token and lets a string that is closed be closed. The values
are the parts that the tokens fall into, one after the other, and inside one more list as many lists
may be open around each of them as before when the limit is higher by one.
-/

namespace SExpr

/-! ## Inside one more list -/

/-- What may be read may be read inside one more list when the limit is higher by one. -/
theorem Admits.deeper {limit : Int} {capacity : Option Nat} {depth level : Nat} {v : Value}
    (h : Admits (limit - 1) capacity depth level v) : Admits limit none depth (level + 1) v := by
  refine ⟨by simp, h.allowed.imp_right ?_⟩
  intro hle
  omega

/-! ## Tokens between parentheses -/

/-- The tokens between two parentheses, those of a text of the given length. -/
def Token.enclose (length : Nat) (ts : List Token) : List Token :=
  ⟨.openParen, ['('], 0⟩ :: (ts.map (Token.shift 1) ++ [⟨.closeParen, [')'], (1 + length : Nat)⟩])

/-- Between parentheses the parts that derive values derive the list of them. -/
theorem derives_enclose {parts : List (List Token × Value)} (hparts : ∀ p ∈ parts, Derives p.1 p.2)
    (length : Nat) :
    Derives (Token.enclose length (parts.flatMap Prod.fst)) (.list (parts.map Prod.snd)) := by
  have hlist : Derives (⟨.openParen, ['('], 0⟩ ::
      (parts.flatMap Prod.fst ++ [⟨.closeParen, [')'], 0⟩])) (.list (parts.map Prod.snd)) :=
    .list rfl hparts rfl
  -- The parts have moved, which does not matter.
  refine hlist.of_keys_eq ?_
  rw [Token.enclose, List.map_cons, List.map_append, Token.map_key_shift]
  simp [Token.key]

section Enclosed

variable {config : Config} {src : Text} {ts : List Token}

theorem checkBalance_enclosed (h : checkBalance src = .ok ()) :
    checkBalance ('(' :: (src ++ [')'])) = .ok () :=
  checkBalance_eq_ok_iff.2 ((checkBalance_eq_ok_iff.1 h).enclosed rfl rfl)

/-- Between parentheses a text whose strings are all closed has the same tokens, one place further
on. -/
theorem tokenize_enclosed (h : tokenize config src = .ok ts) (heven : Even (src.count '"')) :
    tokenize config ('(' :: (src ++ [')'])) = .ok (Token.enclose src.length ts) := by
  rcases tokenize_eq_ok_iff.1 h with ⟨hbalance, hscanned⟩
  have hopen : TokenKind.Spells .openParen ['('] := rfl
  have hclose : TokenKind.Spells .closeParen [')'] := rfl
  have hend : ∀ kind : TokenKind, kind.StopsBefore [')'] :=
    TokenKind.stopsBefore_cons (by decide +kernel) []
  have hinside : Scanned config.strictStrings 1 src (ts.map (Token.shift 1)) := by
    apply Scanner.scanned_of_tokens (s := ⟨0 + 1, src⟩)
    rw [Scanner.tokens_shift, Scanner.tokens_of_scanned hscanned]
    rfl
  have hlast : Scanned config.strictStrings (1 + src.length) [')']
      [⟨.closeParen, [')'], (1 + src.length : Nat)⟩] :=
    .token hclose (TokenKind.stopsBefore_nil _) .nil
  rw [tokenize_of_balanced (checkBalance_enclosed hbalance)]
  calc
    Scanner.tokens config.strictStrings ⟨0, ['('] ++ (src ++ [')'])⟩
        = (Scanner.tokens config.strictStrings ⟨0 + 1, src ++ [')']⟩).map
            (⟨.openParen, ['('], (0 : Nat)⟩ :: ·) := Scanner.tokens_append hopen trivial
    _ = ((Scanner.tokens config.strictStrings ⟨1 + src.length, [')']⟩).map
            (ts.map (Token.shift 1) ++ ·)).map (⟨.openParen, ['('], (0 : Nat)⟩ :: ·) :=
          congrArg (Except.map _) (Scanner.tokens_append_of_even hinside heven hend)
    _ = .ok (Token.enclose src.length ts) := by
          rw [Scanner.tokens_of_scanned hlast]
          rfl

end Enclosed

/-- When the values that are read one after the other from the tokens of a text, under a limit lower
by one, reach to the end of the tokens, the text between parentheses is read as the list of these
values; as long as there is room for the open lists, and all strings of the text are closed. -/
theorem read_enclosed {config : Config} {src : Text} {ts : List Token} {vs : List Value}
    {c : Cursor} {capacity : Option Nat} (hlimit : 1 ≤ config.maxDepth)
    (h : tokenize config src = .ok ts) (heven : Even (src.count '"'))
    (hreads : Cursor.ReadsTo (config.maxDepth - 1) capacity (Cursor.ofTokens ts) vs c)
    (hend : c.rest = []) (hroom : HasRoomFor config ('(' :: (src ++ [')']))) :
    read config ('(' :: (src ++ [')'])) = .ok (.list vs) := by
  rcases hreads.exists_parts with ⟨parts, hrest, rfl, hparts⟩
  have htokens : ts = parts.flatMap Prod.fst := by
    simpa [Cursor.ofTokens, hend] using hrest
  have henclosed : tokenize config ('(' :: (src ++ [')'])) = .ok (Token.enclose src.length ts) :=
    tokenize_enclosed h heven
  have hderives : Derives (Token.enclose src.length ts) (.list (parts.map Prod.snd)) := by
    rw [htokens]
    exact derives_enclose (fun p hp => (hparts p hp).1) src.length
  -- The list itself takes up the one that the limit is higher by.
  have hadmits : Admits config.maxDepth none 0 0 (.list (parts.map Prod.snd)) := by
    refine admits_list_iff.2 ⟨by simp, by simpa using hlimit, ?_⟩
    intro v hv
    rcases List.mem_map.1 hv with ⟨p, hp, rfl⟩
    exact (hparts p hp).2.deeper
  have hread : (Cursor.ofTokens (Token.enclose src.length ts)).expression config.maxDepth none =
      (.ok (.list (parts.map Prod.snd)), ⟨0 + (Token.enclose src.length ts).length, 0, []⟩) :=
    Cursor.expression_eq_ok_iff.2 ⟨_, (List.append_nil _).symm, hderives, hadmits, rfl, rfl⟩
  rw [read_of_tokenize henclosed, Cursor.expression_eq_of_hasRoom (hroom _ henclosed), hread]
  rfl

/-- Two values, one of them a string with a parenthesis that a second string makes up for, and a
limit of one, which leaves no room for lists inside the list. -/
theorem enclosed_of_brackets_in_strings :
    tokenize { maxDepth := 1 } ['"', '(', '"', '-', '"', ')', '"'] =
        .ok [⟨.string, ['"', '(', '"'], 0⟩, ⟨.operator, ['-'], 3⟩, ⟨.string, ['"', ')', '"'], 4⟩] ∧
      read { maxDepth := 1 } ['(', '"', '(', '"', '-', '"', ')', '"', ')'] =
        .ok (.list [.atom (.str ['"', '(', '"']), .atom (.sym ['-'] .operator),
          .atom (.str ['"', ')', '"'])]) := by
  have hfirst : TokenKind.Spells .string ['"', '(', '"'] := ⟨['('], rfl, by decide⟩
  have hhyphen : TokenKind.Spells .operator ['-'] := ⟨'-', rfl, by decide⟩
  have hlast : TokenKind.Spells .string ['"', ')', '"'] := ⟨[')'], rfl, by decide⟩
  have htokens : tokenize { maxDepth := 1 } ['"', '(', '"', '-', '"', ')', '"'] =
      .ok [⟨.string, ['"', '(', '"'], 0⟩, ⟨.operator, ['-'], 3⟩, ⟨.string, ['"', ')', '"'], 4⟩] :=
    tokenize_eq_ok_iff.2 ⟨by decide, .token hfirst trivial (.token hhyphen trivial
      (.token hlast trivial .nil))⟩
  have hreads : Cursor.ReadsTo 0 none
      (Cursor.ofTokens [⟨.string, ['"', '(', '"'], 0⟩, ⟨.operator, ['-'], 3⟩,
        ⟨.string, ['"', ')', '"'], 4⟩])
      [.atom (.str ['"', '(', '"']), .atom (.sym ['-'] .operator), .atom (.str ['"', ')', '"'])]
      ⟨3, 0, []⟩ :=
    .value rfl (.value rfl (.value rfl (.none _)))
  have hroom : HasRoomFor { maxDepth := 1 } ['(', '"', '(', '"', '-', '"', ')', '"', ')'] := by
    intro ts _
    refine Cursor.hasRoom_of_limit_lt ?_ (Cursor.ofTokens ts)
    rintro n ⟨⟩
    exact ⟨by decide, by decide⟩
  exact ⟨htokens, read_enclosed (by decide) htokens (by decide) hreads rfl hroom⟩

end SExpr
