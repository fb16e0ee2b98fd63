import SExpr.Proofs.Balance
import SExpr.Proofs.Written
import SExpr.Reading

/-!
# Reading what is written

Which values are read back from their source text, and what becomes of a text that is read, written
and read again. Reading gives only some atoms, but all of these come back; the balance check is what
remains, since parentheses inside strings count in it. Nothing goes wrong as long as no token of the
first text was ignored: then the second one has the same parentheses.
-/

namespace SExpr

variable {config : Config} {src : Text} {v w : Value} {us ts : List Token}

/-! ## Reading by the grammar -/

/-- A value is parsed exactly when the first tokens derive it within the limits. -/
theorem parseFrom_eq_ok_iff {after : Cursor} :
    parseFrom config ts = (.ok v, after) ↔
      ∃ used, ts = used ++ after.rest ∧ Derives used v ∧
        Admits config.maxDepth config.capacity 0 0 v ∧ after.index = used.length ∧
          after.depth = 0 := by
  unfold parseFrom
  rw [Cursor.expression_eq_ok_iff]
  simp [Cursor.ofTokens]

/-- A value is read exactly when the text has tokens and the first of them derive it within the
limits. -/
theorem read_eq_ok_iff :
    read config src = .ok v ↔
      ∃ used rest, tokenize config src = .ok (used ++ rest) ∧ Derives used v ∧
        Admits config.maxDepth config.capacity 0 0 v := by
  unfold read
  cases htokens : tokenize config src with
  | error cause => simp
  | ok ts =>
    constructor
    · intro h
      cases hparse : parseFrom config ts with
      | mk result after =>
        cases result with
        | error cause => simp [parse, hparse, Except.mapError] at h
        | ok w =>
          have hw : w = v := by simpa [parse, hparse, Except.mapError] using h
          subst hw
          rcases parseFrom_eq_ok_iff.1 hparse with ⟨used, rfl, hderives, hadmits, _⟩
          exact ⟨used, after.rest, rfl, hderives, hadmits⟩
    · rintro ⟨used, rest, hts, hderives, hadmits⟩
      -- The cursor stands behind the tokens used; those left are ignored.
      have hsplit : ts = used ++ rest := Except.ok.inj hts
      have hparse : parseFrom config ts = (.ok v, ⟨used.length, 0, rest⟩) :=
        parseFrom_eq_ok_iff.2 ⟨used, hsplit, hderives, hadmits, rfl, rfl⟩
      simp [parse, hparse, Except.mapError]

theorem read_of_checkBalance {cause : LexError} (h : checkBalance src = .error cause) :
    read config src = .error (.lex cause) := by
  have htokens : tokenize config src = .error cause := by
    unfold tokenize
    rw [h]
  unfold read
  rw [htokens]

theorem spells_of_tokenize (h : tokenize config src = .ok ts) :
    ∀ t ∈ ts, t.kind.Spells t.text :=
  (tokenize_eq_ok_iff.1 h).2.spells

/-! ## What reading gives -/

theorem mem_of_mem_part {opening closing t : Token} {parts : List (List Token × Value)}
    {p : List Token × Value} (hp : p ∈ parts) (ht : t ∈ p.1) :
    t ∈ opening :: (parts.flatMap Prod.fst ++ [closing]) := by
  have hmem : t ∈ parts.flatMap Prod.fst := List.mem_flatMap.2 ⟨p, hp, ht⟩
  simp [hmem]

/-- What tokens of a text stand for can be read, and its symbols have the kinds that go with their
names. -/
theorem Derives.readable (h : Derives us v) (hspells : ∀ t ∈ us, t.kind.Spells t.text) :
    v.Readable ∧ v.classified = v := by
  have hatoms : ∀ a ∈ v.atoms, a.Readable ∧ a.classified = a := by
    induction h with
    | @atom t a ha =>
      rw [Tree.atoms_atom, List.forall_mem_singleton]
      exact ha.readable (hspells t (List.mem_singleton.2 rfl))
    | @list opening closing parts _ _ _ ih =>
      rw [Tree.forall_atoms_list_iff]
      intro t ht
      rcases List.mem_map.1 ht with ⟨p, hp, rfl⟩
      exact ih p hp fun u hu => hspells u (mem_of_mem_part hp hu)
  refine ⟨fun a ha => (hatoms a ha).1, ?_⟩
  exact Value.classified_eq_self_iff.2 fun a ha => (hatoms a ha).2

theorem readable_of_read (h : read config src = .ok v) : v.Readable ∧ v.classified = v := by
  rcases read_eq_ok_iff.1 h with ⟨used, rest, htokens, hderives, _⟩
  apply hderives.readable
  intro t ht
  exact spells_of_tokenize htokens t (List.mem_append_left rest ht)

namespace Value

theorem same_classified (v : Value) : Same v.classified v := by
  show Tree.map Atom.bare (Tree.map Atom.classified v) = Tree.map Atom.bare v
  rw [Tree.map_map]
  exact Tree.map_congr fun a _ => a.bare_classified

theorem readable_bare_iff : Readable (bare v) ↔ v.Readable := by
  simp [Readable, bare, Tree.atoms_map]

theorem Same.readable_iff (h : Same w v) : w.Readable ↔ v.Readable := by
  rw [← readable_bare_iff, show bare w = bare v from h, readable_bare_iff]

theorem Same.admits_iff (h : Same w v) {limit : Int} {capacity : Option Nat} {depth level : Nat} :
    Admits limit capacity depth level w ↔ Admits limit capacity depth level v := by
  rw [← admits_map_iff (f := Atom.bare), show Tree.map Atom.bare w = Tree.map Atom.bare v from h,
    admits_map_iff]

end Value

/-! ## Values that come back -/

/-- A value whose atoms can be read is cut into its tokens, if its source text balances. -/
theorem tokenize_source (h : v.Readable) (hbalance : checkBalance v.source = .ok ()) :
    ∃ us, tokenize config v.source = .ok us ∧
      us.map Token.key = v.classified.tokens.map Token.key := by
  rcases h.cutsInto.scanned config.strictStrings with ⟨us, hkeys, hcut⟩
  exact ⟨us, tokenize_eq_ok_iff.2 ⟨hbalance, hcut⟩, hkeys⟩

/-- A value whose atoms can be read comes back within the limits, if its source text balances. -/
theorem read_source (h : v.Readable) (hadmits : Admits config.maxDepth config.capacity 0 0 v)
    (hbalance : checkBalance v.source = .ok ()) : read config v.source = .ok v.classified := by
  have hsource : ∃ us, tokenize config v.source = .ok us ∧
      us.map Token.key = v.classified.tokens.map Token.key := tokenize_source h hbalance
  rcases hsource with ⟨us, htokens, hkeys⟩
  refine read_eq_ok_iff.2 ⟨us, [], ?_, h.derives.of_keys_eq hkeys, admits_map_iff.2 hadmits⟩
  rw [List.append_nil]
  exact htokens

/-- If there is room for the lists around its innermost item, a value comes back from its source text,
up to the kinds of its symbols, exactly when its atoms can be read, its lists nest within the limit
and its source text balances. The symbols then have the kinds that go with their names. -/
theorem source_reads_back_iff (hroom : ∀ c ∈ config.capacity, v.height < c) :
    ((∃ w, read config v.source = .ok w ∧ Value.Same w v) ↔
      v.Readable ∧ ((∃ a, v = .atom a) ∨ (v.depth : Int) ≤ config.maxDepth) ∧
        checkBalance v.source = .ok ()) ∧
    ∀ w, read config v.source = .ok w → Value.Same w v →
      ∀ name kind, Atom.sym name kind ∈ w.atoms → kind = symbolKind name := by
  refine ⟨⟨?_, ?_⟩, ?_⟩
  · rintro ⟨w, hread, hsame⟩
    rcases read_eq_ok_iff.1 hread with ⟨used, rest, htokens, _, hadmits⟩
    have hreadable : v.Readable := hsame.readable_iff.1 (readable_of_read hread).1
    have hallowed := (hsame.admits_iff.1 hadmits).allowed
    refine ⟨hreadable, by simpa using hallowed, (tokenize_eq_ok_iff.1 htokens).1⟩
  · rintro ⟨hreadable, hallowed, hbalance⟩
    -- What comes back is the value with the kinds that go with its names.
    have hadmits : Admits config.maxDepth config.capacity 0 0 v :=
      ⟨by simpa using hroom, by simpa using hallowed⟩
    exact ⟨v.classified, read_source hreadable hadmits hbalance, v.same_classified⟩
  · intro w hread _ name kind hmem
    have hclassified := Value.classified_eq_self_iff.1 (readable_of_read hread).2 _ hmem
    simp only [Atom.classified, Atom.sym.injEq, true_and] at hclassified
    exact hclassified.symm

/-- A hyphen by itself, one inside a name, and parentheses inside a string. -/
theorem source_reads_back_of_hyphens :
    ∃ w, read {} (Value.source (.list [.atom (.sym ['-'] .identifier), .atom (.int 7),
        .atom (.sym ['x', '-', '1'] .operator), .atom (.str ['"', '(', ')', '"'])])) = .ok w ∧
      Value.Same w (.list [.atom (.sym ['-'] .identifier), .atom (.int 7),
        .atom (.sym ['x', '-', '1'] .operator), .atom (.str ['"', '(', ')', '"'])]) := by
  refine (source_reads_back_iff (by decide)).1.2 ⟨?_, .inr (by decide), by decide⟩
  intro a ha
  have hcases : a = .sym ['-'] .identifier ∨ a = .int 7 ∨ a = .sym ['x', '-', '1'] .operator ∨
      a = .str ['"', '(', ')', '"'] := by simpa using ha
  rcases hcases with rfl | rfl | rfl | rfl
  · exact .inl ⟨'-', rfl, by decide⟩
  · exact ⟨by decide, by decide⟩
  · have htail : ['-', '1'].all isIdentifierChar = true := by decide +kernel
    exact .inr ⟨'x', ['-', '1'], rfl, by decide +kernel, List.all_eq_true.1 htail⟩
  · exact ⟨['(', ')'], rfl, by decide⟩

/-! ## Numerals in ASCII digits -/

/-- The token with its numeral in ASCII digits without leading zeros, if it is a number. -/
def Token.canonical (t : Token) : Token :=
  if t.kind = .number then { t with text := Numeral.ofNat (Numeral.value t.text) } else t

namespace Token

theorem canonical_of_ne_number {t : Token} (h : t.kind ≠ .number) : t.canonical = t :=
  if_neg h

theorem key_canonical_of_kind {t : Token} {kind : TokenKind} {s : Text} (hkind : t.kind = kind)
    (hne : kind ≠ .number) (htext : t.text = s) : t.canonical.key = (kind, s) := by
  rw [canonical_of_ne_number (by rwa [hkind]), key, hkind, htext]

theorem StandsFor.key_canonical {t : Token} {a : Atom} (h : t.StandsFor a) :
    t.canonical.key = a.token.key := by
  cases h with
  | @number n hkind hn =>
    have hvalue : Numeral.value t.text = n := (Numeral.value_eq_ofDigits _).trans hn.value
    simp only [canonical, hkind, if_true, hvalue, key]
    rfl
  | identifier hkind => simp [canonical_of_ne_number, hkind, key, Atom.token]
  | operator hkind => simp [canonical_of_ne_number, hkind, key, Atom.token]
  | string hkind => simp [canonical_of_ne_number, hkind, key, Atom.token]

end Token

theorem parentheses_canonical {t : Token} (ht : t.kind.Spells t.text) :
    parentheses t.canonical.text = parentheses t.text := by
  by_cases hkind : t.kind = .number
  · rw [hkind] at ht
    have hcanonical : ∀ c ∈ t.canonical.text, isDecimal c = true := by
      simp only [Token.canonical, hkind, if_true]
      exact Numeral.isDecimal_of_mem_ofNat
    rw [parentheses_of_isDecimal hcanonical, parentheses_of_isDecimal ht.2]
  · rw [Token.canonical_of_ne_number hkind]

/-- Tokens of a text that derive a value are, but for their numerals, the tokens it is written
with. -/
theorem Derives.keys_canonical (h : Derives us v) (hspells : ∀ t ∈ us, t.kind.Spells t.text) :
    (us.map Token.canonical).map Token.key = v.tokens.map Token.key := by
  induction h with
  | @atom t a ha => simpa using ha.key_canonical
  | @list opening closing parts hopen _ hclose ih =>
    have hfirst := hspells opening (List.mem_cons_self ..)
    have hlast := hspells closing (by simp)
    rw [hopen] at hfirst
    rw [hclose] at hlast
    have hopening := Token.key_canonical_of_kind hopen (by decide) hfirst
    have hclosing := Token.key_canonical_of_kind hclose (by decide) hlast
    have hitems : (parts.flatMap fun p => (p.1.map Token.canonical).map Token.key) =
        parts.flatMap fun p => p.2.tokens.map Token.key := by
      apply List.flatMap_congr
      intro p hp
      exact ih p hp fun u hu => hspells u (mem_of_mem_part hp hu)
    simp only [List.map_cons, List.map_append, List.map_flatMap, List.map_nil, hopening, hclosing,
      hitems, Value.tokens_list, List.flatMap_map]
    rfl

/-! ## Parentheses of a value -/

theorem parentheses_map_canonical (hspells : ∀ t ∈ ts, t.kind.Spells t.text) :
    parentheses ((ts.map Token.canonical).flatMap Token.text) =
      parentheses (ts.flatMap Token.text) := by
  simp only [parentheses, List.filter_flatMap, List.flatMap_map]
  exact List.flatMap_congr fun t ht => parentheses_canonical (hspells t ht)

/-- The parentheses of source text are those of the tokens that the value is written with. -/
theorem Value.Readable.parentheses_source (h : v.Readable) :
    parentheses v.source = parentheses (v.classified.tokens.flatMap Token.text) := by
  rcases h.cutsInto.scanned false with ⟨us, hkeys, hcut⟩
  calc
    parentheses v.source = parentheses (us.flatMap Token.text) := hcut.parentheses_eq
    _ = parentheses (v.classified.tokens.flatMap Token.text) := by rw [texts_of_keys_eq hkeys]

/-- A value that all tokens of a text derive has a source text that balances: it has the same
parentheses as the text. -/
theorem checkBalance_source (htokens : tokenize config src = .ok ts) (hderives : Derives ts v) :
    checkBalance v.source = .ok () := by
  have hspells := spells_of_tokenize htokens
  rcases tokenize_eq_ok_iff.1 htokens with ⟨hbalance, hscanned⟩
  rcases hderives.readable hspells with ⟨hreadable, hclassified⟩
  have hsame : parentheses src = parentheses v.source := by
    calc
      parentheses src = parentheses (ts.flatMap Token.text) := hscanned.parentheses_eq
      _ = parentheses ((ts.map Token.canonical).flatMap Token.text) :=
          (parentheses_map_canonical hspells).symm
      _ = parentheses (v.tokens.flatMap Token.text) := by
          rw [texts_of_keys_eq (hderives.keys_canonical hspells)]
      _ = parentheses v.source := by rw [hreadable.parentheses_source, hclassified]
  exact (checkBalance_congr hsame).1 hbalance

/-- A value that was read is read again from its source text, kinds of symbols included, unless the
parentheses of that text do not balance; nothing else can go wrong. They do balance when no token of
the first text was ignored, and then both texts have the same tokens, but for how numerals are
written. -/
theorem read_source_of_read (h : read config src = .ok v) :
    ((checkBalance v.source = .ok () ∧ read config v.source = .ok v) ∨
      ∃ cause : LexError, cause.Unbalanced ∧ checkBalance v.source = .error cause ∧
        read config v.source = .error (.lex cause)) ∧
    ∀ ts after, tokenize config src = .ok ts → parseFrom config ts = (.ok v, after) →
      after.rest = [] →
        checkBalance v.source = .ok () ∧ read config v.source = .ok v ∧
          ∃ us, tokenize config v.source = .ok us ∧
            us.map Token.key = (ts.map Token.canonical).map Token.key := by
  rcases readable_of_read h with ⟨hreadable, hclassified⟩
  rcases read_eq_ok_iff.1 h with ⟨_, _, _, _, hadmits⟩
  -- Only the balance is in question: atoms and nesting are as reading left them.
  have hback : checkBalance v.source = .ok () → read config v.source = .ok v := by
    intro hbalance
    rw [read_source hreadable hadmits hbalance, hclassified]
  refine ⟨?_, ?_⟩
  · cases hbalance : checkBalance v.source with
    | ok u => exact .inl ⟨rfl, hback hbalance⟩
    | error cause =>
      exact .inr ⟨cause, unbalanced_of_checkBalance hbalance, rfl, read_of_checkBalance hbalance⟩
  · intro ts after htokens hparse hrest
    rcases parseFrom_eq_ok_iff.1 hparse with ⟨used, hused, hderives, _⟩
    rw [hrest, List.append_nil] at hused
    subst hused
    -- All tokens are used, so none of them holds a parenthesis that is lost.
    have hbalance : checkBalance v.source = .ok () := checkBalance_source htokens hderives
    have hsource : ∃ us, tokenize config v.source = .ok us ∧
        us.map Token.key = v.classified.tokens.map Token.key := tokenize_source hreadable hbalance
    rcases hsource with ⟨us, hus, hkeys⟩
    refine ⟨hbalance, hback hbalance, us, hus, ?_⟩
    calc
      us.map Token.key = v.classified.tokens.map Token.key := hkeys
      _ = v.tokens.map Token.key := by rw [hclassified]
      _ = (ts.map Token.canonical).map Token.key :=
          (hderives.keys_canonical (spells_of_tokenize htokens)).symm

/-- Two texts with brackets in strings. In `("("07))` the bracket is closed by one that reading ignores,
so the value written again has an open bracket; in `("()"07)` nothing is ignored. -/
theorem read_source_of_brackets_in_strings :
    (∃ cause : LexError, cause.Unbalanced ∧
      read {} (Value.source (.list [.atom (.str ['"', '(', '"']), .atom (.int 7)])) =
        .error (.lex cause)) ∧
    ∃ us, tokenize {} (Value.source (.list [.atom (.str ['"', '(', ')', '"']), .atom (.int 7)])) =
        .ok us ∧
      us.map Token.key = [(.openParen, ['(']), (.string, ['"', '(', ')', '"']), (.number, ['7']),
        (.closeParen, [')'])] := by
  have hopen : TokenKind.Spells .openParen ['('] := rfl
  have hclose : TokenKind.Spells .closeParen [')'] := rfl
  have hdigits : ['0', '7'].all isDecimal = true ∧ isDecimal ')' = false := by decide +kernel
  have hnumber : TokenKind.Spells .number ['0', '7'] := ⟨by simp, List.all_eq_true.1 hdigits.1⟩
  refine ⟨?_, ?_⟩
  · have hstring : TokenKind.Spells .string ['"', '(', '"'] := ⟨['('], rfl, by decide⟩
    have htokens : tokenize {} ['(', '"', '(', '"', '0', '7', ')', ')'] = .ok
        [⟨.openParen, ['('], 0⟩, ⟨.string, ['"', '(', '"'], 1⟩, ⟨.number, ['0', '7'], 4⟩,
          ⟨.closeParen, [')'], 6⟩, ⟨.closeParen, [')'], 7⟩] := by
      refine tokenize_eq_ok_iff.2 ⟨by decide, .token hopen trivial (.token hstring trivial
        (.token hnumber ?_ (.token hclose trivial (.token hclose trivial .nil))))⟩
      simpa [TokenKind.StopsBefore] using hdigits.2
    have hread : read {} ['(', '"', '(', '"', '0', '7', ')', ')'] =
        .ok (.list [.atom (.str ['"', '(', '"']), .atom (.int 7)]) := by
      rw [read, htokens]
      rfl
    rcases (read_source_of_read hread).1 with ⟨hbalance, _⟩ | ⟨cause, hcause, _, hfail⟩
    · cases hbalance
    · exact ⟨cause, hcause, hfail⟩
  · have hstring : TokenKind.Spells .string ['"', '(', ')', '"'] := ⟨['(', ')'], rfl, by decide⟩
    have htokens : tokenize {} ['(', '"', '(', ')', '"', '0', '7', ')'] = .ok
        [⟨.openParen, ['('], 0⟩, ⟨.string, ['"', '(', ')', '"'], 1⟩, ⟨.number, ['0', '7'], 5⟩,
          ⟨.closeParen, [')'], 7⟩] := by
      refine tokenize_eq_ok_iff.2 ⟨by decide, .token hopen trivial (.token hstring trivial
        (.token hnumber ?_ (.token hclose trivial .nil)))⟩
      simpa [TokenKind.StopsBefore] using hdigits.2
    have hread : read {} ['(', '"', '(', ')', '"', '0', '7', ')'] =
        .ok (.list [.atom (.str ['"', '(', ')', '"']), .atom (.int 7)]) := by
      rw [read, htokens]
      rfl
    rcases (read_source_of_read hread).2 _ ⟨4, 0, []⟩ htokens rfl rfl with ⟨_, _, us, hus, hkeys⟩
    exact ⟨us, hus, hkeys⟩

end SExpr
