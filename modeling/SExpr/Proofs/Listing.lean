import SExpr.Proofs.Faithful

/-!
# Listings that can be taken apart

Tokens are listed without escapes, and a string may hold line breaks and all that a listing is made of.
Still the tokens of a text are told by their listing. The name of a kind ends at the first comma; then
the text of the token starts, and its own shape tells where it ends: a string at its second quote, any
other token before the quote that the listing puts behind it. So the listing of one token can be taken
off the front in one way only, and those of all tokens one after the other.
-/

namespace SExpr

/-! ## The listing of one token -/

theorem TokenKind.comma_not_mem_name (kind : TokenKind) : ',' ∉ kind.name := by
  cases kind <;> decide

theorem TokenKind.name_injective : Function.Injective TokenKind.name := by
  intro kind kind'
  cases kind <;> cases kind' <;> decide

/-- The name of a kind ends where the comma behind it stands. -/
theorem TokenKind.name_cancel {kind kind' : TokenKind} {rest rest' : Text}
    (h : kind.name ++ ',' :: rest = kind'.name ++ ',' :: rest') : kind = kind' ∧ rest = rest' := by
  have hrun : ∀ (k : TokenKind) (s : Text),
      Scanner.takeRun (· != ',') ⟨0, k.name ++ ',' :: s⟩ = (k.name, ⟨0 + k.name.length, ',' :: s⟩) := by
    intro k s
    apply Scanner.takeRun_append_of_stop
    · intro c hc
      have hne : c ≠ ',' := by
        rintro rfl
        exact k.comma_not_mem_name hc
      simpa using hne
    · simp
  have hboth := hrun kind rest
  rw [h, hrun kind' rest'] at hboth
  simp only [Prod.mk.injEq, Scanner.mk.injEq, List.cons.injEq, true_and] at hboth
  exact ⟨name_injective hboth.1.symm, hboth.2.2.symm⟩

namespace Token

variable {t u : Token} {ts us : List Token} {rest rest' : Text}

theorem listing_append (t : Token) (rest : Text) :
    t.listing ++ rest = "Token\x7bkind=".toList ++ (t.kind.name ++
      ',' :: (" text='".toList ++ (t.text ++ ("'\x7d".toList ++ rest)))) := by
  have hcomma : ", text='".toList = ',' :: " text='".toList := by decide
  unfold listing
  rw [hcomma]
  simp only [List.append_assoc, List.cons_append]

/-- The listing of a token can be taken off a text in one way only. -/
theorem listing_cancel (ht : t.kind.Spells t.text) (hu : u.kind.Spells u.text)
    (h : t.listing ++ rest = u.listing ++ rest') : t.key = u.key ∧ rest = rest' := by
  rw [listing_append, listing_append] at h
  rcases TokenKind.name_cancel (List.append_cancel_left h) with ⟨hkind, htexts⟩
  -- The quote behind a text continues no token.
  have hstop : ∀ s : Text, StopsAll ("'\x7d".toList ++ s) := fun s =>
    TokenKind.stopsBefore_cons (by decide +kernel) ('\x7d' :: s)
  rcases ht.cancel hu (hstop rest) (hstop rest') (List.append_cancel_left htexts) with
    ⟨_, htext, hrest⟩
  exact ⟨by rw [key, key, hkind, htext], List.append_cancel_left hrest⟩

/-! ## The listing of all tokens -/

/-- Each token but the first one is listed on a line of its own. -/
def laterLines (ts : List Token) : Text :=
  ts.flatMap fun t => '\n' :: t.listing

theorem listingOf_cons (t : Token) (ts : List Token) :
    listingOf (t :: ts) = t.listing ++ laterLines ts := by
  rw [listingOf, List.map_cons, Layout.intercalate_eq_flatMap, List.flatMap_map]
  rfl

theorem listingOf_cons_ne_nil (t : Token) (ts : List Token) : listingOf (t :: ts) ≠ [] := by
  rw [listingOf_cons, listing_append]
  exact List.cons_ne_nil _ _

/-- A listing shows the kinds and texts of its tokens and nothing else. -/
theorem listingOf_congr (h : ts.map key = us.map key) : listingOf ts = listingOf us := by
  have hkeys : ∀ vs : List Token,
      vs.map listing = (vs.map key).map fun k => listing ⟨k.1, k.2, 0⟩ := by
    intro vs
    rw [List.map_map]
    rfl
  rw [listingOf, listingOf, hkeys ts, hkeys us, h]

/-- Lines can be taken off one by one. -/
theorem laterLines_cancel (hts : ∀ t ∈ ts, t.kind.Spells t.text)
    (hus : ∀ u ∈ us, u.kind.Spells u.text) (h : laterLines ts = laterLines us) :
    ts.map key = us.map key := by
  induction ts generalizing us with
  | nil =>
    cases us with
    | nil => rfl
    | cons u us => cases h
  | cons t ts ih =>
    cases us with
    | nil => cases h
    | cons u us =>
      rcases List.forall_mem_cons.1 hts with ⟨ht, hts⟩
      rcases List.forall_mem_cons.1 hus with ⟨hu, hus⟩
      have hlines : t.listing ++ laterLines ts = u.listing ++ laterLines us :=
        (List.cons.inj h).2
      rcases listing_cancel ht hu hlines with ⟨hkey, hrest⟩
      rw [List.map_cons, List.map_cons, hkey, ih hts hus hrest]

/-- Tokens whose texts fit their kinds are told by their listing. -/
theorem keys_eq_of_listingOf_eq (hts : ∀ t ∈ ts, t.kind.Spells t.text)
    (hus : ∀ u ∈ us, u.kind.Spells u.text) (h : listingOf ts = listingOf us) :
    ts.map key = us.map key := by
  cases ts with
  | nil =>
    cases us with
    | nil => rfl
    | cons u us => exact absurd h.symm (listingOf_cons_ne_nil u us)
  | cons t ts =>
    cases us with
    | nil => exact absurd h (listingOf_cons_ne_nil t ts)
    | cons u us =>
      apply laterLines_cancel hts hus
      -- With a line break in front, the first line is like those that follow it.
      rw [listingOf_cons, listingOf_cons] at h
      exact congrArg ('\n' :: ·) h

end Token

/-- The tokens of two texts are listed alike exactly when they are the same, wherever they stand and
however the texts were read. -/
theorem listingOf_eq_iff {config config' : Config} {src src' : Text} {ts us : List Token}
    (h : tokenize config src = .ok ts) (h' : tokenize config' src' = .ok us) :
    Token.listingOf ts = Token.listingOf us ↔ ts.map Token.key = us.map Token.key :=
  ⟨Token.keys_eq_of_listingOf_eq (spells_of_tokenize h) (spells_of_tokenize h'),
    Token.listingOf_congr⟩

/-- The shape of strings matters: two of one quote each would be listed like one that holds the end of
a line and the start of the next. -/
example : Token.listingOf [⟨.string, ['"'], 0⟩, ⟨.string, ['"'], 1⟩] =
    Token.listingOf [⟨.string, '"' :: "'\x7d\nToken\x7bkind=String, text='".toList ++ ['"'], 0⟩] := by
  decide

/-- A string that holds the end of a line and the start of the next one. -/
def lineInString : Text :=
  '"' :: "'\x7d\nToken\x7bkind=String, text='".toList ++ ['"']

/-- Such a string is listed otherwise than two strings without a text. -/
theorem listingOf_ne_of_lineInString :
    tokenize {} lineInString = .ok [⟨.string, lineInString, 0⟩] ∧
      tokenize {} ['"', '"', '"'] = .ok [⟨.string, ['"', '"'], 0⟩, ⟨.string, ['"', '"'], 2⟩] ∧
      Token.listingOf [⟨.string, lineInString, 0⟩] ≠
        Token.listingOf [⟨.string, ['"', '"'], 0⟩, ⟨.string, ['"', '"'], 2⟩] := by
  have hinside : '"' ∉ "'\x7d\nToken\x7bkind=String, text='".toList := by decide
  have hstring : TokenKind.Spells .string lineInString := ⟨_, rfl, hinside⟩
  have hempty : TokenKind.Spells .string ['"', '"'] := ⟨[], rfl, by decide⟩
  have hone : tokenize {} lineInString = .ok [⟨.string, lineInString, 0⟩] :=
    tokenize_of_spells {} hstring (by decide)
  have htwo : tokenize {} ['"', '"', '"'] =
      .ok [⟨.string, ['"', '"'], 0⟩, ⟨.string, ['"', '"'], 2⟩] :=
    tokenize_eq_ok_iff.2 ⟨by decide, .token hempty trivial (.unclosed rfl (by decide))⟩
  refine ⟨hone, htwo, ?_⟩
  rw [Ne, listingOf_eq_iff hone htwo]
  decide

end SExpr
