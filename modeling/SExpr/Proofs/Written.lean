import SExpr.Proofs.Grammar
import SExpr.Proofs.Spacing
import SExpr.Value.Layout

/-!
# Values as they are written

A value is written with certain tokens: one for each atom, and a pair of parentheses for each list.
If its atoms can be read at all, the source text of a value is cut into just these tokens, wherever it
stands: between two items there is a space, and a parenthesis stops whatever stands before it.
-/

namespace SExpr

/-! ## Atoms that can be read -/

/-- The kind that goes with the name of a symbol. -/
def symbolKind : Text → TokenKind
  | [c] => if isOperator c then .operator else .identifier
  | _ => .identifier

theorem symbolKind_of_operator {name : Text} (h : TokenKind.Spells .operator name) :
    symbolKind name = .operator := by
  rcases h with ⟨c, rfl, hc⟩
  simp [symbolKind, hc]

theorem symbolKind_of_identifier {name : Text} (h : TokenKind.Spells .identifier name) :
    symbolKind name = .identifier := by
  rcases h with ⟨c, after, rfl, hc, _⟩
  cases after with
  | nil =>
    -- One letter is a name of its own, and no letter is an operator.
    have hoperator : isOperator c = false := by
      rw [Bool.eq_false_iff]
      intro hop
      rw [(classes_of_mem_marks (mem_marks_of_isOperator hop)).2.2] at hc
      cases hc
    simp [symbolKind, hoperator]
  | cons _ _ => rfl

namespace Atom

/-- The atoms that reading can give: integers in range, symbols whose names are operators or
identifiers, and strings in their quotes. -/
def Readable : Atom → Prop
  | .int n => 0 ≤ n ∧ n ≤ 2 ^ 63 - 1
  | .sym name _ => TokenKind.Spells .operator name ∨ TokenKind.Spells .identifier name
  | .str s => TokenKind.Spells .string s

/-- The atom with the kind that goes with its name, if it is a symbol. -/
def classified : Atom → Atom
  | .sym name _ => .sym name (symbolKind name)
  | a => a

/-- The token that an atom is written with. -/
def token : Atom → Token
  | .int n => ⟨.number, Numeral.ofInt n, 0⟩
  | .sym name kind => ⟨kind, name, 0⟩
  | .str s => ⟨.string, s, 0⟩

@[simp]
theorem token_text (a : Atom) : a.token.text = a.text := by
  cases a <;> rfl

@[simp]
theorem text_classified (a : Atom) : a.classified.text = a.text := by
  cases a <;> rfl

@[simp]
theorem bare_classified (a : Atom) : a.classified.bare = a.bare := by
  cases a <;> rfl

@[simp]
theorem readable_bare_iff {a : Atom} : a.bare.Readable ↔ a.Readable := by
  cases a <;> rfl

theorem Readable.standsFor {a : Atom} (h : a.Readable) :
    a.classified.token.StandsFor a.classified := by
  cases a with
  | int n =>
    rcases h with ⟨hpos, hrange⟩
    rcases Int.eq_ofNat_of_zero_le hpos with ⟨m, rfl⟩
    exact .number rfl (Numeral.denotes_ofNat (by omega))
  | sym name kind =>
    show Token.StandsFor ⟨symbolKind name, name, 0⟩ (.sym name (symbolKind name))
    rcases h with hoperator | hidentifier
    · rw [symbolKind_of_operator hoperator]
      exact .operator rfl
    · rw [symbolKind_of_identifier hidentifier]
      exact .identifier rfl
  | str s => exact .string rfl

theorem Readable.spells {a : Atom} (h : a.Readable) : a.classified.token.kind.Spells a.text := by
  cases a with
  | int n =>
    rcases h with ⟨hpos, hrange⟩
    rcases Int.eq_ofNat_of_zero_le hpos with ⟨m, rfl⟩
    have hdenotes : Numeral.Denotes (Numeral.ofNat m) m := Numeral.denotes_ofNat (by omega)
    exact ⟨hdenotes.nonempty, hdenotes.decimal⟩
  | sym name kind =>
    show (symbolKind name).Spells name
    rcases h with hoperator | hidentifier
    · rw [symbolKind_of_operator hoperator]
      exact hoperator
    · rw [symbolKind_of_identifier hidentifier]
      exact hidentifier
  | str s => exact h

end Atom

/-- What a token of a text stands for can be read, and has the kind that goes with its name. -/
theorem Token.StandsFor.readable {t : Token} {a : Atom} (h : t.StandsFor a)
    (ht : t.kind.Spells t.text) : a.Readable ∧ a.classified = a := by
  cases h with
  | @number n hkind hn =>
    have := hn.inRange
    exact ⟨⟨Int.natCast_nonneg n, by omega⟩, rfl⟩
  | identifier hkind =>
    rw [hkind] at ht
    exact ⟨.inr ht, by rw [Atom.classified, symbolKind_of_identifier ht]⟩
  | operator hkind =>
    rw [hkind] at ht
    exact ⟨.inl ht, by rw [Atom.classified, symbolKind_of_operator ht]⟩
  | string hkind =>
    rw [hkind] at ht
    exact ⟨ht, rfl⟩

/-! ## Tokens of a value -/

namespace Value

/-- Can reading give all atoms of the value? -/
def Readable (v : Value) : Prop :=
  ∀ a ∈ v.atoms, a.Readable

/-- The value with the kinds of its symbols that go with their names. -/
def classified : Value → Value :=
  Tree.map Atom.classified

/-- The tokens that a value is written with. Where they stand is not said. -/
def tokens : Value → List Token :=
  Tree.fold (fun a => [a.token]) fun parts =>
    ⟨.openParen, ['('], 0⟩ :: (parts.flatten ++ [⟨.closeParen, [')'], 0⟩])

@[simp]
theorem classified_atom (a : Atom) : classified (.atom a) = .atom a.classified := by
  simp [classified]

@[simp]
theorem classified_list (items : List Value) :
    classified (.list items) = .list (items.map classified) := by
  simp [classified]

@[simp]
theorem tokens_atom (a : Atom) : tokens (.atom a) = [a.token] := by
  simp [tokens]

@[simp]
theorem tokens_list (items : List Value) :
    tokens (.list items) =
      ⟨.openParen, ['('], 0⟩ :: (items.flatMap tokens ++ [⟨.closeParen, [')'], 0⟩]) := by
  simp [tokens, List.flatMap]

theorem readable_list_iff {items : List Value} :
    Readable (.list items) ↔ ∀ t ∈ items, Readable t :=
  Tree.forall_atoms_list_iff

theorem classified_eq_self_iff {v : Value} :
    v.classified = v ↔ ∀ a ∈ v.atoms, a.classified = a := by
  have hatoms : Tree.map Atom.classified v = Tree.map id v ↔ ∀ a ∈ v.atoms, a.classified = a :=
    Tree.map_inj_left
  rwa [Tree.map_id] at hatoms

/-- The tokens that a value is written with derive it again. -/
theorem Readable.derives {v : Value} (h : v.Readable) : Derives v.classified.tokens v.classified := by
  induction v using Tree.inductionOnItems with
  | atom a =>
    have ha : a.Readable := h a (by simp)
    simpa using Derives.atom ha.standsFor
  | list items ih =>
    have hitems : ∀ p ∈ items.map fun t : Value => (tokens (classified t), classified t),
        Derives p.1 p.2 := by
      intro p hp
      rcases List.mem_map.1 hp with ⟨t, ht, rfl⟩
      exact ih t ht (readable_list_iff.1 h t ht)
    have hlist := Derives.list (show Token.kind ⟨.openParen, ['('], 0⟩ = .openParen from rfl) hitems
      (show Token.kind ⟨.closeParen, [')'], 0⟩ = .closeParen from rfl)
    simpa [List.flatMap_map, Function.comp_def] using hlist

end Value

/-! ## Positions do not matter -/

theorem Token.StandsFor.of_key_eq {t u : Token} {a : Atom} (h : t.StandsFor a)
    (hkey : u.key = t.key) : u.StandsFor a := by
  rcases Prod.mk.inj hkey with ⟨hkind, htext⟩
  cases h with
  | number ht hn =>
    rw [← htext] at hn
    exact .number (hkind.trans ht) hn
  | identifier ht =>
    rw [← htext]
    exact .identifier (hkind.trans ht)
  | operator ht =>
    rw [← htext]
    exact .operator (hkind.trans ht)
  | string ht =>
    rw [← htext]
    exact .string (hkind.trans ht)

/-- Tokens that agree with those of several parts fall into parts that agree with them. -/
theorem exists_parts_of_keys_eq {parts : List (List Token × Value)} {us : List Token}
    (hparts : ∀ p ∈ parts, ∀ us : List Token, us.map Token.key = p.1.map Token.key →
      Derives us p.2)
    (hkeys : us.map Token.key = (parts.flatMap Prod.fst).map Token.key) :
    ∃ parts' : List (List Token × Value), us = parts'.flatMap Prod.fst ∧
      (∀ p ∈ parts', Derives p.1 p.2) ∧ parts'.map Prod.snd = parts.map Prod.snd := by
  induction parts generalizing us with
  | nil => exact ⟨[], by simpa using hkeys, by simp, rfl⟩
  | cons p parts ih =>
    rw [List.flatMap_cons, List.map_append] at hkeys
    rcases List.map_eq_append_iff.1 hkeys with ⟨first, others, rfl, hfirst, hothers⟩
    rcases List.forall_mem_cons.1 hparts with ⟨hp, hparts⟩
    rcases ih hparts hothers with ⟨parts', rfl, hderives, hvalues⟩
    -- The first part takes as many tokens as it has, the others share what is left.
    refine ⟨(first, p.2) :: parts', rfl, ?_, by simp [hvalues]⟩
    exact List.forall_mem_cons.2 ⟨hp first hfirst, hderives⟩

/-- Whether tokens derive a value does not depend on where they stand. -/
theorem Derives.of_keys_eq {us us' : List Token} {v : Value} (h : Derives us v)
    (hkeys : us'.map Token.key = us.map Token.key) : Derives us' v := by
  induction h generalizing us' with
  | @atom t a ha =>
    rcases List.map_eq_singleton_iff.1 hkeys with ⟨u, rfl, hkey⟩
    exact .atom (ha.of_key_eq hkey)
  | @list opening closing parts hopen _ hclose ih =>
    rw [List.map_cons, List.map_append] at hkeys
    rcases List.map_eq_cons_iff.1 hkeys with ⟨opening', others, rfl, hfirst, hothers⟩
    rcases List.map_eq_append_iff.1 hothers with ⟨inner, last, rfl, hinner, hlast⟩
    rcases List.map_eq_singleton_iff.1 hlast with ⟨closing', rfl, hkey⟩
    rcases exists_parts_of_keys_eq (fun p hp us hus => ih p hp hus) hinner with
      ⟨parts', rfl, hderives, hvalues⟩
    rw [← hvalues]
    exact .list ((Prod.mk.inj hfirst).1.trans hopen) hderives ((Prod.mk.inj hkey).1.trans hclose)

/-! ## Source text -/

namespace Value

/-- The source text of a value whose atoms can be read is cut into the tokens it is written with. -/
theorem Readable.cutsInto {v : Value} (h : v.Readable) : CutsInto v.source v.classified.tokens := by
  induction v using Tree.inductionOnItems with
  | atom a =>
    have ha : a.Readable := h a (by simp)
    have hcut : CutsInto a.classified.token.text [a.classified.token] :=
      .token (by simpa using ha.spells)
    simpa [source] using hcut
  | list items ih =>
    have hblank : isBlank ' ' = true := by decide +kernel
    have hspace : Separator [' '] := ⟨by simp, by simp [hblank]⟩
    have hitems : CutsInto ([' '].intercalate (items.map source))
        (items.flatMap fun t => tokens (classified t)) := by
      rw [← spread_const]
      exact .spread (fun _ _ => hspace) fun t ht => ih t ht (readable_list_iff.1 h t ht)
    have hclose : CutsInto [')'] [⟨.closeParen, [')'], 0⟩] := by
      have hspells : TokenKind.Spells .closeParen [')'] := rfl
      exact .token (u := ⟨.closeParen, [')'], 0⟩) hspells
    -- The items end before the closing parenthesis, and the list after it.
    have hlist := (hitems.append hclose fun kind rest =>
      TokenKind.stopsBefore_cons (by decide +kernel) rest kind).openParen
    simpa [source, Layout.parenthesised, List.flatMap_map, Function.comp_def] using hlist

end Value

end SExpr
