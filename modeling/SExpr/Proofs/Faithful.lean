import Mathlib.Tactic.TFAE
import SExpr.Document
import SExpr.Proofs.Level
import SExpr.Proofs.RoundTrip

/-!
# Layouts that can be taken apart

A value that was read is told from every other one by what it is printed as, in either layout and as
data. Nothing is escaped in a layout, and a comma is a symbol as well as part of a separator; still the
first character of an item tells what it is, an atom ends where it must, and what follows an item tells
whether another one comes. So a printed value can be taken off the front of a text in one way only,
whatever stands behind it.
-/

namespace SExpr

/-! ## Atoms in front of a text -/

/-- Nothing before the text can go on in it. -/
def StopsAll (rest : Text) : Prop :=
  ∀ kind : TokenKind, kind.StopsBefore rest

/-- The text of a token can be taken off a text in one way only. -/
theorem TokenKind.Spells.cancel {kind kind' : TokenKind} {s s' rest rest' : Text}
    (hs : kind.Spells s) (hs' : kind'.Spells s') (hrest : StopsAll rest) (hrest' : StopsAll rest')
    (h : s ++ rest = s' ++ rest') : kind = kind' ∧ s = s' ∧ rest = rest' := by
  have hkind : kind = kind' := by
    rcases hs.startsWith with ⟨c, after, rfl, hc⟩
    rcases hs'.startsWith with ⟨c', after', rfl, hc'⟩
    obtain rfl : c = c' := (List.cons.inj h).1
    -- The first character tells the kind.
    have hboth := (starting?_eq_some_iff.2 hc).symm.trans (starting?_eq_some_iff.2 hc')
    exact Option.some.inj hboth
  subst hkind
  have htake : Scanner.takeToken true ⟨0, s ++ rest⟩ kind = .ok (s, ⟨0 + s.length, rest⟩) :=
    Scanner.takeToken_append hs (hrest kind)
  have htake' : Scanner.takeToken true ⟨0, s' ++ rest'⟩ kind = .ok (s', ⟨0 + s'.length, rest'⟩) :=
    Scanner.takeToken_append hs' (hrest' kind)
  rw [h, htake'] at htake
  simp only [Except.ok.injEq, Prod.mk.injEq, Scanner.mk.injEq] at htake
  exact ⟨rfl, htake.1.symm, htake.2.2.symm⟩

namespace Atom

variable {a b : Atom} {rest rest' : Text}

/-- So can an atom. -/
theorem Readable.cancel (ha : a.Readable) (hb : b.Readable) (hrest : StopsAll rest)
    (hrest' : StopsAll rest') (h : a.text ++ rest = b.text ++ rest') :
    a.bare = b.bare ∧ rest = rest' := by
  rcases ha.spells.cancel hb.spells hrest hrest' h with ⟨hkind, htext, hleft⟩
  have hkey : b.classified.token.key = a.classified.token.key := by
    rw [Token.key, Token.key, hkind, token_text, token_text, text_classified, text_classified, htext]
  -- Both atoms are what one token stands for.
  have hvalue : Derives [a.classified.token] (.atom a.classified) := .atom ha.standsFor
  have hother : Derives [a.classified.token] (.atom b.classified) :=
    .atom (hb.standsFor.of_key_eq hkey.symm)
  have htoken : [a.classified.token] ++ [] = [a.classified.token] ++ [] := rfl
  have hsame : a.classified = b.classified := by
    simpa using (hvalue.unique hother htoken).2
  refine ⟨?_, hleft⟩
  rw [← bare_classified a, hsame, bare_classified]

theorem Readable.bare_eq_of_text_eq (ha : a.Readable) (hb : b.Readable) (h : a.text = b.text) :
    a.bare = b.bare :=
  (ha.cancel hb TokenKind.stopsBefore_nil TokenKind.stopsBefore_nil (by rw [h])).1

end Atom

/-- May an atom start with the character? -/
def startsAtom (c : Char) : Bool :=
  (TokenKind.starting? c).any fun kind => kind != .openParen && kind != .closeParen

theorem Atom.Readable.startsAtom {a : Atom} (ha : a.Readable) :
    ∃ c after, a.text = c :: after ∧ startsAtom c = true := by
  rcases ha.spells.startsWith with ⟨c, after, htext, hc⟩
  refine ⟨c, after, htext, ?_⟩
  simp [SExpr.startsAtom, TokenKind.starting?_eq_some_iff.2 hc, ha.standsFor.not_parenthesis]

/-! ## Values in front of a text -/

namespace Layout

/-- The characters that a layout starts and ends a list with, and the first one between two items, are
told from each other and from the atoms, and end the atom before them. -/
structure Legible (layout : Layout) (opening closing between : Char) (more : Text) : Prop where
  opening_eq : layout.opening = [opening]
  closing_eq : layout.closing = [closing]
  separator_eq : layout.separator = between :: more
  opens : startsAtom opening = false
  closes : startsAtom closing = false
  opening_ne : opening ≠ closing
  between_ne : between ≠ closing
  closing_stops : isIdentifierChar closing = false
  between_stops : isIdentifierChar between = false

/-- What follows the first item of a list. -/
def later (layout : Layout) (items : List Value) : Text :=
  items.flatMap (fun v => layout.separator ++ layout.write v) ++ layout.closing

/-- Each part but the first one follows a separator. -/
theorem intercalate_eq_flatMap (separator s : Text) (parts : List Text) :
    separator.intercalate (s :: parts) = s ++ parts.flatMap (separator ++ ·) := by
  induction parts generalizing s with
  | nil => simp
  | cons t parts ih =>
    rw [List.intercalate_cons_cons, ih, List.flatMap_cons]
    simp only [List.append_assoc]

theorem write_nil_append (layout : Layout) (s : Text) :
    layout.write (.list []) ++ s = layout.opening ++ (layout.closing ++ s) := by
  simp

theorem write_cons_append (layout : Layout) (v : Value) (items : List Value) (s : Text) :
    layout.write (.list (v :: items)) ++ s =
      layout.opening ++ (layout.write v ++ (layout.later items ++ s)) := by
  rw [write_list, List.map_cons, intercalate_eq_flatMap, later, List.flatMap_map]
  simp only [List.append_assoc]

theorem later_cons_append (layout : Layout) (v : Value) (items : List Value) (s : Text) :
    layout.later (v :: items) ++ s =
      layout.separator ++ (layout.write v ++ (layout.later items ++ s)) := by
  simp only [later, List.flatMap_cons, List.append_assoc]

/-- The value can be taken off a text in one way only. -/
def Cancels (layout : Layout) (v : Value) : Prop :=
  ∀ (w : Value) (s t : Text), w.Readable → StopsAll s → StopsAll t →
    layout.write v ++ s = layout.write w ++ t → Value.Same v w ∧ s = t

namespace Legible

variable {layout : Layout} {opening closing between : Char} {more s t : Text}
  {v w : Value} {items others : List Value}

/-- No item starts like the end of a list. -/
theorem exists_write_eq_cons (h : layout.Legible opening closing between more) (hv : v.Readable) :
    ∃ c after, layout.write v = c :: after ∧ c ≠ closing := by
  cases v with
  | atom a =>
    rcases (hv a (by simp)).startsAtom with ⟨c, after, htext, hc⟩
    refine ⟨c, after, by rw [write_atom, htext], ?_⟩
    rintro rfl
    rw [h.closes] at hc
    cases hc
  | list items =>
    exact ⟨opening, _, by rw [write_list, h.opening_eq]; rfl, h.opening_ne⟩

theorem write_atom_ne_list (h : layout.Legible opening closing between more) {a : Atom}
    (ha : a.Readable) : layout.write (.atom a) ++ s ≠ layout.write (.list items) ++ t := by
  rcases ha.startsAtom with ⟨c, after, htext, hc⟩
  rw [write_atom, htext, write_list, h.opening_eq]
  intro heq
  obtain rfl : c = opening := (List.cons.inj heq).1
  rw [h.opens] at hc
  cases hc

theorem write_ne_closing (h : layout.Legible opening closing between more) (hv : v.Readable) :
    layout.write v ++ s ≠ layout.closing ++ t := by
  rcases h.exists_write_eq_cons hv with ⟨c, after, hwrite, hc⟩
  rw [hwrite, h.closing_eq]
  intro heq
  exact hc (List.cons.inj heq).1

theorem later_ne_closing (h : layout.Legible opening closing between more) :
    layout.later (v :: items) ++ s ≠ layout.closing ++ t := by
  rw [later_cons_append, h.separator_eq, h.closing_eq]
  intro heq
  exact h.between_ne (List.cons.inj heq).1

theorem stopsAll_later (h : layout.Legible opening closing between more) (items : List Value)
    (s : Text) : StopsAll (layout.later items ++ s) := by
  cases items with
  | nil =>
    have hlater : layout.later [] = [closing] := h.closing_eq
    rw [hlater]
    exact TokenKind.stopsBefore_cons h.closing_stops s
  | cons v items =>
    rw [later_cons_append, h.separator_eq]
    exact TokenKind.stopsBefore_cons h.between_stops _

/-- Items that can be taken off one by one can be taken off together. -/
theorem later_cancel (h : layout.Legible opening closing between more)
    (hitems : ∀ v ∈ items, layout.Cancels v) (hothers : ∀ w ∈ others, w.Readable)
    (heq : layout.later items ++ s = layout.later others ++ t) :
    items.map Value.bare = others.map Value.bare ∧ s = t := by
  induction items generalizing others with
  | nil =>
    cases others with
    | nil => exact ⟨rfl, List.append_cancel_left heq⟩
    | cons w others => exact absurd heq.symm h.later_ne_closing
  | cons v items ih =>
    cases others with
    | nil => exact absurd heq h.later_ne_closing
    | cons w others =>
      rcases List.forall_mem_cons.1 hitems with ⟨hv, hitems⟩
      rcases List.forall_mem_cons.1 hothers with ⟨hw, hothers⟩
      rw [later_cons_append, later_cons_append] at heq
      -- Behind the separator stands an item, and behind it there is another separator or the end.
      have hfirst := hv w _ _ hw (h.stopsAll_later items s) (h.stopsAll_later others t)
        (List.append_cancel_left heq)
      rcases ih hitems hothers hfirst.2 with ⟨hrest, hleft⟩
      exact ⟨by rw [List.map_cons, List.map_cons, show v.bare = w.bare from hfirst.1, hrest], hleft⟩

/-- So can a list of them. -/
theorem list_cancel (h : layout.Legible opening closing between more)
    (hreadable : ∀ v ∈ items, v.Readable) (hitems : ∀ v ∈ items, layout.Cancels v)
    (hothers : ∀ w ∈ others, w.Readable)
    (heq : layout.write (.list items) ++ s = layout.write (.list others) ++ t) :
    items.map Value.bare = others.map Value.bare ∧ s = t := by
  cases items with
  | nil =>
    cases others with
    | nil => exact ⟨rfl, List.append_cancel_left heq⟩
    | cons w others =>
      have hw := hothers w (List.mem_cons_self ..)
      rw [write_nil_append, write_cons_append] at heq
      exact absurd (List.append_cancel_left heq).symm (h.write_ne_closing hw)
  | cons v items =>
    cases others with
    | nil =>
      have hv := hreadable v (List.mem_cons_self ..)
      rw [write_nil_append, write_cons_append] at heq
      exact absurd (List.append_cancel_left heq) (h.write_ne_closing hv)
    | cons w others =>
      -- With a separator in front, the first items are like those that follow them.
      rw [write_cons_append, write_cons_append] at heq
      have hlater : layout.later (v :: items) ++ s = layout.later (w :: others) ++ t := by
        rw [later_cons_append, later_cons_append, List.append_cancel_left heq]
      exact h.later_cancel hitems hothers hlater

/-- A value whose atoms can be read can be taken off a text in one way only. -/
theorem cancels (h : layout.Legible opening closing between more) (hv : v.Readable) :
    layout.Cancels v := by
  induction v using Tree.inductionOnItems with
  | atom a =>
    intro w s t hw hs ht heq
    have ha : a.Readable := hv a (by simp)
    cases w with
    | atom b =>
      have hb : b.Readable := hw b (by simp)
      rw [write_atom, write_atom] at heq
      rcases ha.cancel hb hs ht heq with ⟨hbare, hleft⟩
      exact ⟨by simpa [Value.Same, Value.bare] using hbare, hleft⟩
    | list others => exact absurd heq (h.write_atom_ne_list ha)
  | list items ih =>
    intro w s t hw hs ht heq
    have hitems := Value.readable_list_iff.1 hv
    cases w with
    | atom b => exact absurd heq.symm (h.write_atom_ne_list (hw b (by simp)))
    | list others =>
      rcases h.list_cancel hitems (fun v hmem => ih v hmem (hitems v hmem))
        (Value.readable_list_iff.1 hw) heq with ⟨hbare, hleft⟩
      exact ⟨by simpa [Value.Same, Value.bare] using hbare, hleft⟩

/-- Values that are printed alike are the same. -/
theorem same_of_write_eq (h : layout.Legible opening closing between more) (hv : v.Readable)
    (hw : w.Readable) (heq : layout.write v = layout.write w) : Value.Same v w :=
  (h.cancels hv w [] [] hw TokenKind.stopsBefore_nil TokenKind.stopsBefore_nil (by rw [heq])).1

end Legible

theorem legible_bracketed : bracketed.Legible '[' ']' ',' [' '] :=
  ⟨rfl, rfl, rfl, by decide +kernel, by decide +kernel, by decide, by decide, by decide +kernel,
    by decide +kernel⟩

theorem legible_parenthesised : parenthesised.Legible '(' ')' ' ' [] :=
  ⟨rfl, rfl, rfl, by decide +kernel, by decide +kernel, by decide, by decide, by decide +kernel,
    by decide +kernel⟩

end Layout

/-! ## Values as data -/

theorem Atom.document_bare (a : Atom) : a.bare.document = a.document := by
  cases a <;> rfl

/-- Atoms that are the same data are written alike. -/
theorem Atom.text_eq_of_document_eq {a b : Atom} (h : a.document = b.document) :
    a.text = b.text := by
  cases a <;> cases b <;> cases h <;> rfl

namespace Value

variable {v w : Value}

theorem document_bare (v : Value) : document (bare v) = document v := by
  rw [document, bare, Tree.fold_map]
  simp only [Atom.document_bare]

theorem write_bare (layout : Layout) (v : Value) : layout.write (bare v) = layout.write v := by
  rw [Layout.write, bare, Tree.fold_map]
  simp only [Atom.text_bare]

/-- Items that are each told by their data are told by the data of all of them. -/
theorem map_bare_eq_of_map_document_eq {items others : List Value}
    (hitems : ∀ v ∈ items, ∀ w : Value, w.Readable → document v = document w → Same v w)
    (hothers : ∀ w ∈ others, Readable w) (h : items.map document = others.map document) :
    items.map bare = others.map bare := by
  induction items generalizing others with
  | nil =>
    cases others with
    | nil => rfl
    | cons w others => cases h
  | cons v items ih =>
    cases others with
    | nil => cases h
    | cons w others =>
      rcases List.forall_mem_cons.1 hitems with ⟨hv, hitems⟩
      rcases List.forall_mem_cons.1 hothers with ⟨hw, hothers⟩
      rcases List.cons.inj h with ⟨hfirst, hrest⟩
      rw [List.map_cons, List.map_cons, show bare v = bare w from hv w hw hfirst,
        ih hitems hothers hrest]

/-- Values that are the same data are the same. -/
theorem same_of_document_eq (hv : v.Readable) (hw : w.Readable) (h : v.document = w.document) :
    Same v w := by
  induction v using Tree.inductionOnItems generalizing w with
  | atom a =>
    have ha : a.Readable := hv a (by simp)
    cases w with
    | atom b =>
      have hb : b.Readable := hw b (by simp)
      rw [document_atom, document_atom] at h
      simpa [Same, bare] using ha.bare_eq_of_text_eq hb (Atom.text_eq_of_document_eq h)
    | list others =>
      rw [document_atom, document_list] at h
      cases a <;> cases h
  | list items ih =>
    cases w with
    | atom b =>
      rw [document_atom, document_list] at h
      cases b <;> cases h
    | list others =>
      rw [document_list, document_list] at h
      have hall := map_bare_eq_of_map_document_eq
        (fun v hmem w hw => ih v hmem (readable_list_iff.1 hv v hmem) hw)
        (readable_list_iff.1 hw) (Document.arr.inj h)
      simpa [Same, bare] using hall

end Value

/-- Values that were read, from whatever texts, are the same exactly when they are written alike as
source text, or for people to read, or when they are the same data. -/
theorem printed_tfae {config config' : Config} {src src' : Text} {v w : Value}
    (hv : read config src = .ok v) (hw : read config' src' = .ok w) :
    [Value.Same v w, v.source = w.source, v.render = w.render, v.document = w.document].TFAE := by
  have hv := (readable_of_read hv).1
  have hw := (readable_of_read hw).1
  have hwrite : ∀ layout : Layout, Value.Same v w → layout.write v = layout.write w := by
    intro layout hsame
    rw [← Value.write_bare layout v, show v.bare = w.bare from hsame, Value.write_bare]
  tfae_have 1 → 2 := hwrite .parenthesised
  tfae_have 2 → 1 := Layout.legible_parenthesised.same_of_write_eq hv hw
  tfae_have 1 → 3 := hwrite .bracketed
  tfae_have 3 → 1 := Layout.legible_bracketed.same_of_write_eq hv hw
  tfae_have 1 → 4 := by
    intro hsame
    rw [← Value.document_bare v, show v.bare = w.bare from hsame, Value.document_bare]
  tfae_have 4 → 1 := Value.same_of_document_eq hv hw
  tfae_finish

/-- In `("]",)` the bracket and the comma are a string and a symbol, in `("],")` they are one string;
written for people both are two brackets around the same characters but for a space. -/
theorem printed_of_brackets_and_commas :
    read {} ['(', '"', ']', '"', ',', ')'] =
        .ok (.list [.atom (.str ['"', ']', '"']), .atom (.sym [','] .operator)]) ∧
      read {} ['(', '"', ']', ',', '"', ')'] = .ok (.list [.atom (.str ['"', ']', ',', '"'])]) ∧
      Value.render (.list [.atom (.str ['"', ']', '"']), .atom (.sym [','] .operator)]) ≠
        Value.render (.list [.atom (.str ['"', ']', ',', '"'])]) := by
  have hopen : TokenKind.Spells .openParen ['('] := rfl
  have hclose : TokenKind.Spells .closeParen [')'] := rfl
  have hcomma : TokenKind.Spells .operator [','] := ⟨',', rfl, by decide⟩
  have hbracket : TokenKind.Spells .string ['"', ']', '"'] := ⟨[']'], rfl, by decide⟩
  have hboth : TokenKind.Spells .string ['"', ']', ',', '"'] := ⟨[']', ','], rfl, by decide⟩
  have htwo : tokenize {} ['(', '"', ']', '"', ',', ')'] = .ok [⟨.openParen, ['('], 0⟩,
      ⟨.string, ['"', ']', '"'], 1⟩, ⟨.operator, [','], 4⟩, ⟨.closeParen, [')'], 5⟩] :=
    tokenize_eq_ok_iff.2 ⟨by decide, .token hopen trivial (.token hbracket trivial
      (.token hcomma trivial (.token hclose trivial .nil)))⟩
  have hone : tokenize {} ['(', '"', ']', ',', '"', ')'] = .ok [⟨.openParen, ['('], 0⟩,
      ⟨.string, ['"', ']', ',', '"'], 1⟩, ⟨.closeParen, [')'], 5⟩] :=
    tokenize_eq_ok_iff.2 ⟨by decide, .token hopen trivial (.token hboth trivial
      (.token hclose trivial .nil))⟩
  have hreadTwo : read {} ['(', '"', ']', '"', ',', ')'] =
      .ok (.list [.atom (.str ['"', ']', '"']), .atom (.sym [','] .operator)]) := by
    rw [read, htwo]
    rfl
  have hreadOne : read {} ['(', '"', ']', ',', '"', ')'] =
      .ok (.list [.atom (.str ['"', ']', ',', '"'])]) := by
    rw [read, hone]
    rfl
  refine ⟨hreadTwo, hreadOne, ?_⟩
  intro hrender
  have hsame : Value.Same (.list [.atom (.str ['"', ']', '"']), .atom (.sym [','] .operator)])
      (.list [.atom (.str ['"', ']', ',', '"'])]) :=
    ((printed_tfae hreadTwo hreadOne).out 0 2).2 hrender
  exact absurd hsame (by decide)

end SExpr
