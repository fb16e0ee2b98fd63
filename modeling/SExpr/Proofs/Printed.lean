import SExpr.Proofs.Escape

/-!
# Printed documents

A document is printed with every entry on a line of its own, two spaces for each level, and in ASCII alone,
where every character has the shortest spelling that ASCII allows. The printed text is the one that says
the document in this style, and it says no other document however freely it is read.
-/

namespace SExpr.Document

/-! ## The style of printed documents -/

/-- Entries stand on lines of their own, two spaces further in for each level, and a colon is followed by
one space. A character has the shortest spelling in ASCII. -/
def Style.indented : Style where
  spells s c := Spells s c ∧ IsAscii s ∧ ∀ s', Spells s' c → IsAscii s' → s.length ≤ s'.length
  lineBreak level s := s = '\n' :: List.replicate (2 * level) ' '
  lineEnd s := s = []
  space s := s = [' ']

/-- The style allows all that printing does. -/
structure Style.Allows (style : Style) : Prop where
  spells : ∀ c, style.spells (escape c) c
  lineBreak : ∀ level, style.lineBreak level (newline level)
  lineEnd : style.lineEnd []
  space : style.space [' ']

namespace Brackets

variable {level : Nat} {entries : List (Text × Document)}

/-- What is printed before the value of an entry. -/
def label : Brackets → Text → Text
  | .square, _ => []
  | .curly, name => quoted name ++ [':', ' ']

/-- What is printed behind the opening bracket, if there are entries, and what comes behind that. -/
def inside (b : Brackets) (level : Nat) (entries : List (Text × Document)) (rest : Text) : Text :=
  newline (level + 1) ++
    ((',' :: newline (level + 1)).intercalate (entries.map fun e => b.label e.1 ++ e.2.write (level + 1)) ++
      (newline level ++ b.closing :: rest))

variable (b : Brackets)

end Brackets

/-! ## The printed text says the document -/

namespace Style.Allows

variable {style : Style} {level : Nat} {b : Brackets} {entries : List (Text × Document)}

theorem body (h : style.Allows) (s : Text) : style.Body (s.flatMap escape) s := by
  induction s with
  | nil => exact .nil
  | cons c s ih => exact .cons (h.spells c) ih

end Style.Allows

/-! ## No other text says it in the style -/

section Written

variable {level : Nat} {b : Brackets} {s text rest : Text}

theorem Style.Reads.ne_nil {style : Style} {entries : List (Text × Document)}
    (h : style.Reads level text (.entries b entries) rest) : entries ≠ [] := by
  generalize hx : Piece.entries b entries = x at h
  cases h with
  | int | str | empty | block => cases hx
  | last | more =>
    cases hx
    exact List.cons_ne_nil _ _

end Written

section Printed

variable {s text rest : Text}

theorem Style.Body.isAscii {t : Text} (h : Style.indented.Body s t) : IsAscii s := by
  induction h with
  | nil => simp [IsAscii]
  | cons hc _ ih => exact List.forall_mem_append.2 ⟨hc.2.1, ih⟩

theorem Style.Label.isAscii {b : Brackets} {name : Text} (h : Style.indented.Label b s name) :
    IsAscii s := by
  cases h with
  | item => simp [IsAscii]
  | field hbody hstop hspace =>
    cases hstop
    cases hspace
    have hend : IsAscii ('"' :: ([] ++ ':' :: [' '])) := by decide
    exact List.forall_mem_cons.2 ⟨by decide, List.forall_mem_append.2 ⟨hbody.isAscii, hend⟩⟩

end Printed

end SExpr.Document
