import SExpr.Proofs.Diagnostic
import SExpr.Proofs.Printed

/-!
# What a command line prints

Whatever a user asks for, and in whatever order, the text that is read is the expression, or else the
first line of the input. What is printed about it is what the functions for tokens and values give; as
data, it is one document that holds what tokens and values are as data.
-/

namespace SExpr

/-! ## Tokens and values as data -/

/-- What a token is as data: its kind, its text and where it stands. -/
inductive Token.HasData : Token → Document → Prop where
  | mk (kind : TokenKind) (text : Text) (position : Int) :
      HasData ⟨kind, text, position⟩
        (.obj [("kind".toList, .str kind.name), ("text".toList, .str text),
          ("position".toList, .int position)])

/-- What a value is as data: an integer stays one, a symbol is its name, a string its text, and a list is
an array of what its items are. -/
inductive Value.HasData : Value → Document → Prop where
  | int (n : Int) : HasData (.atom (.int n)) (.int n)
  | sym (name : Text) (kind : TokenKind) : HasData (.atom (.sym name kind)) (.str name)
  | str (text : Text) : HasData (.atom (.str text)) (.str text)
  | list {items : List Value} {ds : List Document} :
      List.Forall₂ HasData items ds → HasData (.list items) (.arr ds)

namespace CommandLine

variable {w : Wish} {o : Options} {args : List Text} {input src : Text} {ts : List Token}
  {value? : Option Value}

/-! ## Where the text comes from -/

/-- The text is the first line of the input: it holds no line break, and none or the end comes next. -/
def IsFirstLine (src input : Text) : Prop :=
  (∀ c ∈ src, c ≠ '\n' ∧ c ≠ '\r') ∧
    ∃ rest, input = src ++ rest ∧ ∀ c ∈ rest.head?, c = '\n' ∨ c = '\r'

namespace Wish

/-- The text that is read: the expression, which must not look like a switch, or the first line of the
input. -/
def Reads (w : Wish) (input src : Text) : Prop :=
  (w.expression? = some src ∧ src.head? ≠ some '-') ∨
    (w.expression? = none ∧ IsFirstLine src input)

end Wish

/-- A text on a line of its own. -/
def line (s : Text) : Text :=
  s ++ ['\n']

/-- The line that tells why a text is refused. -/
def complaint (message : Text) : Text :=
  line ("error: ".toList ++ message)

namespace Options

end Options

/-! ## The whole run -/

end CommandLine

end SExpr
