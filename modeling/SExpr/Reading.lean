import SExpr.Cursor
import SExpr.Token.OfText

/-!
# Reading values

The value of a token sequence is the first one its cursor reads; whatever follows is ignored. The
value of a text is the value of its tokens.
-/

namespace SExpr

/-- Read the first value of a token sequence, with the cursor behind it. -/
def parseFrom (config : Config) (tokens : List Token) : Except ParseError Value × Cursor :=
  (Cursor.ofTokens tokens).expression config.maxDepth config.capacity

/-- The first value of a token sequence. -/
def parse (config : Config) (tokens : List Token) : Except ParseError Value :=
  (parseFrom config tokens).1

/-- The first value of a text. -/
def read (config : Config) (src : Text) : Except ReadError Value :=
  match tokenize config src with
  | .error cause => .error (.lex cause)
  | .ok tokens => (parse config tokens).mapError .parse

end SExpr
