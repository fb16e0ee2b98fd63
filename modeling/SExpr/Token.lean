import SExpr.Text

/-!
# Tokens

A token is a piece of a text: its kind, its characters and the offset where it starts. Two tokens
are the same when kind and characters agree, wherever they stand.
-/

namespace SExpr

inductive TokenKind where
  | openParen
  | closeParen
  | number
  | identifier
  | string
  | operator
  deriving DecidableEq, Repr, Inhabited

def TokenKind.name : TokenKind → Text
  | .openParen => "OpenParen".toList
  | .closeParen => "CloseParen".toList
  | .number => "Number".toList
  | .identifier => "Identifier".toList
  | .string => "String".toList
  | .operator => "Operator".toList

/-- A token. The position is an integer, so that a token made by hand may stand anywhere. -/
structure Token where
  kind : TokenKind
  text : Text
  position : Int := 0
  deriving DecidableEq, Repr, Inhabited

namespace Token

/-- What decides whether two tokens are the same: all but the position. -/
def key (t : Token) : TokenKind × Text :=
  (t.kind, t.text)

/-- Two tokens are the same when their kinds and texts agree. -/
def Same (s t : Token) : Prop :=
  s.key = t.key

instance : DecidableRel Same := fun s t =>
  inferInstanceAs (Decidable (s.key = t.key))

/-- Is the token, wherever it stands, the only one of the sequence? -/
def isOnly (t : Token) : List Token → Bool
  | [u] => t.Same u
  | _ => false

/-- How a token is listed: its kind and its text, which is not escaped. -/
def listing (t : Token) : Text :=
  "Token\x7bkind=".toList ++ t.kind.name ++ ", text='".toList ++ t.text ++ "'\x7d".toList

/-- The listing of a token sequence, one after the other on lines of their own. -/
def listingOf (tokens : List Token) : Text :=
  ['\n'].intercalate (tokens.map listing)

end Token

end SExpr
