import SExpr.Document
import SExpr.Text.Quoted
import SExpr.Value.Layout

/-!
# Data that may hold no value

A datum is shaped like a value, but among its atoms there may be things that are no values: raw
data, or tokens. Only a datum without such things is a value, so only that is written; otherwise the
first thing from the left that is no value is blamed.
-/

namespace SExpr

/-- Something that is no value. -/
inductive Foreign where
  | null
  | bool (b : Bool)
  | int (n : Int)
  | string (s : Text)
  | token (t : Token)
  deriving DecidableEq, Repr

inductive Item where
  | atom (a : Atom)
  | foreign (x : Foreign)
  deriving DecidableEq, Repr

/-- A tree of atoms that may be no values. -/
abbrev Datum := Tree Item

/-- The name of a kind inside a message. -/
def TokenKind.constant : TokenKind → Text
  | .openParen => "OPEN_PAREN".toList
  | .closeParen => "CLOSE_PAREN".toList
  | .number => "NUMBER".toList
  | .identifier => "IDENTIFIER".toList
  | .string => "STRING".toList
  | .operator => "OPERATOR".toList

/-- How a token is shown inside a message, with all that is in it. -/
def Token.description (t : Token) : Text :=
  "Token(kind=<TokenKind.".toList ++ t.kind.constant ++ ": '".toList ++ t.kind.name ++
    "'>, text=".toList ++ Quoted.encode t.text ++ ", position=".toList ++
    Numeral.ofInt t.position ++ ")".toList

namespace Foreign

def description : Foreign → Text
  | .null => "None".toList
  | .bool true => "True".toList
  | .bool false => "False".toList
  | .int n => Numeral.ofInt n
  | .string s => Quoted.encode s
  | .token t => t.description

def message (x : Foreign) : Text :=
  "not a value: ".toList ++ x.description

/-- What decides whether two things are the same: a truth value counts as zero or one, and the
position of a token does not count. -/
def key : Foreign → Foreign
  | .bool b => .int b.toInt
  | .token t => .token { t with position := 0 }
  | x => x

end Foreign

def Item.key : Item → Item
  | .atom a => .atom a.bare
  | .foreign x => .foreign x.key

namespace Datum

/-- What decides whether two data are the same. -/
def key : Datum → Datum :=
  Tree.map Item.key

/-- The value that a datum is, or the first thing in it that is none. -/
def value? : Datum → Except Foreign Value :=
  Tree.traverse fun
    | .atom a => .ok a
    | .foreign x => .error x

def ofValue : Value → Datum :=
  Tree.map .atom

end Datum

end SExpr
