import SExpr.Text.Quoted
import SExpr.Token

/-!
# Why a text cannot be read

The causes for which a text is refused, first those met while it is cut into tokens, then those met
while values are built. Each has one wording. A cause that blames the text is shown to the user as a
diagnostic; the two faults of numerals are not, since they say nothing about the text's shape.
-/

namespace SExpr

/-! ## Causes -/

/-- Why a text has no tokens. -/
inductive LexError where
  | unmatchedClose (position : Int)
  | unclosedOpen (position : Int)
  | unexpectedCharacter (found : Text) (position : Int)
  /-- A string without its last quote, where that is refused. -/
  | unterminatedString (position : Int)
  deriving DecidableEq, Repr

/-- Why a numeral cannot be converted at all. -/
inductive NumeralFault where
  /-- It is empty, or holds a character that is no digit. -/
  | malformed (text : Text)
  /-- It has more digits than the conversion takes. -/
  | tooLong (length : Nat)
  deriving DecidableEq, Repr

/-- Why a token sequence has no value. -/
inductive ParseError where
  /-- Nothing is left where a value is wanted. -/
  | unexpectedEnd
  /-- Nothing is left inside the list opened at the position. -/
  | missingClose (position : Int)
  | unexpectedToken (token : Token)
  /-- A list is opened deeper than the caller allows. -/
  | depthExceeded (limit position : Int)
  /-- More lists are open than the reader can hold. -/
  | capacityExceeded (depth : Nat) (position : Int)
  | integerOutOfRange (token : Token)
  | numeral (fault : NumeralFault)
  deriving DecidableEq, Repr

/-- Why a text has no value. -/
inductive ReadError where
  | lex (cause : LexError)
  | parse (cause : ParseError)
  deriving DecidableEq, Repr

/-! ## Wording -/

/-- The most digits that are converted to an integer. -/
def maxNumeralLength : Nat := 4300

/-- At most 24 characters of a text, with dots for what is left out. -/
def shortened (s : Text) : Text :=
  if s.length ≤ 24 then s else s.take 24 ++ "...".toList

def LexError.message : LexError → Text
  | .unmatchedClose p =>
    "unbalanced parentheses: unmatched ')' at ".toList ++ Numeral.ofInt p
  | .unclosedOpen p =>
    "unbalanced parentheses: '(' at ".toList ++ Numeral.ofInt p ++ " is never closed".toList
  | .unexpectedCharacter found p =>
    "unexpected character ".toList ++ Quoted.encode found ++ " at ".toList ++ Numeral.ofInt p
  | .unterminatedString p =>
    "unterminated string starting at ".toList ++ Numeral.ofInt p

def NumeralFault.message : NumeralFault → Text
  | .malformed s => "malformed number token ".toList ++ Quoted.encode s
  | .tooLong length =>
    "Exceeds the limit (4300 digits) for integer string conversion: value has ".toList ++
      Numeral.ofNat length ++
      " digits; use sys.set_int_max_str_digits() to increase the limit".toList

def tooDeepMessage (limit position : Int) : Text :=
  "max nesting depth ".toList ++ Numeral.ofInt limit ++ " exceeded at ".toList ++
    Numeral.ofInt position

def ParseError.message : ParseError → Text
  | .unexpectedEnd => "unexpected end of input".toList
  | .missingClose p => "missing ')' for '(' at ".toList ++ Numeral.ofInt p
  | .unexpectedToken t =>
    "unexpected ".toList ++ Quoted.encode t.text ++ " at ".toList ++ Numeral.ofInt t.position
  | .depthExceeded limit p => tooDeepMessage limit p
  | .capacityExceeded depth p => tooDeepMessage depth p
  | .integerOutOfRange t =>
    "integer ".toList ++ shortened t.text ++ " at ".toList ++ Numeral.ofInt t.position ++
      " does not fit in 64 bits".toList
  | .numeral fault => fault.message

/-! ## Diagnostics -/

/-- Which stage of reading refuses. -/
inductive Family where
  | read
  | lex
  | parse
  deriving DecidableEq, Repr

/-- What a user is told about a refused text, and where it is at fault. -/
structure Diagnostic where
  family : Family
  message : Text
  position? : Option Int
  deriving DecidableEq, Repr

def LexError.position : LexError → Int
  | .unmatchedClose p | .unclosedOpen p | .unexpectedCharacter _ p | .unterminatedString p => p

/-- Where an error in a token sequence is, if it is anywhere. -/
def ParseError.position? : ParseError → Option Int
  | .unexpectedEnd => none
  | .missingClose p | .depthExceeded _ p | .capacityExceeded _ p => some p
  | .unexpectedToken t | .integerOutOfRange t => some t.position
  | .numeral _ => none

def LexError.diagnostic (e : LexError) : Diagnostic :=
  ⟨.lex, e.message, some e.position⟩

/-- An error in a token sequence as it is told. The faults of numerals are not. -/
def ParseError.diagnostic? : ParseError → Except NumeralFault Diagnostic
  | .numeral fault => .error fault
  | e => .ok ⟨.parse, e.message, e.position?⟩

/-- A cause as it is told, unless it is a fault of a numeral. -/
def ReadError.diagnostic? : ReadError → Except NumeralFault Diagnostic
  | .lex e => .ok e.diagnostic
  | .parse e => e.diagnostic?

end SExpr
