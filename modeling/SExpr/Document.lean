import SExpr.Text.Numeral
import SExpr.Token
import SExpr.Value

/-!
# Documents

A document is JSON data: integers, strings, arrays, and objects with their fields in order. It is
printed over several lines, two more spaces for each level; an empty array or object stays on one
line. Strings are printed in ASCII alone.
-/

namespace SExpr

/-- JSON data. -/
inductive Document where
  | int (value : Int)
  | str (text : Text)
  | arr (items : List Document)
  | obj (fields : List (Text × Document))
  deriving Inhabited

namespace Document

/-! ## Strings -/

def unitEscape (n : Nat) : Text :=
  ['\\', 'u'] ++ Numeral.hexadecimal 4 n

/-- The escape of a character by its code point: two units where one does not suffice. -/
def codePointEscape (c : Char) : Text :=
  if c.toNat < 0x10000 then unitEscape c.toNat
  else
    unitEscape (0xD800 + (c.toNat - 0x10000) / 0x400) ++
      unitEscape (0xDC00 + (c.toNat - 0x10000) % 0x400)

def escape (c : Char) : Text :=
  if c = '"' ∨ c = '\\' then ['\\', c]
  else if c = '\n' then ['\\', 'n']
  else if c = '\r' then ['\\', 'r']
  else if c = '\t' then ['\\', 't']
  else if c = '\x0c' then ['\\', 'f']
  else if c = '\x08' then ['\\', 'b']
  else if 0x20 ≤ c.toNat ∧ c.toNat < 0x7F then [c]
  else codePointEscape c

def quoted (s : Text) : Text :=
  '"' :: s.flatMap escape ++ ['"']

/-! ## Layout -/

/-- The line break before an entry at the level. -/
def newline (level : Nat) : Text :=
  '\n' :: List.replicate (2 * level) ' '

/-- Entries between brackets, each on a line of its own one level further in. -/
def block (opening closing : Char) (level : Nat) (entries : List Text) : Text :=
  match entries with
  | [] => [opening, closing]
  | _ :: _ =>
    opening :: newline (level + 1) ++ (',' :: newline (level + 1)).intercalate entries ++
      newline level ++ [closing]

mutual

/-- A document that starts at the level. -/
def write (level : Nat) : Document → Text
  | .int n => Numeral.ofInt n
  | .str s => quoted s
  | .arr items => block '[' ']' level (writeItems (level + 1) items)
  | .obj fields => block '\x7b' '\x7d' level (writeFields (level + 1) fields)

def writeItems (level : Nat) : List Document → List Text
  | [] => []
  | d :: ds => write level d :: writeItems level ds

def writeFields (level : Nat) : List (Text × Document) → List Text
  | [] => []
  | (name, d) :: fields =>
    (quoted name ++ [':', ' '] ++ write level d) :: writeFields level fields

end

/-- A document, from the first level on. -/
def print (d : Document) : Text :=
  d.write 0

end Document

/-! ## What is put into documents -/

/-- An atom as data: an integer stays one, everything else is its text. -/
def Atom.document : Atom → Document
  | .int n => .int n
  | a => .str a.text

/-- A value as data: lists are arrays. -/
def Value.document : Value → Document :=
  Tree.fold Atom.document .arr

@[simp]
theorem Value.document_atom (a : Atom) : Value.document (.atom a) = a.document := by
  simp [document]

@[simp]
theorem Value.document_list (items : List Value) :
    Value.document (.list items) = .arr (items.map document) := by
  simp [document]

def Token.document (t : Token) : Document :=
  .obj [("kind".toList, .str t.kind.name), ("text".toList, .str t.text),
    ("position".toList, .int t.position)]

end SExpr
