import SExpr.Session
import SExpr.Token.Integer
import SExpr.Value

/-!
# Reading values from tokens

A cursor moves over a token sequence and reads one value at a time. While it reads, the lists that
are open form a stack of frames, the innermost first: an opening parenthesis adds a frame, a value
is placed in the innermost frame, a closing parenthesis makes the innermost frame a list and places
it one frame further out. A value that finds no frame is the one that was wanted.

The cursor counts the tokens taken and the lists open. Both counts stay where they are when reading
fails.
-/

namespace SExpr

/-! ## Frames -/

/-- A list being read: where it was opened, and its items so far, the last one first. -/
structure Frame where
  opened : Int
  items : List Value
  deriving DecidableEq

/-- How far reading has come. -/
inductive Progress where
  | done (value : Value)
  | within (frames : List Frame)
  deriving DecidableEq

namespace Progress

/-- Place a complete value in the innermost frame. -/
def place (v : Value) : List Frame → Progress
  | [] => .done v
  | inner :: outer => .within ({ inner with items := v :: inner.items } :: outer)

/-- What a token does to the open lists, which stand inside `depth` others: a list is refused when
that makes more than `limit`. -/
def step (limit : Int) (depth : Nat) (frames : List Frame) (t : Token) :
    Except ParseError Progress :=
  match t.kind with
  | .openParen =>
    if limit < depth + frames.length + 1 then .error (.depthExceeded limit t.position)
    else .ok (.within (⟨t.position, []⟩ :: frames))
  | .closeParen =>
    match frames with
    | [] => .error (.unexpectedToken t)
    | inner :: outer => .ok (place (.list inner.items.reverse) outer)
  | .number => t.integer.map fun n => place (.atom (.int n)) frames
  | .identifier | .operator => .ok (place (.atom (.sym t.text t.kind)) frames)
  | .string => .ok (place (.atom (.str t.text)) frames)

end Progress

/-- What is missing when the tokens end. -/
def Frame.missing : List Frame → ParseError
  | [] => .unexpectedEnd
  | inner :: _ => .missingClose inner.opened

/-- Are as many lists open as can be held? -/
def Frame.full (capacity : Option Nat) (frames : List Frame) : Bool :=
  capacity.any (· ≤ frames.length)

/-! ## Cursors -/

/-- A place in a token sequence: how many tokens were taken, how many lists are open, and the tokens
that are left. -/
structure Cursor where
  index : Nat
  depth : Nat
  rest : List Token
  deriving DecidableEq, Repr

namespace Cursor

def ofTokens (tokens : List Token) : Cursor :=
  ⟨0, 0, tokens⟩

def peek? (c : Cursor) : Option Token :=
  c.rest.head?

def consume (c : Cursor) : Except ParseError (Token × Cursor) :=
  match c.rest with
  | [] => .error .unexpectedEnd
  | t :: rest => .ok (t, { c with index := c.index + 1, rest := rest })

/-- Read on inside the open lists, which stand inside `depth` others, from the token at `index`. A
full stack of frames takes nothing but a closing parenthesis. -/
def readWithin (limit : Int) (capacity : Option Nat) (depth : Nat) :
    List Frame → (index : Nat) → List Token → Except ParseError Value × Cursor
  | frames, index, [] =>
    (.error (Frame.missing frames), ⟨index, depth + frames.length, []⟩)
  | frames, index, t :: rest =>
    if Frame.full capacity frames && t.kind != .closeParen then
      (.error (.capacityExceeded (depth + frames.length) t.position),
        ⟨index, depth + frames.length, t :: rest⟩)
    else
      match Progress.step limit depth frames t with
      | .error cause =>
        let refused := if t.kind = .openParen then 1 else 0
        (.error cause, ⟨index + 1, depth + frames.length + refused, rest⟩)
      | .ok (.done v) => (.ok v, ⟨index + 1, depth, rest⟩)
      | .ok (.within frames) => readWithin limit capacity depth frames (index + 1) rest

/-- Read one value, and say where the cursor is then. -/
def expression (limit : Int) (capacity : Option Nat) (c : Cursor) :
    Except ParseError Value × Cursor :=
  readWithin limit capacity c.depth [] c.index c.rest

end Cursor

/-! ## Moves of a cursor -/

/-- A question to a cursor, or something to take from it. -/
inductive Cursor.Move where
  | peek
  | consume
  | expression
  deriving DecidableEq, Repr

inductive Cursor.Answer where
  | next (token? : Option Token)
  | value (v : Value)
  | failed (cause : ParseError)
  deriving DecidableEq

namespace Cursor

/-- Answer one move. After a failure the cursor stands where reading stopped. -/
def perform (limit : Int) (c : Cursor) : Move → Answer × Cursor
  | .peek => (.next c.peek?, c)
  | .consume =>
    match c.consume with
    | .ok (t, after) => (.next (some t), after)
    | .error cause => (.failed cause, c)
  | .expression =>
    match c.expression limit none with
    | (.ok v, after) => (.value v, after)
    | (.error cause, after) => (.failed cause, after)

/-- Answer moves one after the other, each with the cursor after it. -/
def run (limit : Int) (c : Cursor) (moves : List Move) : List (Answer × Cursor) :=
  session (perform limit) c moves

end Cursor

end SExpr
