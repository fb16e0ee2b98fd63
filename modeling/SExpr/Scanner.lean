import SExpr.Access
import SExpr.ReadError
import SExpr.Session
import SExpr.Text.CharClass

/-!
# Scanning a text

A scanner stands at an offset of a text and holds what is left of it. It looks at the next
character, takes the longest run of a class, or takes a string up to its closing quote. Taking from
a scanner returns the text taken and the scanner behind it.
-/

namespace SExpr

/-- A place in a text: the offset reached and the text from there on. -/
structure Scanner where
  offset : Nat
  rest : Text
  deriving DecidableEq, Repr

namespace Scanner

def ofText (src : Text) : Scanner :=
  ⟨0, src⟩

def atEnd (s : Scanner) : Bool :=
  s.rest.isEmpty

def peek? (s : Scanner) : Option Char :=
  s.rest.head?

/-- Take the next character, if there is one. -/
def takeOne (s : Scanner) : Text × Scanner :=
  let one := s.rest.take 1
  (one, ⟨s.offset + one.length, s.rest.drop 1⟩)

/-- Take the longest run of characters with the property. -/
def takeRun (p : Char → Bool) (s : Scanner) : Text × Scanner :=
  let run := s.rest.takeWhile p
  (run, ⟨s.offset + run.length, s.rest.dropWhile p⟩)

/-- Take a string: everything through the first quote after the next character, which is not
looked at. Without such a quote a strict scanner refuses; a lenient one takes all that is left and
supplies the quote. -/
def takeString (strict : Bool) (s : Scanner) : Except LexError (Text × Scanner) :=
  let body := s.rest.tail.takeWhile (· != '"')
  match s.rest.tail.dropWhile (· != '"') with
  | quote :: after =>
    .ok (s.rest.take 1 ++ body ++ [quote], ⟨s.offset + body.length + 2, after⟩)
  | [] =>
    if strict then .error (.unterminatedString s.offset)
    else .ok (s.rest ++ ['"'], ⟨s.offset + s.rest.length, []⟩)

/-! ## What is left -/

@[simp]
theorem takeRun_append (p : Char → Bool) (s : Scanner) :
    (s.takeRun p).1 ++ (s.takeRun p).2.rest = s.rest :=
  List.takeWhile_append_dropWhile

theorem length_rest_of_takeString {strict : Bool} {s next : Scanner} {taken : Text}
    (hs : s.rest ≠ []) (h : s.takeString strict = .ok (taken, next)) :
    next.rest.length < s.rest.length := by
  obtain ⟨c, after, hc⟩ := List.exists_cons_of_ne_nil hs
  have hle : (after.dropWhile (· != '"')).length ≤ after.length :=
    (List.dropWhile_suffix _).length_le
  simp only [takeString, hc, List.tail_cons] at h
  split at h
  · next quote left hq =>
    rw [hq] at hle
    simp only [Except.ok.injEq, Prod.mk.injEq] at h
    rw [← h.2, hc]
    simp only [List.length_cons] at hle ⊢
    omega
  · split at h
    · simp at h
    · simp only [Except.ok.injEq, Prod.mk.injEq] at h
      rw [← h.2, hc]
      simp

end Scanner

/-! ## Questions to a scanner -/

/-- A question to a scanner, or a piece to take from it. -/
inductive Scanner.Move where
  | atEnd
  | peek
  | run (kind : CharClass)
  | string (strict : Bool)
  deriving DecidableEq, Repr

inductive Scanner.Answer where
  | flag (value : Bool)
  | text (taken : Text)
  | denied (cause : AccessError)
  | failed (cause : LexError)
  deriving DecidableEq, Repr

namespace Scanner

/-- Answer one move. A question and a refusal leave the scanner where it is. -/
def perform (s : Scanner) : Move → Answer × Scanner
  | .atEnd => (.flag s.atEnd, s)
  | .peek =>
    match s.peek? with
    | some c => (.text [c], s)
    | none => (.denied .pastText, s)
  | .run kind =>
    let (taken, next) := s.takeRun kind.holds
    (.text taken, next)
  | .string strict =>
    match s.takeString strict with
    | .ok (taken, next) => (.text taken, next)
    | .error cause => (.failed cause, s)

/-- Answer moves one after the other, each with the scanner after it. -/
def run (s : Scanner) (moves : List Move) : List (Answer × Scanner) :=
  session perform s moves

end Scanner

end SExpr
