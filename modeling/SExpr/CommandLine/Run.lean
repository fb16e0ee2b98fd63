import SExpr.CommandLine.Arguments
import SExpr.Document
import SExpr.Reading
import SExpr.Value.Layout

/-!
# Running a command line

A request is answered by what is printed on the two channels and by an exit code: zero for a text
that was read, one for a text that was refused, two for a command line that was refused. A numeral
that cannot be converted at all ends the run without an answer.
-/

namespace SExpr.CommandLine

/-! ## Texts -/

def lines (parts : List Text) : Text :=
  parts.flatMap (· ++ ['\n'])

/-- What is printed to ask for an expression. -/
def prompt : Text :=
  "Enter a Lisp expression: ".toList

def usage : List Text :=
  ["usage: lispread [-h] [--tokens-only] [--json] [--strict-strings]".toList,
    "                [--max-depth MAX_DEPTH] [--debug]".toList,
    "                [expr]".toList]

/-- How the command is called, and what its options mean. -/
def helpText : List Text :=
  usage ++
    ["".toList,
      "Tokenize and parse an S-expression.".toList,
      "".toList,
      "positional arguments:".toList,
      "  expr                  expression to read; prompts on stdin when omitted".toList,
      "".toList,
      "options:".toList,
      "  -h, --help            show this help message and exit".toList,
      "  --tokens-only         stop after tokenizing".toList,
      "  --json                print a single JSON document".toList,
      "  --strict-strings      reject unterminated strings".toList,
      "  --max-depth MAX_DEPTH".toList,
      "  --debug".toList]

/-! ## Outcomes -/

/-- What a run prints and how it ends. -/
structure Outcome where
  exit : Nat
  stdout : Text
  stderr : Text
  deriving DecidableEq, Repr

/-- What is told on request about a text that has no tokens. -/
def refusalTrace : LexError → List Text
  | .unexpectedCharacter found position =>
    ["lispread.lexer: rejecting ".toList ++ Quoted.encode found ++ " at offset ".toList ++
      Numeral.ofInt position]
  | _ => []

/-- What is told on request about the tokens of a text. -/
def tokenTrace (src : Text) (tokens : List Token) : List Text :=
  ["lispread.lexer: tokenized ".toList ++ Numeral.ofNat src.length ++ " chars into ".toList ++
    Numeral.ofNat tokens.length ++ " tokens".toList]

/-- What is told on request about the value that tokens have, or have not. -/
def valueTrace (tokens : List Token) : Except ParseError Value × Cursor → List Text
  | (.ok _, cursor) =>
    if cursor.rest = [] then []
    else
      ["lispread.parser: ignoring ".toList ++ Numeral.ofNat cursor.rest.length ++
        " trailing tokens".toList]
  | (.error cause, cursor) =>
    ["lispread.parser: parse failed after ".toList ++ Numeral.ofNat cursor.index ++ " of ".toList ++
      Numeral.ofNat tokens.length ++ " tokens: ".toList ++ cause.message]

def document (tokens : List Token) (value? : Option Value) : Document :=
  .obj (("tokens".toList, .arr (tokens.map Token.document)) ::
    value?.toList.map fun v => ("value".toList, v.document))

def listing (tokens : List Token) (value? : Option Value) : List Text :=
  "Tokens:".toList :: (if tokens = [] then [] else [Token.listingOf tokens]) ++
    value?.toList.flatMap fun v => ["Parsed structure:".toList, v.render]

namespace Options

def accepted (o : Options) (trace : List Text) (tokens : List Token) (value? : Option Value) :
    Outcome where
  exit := 0
  stdout := lines (if o.json then [(document tokens value?).print] else listing tokens value?)
  stderr := lines (if o.debug then trace else [])

def refused (o : Options) (trace : List Text) (d : Diagnostic) : Outcome where
  exit := 1
  stdout := []
  stderr := lines ((if o.debug then trace else []) ++ ["error: ".toList ++ d.message])

/-- Read a text as the options say. -/
def execute (o : Options) (src : Text) : Except NumeralFault Outcome :=
  match tokenize o.config src with
  | .error cause => .ok (o.refused (refusalTrace cause) cause.diagnostic)
  | .ok tokens =>
    if o.tokensOnly then .ok (o.accepted (tokenTrace src tokens) tokens none)
    else
      let result := parseFrom o.config tokens
      let trace := tokenTrace src tokens ++ valueTrace tokens result
      match result.1 with
      | .ok v => .ok (o.accepted trace tokens (some v))
      | .error cause => cause.diagnostic?.map (o.refused trace)

end Options

/-! ## Requests -/

namespace Request

/-- Does the request ask for a line of input? -/
def needsInput : Request → Bool
  | .run o => o.expression?.isNone
  | _ => false

/-- Answer a request, given a line of input for the case that it is needed. -/
def answer (line : Text) : Request → Except NumeralFault Outcome
  | .help => .ok ⟨0, lines helpText, []⟩
  | .refused cause =>
    .ok ⟨2, [], lines (usage ++ ["lispread: error: ".toList ++ cause.message])⟩
  | .run o => o.execute (o.expression?.getD line)

end Request

/-- The first line of an input, without its end. -/
def firstLine (input : Text) : Text :=
  input.takeWhile fun c => c != '\n' && c != '\r'

/-- Run a command line on an input. What asks for a line is the first thing printed. -/
def run (args : List Text) (input : Text) : Except NumeralFault Outcome :=
  let request := Request.ofTexts args
  (request.answer (firstLine input)).map fun outcome =>
    if request.needsInput then { outcome with stdout := prompt ++ outcome.stdout } else outcome

end SExpr.CommandLine
