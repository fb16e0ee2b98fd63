import SExpr.CommandLine.Options
import SExpr.ReadError
import SExpr.Text.Spelled

/-!
# Understanding a command line

First every argument is sorted out by itself: it is plain, or a switch with or without an attached
value, or starts like a switch and is none. A separator makes everything after it plain. Then the
arguments are taken from left to right. The first plain one is the expression; what nothing takes is
left over and refused at the end.
-/

namespace SExpr.CommandLine

/-! ## One argument -/

/-- What an argument is by itself. -/
inductive Argument where
  | plain (text : Text)
  | separator
  | switch (switch : Switch) (attached : Option Text)
  /-- The short name of the help switch, with something attached. -/
  | shortHelp (attached : Text)
  | unknown (text : Text)
  deriving DecidableEq, Repr

/-- The argument that separates switches from plain arguments. -/
def separatorText : Text :=
  ['-', '-']

/-- Is the argument a negative number, with or without a fraction? A line break may follow. -/
def isNegativeNumber : Text → Bool
  | '-' :: rest =>
    let number := if rest.getLast? = some '\n' then rest.dropLast else rest
    Numeral.isValid number ||
      match number.dropWhile isDecimal with
      | '.' :: fraction => Numeral.isValid fraction
      | _ => false
  | _ => false

/-- An argument cut at its first equals sign: the name before it and the value behind. -/
def cutAtEquals (s : Text) : Text × Option Text :=
  match s.dropWhile (· != '=') with
  | [] => (s, none)
  | _ :: value => (s.takeWhile (· != '='), some value)

namespace Argument

/-- An argument that names no switch in full: an abbreviation, a number, a text with a space, or
nothing known. -/
def abbreviated (s : Text) : Except UsageError Argument :=
  let (name, value) := cutAtEquals s
  let candidates := if separatorText.isPrefixOf s then Switch.abbreviatedBy name else []
  match candidates with
  | [found] => .ok (.switch found value)
  | _ :: _ :: _ => .error (.ambiguous s candidates)
  | [] =>
    if Switch.shortHelp.isPrefixOf s then .ok (.shortHelp (s.drop 2))
    else if isNegativeNumber s || s.contains ' ' then .ok (.plain s)
    else .ok (.unknown s)

/-- Sort out one argument that is not the separator. -/
def ofText (s : Text) : Except UsageError Argument :=
  match s with
  | '-' :: _ :: _ =>
    let (name, value) := cutAtEquals s
    if s = Switch.shortHelp then .ok (.switch .help none)
    else if name = Switch.shortHelp then .ok (.shortHelp (value.getD []))
    else
      match Switch.ofName? s, Switch.ofName? name with
      | some found, _ => .ok (.switch found none)
      | none, some found => .ok (.switch found value)
      | none, none => abbreviated s
  | _ => .ok (.plain s)

def ofTexts : List Text → Except UsageError (List Argument)
  | [] => .ok []
  | s :: rest =>
    if s = separatorText then .ok (.separator :: rest.map .plain)
    else do
      let argument ← ofText s
      let others ← ofTexts rest
      return argument :: others

end Argument

/-! ## The whole line -/

/-- What a command line comes to. -/
inductive Request where
  | help
  | refused (cause : UsageError)
  | run (options : Options)
  deriving DecidableEq, Repr

namespace Request

/-- What is attached to the short name of the help switch may only repeat it. -/
def ofShortHelp (attached : Text) : Request :=
  match attached, attached.dropWhile (· == 'h') with
  | _ :: _, [] => .help
  | _, other => .refused (.unwantedValue .help other)

/-- Take the arguments from left to right, with those left over so far, the last one first. -/
def ofArguments (o : Options) (leftOver : List Text) : List Argument → Request
  | [] =>
    match leftOver with
    | [] => .run o
    | _ :: _ => .refused (.unrecognized leftOver.reverse)
  | .plain s :: .separator :: rest =>
    match o.expression? with
    | none => ofArguments { o with expression? := some s } leftOver rest
    | some _ => ofArguments o (separatorText :: s :: leftOver) rest
  | .plain s :: rest =>
    match o.expression? with
    | none => ofArguments { o with expression? := some s } leftOver rest
    | some _ => ofArguments o (s :: leftOver) rest
  | .separator :: rest =>
    match o.expression? with
    | none => ofArguments o leftOver rest
    | some _ => ofArguments o (separatorText :: leftOver) rest
  | .unknown s :: rest => ofArguments o (s :: leftOver) rest
  | .shortHelp attached :: _ => ofShortHelp attached
  | .switch .maxDepth none :: .plain s :: rest =>
    match Spelled.integer? maxNumeralLength s with
    | some limit => ofArguments (o.withMaxDepth limit) leftOver rest
    | none => .refused (.notAnInteger .maxDepth s)
  | .switch .maxDepth none :: _ => .refused (.missingValue .maxDepth)
  | .switch .maxDepth (some s) :: rest =>
    match Spelled.integer? maxNumeralLength s with
    | some limit => ofArguments (o.withMaxDepth limit) leftOver rest
    | none => .refused (.notAnInteger .maxDepth s)
  | .switch s (some value) :: _ => .refused (.unwantedValue s value)
  | .switch .help none :: _ => .help
  | .switch s none :: rest => ofArguments (o.turnOn s) leftOver rest

/-- What a command line comes to. -/
def ofTexts (args : List Text) : Request :=
  match Argument.ofTexts args with
  | .error cause => .refused cause
  | .ok arguments => ofArguments {} [] arguments

end Request

end SExpr.CommandLine
