import SExpr.Config
import SExpr.Text.Quoted

/-!
# Options of the command line

What can be asked for on the command line, and why a command line is refused. Refusals have one
wording each.
-/

namespace SExpr.CommandLine

/-! ## Switches -/

/-- A named option. -/
inductive Switch where
  | help
  | tokensOnly
  | json
  | strictStrings
  | maxDepth
  | debug
  deriving DecidableEq, Repr

namespace Switch

/-- All switches, in the order they are offered. -/
def all : List Switch :=
  [.help, .tokensOnly, .json, .strictStrings, .maxDepth, .debug]

def name : Switch → Text
  | .help => "--help".toList
  | .tokensOnly => "--tokens-only".toList
  | .json => "--json".toList
  | .strictStrings => "--strict-strings".toList
  | .maxDepth => "--max-depth".toList
  | .debug => "--debug".toList

/-- The one name that is short. -/
def shortHelp : Text :=
  "-h".toList

/-- All the names of a switch, for a message. -/
def names : Switch → Text
  | .help => shortHelp ++ ['/'] ++ name .help
  | s => s.name

def ofName? (s : Text) : Option Switch :=
  all.find? fun switch => switch.name == s

/-- The switches whose names start with the text. -/
def abbreviatedBy (s : Text) : List Switch :=
  all.filter fun switch => s.isPrefixOf switch.name

end Switch

/-! ## Options -/

/-- What a command line asks for. -/
structure Options where
  /-- The text to read; asked for when it is not given. -/
  expression? : Option Text := none
  config : Config := {}
  tokensOnly : Bool := false
  json : Bool := false
  debug : Bool := false
  deriving DecidableEq, Repr, Inhabited

/-- Turn a switch on. Those that are more than on or off change nothing here. -/
def Options.turnOn (o : Options) : Switch → Options
  | .tokensOnly => { o with tokensOnly := true }
  | .json => { o with json := true }
  | .strictStrings => { o with config := { o.config with strictStrings := true } }
  | .debug => { o with debug := true }
  | .help | .maxDepth => o

def Options.withMaxDepth (o : Options) (limit : Int) : Options :=
  { o with config := { o.config with maxDepth := limit } }

/-! ## Refusals -/

/-- Why a command line is refused. -/
inductive UsageError where
  | ambiguous (argument : Text) (candidates : List Switch)
  | unwantedValue (switch : Switch) (value : Text)
  | missingValue (switch : Switch)
  | notAnInteger (switch : Switch) (value : Text)
  | unrecognized (arguments : List Text)
  deriving DecidableEq, Repr

/-- The words for a refusal that concerns one switch. -/
def Switch.complaint (s : Switch) (what : Text) : Text :=
  "argument ".toList ++ s.names ++ ": ".toList ++ what

def UsageError.message : UsageError → Text
  | .ambiguous argument candidates =>
    "ambiguous option: ".toList ++ argument ++ " could match ".toList ++
      [',', ' '].intercalate (candidates.map Switch.name)
  | .unwantedValue s value =>
    s.complaint ("ignored explicit argument ".toList ++ Quoted.encode value)
  | .missingValue s => s.complaint "expected one argument".toList
  | .notAnInteger s value => s.complaint ("invalid int value: ".toList ++ Quoted.encode value)
  | .unrecognized arguments =>
    "unrecognized arguments: ".toList ++ [' '].intercalate arguments

end SExpr.CommandLine
