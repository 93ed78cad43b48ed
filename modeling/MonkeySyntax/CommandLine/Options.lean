import MonkeySyntax.Text.Lines

/-!
Contract: the options of the command and what they ask for.

Owns:
- the flags, with the names of each;
- the request that arguments add up to;
- the usage line and the help text.

Does not own: how arguments are read.
-/

set_option autoImplicit false

namespace MonkeySyntax

namespace CommandLine

/-- An option. None takes a value. -/
inductive Flag where
  | help
  | string
  | tokens
  | json
  | repl
  | verbose
deriving DecidableEq, Repr

namespace Flag

/-- The names of an option, the short one first. -/
def names : Flag → List String
  | .help => ["-h", "--help"]
  | .string => ["-s", "--string"]
  | .tokens => ["--tokens"]
  | .json => ["--json"]
  | .repl => ["--repl"]
  | .verbose => ["--verbose"]

/-- Every option, in the order of the help text. -/
def all : List Flag := [.help, .string, .tokens, .json, .repl, .verbose]

/-- Every name with its option. -/
def table : List (String × Flag) :=
  all.flatMap fun flag => flag.names.map fun name => (name, flag)

/-- The option of a name. -/
def ofName? (name : String) : Option Flag := table.lookup name

/-- How a message refers to an option. -/
def label (flag : Flag) : String := "/".intercalate flag.names

end Flag

/-- What the arguments ask for. -/
structure Request where
  source : Option String
  string : Bool
  tokens : Bool
  json : Bool
  repl : Bool
  verbose : Bool
deriving DecidableEq, Repr

namespace Request

/-- The request of no arguments. -/
def blank : Request := ⟨none, false, false, false, false, false⟩

/-- The request with an option added. Asking for help is no part of it. -/
def add (request : Request) : Flag → Request
  | .help => request
  | .string => { request with string := true }
  | .tokens => { request with tokens := true }
  | .json => { request with json := true }
  | .repl => { request with repl := true }
  | .verbose => { request with verbose := true }

end Request

/-- The line that shows how the command is used. -/
def usage : String :=
  "usage: monkey [-h] [-s] [--tokens] [--json] [--repl] [--verbose] [source]\n"

/-- The answer to a request for help. -/
def helpText : String :=
  usage ++ Lines.print
    ["",
      "positional arguments:",
      "  source        Filename or raw source (with -s)",
      "",
      "options:",
      "  -h, --help    show this help message and exit",
      "  -s, --string  Interpret source as literal string",
      "  --tokens      Print tokens instead of the tree",
      "  --json        Print the tree as JSON",
      "  --repl        Launch interactive REPL instead of parsing a source",
      "  --verbose     Verbose output"]

end CommandLine

end MonkeySyntax
