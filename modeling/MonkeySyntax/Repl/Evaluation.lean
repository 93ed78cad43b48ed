import MonkeySyntax.Json.Text
import MonkeySyntax.Program
import MonkeySyntax.Repl.Settings
import MonkeySyntax.Token.Listing
import MonkeySyntax.Tree.Record
import MonkeySyntax.Tree.Rendering

/-!
Contract: what a session prints for one line of Monkey.

Owns:
- the banner over the errors of a line;
- the print of a parsed line, of its tokens, and of a parse that crashed.

Does not own: the order of lines in a session.
-/

set_option autoImplicit false

namespace MonkeySyntax

namespace Repl

/-- A face to go with bad news. -/
def monkeyFace : String :=
  Lines.print
    ["            __,__",
      "   .--.  .-\"     \"-.  .--.",
      "  / .. \\/  .-. .-.  \\/ .. \\",
      " | |  '|  /   Y   \\  |'  | |",
      " | \\   \\  \\ 0 | 0 /  /   / |",
      "  \\ '- ,\\.-'''''''-./, -' /",
      "   ''-' /_   ^ ^   _\\ '-''",
      "       |  \\._   _./  |",
      "       \\   \\ '~' /   /",
      "        '._ '-=-' _.'",
      "           '-----'"]

/-- The errors of a line, under a banner. -/
def errorText (errors : List String) : String :=
  monkeyFace
    ++ Lines.print ["Woops! We ran into some monkey business here!", " parser errors:"]
    ++ Lines.print (errors.map ("\t" ++ ·))

/-- The print of a parsed line: its errors, or else the rendering of its tree, and
the tree itself if that is asked for. -/
def parsedText (verbose : Bool) (parsed : Parsed) : String :=
  match parsed.strict with
  | .ok root =>
      root.render ++ "\n"
        ++ (if verbose then "[ast] >>> " ++ root.record.oneLine ++ "\n" else "")
  | .error errors => errorText errors

/-- The print of a parse that crashed, with an account of the crash. -/
def crashText (account : String) : String :=
  "[error] >>>\n" ++ account ++ "\n"

/-- How a session parses a line. It may crash, and then gives an account. -/
abbrev LineReader := String → Except String Parsed

/-- The parse of a line by the standard rules. -/
def standardReader : LineReader := fun line =>
  let parsed := parse line
  match parsed.abandoned with
  | none => .ok parsed
  | some reason => .error (reason.message ++ "\n")

/-- What a line leads to: a print, and reports for the log. -/
structure Evaluation where
  printed : String
  logged : List Report
deriving DecidableEq, Repr

/-- Evaluates a line. Only the listing of tokens works without a parse. -/
def evaluate (read : LineReader) (settings : Settings) (line : String) : Evaluation :=
  if settings.mode = .tokens then ⟨tokenListing line, []⟩
  else
    match read line with
    | .ok parsed => ⟨parsedText settings.verbose parsed, parsed.reports⟩
    | .error account => ⟨crashText account, []⟩

end Repl

end MonkeySyntax
