import MonkeySyntax.Json.Text
import MonkeySyntax.Program
import MonkeySyntax.Storage
import MonkeySyntax.Token.Listing
import MonkeySyntax.Tree.Record
import MonkeySyntax.Tree.Rendering

/-!
Contract: one run over one source.

Owns:
- what can be asked of a source, and where its text comes from;
- the print of a run, the lines it adds to a running log, and the ways it fails.

Does not own: options, exit status, and where the log goes.
-/

set_option autoImplicit false

namespace MonkeySyntax

/-- What is asked of a source: the source is the text itself or the path of a
file, and its tokens, its tree as JSON or the rendering of its tree is wanted. -/
structure Job where
  source : String
  isText : Bool
  tokens : Bool
  json : Bool
deriving DecidableEq, Repr

namespace Job

/-- Why a run prints nothing. -/
inductive Failure where
  /-- The path does not have the ending of a program. -/
  | notAProgram
  | unreadable (path : String) (fault : FileFault)
  /-- The text has errors. -/
  | refused (errors : List String)
  | abandoned (reason : Abort)
deriving DecidableEq, Repr

/-- The message of a failure. -/
def Failure.message : Failure → String
  | .notAProgram => "Only .monkey files are supported."
  | .unreadable path fault => fault.message path
  | .refused errors => errorSummary errors
  | .abandoned reason => reason.message

/-- A run: the lines for the log, and the print or the failure. -/
structure Execution where
  log : List String
  result : Except Failure String

/-- The ending of a program's path. -/
def extension : String := ".monkey"

/-- Whether a path has the ending of a program. -/
def isProgram (path : String) : Bool :=
  extension.toList.isSuffixOf path.toList

/-- The log line after a parse without errors. -/
def countText (parsed : Parsed) : String :=
  "parsed " ++ toString parsed.statements.length ++ " top-level statements"

/-- The run over a text. -/
def executeText (job : Job) (text : String) : Execution :=
  if job.tokens then ⟨[], .ok (tokenListing text)⟩
  else
    let parsed := parse text
    let log := parsed.reports.map Report.logText
    match parsed.abandoned, parsed.strict with
    | some reason, _ => ⟨log, .error (.abandoned reason)⟩
    | none, .error errors => ⟨log, .error (.refused errors)⟩
    | none, .ok root =>
        ⟨log ++ [countText parsed],
          .ok ((if job.json then root.record.indented else root.render) ++ "\n")⟩

/-- The path of the file that a run has to read, if it has to read one. -/
def path? (job : Job) : Option String :=
  if job.isText then none
  else if isProgram job.source then some job.source
  else none

/-- The run of a job, given how paths lead to bytes. -/
def execute (job : Job) (deliver : String → Except PathFault (List UInt8)) : Execution :=
  if job.isText then job.executeText job.source
  else if isProgram job.source then
    let reading := "reading " ++ job.source
    match textOfFile (deliver job.source) with
    | .error fault => ⟨[reading], .error (.unreadable job.source fault)⟩
    | .ok text =>
        let execution := job.executeText text
        ⟨reading :: execution.log, execution.result⟩
  else ⟨[], .error .notAProgram⟩

end Job

end MonkeySyntax
