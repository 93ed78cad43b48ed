import MonkeySyntax.CommandLine.Arguments
import MonkeySyntax.Job
import MonkeySyntax.Repl.Session

/-!
Contract: what the command does with its arguments.

Owns:
- the plan that arguments lead to: a refusal, the help text, a session or a job,
  or nothing in a test run;
- the outcome of a plan: exit status, print and the text for the error stream.

Does not own: reading the disk, the keyboard and the clock. What they deliver, the
user's name and the time stamp of each line of the log, is given.
-/

set_option autoImplicit false

namespace MonkeySyntax

namespace CommandLine

/-- What the command is going to do. -/
inductive Plan where
  | refuse (fault : UsageFault)
  | help
  | session (settings : Repl.Settings) (logging : Bool)
  | job (job : Job) (logging : Bool)
  | nothing
deriving DecidableEq, Repr

/-- The plan for a request. Without a source there is nothing but a session. -/
def Request.plan (request : Request) : Plan :=
  match request.repl, request.source with
  | false, some source =>
      .job ⟨source, request.string, request.tokens, request.json⟩ request.verbose
  | _, _ =>
      .session ⟨if request.tokens then .tokens else .parse, request.verbose⟩ request.verbose

/-- The plan for some arguments. No arguments ask for a plain session. -/
def plan (arguments : List String) : Plan :=
  if arguments.isEmpty then .session .standard false
  else
    match interpret arguments with
    | .error fault => .refuse fault
    | .ok .help => .help
    | .ok (.request request) => request.plan

/-- The word by which a test run is known. -/
def testRunner : String := "pytest"

/-- Whether a text contains another one. -/
def contains (part : List Char) : List Char → Bool
  | [] => part.isEmpty
  | char :: others => part.isPrefixOf (char :: others) || contains part others

/-- Whether some argument gives away a test run. -/
def isTested (arguments : List String) : Bool :=
  arguments.any fun argument => contains testRunner.toList argument.toList

/-- The plan of the program, which has none in a test run. -/
def planUnlessTested (arguments : List String) : Plan :=
  if isTested arguments then .nothing else plan arguments

/-- What the command leaves behind. The print is cut at each prompt. -/
structure Outcome where
  status : Nat
  printed : List String
  errors : String
deriving DecidableEq, Repr

/-- What the command depends on besides its arguments. The lines of the log are stamped in
their order. -/
structure Surroundings where
  user : String
  stamps : Nat → String
  deliver : String → Except PathFault (List UInt8)
  inputs : List Repl.Input

/-- The words before a session. -/
def greeting (user : String) : String :=
  Lines.print
    ["Hello " ++ user ++ "! This is the Monkey programming language!",
      "Feel free to type in commands"]

/-- A line of the log. -/
def logLine (stamp text : String) : String :=
  stamp ++ " DEBUG " ++ text ++ "\n"

/-- The log as it is written, which is nothing unless it is asked for. -/
def logText (stamps : Nat → String) (logging : Bool) (lines : List String) : String :=
  if logging then
    String.join (("Verbose mode enabled" :: lines).mapIdx fun index => logLine (stamps index))
  else ""

/-- What the error stream tells of a failure. Errors of the text have a line
each. -/
def failureText : Job.Failure → String
  | .refused errors => "[error] >>>\n" ++ Lines.print (errors.map ("\t" ++ ·))
  | failure => "[error] >>> " ++ failure.message ++ "\n"

/-- What the error stream tells of faulty arguments. -/
def refusalText (fault : UsageFault) : String :=
  usage ++ "monkey: error: " ++ fault.message ++ "\n"

/-- The outcome of a job. -/
def jobOutcome (stamps : Nat → String) (logging : Bool) (execution : Job.Execution) : Outcome :=
  let log := logText stamps logging execution.log
  match execution.result with
  | .ok printed => ⟨0, [printed], log⟩
  | .error failure => ⟨1, [""], log ++ failureText failure⟩

/-- The outcome of a session. -/
def sessionOutcome (user : String) (stamps : Nat → String) (logging : Bool)
    (replies : List Repl.Reply) : Outcome :=
  let log := replies.flatMap fun reply => reply.logged.map Report.logText
  ⟨0, Repl.segments (greeting user) replies, logText stamps logging log⟩

/-- The outcome of a plan. -/
def Plan.outcome (surroundings : Surroundings) : Plan → Outcome
  | .refuse fault => ⟨2, [""], refusalText fault⟩
  | .help => ⟨0, [helpText], ""⟩
  | .session settings logging =>
      sessionOutcome surroundings.user surroundings.stamps logging
        (Repl.converse Repl.standardReader settings surroundings.inputs)
  | .job wanted logging =>
      jobOutcome surroundings.stamps logging (wanted.execute surroundings.deliver)
  | .nothing => ⟨0, [""], ""⟩

/-- The outcome of the command. -/
def run (surroundings : Surroundings) (arguments : List String) : Outcome :=
  (plan arguments).outcome surroundings

end CommandLine

end MonkeySyntax
