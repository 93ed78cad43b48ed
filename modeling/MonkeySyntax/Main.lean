import MonkeySyntax.CommandLine.Run
import Std.Time.Format

/-!
Contract: the command as a program.

Owns: reading arguments, lines and files, writing to the two output streams, and
the exit status.

Does not own: any decision. Plans, prints and replies are made elsewhere.
-/

set_option autoImplicit false

namespace MonkeySyntax

namespace CommandLine

/-- The name under which the user is known to the system. -/
def userName : IO String := do
  for name in ["LOGNAME", "USER", "LNAME", "USERNAME"] do
    if let some user ← IO.getEnv name then
      if user ≠ "" then return user
  return "user"

/-- The present moment, for the log. -/
def timeStamp : IO String := do
  let moment ← Std.Time.PlainDateTime.now
  return moment.format "uuuu-MM-dd HH:mm:ss,SSS"

/-- What the system's complaint about a path amounts to. -/
def pathFault : IO.Error → PathFault
  | .noFileOrDirectory .. => .notFound
  | .inappropriateType _ 21 _ => .isAFolder
  | .inappropriateType .. => .notAFolder
  | .permissionDenied .. => .denied
  | .invalidArgument .. => .nameTooLong
  | _ => .unreadable

/-- The bytes of a file on the disk. -/
def readFile (path : String) : IO (Except PathFault (List UInt8)) := do
  if path.toList.contains '\x00' then return .error .zeroInPath
  try
    return .ok (← IO.FS.readBinFile path).toList
  catch complaint =>
    return .error (pathFault complaint)

/-- Takes turns with the user until the session is over. -/
partial def converseWithUser (settings : Repl.Settings) (logging : Bool) : IO Unit := do
  let output ← IO.getStdout
  output.putStr Repl.prompt
  output.flush
  let line ← (← IO.getStdin).getLine
  let input := if line.isEmpty then Repl.Input.endOfInput else Repl.Input.line line
  let reply := Repl.reply Repl.standardReader settings input
  if logging then
    for report in reply.logged do
      IO.eprint (logLine (← timeStamp) report.logText)
  output.putStr reply.printed
  match reply.following with
  | none => output.flush
  | some following => converseWithUser following logging

/-- Writes what the command leaves behind. -/
def deliver (outcome : Outcome) : IO UInt32 := do
  IO.eprint outcome.errors
  IO.print (String.join outcome.printed)
  return UInt32.ofNat outcome.status

/-- The time stamps of so many lines of the log. -/
def timeStamps (count : Nat) : IO (Nat → String) := do
  let stamps ← (List.range count).mapM fun _ => timeStamp
  return (stamps.getD · "")

/-- Does what was planned. -/
def execute : Plan → IO UInt32
  | .session settings logging => do
      if logging then IO.eprint (logLine (← timeStamp) "Verbose mode enabled")
      IO.print (greeting (← userName))
      converseWithUser settings logging
      return 0
  | .job job logging => do
      let bytes ←
        match job.path? with
        | none => pure (.error .notFound)
        | some path => readFile path
      let execution := job.execute fun _ => bytes
      deliver (jobOutcome (← timeStamps (execution.log.length + 1)) logging execution)
  | other => deliver (other.outcome ⟨"", fun _ => "", fun _ => .error .notFound, []⟩)

end CommandLine

end MonkeySyntax

/-- The program. -/
def main (arguments : List String) : IO UInt32 :=
  MonkeySyntax.CommandLine.execute (MonkeySyntax.CommandLine.planUnlessTested arguments)
