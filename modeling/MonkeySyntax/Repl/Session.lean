import MonkeySyntax.Repl.Evaluation
import MonkeySyntax.Text.Blank

/-!
Contract: a session, in which a user and the program take turns.

Owns:
- what the user can do at a prompt, and the reply to it;
- the replies of a whole session, and what is printed between two prompts.

Does not own: the reading of lines. A session is a function of what the user
does.
-/

set_option autoImplicit false

namespace MonkeySyntax

namespace Repl

/-- What happens at a prompt. -/
inductive Input where
  | line (text : String)
  | interrupt
  | endOfInput
deriving DecidableEq, Repr

/-- A reply: what is printed, what is reported to the log, and the settings of
the next prompt unless the session is over. -/
structure Reply where
  printed : String
  logged : List Report
  following : Option Settings
deriving DecidableEq, Repr

/-- The text that asks for a line. -/
def prompt : String := ">> "

/-- The last words of a session. -/
def farewell : String := "Exiting Monkey REPL.\n"

/-- The words that end a session. -/
def exitWords : List String := ["exit", "quit"]

/-- The reply to an input. White space around a line does not count. -/
def reply (read : LineReader) (settings : Settings) : Input → Reply
  | .line text =>
      let line := Blank.strip text
      if exitWords.contains line then ⟨farewell, [], none⟩
      else if line = "" then ⟨"", [], some settings⟩
      else
        match settings.command? line with
        | some (changed, notice) => ⟨notice, [], some changed⟩
        | none =>
            let evaluation := evaluate read settings line
            ⟨evaluation.printed, evaluation.logged, some settings⟩
  | .interrupt => ⟨"\n" ++ farewell, [], none⟩
  | .endOfInput => ⟨"\n" ++ farewell, [], none⟩

/-- The replies of a session to the inputs that it reads. It reads none after the
one that ends it, and meets the end of the input behind the last one. -/
def converse (read : LineReader) (settings : Settings) : List Input → List Reply
  | [] => [reply read settings .endOfInput]
  | input :: later =>
      let answer := reply read settings input
      match answer.following with
      | none => [answer]
      | some changed => answer :: converse read changed later

/-- A session's print from one prompt to the next. -/
def Reply.text (reply : Reply) : String :=
  reply.printed ++ (if reply.following.isSome then prompt else "")

/-- What a session prints up to its first prompt, between its prompts, and behind
the last one. -/
def segments (opening : String) (replies : List Reply) : List String :=
  (opening ++ prompt) :: replies.map Reply.text

/-- Why a session cannot start. -/
inductive StartFault where
  | unknownMode (name : String)
deriving DecidableEq, Repr

/-- The message of a fault. -/
def StartFault.message : StartFault → String
  | .unknownMode name => "Unknown REPL mode: " ++ name

/-- The replies of a session that starts with some settings. -/
def start (read : LineReader) (settings : Settings) (inputs : List Input) :
    Except StartFault (List Reply) :=
  match settings.mode with
  | .other name => .error (.unknownMode name)
  | _ => .ok (converse read settings inputs)

end Repl

end MonkeySyntax
