import MonkeySyntax.Repl.Evaluation

/-!
Contract: the print of one line of Monkey in a session, written out.

Owns:
- what is printed in each of the four cases: tokens, a tree, errors, and an error raised by the
  reader itself;
- that the evaluation of a line prints what its case says.

Does not own: how a line is read. A reader of lines may raise an error of its own.
-/

set_option autoImplicit false

namespace MonkeySyntax

namespace Repl

/-- What is printed for a line of Monkey under some settings. -/
inductive Prints (read : LineReader) (settings : Settings) (line : String) : String → Prop where
  /-- Each token, in the mode for them. -/
  | tokens (isMode : settings.mode = .tokens) :
      Prints read settings line
        (String.join ((tokenize line).map fun token =>
          "Token(" ++ token.kind.name ++ ", " ++ token.literal ++ ")" ++ "\n"))
  /-- The rendering of a line without errors, and its tree if trees are shown. -/
  | tree {parsed : Parsed} (otherMode : settings.mode ≠ .tokens) (returns : read line = .ok parsed)
      (noErrors : parsed.errors = []) :
      Prints read settings line
        (parsed.program.render ++ "\n" ++
          (if settings.verbose then "[ast] >>> " ++ parsed.program.record.oneLine ++ "\n" else ""))
  /-- The errors of a line, under a banner. -/
  | errors {parsed : Parsed} (otherMode : settings.mode ≠ .tokens)
      (returns : read line = .ok parsed) (hasErrors : parsed.errors ≠ []) :
      Prints read settings line
        (monkeyFace ++ "Woops! We ran into some monkey business here!\n parser errors:\n" ++
          String.join (parsed.errors.map fun message => "\t" ++ message ++ "\n"))
  /-- An account of what was raised in place of a parse. -/
  | raised {account : String} (otherMode : settings.mode ≠ .tokens)
      (raises : read line = .error account) :
      Prints read settings line ("[error] >>>\n" ++ account ++ "\n")

variable {read : LineReader} {settings : Settings} {line : String} {parsed : Parsed}

theorem printed_of_tokens (isMode : settings.mode = .tokens) :
    (evaluate read settings line).printed =
      String.join ((tokenize line).map fun token =>
        "Token(" ++ token.kind.name ++ ", " ++ token.literal ++ ")" ++ "\n") := by
  unfold evaluate
  rw [if_pos isMode]
  exact Lines.print_map _ _

theorem printed_of_noErrors (otherMode : settings.mode ≠ .tokens)
    (returns : read line = .ok parsed) (noErrors : parsed.errors = []) :
    (evaluate read settings line).printed =
      parsed.program.render ++ "\n" ++
        (if settings.verbose then "[ast] >>> " ++ parsed.program.record.oneLine ++ "\n"
          else "") := by
  unfold evaluate
  rw [if_neg otherMode, returns]
  simp only [parsedText, Parsed.strict_of_noErrors noErrors]

theorem printed_of_errors (otherMode : settings.mode ≠ .tokens)
    (returns : read line = .ok parsed) (hasErrors : parsed.errors ≠ []) :
    (evaluate read settings line).printed =
      monkeyFace ++ "Woops! We ran into some monkey business here!\n parser errors:\n" ++
        String.join (parsed.errors.map fun message => "\t" ++ message ++ "\n") := by
  unfold evaluate
  rw [if_neg otherMode, returns]
  simp only [parsedText, Parsed.strict_of_errors hasErrors, errorText, Lines.print_map]
  rfl

theorem printed_of_raised {account : String} (otherMode : settings.mode ≠ .tokens)
    (raises : read line = .error account) :
    (evaluate read settings line).printed = "[error] >>>\n" ++ account ++ "\n" := by
  unfold evaluate
  rw [if_neg otherMode, raises]
  rfl

/-- The evaluation of a line prints that, and nothing else is right. -/
theorem prints_iff {printed : String} :
    Prints read settings line printed ↔ printed = (evaluate read settings line).printed := by
  constructor
  · intro prints
    cases prints with
    | tokens isMode => exact (printed_of_tokens isMode).symm
    | tree otherMode returns noErrors =>
        exact (printed_of_noErrors otherMode returns noErrors).symm
    | errors otherMode returns hasErrors =>
        exact (printed_of_errors otherMode returns hasErrors).symm
    | raised otherMode raises => exact (printed_of_raised otherMode raises).symm
  · rintro rfl
    by_cases isMode : settings.mode = .tokens
    · rw [printed_of_tokens isMode]
      exact .tokens isMode
    cases isRead : read line with
    | error account =>
        rw [printed_of_raised isMode isRead]
        exact .raised isMode isRead
    | ok parsed =>
        by_cases noErrors : parsed.errors = []
        · rw [printed_of_noErrors isMode isRead noErrors]
          exact .tree isMode isRead noErrors
        · rw [printed_of_errors isMode isRead noErrors]
          exact .errors isMode isRead noErrors

end Repl

end MonkeySyntax
