import Mathlib.Logic.Function.Iterate
import MonkeySyntax.Proofs.Repl.Evaluation
import MonkeySyntax.Repl.Session

/-!
Contract: a session, said line by line.

Owns:
- which inputs end a session, and which are commands;
- the settings that the commands so far have made, and the answer to an input under settings;
- the reply to one input, and from it the replies of a whole session.

Does not own: what is printed for a line of Monkey.

Main statement: a session answers each input as if it stood alone, under settings that only the
commands in front of it have made.
-/

set_option autoImplicit false

namespace MonkeySyntax

namespace Repl

variable {read : LineReader}

/-! ### Inputs -/

namespace Input

/-- Whether a session is over with an input. -/
def Ends : Input → Prop
  | .line text => Blank.strip text = "exit" ∨ Blank.strip text = "quit"
  | .interrupt => True
  | .endOfInput => True

instance : DecidablePred Ends
  | .line text =>
      inferInstanceAs (Decidable (Blank.strip text = "exit" ∨ Blank.strip text = "quit"))
  | .interrupt => .isTrue trivial
  | .endOfInput => .isTrue trivial

theorem not_ends_of_blank {text : String} (isBlank : Blank.strip text = "") :
    ¬(line text).Ends := by
  change ¬(Blank.strip text = "exit" ∨ Blank.strip text = "quit")
  rw [isBlank]
  decide

/-- The mode that an input asks for. -/
def mode? : Input → Option Mode
  | .line text =>
      if Blank.strip text = ":tokens" then some .tokens
      else if Blank.strip text = ":parse" then some .parse
      else none
  | .interrupt => none
  | .endOfInput => none

theorem mode?_line (text : String) :
    (line text).mode? =
      if Blank.strip text = ":tokens" then some .tokens
      else if Blank.strip text = ":parse" then some .parse
      else none :=
  rfl

/-- Whether an input switches the showing of trees, in letters of any case. -/
def Switches : Input → Prop
  | .line text => (Blank.strip text).toLower = "verbose-mode"
  | .interrupt => False
  | .endOfInput => False

instance : DecidablePred Switches
  | .line text => inferInstanceAs (Decidable ((Blank.strip text).toLower = "verbose-mode"))
  | .interrupt => .isFalse id
  | .endOfInput => .isFalse id

theorem not_switches_of_strip {text word : String} (isWord : Blank.strip text = word)
    (isOther : word.toLower ≠ "verbose-mode") : ¬(line text).Switches := by
  intro switches
  subst isWord
  exact isOther switches

theorem not_switches_of_mode {text : String} {mode : Mode}
    (asked : (line text).mode? = some mode) : ¬(line text).Switches := by
  rw [mode?_line] at asked
  split at asked
  next isTokens => exact not_switches_of_strip isTokens (by decide +kernel)
  next =>
    split at asked
    next isParse => exact not_switches_of_strip isParse (by decide +kernel)
    next => cases asked

theorem mode?_of_switches {text : String} (switches : (line text).Switches) :
    (line text).mode? = none := by
  cases asked : (line text).mode? with
  | none => rfl
  | some mode => exact absurd switches (not_switches_of_mode asked)

/-- Whether an input changes the settings. -/
def isCommand (input : Input) : Bool :=
  input.mode?.isSome || decide input.Switches

theorem isCommand_eq_false_iff {input : Input} :
    input.isCommand = false ↔ input.mode? = none ∧ ¬input.Switches := by
  simp [isCommand]

theorem isCommand_of_mode {text : String} {mode : Mode}
    (asked : (line text).mode? = some mode) : (line text).isCommand = true := by
  simp [isCommand, asked]

theorem isCommand_of_switches {text : String} (switches : (line text).Switches) :
    (line text).isCommand = true := by
  simp [isCommand, switches]

theorem isCommand_eq_false_of_strip {text word : String} (isWord : Blank.strip text = word)
    (listed : word ∈ ["exit", "quit", ""]) : (line text).isCommand = false := by
  have all : ∀ word ∈ ["exit", "quit", ""],
      word ≠ ":tokens" ∧ word ≠ ":parse" ∧ word.toLower ≠ "verbose-mode" := by decide +kernel
  obtain ⟨notTokens, notParse, isOther⟩ := all word listed
  subst isWord
  refine isCommand_eq_false_iff.mpr ⟨?_, not_switches_of_strip rfl isOther⟩
  rw [mode?_line, if_neg notTokens, if_neg notParse]

/-- A command neither ends a session nor is blank. -/
theorem goesOn_of_isCommand {text : String} (isCommand : (line text).isCommand = true) :
    ¬(line text).Ends ∧ Blank.strip text ≠ "" := by
  have isOther : ∀ word ∈ ["exit", "quit", ""], Blank.strip text ≠ word := by
    intro word listed isWord
    rw [isCommand_eq_false_of_strip isWord listed] at isCommand
    cases isCommand
  exact ⟨fun ends => ends.elim (isOther _ (by decide)) (isOther _ (by decide)),
    isOther _ (by decide)⟩

end Input

/-! ### Settings -/

/-- The settings after some inputs. The last mode that was asked for holds, and the showing of
trees has been switched once for each time it was asked for. -/
def settingsAfter (settings : Settings) (inputs : List Input) : Settings where
  mode := (inputs.filterMap Input.mode?).getLastD settings.mode
  verbose := Bool.not^[inputs.countP fun input => input.Switches] settings.verbose

theorem settingsAfter_cons (settings : Settings) (input : Input) (later : List Input) :
    settingsAfter settings (input :: later) =
      settingsAfter (settingsAfter settings [input]) later := by
  unfold settingsAfter
  congr 1
  · rw [List.filterMap_cons]
    cases isMode : input.mode? with
    | none => rw [List.filterMap_cons, isMode]; rfl
    | some mode => rw [List.filterMap_cons, isMode, List.getLastD_cons]; rfl
  · by_cases switches : input.Switches
    · simp [switches]
    · simp [switches]

theorem settingsAfter_singleton (settings : Settings) (input : Input) :
    settingsAfter settings [input] =
      ⟨input.mode?.getD settings.mode,
        if input.Switches then !settings.verbose else settings.verbose⟩ := by
  unfold settingsAfter
  congr 1
  · rw [List.filterMap_cons]
    cases input.mode? <;> rfl
  · by_cases switches : input.Switches <;> simp [switches]

/-- Only commands change the settings. -/
theorem settingsAfter_filter (settings : Settings) (inputs : List Input) :
    settingsAfter settings (inputs.filter Input.isCommand) = settingsAfter settings inputs := by
  have modes : (fun input : Input => if input.isCommand then input.mode? else none) =
      Input.mode? := by
    funext input
    cases isMode : input.mode? <;> simp [Input.isCommand, isMode]
  have switches : (fun input : Input => decide input.Switches && input.isCommand) =
      fun input => decide input.Switches := by
    funext input
    by_cases switches : input.Switches <;> simp [Input.isCommand, switches]
  unfold settingsAfter
  rw [List.filterMap_filter, List.countP_filter, modes]
  simp only [switches]

/-- What a command does to the settings, and the notice that answers it. -/
theorem command?_strip (settings : Settings) (text : String) :
    settings.command? (Blank.strip text) =
      match (Input.line text).mode? with
      | some mode => some (⟨mode, settings.verbose⟩, "[mode] >>> " ++ mode.name ++ "\n")
      | none =>
          if (Input.line text).Switches then
            some (⟨settings.mode, !settings.verbose⟩,
              "[mode] >>> Verbose mode " ++ (if settings.verbose then "OFF" else "ON") ++ "\n")
          else none := by
  have lowered :
      Settings.togglesVerbose (Blank.strip text) = decide (Input.line text).Switches := by
    rw [Bool.eq_iff_iff, decide_eq_true_iff, Settings.togglesVerbose, beq_iff_eq,
      ← String.toList_map, String.toList_inj]
    rfl
  have shown : (if (!settings.verbose) = true then "ON" else "OFF") =
      if settings.verbose = true then "OFF" else "ON" := by
    cases settings.verbose <;> rfl
  unfold Settings.command? Settings.verboseNotice
  rw [Input.mode?_line]
  by_cases isTokens : Blank.strip text = ":tokens"
  · rw [if_pos isTokens, if_pos isTokens]
    rfl
  · rw [if_neg isTokens, if_neg isTokens]
    by_cases isParse : Blank.strip text = ":parse"
    · rw [if_pos isParse, if_pos isParse]
      rfl
    · rw [if_neg isParse, if_neg isParse]
      simp only [lowered, decide_eq_true_eq, shown]

/-! ### Answers -/

/-- What a session under some settings prints for an input. -/
inductive Answered (read : LineReader) (settings : Settings) : Input → String → Prop where
  /-- A word that ends the session. -/
  | left {text : String} (isWord : Blank.strip text = "exit" ∨ Blank.strip text = "quit") :
      Answered read settings (.line text) "Exiting Monkey REPL.\n"
  | interrupted : Answered read settings .interrupt "\nExiting Monkey REPL.\n"
  | exhausted : Answered read settings .endOfInput "\nExiting Monkey REPL.\n"
  | blank {text : String} (isBlank : Blank.strip text = "") :
      Answered read settings (.line text) ""
  /-- A mode that is asked for. -/
  | mode {text : String} {mode : Mode} (asked : (Input.line text).mode? = some mode) :
      Answered read settings (.line text) ("[mode] >>> " ++ mode.name ++ "\n")
  /-- The showing of trees, if it is switched. -/
  | verbose {text : String} (switches : (Input.line text).Switches) :
      Answered read settings (.line text)
        ("[mode] >>> Verbose mode " ++ (if settings.verbose then "OFF" else "ON") ++ "\n")
  /-- A line of Monkey. -/
  | evaluated {text printed : String} (goesOn : ¬(Input.line text).Ends)
      (notBlank : Blank.strip text ≠ "") (notCommand : (Input.line text).isCommand = false)
      (prints : Prints read settings (Blank.strip text) printed) :
      Answered read settings (.line text) printed

section Replies

variable {settings : Settings} {text : String}

/-- The reply to a line, by what the line asks for. -/
theorem reply_line :
    reply read settings (.line text) =
      if (Input.line text).Ends then ⟨"Exiting Monkey REPL.\n", [], none⟩
      else if Blank.strip text = "" then ⟨"", [], some settings⟩
      else
        match (Input.line text).mode? with
        | some mode =>
            ⟨"[mode] >>> " ++ mode.name ++ "\n", [], some ⟨mode, settings.verbose⟩⟩
        | none =>
            if (Input.line text).Switches then
              ⟨"[mode] >>> Verbose mode " ++ (if settings.verbose then "OFF" else "ON") ++ "\n", [],
                some ⟨settings.mode, !settings.verbose⟩⟩
            else
              ⟨(evaluate read settings (Blank.strip text)).printed,
                (evaluate read settings (Blank.strip text)).logged, some settings⟩ := by
  have ends : (exitWords.contains (Blank.strip text) = true) = (Input.line text).Ends := by
    simp [exitWords, Input.Ends]
  unfold reply
  simp only [ends, command?_strip]
  cases (Input.line text).mode? with
  | some mode => rfl
  | none => by_cases switches : (Input.line text).Switches <;> simp only [switches] <;> rfl

/-- A reply prints the answer to its input, and nothing else is one. -/
theorem answered_iff {input : Input} {printed : String} :
    Answered read settings input printed ↔ printed = (reply read settings input).printed := by
  constructor
  · intro answered
    cases answered with
    | interrupted => rfl
    | exhausted => rfl
    | @left text isWord =>
        have ends : (Input.line text).Ends := isWord
        rw [reply_line, if_pos ends]
    | blank isBlank =>
        rw [reply_line, if_neg (Input.not_ends_of_blank isBlank), if_pos isBlank]
    | mode asked =>
        obtain ⟨goesOn, notBlank⟩ := Input.goesOn_of_isCommand (Input.isCommand_of_mode asked)
        rw [reply_line, if_neg goesOn, if_neg notBlank, asked]
    | verbose switches =>
        obtain ⟨goesOn, notBlank⟩ := Input.goesOn_of_isCommand (Input.isCommand_of_switches switches)
        rw [reply_line, if_neg goesOn, if_neg notBlank, Input.mode?_of_switches switches,
          if_pos switches]
    | evaluated goesOn notBlank notCommand prints =>
        obtain ⟨notAsked, notSwitches⟩ := Input.isCommand_eq_false_iff.mp notCommand
        rw [reply_line, if_neg goesOn, if_neg notBlank, notAsked, if_neg notSwitches]
        exact prints_iff.mp prints
  · rintro rfl
    cases input with
    | interrupt => exact .interrupted
    | endOfInput => exact .exhausted
    | line text =>
        rw [reply_line]
        by_cases ends : (Input.line text).Ends
        · rw [if_pos ends]
          exact .left ends
        by_cases isBlank : Blank.strip text = ""
        · rw [if_neg ends, if_pos isBlank]
          exact .blank isBlank
        rw [if_neg ends, if_neg isBlank]
        cases asked : (Input.line text).mode? with
        | some mode => exact .mode asked
        | none =>
            by_cases switches : (Input.line text).Switches
            · simp only [if_pos switches]
              exact .verbose switches
            · simp only [if_neg switches]
              exact .evaluated ends isBlank (Input.isCommand_eq_false_iff.mpr ⟨asked, switches⟩)
                (prints_iff.mpr rfl)

/-- A reply leads to the next prompt, under the settings behind its input, unless the input ends
the session. -/
theorem following_reply (read : LineReader) (settings : Settings) (input : Input) :
    (reply read settings input).following =
      if input.Ends then none else some (settingsAfter settings [input]) := by
  cases input with
  | interrupt => rfl
  | endOfInput => rfl
  | line text =>
      rw [reply_line, settingsAfter_singleton]
      by_cases ends : (Input.line text).Ends
      · rw [if_pos ends, if_pos ends]
      rw [if_neg ends, if_neg ends]
      by_cases isBlank : Blank.strip text = ""
      · obtain ⟨notAsked, notSwitches⟩ := Input.isCommand_eq_false_iff.mp
          (Input.isCommand_eq_false_of_strip isBlank (by decide))
        rw [if_pos isBlank, notAsked, if_neg notSwitches]
        rfl
      rw [if_neg isBlank]
      cases asked : (Input.line text).mode? with
      | some mode =>
          simp only [if_neg (Input.not_switches_of_mode asked)]
          rfl
      | none =>
          by_cases switches : (Input.line text).Switches
          · simp only [if_pos switches]
            rfl
          · simp only [if_neg switches]
            rfl

end Replies

/-! ### Sessions -/

theorem exists_ends (inputs : List Input) :
    ∃ before last, (before ++ [last]) <+: (inputs ++ [.endOfInput]) ∧
      (∀ input ∈ before, ¬input.Ends) ∧ last.Ends := by
  induction inputs with
  | nil => exact ⟨[], .endOfInput, List.prefix_rfl, by simp, trivial⟩
  | cons input later inductionHypothesis =>
      by_cases ends : input.Ends
      · exact ⟨[], input, ⟨later ++ [.endOfInput], rfl⟩, by simp, ends⟩
      · obtain ⟨before, last, isPrefix, goOn, lastEnds⟩ := inductionHypothesis
        exact ⟨input :: before, last, (List.prefix_cons_inj input).mpr isPrefix,
          List.forall_mem_cons.mpr ⟨ends, goOn⟩, lastEnds⟩

/-- Of the inputs of a session only the last one ends it. -/
theorem ends_iff_of_append {before earlier later : List Input} {last input : Input}
    (goOn : ∀ input ∈ before, ¬input.Ends) (ends : last.Ends)
    (isPlace : before ++ [last] = earlier ++ input :: later) : input.Ends ↔ later = [] := by
  rcases List.eq_nil_or_concat later with rfl | ⟨others, final, rfl⟩
  · obtain ⟨-, isLast⟩ := List.append_inj' isPlace rfl
    cases isLast
    exact iff_of_true ends rfl
  · rw [List.concat_eq_append, ← List.cons_append, ← List.append_assoc] at isPlace
    obtain ⟨isBefore, -⟩ := List.append_inj' isPlace rfl
    exact iff_of_false (goOn input (by simp [isBefore])) (by simp)

/-- A session goes on up to the first input that ends it, and replies to each under the settings
that those in front of it have made. -/
theorem converse_eq_mapIdx {before : List Input} {last : Input}
    (goOn : ∀ input ∈ before, ¬input.Ends) (ends : last.Ends) (settings : Settings)
    (inputs : List Input) (isPrefix : (before ++ [last]) <+: (inputs ++ [.endOfInput])) :
    converse read settings inputs =
      (before ++ [last]).mapIdx fun index input =>
        reply read (settingsAfter settings ((before ++ [last]).take index)) input := by
  induction before generalizing settings inputs with
  | nil =>
      cases inputs with
      | nil =>
          obtain ⟨rfl, -⟩ := List.cons_prefix_cons.mp isPrefix
          rfl
      | cons input later =>
          obtain ⟨rfl, -⟩ := List.cons_prefix_cons.mp isPrefix
          unfold converse
          simp only [following_reply read settings last, ends, if_true]
          rfl
  | cons first before inductionHypothesis =>
      rw [List.forall_mem_cons] at goOn
      cases inputs with
      | nil =>
          obtain ⟨rfl, -⟩ := List.cons_prefix_cons.mp isPrefix
          exact absurd trivial goOn.1
      | cons input later =>
          obtain ⟨rfl, laterPrefix⟩ := List.cons_prefix_cons.mp isPrefix
          unfold converse
          simp only [following_reply read settings first, goOn.1, if_false]
          rw [inductionHypothesis goOn.2 (settingsAfter settings [first]) later laterPrefix,
            List.cons_append, List.mapIdx_cons]
          refine congrArg (_ :: List.mapIdx · _) (funext fun index => funext fun input => ?_)
          rw [List.take_succ_cons, ← settingsAfter_cons settings first]

/-- A session that starts in one of the two modes takes turns with the user up to the first input
that ends it, and has no part in what is behind that one. It asks for every input with a prompt,
and prints the one answer to it under the settings that the commands in front of it have made,
whatever other lines stand there. -/
theorem start_eq_ok_of_offered (read : LineReader) (settings : Settings) (inputs : List Input)
    (offered : settings.mode = .parse ∨ settings.mode = .tokens) :
    ∃ before last replies,
      (before ++ [last]) <+: (inputs ++ [.endOfInput]) ∧
        (∀ input ∈ before, ¬input.Ends) ∧ last.Ends ∧
        start read settings inputs = .ok replies ∧
        (∀ others, (before ++ [last]) <+: (others ++ [.endOfInput]) →
          start read settings others = .ok replies) ∧
        (segments "" replies).length = before.length + 2 ∧
        (segments "" replies).head? = some ">> " ∧
        ∀ earlier input later, before ++ [last] = earlier ++ input :: later →
          ∃ printed,
            (segments "" replies)[earlier.length + 1]? =
                some (printed ++ if later = [] then "" else ">> ") ∧
              ∀ others, others.filter Input.isCommand = earlier.filter Input.isCommand →
                ∀ text, Answered read (settingsAfter settings others) input text ↔
                  text = printed := by
  obtain ⟨before, last, isPrefix, goOn, ends⟩ := exists_ends inputs
  have starts : ∀ others, (before ++ [last]) <+: (others ++ [.endOfInput]) →
      start read settings others = .ok ((before ++ [last]).mapIdx fun index input =>
        reply read (settingsAfter settings ((before ++ [last]).take index)) input) := by
    intro others isPrefix
    rw [← converse_eq_mapIdx goOn ends settings others isPrefix]
    unfold start
    rcases offered with isMode | isMode <;> rw [isMode]
  refine ⟨before, last, _, isPrefix, goOn, ends, starts inputs isPrefix, starts, ?_, rfl, ?_⟩
  · simp [segments]
  · intro earlier input later isPlace
    refine ⟨(reply read (settingsAfter settings earlier) input).printed, ?_, ?_⟩
    · have isSegment :
          (segments "" ((before ++ [last]).mapIdx fun index input =>
              reply read (settingsAfter settings ((before ++ [last]).take index)) input))[
            earlier.length + 1]? =
            some (reply read (settingsAfter settings earlier) input).text := by
        rw [isPlace]
        simp [segments]
      rw [isSegment, Reply.text, following_reply]
      simp only [ends_iff_of_append goOn ends isPlace]
      split <;> rfl
    · intro others sameCommands text
      rw [← settingsAfter_filter settings others, sameCommands, settingsAfter_filter]
      exact answered_iff

/-- A session with commands, a blank line, a line that raises an error and one with errors, which
is interrupted before its last line. -/
theorem start_eq_ok_of_offered_raised :
    let read : LineReader := fun line =>
      if line = "boom" then .error "the reader went away\n" else standardReader line
    let before : List Input := [.line ":tokens", .line " let\t", .line "", .line "Verbose-MODE",
      .line ":parse", .line "boom", .line "(", .line "-x"]
    let inputs := before ++ [.interrupt, .line "exit"]
    let crashed := "[error] >>>\nthe reader went away\n\n"
    let shown :=
      [">> ", "[mode] >>> tokens\n>> ", "Token(LET, let)\nToken(EOF, )\n>> ", ">> ",
        "[mode] >>> Verbose mode ON\n>> ", "[mode] >>> parse\n>> ", crashed ++ ">> ",
        "            __,__\n" ++
          "   .--.  .-\"     \"-.  .--.\n" ++
          "  / .. \\/  .-. .-.  \\/ .. \\\n" ++
          " | |  '|  /   Y   \\  |'  | |\n" ++
          " | \\   \\  \\ 0 | 0 /  /   / |\n" ++
          "  \\ '- ,\\.-'''''''-./, -' /\n" ++
          "   ''-' /_   ^ ^   _\\ '-''\n" ++
          "       |  \\._   _./  |\n" ++
          "       \\   \\ '~' /   /\n" ++
          "        '._ '-=-' _.'\n" ++
          "           '-----'\n" ++
          "Woops! We ran into some monkey business here!\n parser errors:\n" ++
          "\tno prefix parse function for EOF found\n" ++
          "\texpected next token to be ), got EOF instead\n>> ",
        "(-x)\n[ast] >>> \x7b\"kind\": \"Program\", \"statements\": [" ++
          "\x7b\"kind\": \"ExpressionStatement\", \"expression\": " ++
          "\x7b\"kind\": \"PrefixExpression\", \"operator\": \"-\", \"right\": " ++
          "\x7b\"kind\": \"Identifier\", \"value\": \"x\"\x7d\x7d\x7d]\x7d\n>> ",
        "\nExiting Monkey REPL.\n"]
    (Settings.standard.mode = .parse ∨ Settings.standard.mode = .tokens) ∧
      ∃ replies, start read .standard inputs = .ok replies ∧ segments "" replies = shown ∧
        (∀ others, (before ++ [.interrupt]) <+: (others ++ [.endOfInput]) →
          start read .standard others = .ok replies) ∧
        ∀ others,
          others.filter Input.isCommand =
            [.line ":tokens", .line "Verbose-MODE", .line ":parse"] →
          ∀ text, Answered read (settingsAfter .standard others) (.line "boom") text ↔
            text = crashed := by
  intro read before inputs crashed shown
  have offered : Settings.standard.mode = .parse ∨ Settings.standard.mode = .tokens := .inl rfl
  obtain ⟨begun, last, replies, isPrefix, -, -, starts, sameReplies, length, -, answered⟩ :=
    start_eq_ok_of_offered read .standard inputs offered
  obtain rfl : converse read .standard inputs = replies := Except.ok.inj starts
  have isShown : segments "" (converse read .standard inputs) = shown := by decide +kernel
  rw [isShown] at length
  -- What was printed tells how many inputs were read, and so which.
  have isLength : (begun ++ [last]).length = 9 := by
    rw [List.length_append]
    exact (Nat.succ.inj length).symm
  have isRead : begun ++ [last] = before ++ [.interrupt] := by
    rw [List.prefix_iff_eq_take.mp isPrefix, isLength]
    rfl
  obtain ⟨printed, isSegment, onlyAnswer⟩ := answered (before.take 5) (.line "boom")
    [.line "(", .line "-x", .interrupt] isRead
  rw [isShown] at isSegment
  have isCrashed : crashed = printed := (String.append_left_inj ">> ").mp (Option.some.inj isSegment)
  refine ⟨offered, _, starts, isShown, fun others => isRead ▸ sameReplies others, ?_⟩
  intro others sameCommands
  rw [isCrashed]
  exact onlyAnswer others (sameCommands.trans (by decide +kernel))

end Repl

end MonkeySyntax
