import MonkeySyntax.CommandLine.Run
import MonkeySyntax.Proofs.Job.Sources

/-!
Contract: the command over a text that is given as an argument.

Owns:
- the arguments that ask for a text, in any order, and the plan that they lead to;
- the lines of the log, the print, the failure and the exit status of such a run.

Does not own: what is asked of a file, and faulty arguments.

Main statement: the command reports exactly what the parse found, on its error stream and by
its exit status, and the log changes neither the print nor the status.
-/

set_option autoImplicit false

namespace MonkeySyntax

namespace CommandLine

/-! ### Names of options -/

namespace Flag

variable {flag : Flag} {name : String}

theorem ofName?_eq_some_iff : ofName? name = some flag ↔ name ∈ flag.names := by
  constructor
  · intro found
    obtain ⟨before, behind, divided, -⟩ := List.lookup_eq_some_iff.mp found
    have listed : (name, flag) ∈ table := by
      rw [divided]
      exact List.mem_append_right _ List.mem_cons_self
    obtain ⟨other, -, paired⟩ := List.mem_flatMap.mp listed
    obtain ⟨named, isName, same⟩ := List.mem_map.mp paired
    cases same
    exact isName
  · intro isName
    have all : ∀ flag ∈ Flag.all, ∀ name ∈ flag.names, ofName? name = some flag := by decide
    exact all flag (by cases flag <;> decide) name isName

theorem head?_of_ofName? (found : ofName? name = some flag) : name.toList.head? = some '-' := by
  have all : ∀ flag ∈ Flag.all, ∀ name ∈ flag.names, name.toList.head? = some '-' := by decide
  exact all flag (by cases flag <;> decide) name (ofName?_eq_some_iff.mp found)

/-- The options named among some arguments. -/
def among (arguments : List String) : List Flag := arguments.filterMap ofName?

theorem mem_among {arguments : List String} :
    flag ∈ among arguments ↔ ∃ name ∈ flag.names, name ∈ arguments := by
  unfold among
  simp only [List.mem_filterMap, ofName?_eq_some_iff]
  exact exists_congr fun _ => And.comm

end Flag

/-- Options set what they stand for, whatever their order. -/
theorem Request.foldl_add (flags : List Flag) (request : Request) :
    flags.foldl Request.add request =
      { source := request.source
        string := request.string || decide (.string ∈ flags)
        tokens := request.tokens || decide (.tokens ∈ flags)
        json := request.json || decide (.json ∈ flags)
        repl := request.repl || decide (.repl ∈ flags)
        verbose := request.verbose || decide (.verbose ∈ flags) } := by
  induction flags generalizing request with
  | nil => simp
  | cons flag flags inductionHypothesis =>
      rw [List.foldl_cons, inductionHypothesis]
      cases flag <;> simp [Request.add]

theorem Request.withSource_foldl (flags : List Flag) (request : Request) (source : Option String) :
    { flags.foldl Request.add request with source } =
      flags.foldl Request.add { request with source } := by
  rw [Request.foldl_add, Request.foldl_add]

/-! ### Sorting and reading -/

/-- An argument that does not look like an option, or is the name of one. -/
def IsSimple (argument : String) : Prop :=
  argument.toList.head? ≠ some '-' ∨ (Flag.ofName? argument).isSome = true

/-- An argument that is the name of an option, or plain. -/
def Word.ofArgument (argument : String) : Word :=
  match Flag.ofName? argument with
  | some flag => .option flag (isShort argument.toList) none
  | none => .plain argument

theorem Word.ofArgument_of_name {argument : String} {flag : Flag}
    (found : Flag.ofName? argument = some flag) :
    Word.ofArgument argument = .option flag (isShort argument.toList) none := by
  unfold Word.ofArgument
  rw [found]

theorem Word.ofArgument_ne_separator (argument : String) : Word.ofArgument argument ≠ .separator := by
  unfold Word.ofArgument
  split <;> exact Word.noConfusion

theorem ofName?_of_plain {argument : String} (isPlain : argument.toList.head? ≠ some '-') :
    Flag.ofName? argument = none := by
  cases found : Flag.ofName? argument with
  | none => rfl
  | some flag => exact absurd (Flag.head?_of_ofName? found) isPlain

theorem Word.ofArgument_of_plain {argument : String}
    (isPlain : argument.toList.head? ≠ some '-') : Word.ofArgument argument = .plain argument := by
  unfold Word.ofArgument
  rw [ofName?_of_plain isPlain]

theorem sortOne_eq {argument : String} (simple : IsSimple argument) :
    sortOne argument = .ok (Word.ofArgument argument) := by
  by_cases isPlain : argument.toList.head? ≠ some '-'
  · rw [Word.ofArgument_of_plain isPlain]
    exact if_pos isPlain
  · obtain ⟨flag, found⟩ := Option.isSome_iff_exists.mp (simple.resolve_left isPlain)
    unfold sortOne
    rw [Word.ofArgument_of_name found, if_neg isPlain, found]

theorem IsSimple.ne_separator {argument : String} (simple : IsSimple argument) :
    argument ≠ "--" := by
  rintro rfl
  exact absurd simple (by unfold IsSimple; decide)

/-- Names of options and plain arguments are sorted one by one. -/
theorem sort_eq {arguments : List String} (simple : ∀ argument ∈ arguments, IsSimple argument) :
    sort arguments = .ok (arguments.map Word.ofArgument) := by
  induction arguments with
  | nil => rfl
  | cons argument others inductionHypothesis =>
      have first := simple argument List.mem_cons_self
      have later := inductionHypothesis fun other listed =>
        simple other (List.mem_cons_of_mem _ listed)
      rw [sort, if_neg first.ne_separator, sortOne_eq first, later]
      rfl

/-- The names of options other than help are added to the request. -/
theorem Reading.read_names {names : List String} (others : List Word) (reading : Reading)
    (isName : ∀ name ∈ names, (Flag.ofName? name).isSome = true)
    (noHelp : .help ∉ Flag.among names) :
    reading.read (names.map Word.ofArgument ++ others) =
      (reading.addFlags (Flag.among names)).read others := by
  induction names generalizing reading with
  | nil => rfl
  | cons name names inductionHypothesis =>
      obtain ⟨flag, found⟩ := Option.isSome_iff_exists.mp (isName name List.mem_cons_self)
      have isAmong : Flag.among (name :: names) = flag :: Flag.among names :=
        List.filterMap_cons_some found
      rw [isAmong, List.mem_cons, not_or] at noHelp
      have notHelp : [flag].contains .help = false := by simpa using noHelp.1
      have later := inductionHypothesis (reading.addFlags [flag])
        (fun other listed => isName other (List.mem_cons_of_mem _ listed)) noHelp.2
      rw [List.map_cons, List.cons_append, Word.ofArgument_of_name found, isAmong]
      calc
        reading.read (.option flag (isShort name.toList) none ::
            (names.map Word.ofArgument ++ others)) =
          (reading.addFlags [flag]).read (names.map Word.ofArgument ++ others) := by
            rw [Reading.read]
            show (if [flag].contains .help then _ else _) = _
            rw [notHelp]
            rfl
        _ = ((reading.addFlags [flag]).addFlags (Flag.among names)).read others := later

/-- The first plain argument is the source. -/
theorem Reading.read_plain {reading : Reading} {others : List Word} (text : String)
    (notSeparator : .separator ∉ others) (untaken : reading.sourceTaken = false) :
    reading.read (.plain text :: others) = (reading.takeSource (some text)).read others := by
  cases others with
  | nil => simp [Reading.read, untaken]
  | cons word words =>
      cases word with
      | separator => exact absurd List.mem_cons_self notSeparator
      | plain => simp [Reading.read, untaken]
      | option => simp [Reading.read, untaken]
      | unknown => simp [Reading.read, untaken]

/-! ### Arguments that ask for a text -/

/-- One text, which does not look like an option, and options by which it is taken as it is, in
any order. -/
structure AskForText (source : String) (arguments : List String) : Prop where
  isPlain : source.toList.head? ≠ some '-'
  once : arguments.count source = 1
  others : ∀ argument ∈ arguments,
    argument = source ∨ argument ∈ ["-s", "--string", "--tokens", "--json", "--verbose"]
  asText : "-s" ∈ arguments ∨ "--string" ∈ arguments

namespace AskForText

variable {source : String} {arguments front back : List String}

theorem exists_flag {argument : String} (ask : AskForText source arguments)
    (listed : argument ∈ arguments) (other : argument ≠ source) :
    ∃ flag ∈ [Flag.string, .tokens, .json, .verbose], Flag.ofName? argument = some flag := by
  have all : ∀ argument ∈ ["-s", "--string", "--tokens", "--json", "--verbose"],
      ∃ flag ∈ [Flag.string, .tokens, .json, .verbose], Flag.ofName? argument = some flag := by
    decide
  exact all argument ((ask.others argument listed).resolve_left other)

/-- Neither help nor a session is asked for. -/
theorem mem_of_mem_among {flag : Flag} (ask : AskForText source arguments)
    (isAmong : flag ∈ Flag.among arguments) : flag ∈ [Flag.string, .tokens, .json, .verbose] := by
  obtain ⟨argument, listed, found⟩ := List.mem_filterMap.mp isAmong
  by_cases isSource : argument = source
  · rw [isSource, ofName?_of_plain ask.isPlain] at found
    cases found
  · obtain ⟨other, wanted, isOther⟩ := ask.exists_flag listed isSource
    rw [found] at isOther
    exact Option.some.inj isOther ▸ wanted

/-- The source stands between names of options. -/
theorem exists_parts (ask : AskForText source arguments) :
    ∃ before behind, arguments = before ++ source :: behind ∧
      (∀ name ∈ before ++ behind, (Flag.ofName? name).isSome = true) ∧
      Flag.among arguments = Flag.among before ++ Flag.among behind := by
  have isThere : source ∈ arguments := List.count_pos_iff.mp (ask.once ▸ Nat.one_pos)
  obtain ⟨before, behind, parts⟩ := List.append_of_mem isThere
  refine ⟨before, behind, parts, ?_, ?_⟩
  · intro name listed
    have counted := ask.once
    rw [parts, List.count_append, List.count_cons_self, ← Nat.add_assoc, ← List.count_append]
      at counted
    have notSource : name ≠ source := by
      rintro rfl
      have isCounted := List.count_pos_iff.mpr listed
      omega
    have isArgument : name ∈ arguments := by
      rw [parts]
      exact ((List.sublist_cons_self _ _).append_left before).subset listed
    obtain ⟨flag, -, found⟩ := ask.exists_flag isArgument notSource
    exact Option.isSome_of_eq_some found
  · unfold Flag.among
    rw [parts, List.filterMap_append, List.filterMap_cons_none (ofName?_of_plain ask.isPlain)]

theorem sort_eq (ask : AskForText source arguments) :
    sort arguments = .ok (arguments.map Word.ofArgument) := by
  apply CommandLine.sort_eq
  intro argument listed
  by_cases isSource : argument = source
  · exact Or.inl (isSource ▸ ask.isPlain)
  · obtain ⟨flag, -, found⟩ := ask.exists_flag listed isSource
    exact Or.inr (Option.isSome_of_eq_some found)

/-- The arguments are a request for the source with their options. -/
theorem interpret_eq (ask : AskForText source arguments) :
    interpret arguments = .ok (.request
      ((Flag.among arguments).foldl Request.add { Request.blank with source := some source })) := by
  obtain ⟨before, behind, parts, isName, isAmong⟩ := ask.exists_parts
  have noHelp : Flag.help ∉ Flag.among arguments := fun isAmong =>
    absurd (ask.mem_of_mem_among isAmong) (by decide)
  rw [isAmong, List.mem_append, not_or] at noHelp
  have notSeparator : .separator ∉ behind.map Word.ofArgument := by
    intro listed
    obtain ⟨argument, -, same⟩ := List.mem_map.mp listed
    exact Word.ofArgument_ne_separator argument same
  let reached := (Reading.start.addFlags (Flag.among before)).takeSource (some source)
  unfold interpret
  rw [ask.sort_eq]
  calc
    Reading.start.read (arguments.map Word.ofArgument) =
      Reading.start.read
        (before.map Word.ofArgument ++ .plain source :: behind.map Word.ofArgument) := by
        rw [parts, List.map_append, List.map_cons, Word.ofArgument_of_plain ask.isPlain]
    _ = (Reading.start.addFlags (Flag.among before)).read
        (.plain source :: behind.map Word.ofArgument) :=
      Reading.read_names _ _ (fun name listed => isName name (List.mem_append_left _ listed))
        noHelp.1
    _ = reached.read (behind.map Word.ofArgument ++ []) := by
      rw [List.append_nil]
      exact Reading.read_plain source notSeparator rfl
    _ = (reached.addFlags (Flag.among behind)).read [] :=
      Reading.read_names _ _ (fun name listed => isName name (List.mem_append_right _ listed))
        noHelp.2
    _ = .ok (.request ((Flag.among behind).foldl Request.add
        { (Flag.among before).foldl Request.add Request.blank with source := some source })) := rfl
    _ = _ := by rw [Request.withSource_foldl, ← List.foldl_append, ← isAmong]

/-- The plan is a job over the text. -/
theorem plan_eq (ask : AskForText source arguments) :
    plan arguments =
      .job ⟨source, true, decide ("--tokens" ∈ arguments), decide ("--json" ∈ arguments)⟩
        (decide ("--verbose" ∈ arguments)) := by
  have named : ∀ flag name, flag.names = [name] →
      decide (flag ∈ Flag.among arguments) = decide (name ∈ arguments) := by
    intro flag name isName
    rw [decide_eq_decide, Flag.mem_among, isName]
    simp
  have isText : Flag.string ∈ Flag.among arguments := by
    rw [Flag.mem_among]
    rcases ask.asText with short | long
    · exact ⟨"-s", by decide, short⟩
    · exact ⟨"--string", by decide, long⟩
  have noSession : Flag.repl ∉ Flag.among arguments := fun isAmong =>
    absurd (ask.mem_of_mem_among isAmong) (by decide)
  have nonempty : arguments.isEmpty = false := by
    cases arguments with
    | nil => exact absurd ask.once (by simp)
    | cons => rfl
  unfold plan
  rw [nonempty, ask.interpret_eq, Request.foldl_add]
  simp [Request.plan, Request.blank, isText, noSession, named .tokens "--tokens" rfl,
    named .json "--json" rfl, named .verbose "--verbose" rfl]

/-- The log may be asked for at any place. -/
theorem insert_verbose (ask : AskForText source (front ++ back)) :
    AskForText source (front ++ "--verbose" :: back) where
  isPlain := ask.isPlain
  once := by
    have other : "--verbose" ≠ source := by
      rintro rfl
      exact ask.isPlain (by decide)
    rw [List.count_append, List.count_cons_of_ne other, ← List.count_append]
    exact ask.once
  others := by
    intro argument listed
    rcases List.mem_append.mp listed with inFront | inBack
    · exact ask.others argument (List.mem_append_left _ inFront)
    · rcases List.mem_cons.mp inBack with rfl | inBack
      · exact Or.inr (by decide)
      · exact ask.others argument (List.mem_append_right _ inBack)
  asText := by
    have more : front ++ back ⊆ front ++ "--verbose" :: back :=
      ((List.sublist_cons_self _ _).append_left front).subset
    exact ask.asText.imp (@more _) (@more _)

end AskForText

/-! ### Runs over a text -/

theorem executeText_of_tokens {job : Job} (text : String) (tokens : job.tokens = true) :
    job.executeText text = ⟨[], .ok (tokenListing text)⟩ :=
  if_pos tokens

/-- A text without errors is shown, and its statements are counted in the log. -/
theorem executeText_of_accepted {job : Job} {text : String} (noTokens : job.tokens = false)
    (noErrors : (parse text).errors = []) :
    job.executeText text =
      ⟨[Job.countText (parse text)],
        .ok ((if job.json then (parse text).program.record.indented
          else (parse text).program.render) ++ "\n")⟩ := by
  have noReports : (parse text).reports = [] := List.map_eq_nil_iff.mp noErrors
  unfold Job.executeText
  rw [noTokens, if_neg Bool.false_ne_true]
  simp only [abandoned_parse, Parsed.strict_of_noErrors noErrors, noReports]
  rfl

/-- A text with errors is refused for them, and the log tells of each. -/
theorem executeText_of_refused {job : Job} {text : String} (noTokens : job.tokens = false)
    (hasErrors : (parse text).errors ≠ []) :
    job.executeText text =
      ⟨(parse text).reports.map Report.logText, .error (.refused (parse text).errors)⟩ := by
  unfold Job.executeText
  rw [noTokens, if_neg Bool.false_ne_true]
  simp only [abandoned_parse, Parsed.strict_of_errors hasErrors]

/-- Each line of the log has the message of one report behind the token in view. -/
theorem map_logText (reports : List Report) :
    reports.map Report.logText =
      List.zipWith (fun place message => "parse error at " ++ place.display ++ ": " ++ message)
        (reports.map Report.current) (reports.map Report.message) := by
  rw [List.zipWith_map, List.zipWith_self]
  rfl

/-- Every line of the log that is asked for has its stamp. -/
theorem logText_decide (stamps : Nat → String) (wanted : Prop) [Decidable wanted]
    (texts : List String) :
    logText stamps (decide wanted) texts =
      if wanted then
        String.join (("Verbose mode enabled" :: texts).mapIdx fun index text =>
          stamps index ++ " DEBUG " ++ text ++ "\n")
      else "" := by
  unfold logText
  simp only [decide_eq_true_eq]
  rfl

/-- What is logged does not show in the status or the print. -/
theorem jobOutcome_logging (stamps : Nat → String) (logging other : Bool)
    (execution : Job.Execution) :
    (jobOutcome stamps logging execution).status = (jobOutcome stamps other execution).status ∧
      (jobOutcome stamps logging execution).printed =
        (jobOutcome stamps other execution).printed := by
  unfold jobOutcome
  cases execution.result <;> exact ⟨rfl, rfl⟩

namespace AskForText

variable {source : String} {arguments : List String} (surroundings : Surroundings)

theorem run_eq (ask : AskForText source arguments) :
    run surroundings arguments =
      jobOutcome surroundings.stamps (decide ("--verbose" ∈ arguments))
        (Job.executeText
          ⟨source, true, decide ("--tokens" ∈ arguments), decide ("--json" ∈ arguments)⟩
          source) := by
  unfold run
  rw [ask.plan_eq]
  rfl

theorem run_of_accepted (ask : AskForText source arguments) (noTokens : "--tokens" ∉ arguments)
    (noErrors : (parse source).errors = []) :
    run surroundings arguments =
      ⟨0, [(if "--json" ∈ arguments then (parse source).program.record.indented
          else (parse source).program.render) ++ "\n"],
        logText surroundings.stamps (decide ("--verbose" ∈ arguments))
          [Job.countText (parse source)]⟩ := by
  rw [ask.run_eq, executeText_of_accepted (decide_eq_false noTokens) noErrors]
  simp only [jobOutcome, decide_eq_true_eq]

theorem run_of_refused (ask : AskForText source arguments) (noTokens : "--tokens" ∉ arguments)
    (hasErrors : (parse source).errors ≠ []) :
    run surroundings arguments =
      ⟨1, [""], logText surroundings.stamps (decide ("--verbose" ∈ arguments))
          ((parse source).reports.map Report.logText) ++
        failureText (.refused (parse source).errors)⟩ := by
  rw [ask.run_eq, executeText_of_refused (decide_eq_false noTokens) hasErrors]
  rfl

theorem run_insert_verbose {front back : List String} (ask : AskForText source (front ++ back)) :
    (run surroundings (front ++ "--verbose" :: back)).status =
        (run surroundings (front ++ back)).status ∧
      (run surroundings (front ++ "--verbose" :: back)).printed =
        (run surroundings (front ++ back)).printed := by
  have same : ∀ name : String, name ≠ "--verbose" →
      decide (name ∈ front ++ "--verbose" :: back) = decide (name ∈ front ++ back) := by
    intro name other
    rw [decide_eq_decide]
    simp [other]
  rw [ask.run_eq, ask.insert_verbose.run_eq, same "--tokens" (by decide),
    same "--json" (by decide)]
  exact jobOutcome_logging _ _ _ _

end AskForText

/-- The command over a text shows its tokens, errors or not, one on a line, or else what was
parsed: the tree of a text without errors, with status 0, or nothing but the errors, with
status 1 and a line for each behind a heading. The log has one line for each error, with the
token in view and the error's message, and asking for it changes neither print nor status. -/
theorem run_text (surroundings : Surroundings) {source : String} {arguments : List String}
    (ask : AskForText source arguments) :
    let outcome := run surroundings arguments
    let root := (parse source).program
    let messages := (parse source).errors
    let places := (parse source).reports.map Report.current
    let tokenText := fun token : Token =>
      "Token(" ++ token.kind.name ++ ", " ++ token.literal ++ ")"
    let log := fun texts : List String =>
      if "--verbose" ∈ arguments then
        String.join (("Verbose mode enabled" :: texts).mapIdx fun index text =>
          surroundings.stamps index ++ " DEBUG " ++ text ++ "\n")
      else ""
    ("--tokens" ∈ arguments →
        outcome =
          ⟨0, [String.join ((tokenize source).map fun token => tokenText token ++ "\n")], log []⟩) ∧
      ("--tokens" ∉ arguments →
        (outcome.status = 0 ↔ messages = []) ∧
        (messages = [] → outcome =
          ⟨0, [(if "--json" ∈ arguments then root.record.indented else root.render) ++ "\n"],
            log ["parsed " ++ toString (parse source).statements.length ++
              " top-level statements"]⟩) ∧
        (messages ≠ [] → places.length = messages.length ∧
          outcome = ⟨1, [""],
            log (List.zipWith
                (fun place message => "parse error at " ++ tokenText place ++ ": " ++ message)
                places messages) ++
              ("[error] >>>\n" ++
                String.join (messages.map fun message => "\t" ++ message ++ "\n"))⟩)) ∧
      ∀ front back, arguments = front ++ back →
        let logged := run surroundings (front ++ "--verbose" :: back)
        logged.status = outcome.status ∧ logged.printed = outcome.printed := by
  intro outcome root messages places tokenText log
  have isLog : logText surroundings.stamps (decide ("--verbose" ∈ arguments)) = log :=
    funext fun texts => logText_decide _ _ texts
  refine ⟨?tokens, ?parsed, ?logged⟩
  case tokens =>
    intro tokens
    have isOutcome : outcome = _ := ask.run_eq surroundings
    rw [isOutcome, executeText_of_tokens source (decide_eq_true tokens), ← isLog,
      ← Lines.print_map]
    rfl
  case parsed =>
    intro noTokens
    have accepted := ask.run_of_accepted surroundings noTokens
    have refused := ask.run_of_refused surroundings noTokens
    rw [isLog] at accepted refused
    refine ⟨⟨?_, fun noErrors => congrArg Outcome.status (accepted noErrors)⟩, accepted, ?_⟩
    · intro succeeded
      by_contra hasErrors
      have failed : outcome.status = 1 := congrArg Outcome.status (refused hasErrors)
      omega
    · intro hasErrors
      refine ⟨(List.length_map _).trans (List.length_map _).symm, ?_⟩
      have isOutcome := refused hasErrors
      rw [map_logText, failureText, Lines.print_map] at isOutcome
      exact isOutcome
  case logged =>
    rintro front back rfl
    exact ask.run_insert_verbose surroundings

/-- A text with three errors, between its options and with a log, and the tokens of the same
text. -/
theorem run_text_refused :
    let text := "let x 1; ("
    let surroundings : Surroundings :=
      ⟨"monkey", fun index => "12:00:0" ++ toString index, fun _ => .error .notFound, []⟩
    let arguments := ["--json", text, "--verbose", "-s"]
    let listing := ["-s", "--tokens", text]
    (AskForText text arguments ∧ "--tokens" ∉ arguments ∧ (parse text).errors ≠ []) ∧
      run surroundings arguments = ⟨1, [""],
        "12:00:00 DEBUG Verbose mode enabled\n" ++
          "12:00:01 DEBUG parse error at Token(IDENT, x): " ++
            "expected next token to be =, got INT instead\n" ++
          "12:00:02 DEBUG parse error at Token(EOF, ): no prefix parse function for EOF found\n" ++
          "12:00:03 DEBUG parse error at Token(EOF, ): " ++
            "expected next token to be ), got EOF instead\n" ++
          "[error] >>>\n" ++
          "\texpected next token to be =, got INT instead\n" ++
          "\tno prefix parse function for EOF found\n" ++
          "\texpected next token to be ), got EOF instead\n"⟩ ∧
      (AskForText text listing ∧ "--tokens" ∈ listing) ∧
      run surroundings listing = ⟨0,
        ["Token(LET, let)\nToken(IDENT, x)\nToken(INT, 1)\nToken(SEMICOLON, ;)\n" ++
          "Token(LPAREN, ()\nToken(EOF, )\n"], ""⟩ := by
  intro text surroundings arguments listing
  have ask : AskForText text arguments := ⟨by decide, by decide, by decide, by decide⟩
  have noTokens : "--tokens" ∉ arguments := by decide
  have hasErrors : (parse text).errors ≠ [] := by decide +kernel
  have refused := ((run_text surroundings ask).2.1 noTokens).2.2 hasErrors
  have asksForTokens : AskForText text listing := ⟨by decide, by decide, by decide, by decide⟩
  have tokens : "--tokens" ∈ listing := by decide
  have listed := (run_text surroundings asksForTokens).1 tokens
  refine ⟨⟨ask, noTokens, hasErrors⟩, refused.2.trans ?_, ⟨asksForTokens, tokens⟩,
    listed.trans ?_⟩
  · decide +kernel
  · decide +kernel

end CommandLine

end MonkeySyntax
