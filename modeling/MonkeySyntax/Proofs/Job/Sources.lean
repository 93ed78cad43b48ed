import MonkeySyntax.Job
import MonkeySyntax.Proofs.Parser.Unplaced
import MonkeySyntax.Proofs.Token.LineEnds

/-!
Contract: a run over a file and a run over its text.

Owns:
- what a run shows of a text, and that the result of every run over a text is that;
- that texts with the same lexemes are shown alike;
- the text that is read from a file into which it was written.

Main statement: a run over a file comes to the same as a run over the text in it, although
only the first one changes line ends.
-/

set_option autoImplicit false

namespace MonkeySyntax

variable {first second : String}

/-! ### What a run shows -/

/-- What is shown of a text, its tokens or its tree in JSON or rendered, or else its errors. -/
def shown (tokens json : Bool) (text : String) : Except (List String) String :=
  if tokens then .ok (tokenListing text)
  else
    (parse text).strict.map fun root =>
      (if json then root.record.indented else root.render) ++ "\n"

/-- A run over a text shows it, and fails only for its errors. -/
theorem result_executeText (job : Job) (text : String) :
    (job.executeText text).result =
      (shown job.tokens job.json text).mapError Job.Failure.refused := by
  unfold Job.executeText shown
  by_cases tokens : job.tokens = true
  · rw [if_pos tokens, if_pos tokens]
    rfl
  · rw [if_neg tokens, if_neg tokens]
    simp only [abandoned_parse]
    cases (parse text).strict <;> rfl

theorem tokenListing_of_lexemes
    (same : (tokenize first).map Token.lexeme = (tokenize second).map Token.lexeme) :
    tokenListing first = tokenListing second := by
  have displays := congrArg
    (List.map fun (kind, literal) => (⟨kind, literal, 0, 0⟩ : Token).display) same
  rw [List.map_map, List.map_map] at displays
  exact congrArg Lines.print displays

/-- The positions of tokens are not shown. -/
theorem shown_of_lexemes
    (same : (tokenize first).map Token.lexeme = (tokenize second).map Token.lexeme)
    (tokens json : Bool) : shown tokens json first = shown tokens json second := by
  obtain ⟨sameTree, sameErrors⟩ := program_unplaced_of_lexeme same
  have sameRecord : (parse first).program.record = (parse second).program.record := by
    rw [← Node.record_unplaced, sameTree, Node.record_unplaced]
  have sameText : (parse first).program.render = (parse second).program.render := by
    rw [← Node.render_unplaced, sameTree, Node.render_unplaced]
  have sameCount : (parse first).reports.isEmpty = (parse second).reports.isEmpty := by
    have counts := congrArg List.isEmpty sameErrors
    unfold Parsed.errors at counts
    rwa [List.isEmpty_map, List.isEmpty_map] at counts
  unfold shown Parsed.strict
  rw [tokenListing_of_lexemes same, sameCount, sameErrors]
  cases (parse second).reports.isEmpty with
  | false => rfl
  | true =>
      simp only [if_true, Except.map]
      rw [sameRecord, sameText]

/-! ### Texts in files -/

/-- What is read from a file is the text written into it, with newlines as line ends. -/
theorem textOfFile_encode (text : String) :
    textOfFile (.ok (Utf8.encode text.toList)) =
      .ok (String.ofList (Lines.unify text.toList)) := by
  unfold textOfFile textOfBytes
  change (Except.mapError FileFault.encoding
    (Utf8.decode (Utf8.encode text.toList) >>= fun chars =>
      pure (String.ofList (Lines.unify chars))))
      = _
  rw [Utf8.decode_encode]
  rfl

/-- A run over a file in which a text was stored and a run over the text itself, of which the
same is wanted, have the same result: both print the same, or both refuse the text for the same
errors. The file's line ends are changed to newlines, which moves tokens but changes none. -/
theorem result_execute_file (path text : String) (tokens json : Bool)
    (deliver : String → Except PathFault (List UInt8)) (isProgram : Job.isProgram path = true)
    (delivered : deliver path = .ok (Utf8.encode text.toList)) :
    ∃ result : Except (List String) String,
      ((⟨path, false, tokens, json⟩ : Job).execute deliver).result =
          result.mapError Job.Failure.refused ∧
        ((⟨text, true, tokens, json⟩ : Job).execute deliver).result =
          result.mapError Job.Failure.refused := by
  refine ⟨shown tokens json text, ?_, ?_⟩
  · unfold Job.execute
    rw [if_neg Bool.false_ne_true, if_pos isProgram, delivered, textOfFile_encode]
    change (Job.executeText _ _).result = _
    rw [result_executeText, shown_of_lexemes (lexemes_unify text)]
  · unfold Job.execute
    rw [if_pos rfl, result_executeText]

/-- A program with line ends of every kind, in a file of its own. -/
theorem result_execute_file_returns :
    let text := "let x\r\n=\ra ==\n\r1\r;"
    let folder : Folder := [("a.monkey", .file (Utf8.encode text.toList))]
    Job.isProgram "a.monkey" = true ∧
      folder.bytes "a.monkey" = .ok (Utf8.encode text.toList) ∧
      ((⟨"a.monkey", false, false, false⟩ : Job).execute folder.bytes).result =
        .ok "let x = (a == 1);\n" ∧
      ((⟨text, true, false, false⟩ : Job).execute folder.bytes).result =
        .ok "let x = (a == 1);\n" := by
  intro text folder
  have isProgram : Job.isProgram "a.monkey" = true := by decide +kernel
  have leads : ∀ bytes, Folder.bytes [("a.monkey", .file bytes)] "a.monkey" = .ok bytes :=
    fun _ => rfl
  have delivered := leads (Utf8.encode text.toList)
  obtain ⟨result, ofFile, ofText⟩ :=
    result_execute_file "a.monkey" text false false folder.bytes isProgram delivered
  have isShown : ((⟨text, true, false, false⟩ : Job).execute folder.bytes).result =
      .ok "let x = (a == 1);\n" := by decide +kernel
  exact ⟨isProgram, delivered, ofFile.trans (ofText.symm.trans isShown), isShown⟩

end MonkeySyntax
