import MonkeySyntax.Proofs.Job.Sources
import MonkeySyntax.Proofs.Json.Printing
import MonkeySyntax.Proofs.Repl.Evaluation
import MonkeySyntax.Proofs.Tree.Recording

/-!
Contract: the texts in which the tree of a source is shown as JSON.

Owns: the indented text that a run prints, and the text on one line that a session prints behind
the rendering.

Main statement: each of the two texts tells the tree's JSON value, and they are the same but for
spaces and newlines.
-/

set_option autoImplicit false

namespace MonkeySyntax

/-- Whether the tree of a source is shown as two texts: the one by a run over the source, or over
a file of it, that is asked for JSON, and the other by a session that shows trees. -/
structure ShowsTree (source indented oneLine : String) : Prop where
  run (deliver : String → Except PathFault (List UInt8)) :
    ((⟨source, true, false, true⟩ : Job).execute deliver).result = .ok (indented ++ "\n")
  runFile (path : String) (deliver : String → Except PathFault (List UInt8)) :
    Job.isProgram path = true → textOfFile (deliver path) = .ok source →
      ((⟨path, false, false, true⟩ : Job).execute deliver).result = .ok (indented ++ "\n")
  session (settings : Repl.Settings) :
    settings.mode ≠ .tokens → settings.verbose = true →
      (Repl.evaluate Repl.standardReader settings source).printed =
        (parse source).program.render ++ "\n" ++ ("[ast] >>> " ++ oneLine ++ "\n")

theorem showsTree_of_noErrors {source : String} (noErrors : (parse source).errors = []) :
    ShowsTree source (parse source).program.record.indented
      (parse source).program.record.oneLine := by
  have isShown : shown false true source =
      .ok ((parse source).program.record.indented ++ "\n") := by
    rw [shown, Parsed.strict_of_noErrors noErrors]
    rfl
  constructor
  case run =>
    intro deliver
    rw [Job.execute, if_pos rfl, result_executeText, isShown]
    rfl
  case runFile =>
    intro path deliver isProgram isStored
    rw [Job.execute, if_neg Bool.false_ne_true, if_pos isProgram]
    simp only [isStored, result_executeText, isShown]
    rfl
  case session =>
    intro settings notTokens isVerbose
    have returns : Repl.standardReader source = .ok (parse source) := by
      simp only [Repl.standardReader, abandoned_parse]
    rw [Repl.printed_of_noErrors notTokens returns noErrors, if_pos isVerbose]

/-- The trees of texts without errors are shown as texts that tell their JSON values, whether
they are indented or on one line. The texts of one tree are the same but for spaces and newlines,
of which the one on one line has only spaces. -/
theorem tree_texts_tell_records (first second : String) (noErrors : (parse first).errors = [])
    (noErrorsToo : (parse second).errors = []) :
    ∃ indented oneLine indentedToo oneLineToo : String,
      ShowsTree first indented oneLine ∧ ShowsTree second indentedToo oneLineToo ∧
        (indented = indentedToo ↔
          (parse first).program.record = (parse second).program.record) ∧
        (oneLine = oneLineToo ↔
          (parse first).program.record = (parse second).program.record) ∧
        Json.without [' ', '\n'] indented.toList = Json.without [' '] oneLine.toList ∧
        Json.without [' ', '\n'] indentedToo.toList = Json.without [' '] oneLineToo.toList :=
  ⟨_, _, _, _, showsTree_of_noErrors noErrors, showsTree_of_noErrors noErrorsToo,
    Json.indented_inj, Json.oneLine_inj, Json.without_indented _, Json.without_indented _⟩

/-- Two spellings of one program, with a missing alternative, empty lists and a zero in front of a
number. Both texts of it are the same. -/
theorem tree_texts_tell_records_respelled :
    let first := "if (x) \x7b \x7d g(-1, fn() \x7b \x7d)"
    let second := "if(x)\x7b\x7d;g(-01,fn()\x7b\x7d);"
    (parse first).errors = [] ∧ (parse second).errors = [] ∧
      ∃ indented oneLine : String,
        ShowsTree first indented oneLine ∧ ShowsTree second indented oneLine ∧
          Json.without [' ', '\n'] indented.toList = Json.without [' '] oneLine.toList := by
  intro first second
  have noErrors : (parse first).errors = [] := by decide +kernel
  have noErrorsToo : (parse second).errors = [] := by decide +kernel
  have sameRecord : (parse first).program.record = (parse second).program.record :=
    Node.record_eq_iff.mpr (by decide +kernel)
  obtain ⟨indented, oneLine, indentedToo, oneLineToo, shows, showsToo, tells, tellsToo, same, -⟩ :=
    tree_texts_tell_records first second noErrors noErrorsToo
  obtain rfl := tells.mpr sameRecord
  obtain rfl := tellsToo.mpr sameRecord
  exact ⟨noErrors, noErrorsToo, indented, oneLine, shows, showsToo, same⟩

end MonkeySyntax
