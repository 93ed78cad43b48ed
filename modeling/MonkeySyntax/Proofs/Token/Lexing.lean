import MonkeySyntax.Proofs.Token.Streaming
import MonkeySyntax.Token.Lexer

/-!
Contract: what a lexer keeps true of its state, whatever it is asked for and in which order.

Owns:
- the invariant of the state, which says every part of it by the text and the position;
- that every call leads on by reading characters, so that one step keeps it for all calls;
- the cursor on what a lexer has not read, and that both read the same;
- that the tokens of a text are those that a lexer gives one after the other.

The line of a newline is left only when the newline is. So the line and the column are those of
the character under examination, and past the end the column counts on.
-/

set_option autoImplicit false

namespace MonkeySyntax

/-- Where the last newline in front of a position stands. Where there is none, it is taken to
stand directly in front of the text. -/
inductive LastNewline (text : List Char) (position : Nat) : Int → Prop where
  | none (absent : '\n' ∉ text.take position) : LastNewline text position (-1)
  | some {index : Nat} (isBefore : index < position) (isNewline : text[index]? = .some '\n')
      (isLast : ∀ later, index < later → later < position → text[later]? ≠ .some '\n') :
      LastNewline text position index

namespace LastNewline

variable {text : List Char} {position : Nat}

theorem behind_newline (isNewline : text[position]? = .some '\n') :
    LastNewline text (position + 1) position :=
  .some (Nat.lt_succ_self position) isNewline fun later isLater isBefore => by omega

theorem behind_other {last : Int} (isLast : LastNewline text position last)
    (notNewline : text[position]? ≠ .some '\n') : LastNewline text (position + 1) last := by
  cases isLast with
  | none absent =>
      refine .none fun listed => ?_
      rw [List.take_add_one, List.mem_append] at listed
      rcases listed with isBefore | isHere
      · exact absent isBefore
      · exact notNewline (Option.mem_toList.mp isHere)
  | some isBefore isNewline isLast =>
      refine .some (Nat.lt_succ_of_lt isBefore) isNewline fun later isLater isBeforeNext => ?_
      by_cases isHere : later = position
      · rw [isHere]
        exact notNewline
      · exact isLast later isLater (by omega)

end LastNewline

namespace Lexer

variable {lexer after : Lexer}

/-! ### The invariant -/

/-- The parts of a lexer's state agree: each is said by the text and the position. -/
structure Consistent (lexer : Lexer) : Prop where
  readPosition_eq : lexer.readPosition = lexer.position + 1
  current_eq : lexer.current = lexer.source[lexer.position]?.getD '\x00'
  line_eq : lexer.line = 1 + (lexer.source.take lexer.position).count '\n'
  column_eq : ∃ last, LastNewline lexer.source lexer.position last ∧
    (lexer.column : Int) = lexer.position - last

namespace Consistent

theorem current_eq_charAt (consistent : lexer.Consistent) :
    lexer.current = lexer.charAt lexer.position := by
  rw [consistent.current_eq, charAt, List.getD_eq_getElem?_getD]
  rfl

/-- A lexer stands on a newline only inside its text. -/
theorem current_eq_newline (consistent : lexer.Consistent) :
    lexer.current = '\n' ↔ lexer.source[lexer.position]? = some '\n' := by
  rw [consistent.current_eq]
  cases lexer.source[lexer.position]? <;> simp

theorem advance (consistent : lexer.Consistent) : lexer.advance.Consistent := by
  obtain ⟨last, isLast, isColumn⟩ := consistent.column_eq
  have isNext := consistent.readPosition_eq
  have isLine := consistent.line_eq
  refine ⟨rfl, rfl, ?_, ?_⟩
  · simp only [Lexer.advance, isNext, List.take_add_one, List.count_append]
    by_cases isNewline : lexer.current = '\n'
    · rw [if_pos isNewline, consistent.current_eq_newline.mp isNewline]
      simp [isLine, Nat.add_assoc]
    · have notNewline := mt consistent.current_eq_newline.mpr isNewline
      rw [if_neg isNewline, isLine]
      cases isHere : lexer.source[lexer.position]? with
      | none => rfl
      | some char =>
          have isOther : char ≠ '\n' := fun same => notNewline (isHere.trans (congrArg some same))
          simp [isOther]
  · simp only [Lexer.advance, isNext]
    by_cases isNewline : lexer.current = '\n'
    · refine ⟨lexer.position,
        .behind_newline (consistent.current_eq_newline.mp isNewline), ?_⟩
      rw [if_pos isNewline]
      omega
    · refine ⟨last, isLast.behind_other (mt consistent.current_eq_newline.mpr isNewline), ?_⟩
      rw [if_neg isNewline]
      omega

end Consistent

theorem consistent_start (source : String) : (start source).Consistent := by
  refine ⟨rfl, rfl, rfl, -1, .none List.not_mem_nil, rfl⟩

/-! ### Reading characters -/

/-- A lexer comes to another one by reading characters. -/
inductive Reaches : Lexer → Lexer → Prop where
  | refl (lexer : Lexer) : Reaches lexer lexer
  | step {lexer after : Lexer} (later : Reaches lexer.advance after) : Reaches lexer after

namespace Reaches

theorem trans {later : Lexer} (first : lexer.Reaches after) (second : after.Reaches later) :
    lexer.Reaches later := by
  induction first with
  | refl => exact second
  | step _ inductionHypothesis => exact .step (inductionHypothesis second)

theorem source_eq (reaches : lexer.Reaches after) : after.source = lexer.source := by
  induction reaches with
  | refl => rfl
  | step _ inductionHypothesis => exact inductionHypothesis

theorem consistent (reaches : lexer.Reaches after) (isConsistent : lexer.Consistent) :
    after.Consistent := by
  induction reaches with
  | refl => exact isConsistent
  | step _ inductionHypothesis => exact inductionHypothesis isConsistent.advance

theorem position_le (reaches : lexer.Reaches after) (isConsistent : lexer.Consistent) :
    lexer.position ≤ after.position := by
  induction reaches with
  | refl => exact Nat.le_refl _
  | step _ inductionHypothesis =>
      have later := inductionHypothesis isConsistent.advance
      have isNext := isConsistent.readPosition_eq
      simp only [Lexer.advance] at later
      omega

end Reaches

theorem reaches_advance (lexer : Lexer) : lexer.Reaches lexer.advance := .step (.refl _)

theorem reaches_advanceWhile (goesOn : Lexer → Bool)
    (stops : ∀ lexer, goesOn lexer = true → lexer.current ≠ Cursor.pastEnd) (lexer : Lexer) :
    lexer.Reaches (lexer.advanceWhile goesOn stops) := by
  fun_induction advanceWhile goesOn stops lexer with
  | case1 lexer goes shorter inductionHypothesis => exact .step inductionHypothesis
  | case2 lexer ended => exact .refl lexer

theorem reaches_token (lexer : Lexer) : lexer.Reaches lexer.token.2 := by
  unfold token
  split
  · split
    · exact lexer.reaches_advance.trans lexer.advance.reaches_advance
    · exact lexer.reaches_advance
  · exact lexer.reaches_advance
  · split
    · exact reaches_advanceWhile _ _ lexer
    · split
      · exact reaches_advanceWhile _ _ lexer
      · exact lexer.reaches_advance

theorem nextToken_of_ended (ended : lexer.skipBlanks.atEnd = true) :
    lexer.nextToken = (lexer.skipBlanks.tokenHere .endOfInput "", lexer.skipBlanks) :=
  if_pos ended

theorem nextToken_of_unfinished (unfinished : lexer.skipBlanks.atEnd = false) :
    lexer.nextToken = lexer.skipBlanks.token :=
  if_neg (by rw [unfinished]; exact Bool.false_ne_true)

theorem reaches_nextToken (lexer : Lexer) : lexer.Reaches lexer.nextToken.2 := by
  have overBlanks : lexer.Reaches lexer.skipBlanks := reaches_advanceWhile _ _ lexer
  cases ended : lexer.skipBlanks.atEnd with
  | true =>
      rw [nextToken_of_ended ended]
      exact overBlanks
  | false =>
      rw [nextToken_of_unfinished ended]
      exact overBlanks.trans lexer.skipBlanks.reaches_token

/-- Every call leads on by reading characters, if it changes the lexer at all. -/
theorem reaches_perform (lexer : Lexer) (call : Call) : lexer.Reaches (lexer.perform call).2 := by
  cases call with
  | advance => exact lexer.reaches_advance
  | next | atEnd => exact .refl lexer
  | skipBlanks | readWord | readDigits => exact reaches_advanceWhile _ _ lexer
  | nextToken => exact lexer.reaches_nextToken

theorem reaches_performAll (lexer : Lexer) (calls : List Call) :
    lexer.Reaches (lexer.performAll calls) := by
  induction calls generalizing lexer with
  | nil => exact .refl lexer
  | cons call calls inductionHypothesis =>
      exact (lexer.reaches_perform call).trans (inductionHypothesis _)

/-! ### What a lexer and a cursor read -/

/-- The cursor on what a lexer has not read. -/
def cursor (lexer : Lexer) : Cursor :=
  ⟨lexer.source.drop lexer.position, ⟨lexer.position, lexer.line, lexer.column⟩⟩

theorem cursor_start (source : String) : (start source).cursor = Cursor.ofString source := rfl

theorem atEnd_cursor (lexer : Lexer) : lexer.cursor.atEnd = lexer.atEnd := by
  rw [Bool.eq_iff_iff, Cursor.atEnd, List.isEmpty_iff, cursor, List.drop_eq_nil_iff, atEnd,
    decide_eq_true_iff]

section Simulation

variable (consistent : lexer.Consistent)

include consistent

theorem current_cursor : lexer.cursor.current = lexer.current := by
  rw [consistent.current_eq_charAt, charAt, Cursor.current, cursor, List.headD_eq_head?_getD,
    List.head?_drop, List.getD_eq_getElem?_getD]

theorem next_cursor : lexer.cursor.next = lexer.next := by
  rw [next, charAt, consistent.readPosition_eq, Cursor.next, cursor, List.tail_drop,
    List.headD_eq_head?_getD, List.head?_drop, List.getD_eq_getElem?_getD]

theorem advance_cursor : lexer.cursor.advance = lexer.advance.cursor := by
  have isNext := consistent.readPosition_eq
  unfold Cursor.advance
  rw [current_cursor consistent]
  unfold cursor Place.after Lexer.advance
  rw [List.tail_drop, isNext]
  by_cases isNewline : lexer.current = '\n'
  · simp only [isNewline, if_true]
  · simp only [isNewline, if_false]

theorem rest_cursor (unfinished : lexer.atEnd = false) :
    ∃ others, lexer.cursor.rest = lexer.current :: others := by
  rw [← current_cursor consistent]
  rw [← atEnd_cursor] at unfinished
  unfold Cursor.atEnd at unfinished
  unfold Cursor.current
  cases unread : lexer.cursor.rest with
  | nil => rw [unread] at unfinished; cases unfinished
  | cons first others => exact ⟨others, rfl⟩

theorem atEnd_eq_false_of_ne (notPastEnd : lexer.current ≠ Cursor.pastEnd) :
    lexer.atEnd = false := by
  rw [atEnd, decide_eq_false_iff_not]
  intro isOutside
  exact notPastEnd (consistent.current_eq_charAt.trans (charAt_of_length_le isOutside))

/-- A loop over the characters of a class passes over the same run as a cursor. -/
theorem skip_cursor {belongs : Char → Bool} {goesOn : Lexer → Bool}
    (stops : ∀ lexer, goesOn lexer = true → lexer.current ≠ Cursor.pastEnd)
    (isClass : ∀ lexer : Lexer, lexer.Consistent → goesOn lexer = belongs lexer.current) :
    lexer.cursor.skip belongs = (lexer.advanceWhile goesOn stops).cursor := by
  fun_induction advanceWhile goesOn stops lexer with
  | case1 lexer goes shorter inductionHypothesis =>
      obtain ⟨others, unread⟩ :=
        rest_cursor consistent (atEnd_eq_false_of_ne consistent (stops lexer goes))
      rw [isClass lexer consistent] at goes
      rw [Cursor.skip_of_belongs unread goes, advance_cursor consistent]
      exact inductionHypothesis consistent.advance
  | case2 lexer ended =>
      rw [isClass lexer consistent, ← current_cursor consistent] at ended
      refine (Cursor.skip_of_append (List.nil_append _).symm (List.forall_mem_nil _)
        fun char isHead => ?_).2
      rw [Cursor.current, List.headD_eq_head?_getD, isHead] at ended
      exact Bool.eq_false_iff.mpr ended

theorem skipBlanks_cursor : lexer.cursor.skipBlanks = lexer.skipBlanks.cursor := by
  refine skip_cursor consistent _ fun lexer consistent => ?_
  by_cases isPastEnd : lexer.current = Cursor.pastEnd
  · rw [isPastEnd]
    rfl
  · rw [atEnd_eq_false_of_ne consistent isPastEnd, Bool.not_false, Bool.and_true]

theorem skip_read {belongs : Char → Bool} (stops : belongs Cursor.pastEnd = false) :
    lexer.cursor.skip belongs = (lexer.read belongs stops).2.cursor :=
  skip_cursor consistent _ fun _ _ => rfl

/-- The text between the two positions is the run of the class. -/
theorem read_eq_run {belongs : Char → Bool} (stops : belongs Cursor.pastEnd = false) :
    (lexer.read belongs stops).1.toList = lexer.cursor.run belongs ∧
      (lexer.read belongs stops).2.position =
        lexer.position + (lexer.read belongs stops).1.toList.length := by
  have isBehind : (lexer.read belongs stops).2.position =
      lexer.position + (lexer.cursor.run belongs).length := by
    have offset := congrArg (fun cursor => cursor.place.offset) (skip_read consistent stops)
    rw [Cursor.skip, Place.offset_afterAll] at offset
    exact offset.symm
  have isRun : (lexer.read belongs stops).1.toList = lexer.cursor.run belongs := by
    have divided : lexer.cursor.run belongs ++ (lexer.cursor.skip belongs).rest =
        lexer.source.drop lexer.position := lexer.cursor.run_append_rest_skip belongs
    have isPart : (lexer.read belongs stops).1 = String.ofList
        (lexer.source.extract lexer.position (lexer.read belongs stops).2.position) := rfl
    rw [isPart, isBehind, String.toList_ofList, List.extract_eq_take_drop,
      Nat.add_sub_cancel_left, ← divided, List.take_left]
  rw [isRun]
  exact ⟨rfl, isBehind⟩

theorem read_cursor {belongs : Char → Bool} (stops : belongs Cursor.pastEnd = false) :
    lexer.cursor.read belongs =
      ((lexer.read belongs stops).1, (lexer.read belongs stops).2.cursor) := by
  rw [Cursor.read, skip_read consistent stops, ← (read_eq_run consistent stops).1,
    String.ofList_toList]

theorem single_cursor (kind : TokenKind) :
    lexer.cursor.single kind =
      (lexer.tokenHere kind (String.ofList [lexer.current]), lexer.advance.cursor) := by
  rw [Cursor.single, current_cursor consistent, advance_cursor consistent]
  rfl

theorem withEquals_cursor (kind : TokenKind) :
    lexer.cursor.withEquals kind =
      (lexer.tokenHere kind (String.ofList [lexer.current, '=']),
        lexer.advance.advance.cursor) := by
  rw [Cursor.withEquals, current_cursor consistent, advance_cursor consistent,
    advance_cursor consistent.advance]
  rfl

theorem token?_cursor (unfinished : lexer.atEnd = false) :
    lexer.cursor.token? = some (lexer.token.1, lexer.token.2.cursor) := by
  obtain ⟨others, unread⟩ := rest_cursor consistent unfinished
  unfold token
  cases isDouble : TokenKind.doubles.lookup lexer.current with
  | some kinds =>
      rw [Cursor.token?_of_double unread isDouble, next_cursor consistent,
        single_cursor consistent, withEquals_cursor consistent]
      dsimp only
      split <;> rfl
  | none =>
      cases isSingle : TokenKind.singles.lookup lexer.current with
      | some kind => rw [Cursor.token?_of_single unread isSingle, single_cursor consistent]
      | none =>
          have isWord : lexer.cursor.readWord = _ := read_cursor consistent rfl
          have areDigits : lexer.cursor.readDigits = _ := read_cursor consistent rfl
          rw [Cursor.token?_of_other unread isDouble isSingle, single_cursor consistent, isWord,
            areDigits]
          dsimp only
          split
          · rfl
          · split <;> rfl

theorem nextToken_cursor :
    lexer.cursor.nextToken = (lexer.nextToken.1, lexer.nextToken.2.cursor) := by
  have behindBlanks : lexer.skipBlanks.Consistent :=
    (reaches_advanceWhile _ _ lexer).consistent consistent
  have sameAhead := skipBlanks_cursor consistent
  cases ended : lexer.skipBlanks.atEnd with
  | true =>
      have noneLeft : lexer.cursor.skipBlanks.rest = [] := by
        rw [sameAhead, ← List.isEmpty_iff]
        exact (atEnd_cursor _).trans ended
      rw [Cursor.nextToken_of_none _ ((Cursor.token?_eq_none_iff _).mpr noneLeft), sameAhead,
        nextToken_of_ended ended]
      rfl
  | false =>
      rw [nextToken_of_unfinished ended, Cursor.nextToken_of_token?]
      rw [sameAhead, token?_cursor behindBlanks ended]

end Simulation

/-! ### Calls in any order -/

theorem skipBlanks_of_atEnd (ended : lexer.atEnd = true) : lexer.skipBlanks = lexer := by
  unfold skipBlanks
  rw [advanceWhile, dif_neg (by simp [ended])]

/-- Whatever a lexer was asked for and in which order, also past the end of its text: the parts
of its state agree. A word or digits are the longest run that starts under the lexer, which then
stands behind it. The next token is never in front of the lexer. It is the end of the input
exactly when only blanks are left, and once the whole text has been read it is given again and
again, by a lexer that does not change. -/
theorem consistent_performAll (source : String) (calls : List Call) :
    let text := source.toList
    let lexer := (start source).performAll calls
    lexer.source = text ∧ lexer.Consistent ∧
      (lexer.readWord.1.toList = (text.drop lexer.position).takeWhile isWordChar ∧
        lexer.readWord.2.position = lexer.position + lexer.readWord.1.toList.length) ∧
      (lexer.readDigits.1.toList = (text.drop lexer.position).takeWhile isDigitChar ∧
        lexer.readDigits.2.position = lexer.position + lexer.readDigits.1.toList.length) ∧
      lexer.position ≤ lexer.nextToken.2.position ∧
      (text.length ≤ lexer.position →
        lexer.nextToken = (⟨.endOfInput, "", lexer.line, lexer.column⟩, lexer)) ∧
      (lexer.nextToken.1.kind = .endOfInput ↔
        ∀ char ∈ text.drop lexer.position, isBlankChar char = true) := by
  intro text lexer
  have reaches : (start source).Reaches lexer := reaches_performAll _ calls
  have isSource : lexer.source = text := reaches.source_eq
  have consistent : lexer.Consistent := reaches.consistent (consistent_start source)
  have isRest : lexer.cursor.rest = text.drop lexer.position := by rw [cursor, isSource]
  refine ⟨isSource, consistent, ?word, ?digits, ?position, ?ended, ?blanks⟩
  case word =>
    rw [← isRest]
    exact read_eq_run consistent rfl
  case digits =>
    rw [← isRest]
    exact read_eq_run consistent rfl
  case position => exact lexer.reaches_nextToken.position_le consistent
  case ended =>
    intro isOutside
    have ended : lexer.atEnd = true := by rwa [atEnd, decide_eq_true_iff, isSource]
    have stays := skipBlanks_of_atEnd ended
    rw [nextToken_of_ended (by rw [stays]; exact ended), stays]
    rfl
  case blanks =>
    rw [← isRest, ← Cursor.kind_nextToken_eq_endOfInput_iff, nextToken_cursor consistent]

/-- A lexer behind a newline at the end of its text, moved on by two characters. -/
theorem consistent_performAll_outside :
    let lexer := (start "a\n").performAll [.nextToken, .advance, .advance, .advance]
    "a\n".toList.length ≤ lexer.position ∧
      lexer.nextToken = (⟨.endOfInput, "", 2, 3⟩, lexer) := by
  intro lexer
  have isOutside : "a\n".toList.length ≤ lexer.position := by decide +kernel
  have isLine : (lexer.line : Int) = 2 := by decide +kernel
  have isColumn : (lexer.column : Int) = 3 := by decide +kernel
  have isLast := (consistent_performAll "a\n" _).2.2.2.2.2.1 isOutside
  exact ⟨isOutside, by rw [← isLine, ← isColumn]; exact isLast⟩

/-! ### The tokens of a text -/

theorem pulled_cursor (consistent : lexer.Consistent) (index : Nat) :
    lexer.cursor.pulled index =
      (lexer.performAll (List.replicate index .nextToken)).nextToken.1 := by
  induction index generalizing lexer with
  | zero =>
      rw [Cursor.pulled, nextToken_cursor consistent]
      rfl
  | succ index inductionHypothesis =>
      rw [Cursor.pulled, nextToken_cursor consistent,
        inductionHypothesis (lexer.reaches_nextToken.consistent consistent)]
      rfl

/-- A new lexer that is asked for one token after the other gives those of its text, and then
the last one forever. -/
theorem nextToken_performAll_replicate (source : String) (index : Nat) :
    ((start source).performAll (List.replicate index .nextToken)).nextToken.1 =
      tokenAt source index := by
  rw [tokenAt_eq_pulled, ← cursor_start, pulled_cursor (consistent_start source)]

end Lexer

end MonkeySyntax
