import MonkeySyntax.Proofs.Grammar.Lexical
import MonkeySyntax.Proofs.Token.Scanning

/-!
Contract: a text is scanned to the tokens of its layout.

Owns:
- that the spellings which the scanner reads are the lexemes of the grammar;
- that two lexemes can stand side by side just when the first one is bounded by the
  second one;
- the scan of the pieces of a layout in front of any text, and the scan of a whole one;
- that every text has a layout.
-/

set_option autoImplicit false

namespace MonkeySyntax

open Grammar
open Spelled (mem_of_lookup)

/-! ### Lexemes and spellings -/

theorem spelled_of_fixed {kind : TokenKind} (isFixed : kind ∈ fixedKinds) :
    Spelled kind kind.text.toList := by
  have all : ∀ kind ∈ fixedKinds,
      (∃ entry ∈ TokenKind.singles, TokenKind.singles.lookup entry.1 = some kind ∧
        kind.text.toList = [entry.1]) ∨
      ∃ entry ∈ TokenKind.doubles,
        TokenKind.doubles.lookup entry.1 = some (kind, entry.2.2) ∧
          kind.text.toList = [entry.1] ∨
        TokenKind.doubles.lookup entry.1 = some (entry.2.1, kind) ∧
          kind.text.toList = [entry.1, '='] := by decide +kernel
  rcases all kind isFixed with ⟨entry, -, listed, isText⟩ |
    ⟨entry, -, ⟨listed, isText⟩ | ⟨listed, isText⟩⟩
  · rw [isText]
    exact .single listed
  · rw [isText]
    exact .alone listed
  · rw [isText]
    exact .paired listed

theorem fixed_of_single {char : Char} {kind : TokenKind}
    (listed : TokenKind.singles.lookup char = some kind) :
    kind ∈ fixedKinds ∧ kind.text.toList = [char] := by
  have all : ∀ entry ∈ TokenKind.singles,
      entry.2 ∈ fixedKinds ∧ entry.2.text.toList = [entry.1] := by decide +kernel
  exact all (char, kind) (mem_of_lookup listed)

theorem fixed_of_double {char : Char} {alone paired : TokenKind}
    (listed : TokenKind.doubles.lookup char = some (alone, paired)) :
    (alone ∈ fixedKinds ∧ alone.text.toList = [char]) ∧
      paired ∈ fixedKinds ∧ paired.text.toList = [char, '='] := by
  have all : ∀ entry ∈ TokenKind.doubles,
      (entry.2.1 ∈ fixedKinds ∧ entry.2.1.text.toList = [entry.1]) ∧
        entry.2.2 ∈ fixedKinds ∧ entry.2.2.text.toList = [entry.1, '='] := by decide +kernel
  exact all (char, alone, paired) (mem_of_lookup listed)

/-- The scanner's spellings are the lexemes of the language. -/
theorem lexeme_iff_spelled {kind : TokenKind} {literal : List Char} :
    Lexeme kind literal ↔ Spelled kind literal := by
  constructor
  · intro lexeme
    cases lexeme with
    | fixed isFixed => exact spelled_of_fixed isFixed
    | word isNonempty isWord => exact .word isNonempty isWord
    | digits isNonempty isDigit => exact .digits isNonempty isDigit
    | @other char notBlank notWord notDigit notFixed =>
        refine .illegal notBlank notWord notDigit ?_ ?_
        · rw [Option.eq_none_iff_forall_ne_some]
          intro kind listed
          obtain ⟨isFixed, isText⟩ := fixed_of_single listed
          exact notFixed kind isFixed isText
        · rw [Option.eq_none_iff_forall_ne_some]
          intro (alone, paired) listed
          obtain ⟨⟨isFixed, isText⟩, -⟩ := fixed_of_double listed
          exact notFixed alone isFixed isText
  · intro spelled
    cases spelled with
    | single listed =>
        obtain ⟨isFixed, isText⟩ := fixed_of_single listed
        rw [← isText]
        exact .fixed isFixed
    | alone listed =>
        obtain ⟨⟨isFixed, isText⟩, -⟩ := fixed_of_double listed
        rw [← isText]
        exact .fixed isFixed
    | paired listed =>
        obtain ⟨-, isFixed, isText⟩ := fixed_of_double listed
        rw [← isText]
        exact .fixed isFixed
    | word isNonempty isWord => exact .word isNonempty isWord
    | digits isNonempty isDigit => exact .digits isNonempty isDigit
    | @illegal char notBlank notWord notDigit notSingle notDouble =>
        refine .other notBlank notWord notDigit fun kind isFixed isText => ?_
        have spelled := spelled_of_fixed isFixed
        generalize kind.text.toList = literal at spelled isText
        cases spelled with
        | single listed =>
            cases isText
            rw [notSingle] at listed
            cases listed
        | alone listed =>
            cases isText
            rw [notDouble] at listed
            cases listed
        | paired => cases isText
        | word _ isWord =>
            rw [isText] at isWord
            exact absurd (isWord char List.mem_cons_self) (by rw [notWord]; decide)
        | digits _ isDigit =>
            rw [isText] at isDigit
            exact absurd (isDigit char List.mem_cons_self) (by rw [notDigit]; decide)
        | illegal => exact absurd isFixed (by decide)

namespace Grammar

namespace Lexeme

variable {kind nextKind : TokenKind} {literal next : List Char}

/-- A lexeme starts with a character that is no blank. -/
theorem exists_first (lexeme : Lexeme kind literal) :
    ∃ first others, literal = first :: others ∧ isBlankChar first = false := by
  obtain ⟨first, others, starts, notBlank, -⟩ := (lexeme_iff_spelled.mp lexeme).exists_first
  exact ⟨first, others, starts, notBlank⟩

theorem ne_nil (lexeme : Lexeme kind literal) : literal ≠ [] :=
  (lexeme_iff_spelled.mp lexeme).ne_nil

/-- Words and digits have no character in common. -/
theorem not_isWord_and_isDigit (isNonempty : literal ≠ [])
    (isWord : ∀ char ∈ literal, isWordChar char = true)
    (isDigit : ∀ char ∈ literal, isDigitChar char = true) : False := by
  obtain ⟨first, others, rfl⟩ := List.exists_cons_of_ne_nil isNonempty
  have notWord := isWordChar_of_isDigitChar (isDigit first List.mem_cons_self)
  rw [isWord first List.mem_cons_self] at notWord
  cases notWord

theorem isWord_iff (lexeme : Lexeme kind literal) :
    kind ∈ .ident :: TokenKind.keywords.map Prod.snd ↔
      ∀ char ∈ literal, isWordChar char = true := by
  cases lexeme with
  | fixed isFixed =>
      have all : ∀ kind ∈ fixedKinds, (kind ∈ .ident :: TokenKind.keywords.map Prod.snd ↔
          kind.text.toList.all isWordChar = true) := by decide +kernel
      exact (all kind isFixed).trans List.all_eq_true
  | word _ isWord => exact ⟨fun _ => isWord, fun _ => Spelled.ofWord_mem _⟩
  | digits isNonempty isDigit =>
      exact ⟨fun listed => absurd listed (by decide),
        fun isWord => (not_isWord_and_isDigit isNonempty isWord isDigit).elim⟩
  | @other char _ notWord =>
      refine ⟨fun listed => absurd listed (by decide), fun isWord => ?_⟩
      exact absurd (isWord char List.mem_cons_self) (by rw [notWord]; decide)

theorem isDigit_iff (lexeme : Lexeme kind literal) :
    kind = .int ↔ ∀ char ∈ literal, isDigitChar char = true := by
  cases lexeme with
  | fixed isFixed =>
      have all : ∀ kind ∈ fixedKinds, (kind = .int ↔
          kind.text.toList.all isDigitChar = true) := by decide +kernel
      exact (all kind isFixed).trans List.all_eq_true
  | word isNonempty isWord =>
      refine ⟨fun isInt => ?_,
        fun isDigit => (not_isWord_and_isDigit isNonempty isWord isDigit).elim⟩
      have listed := Spelled.ofWord_mem (String.ofList literal)
      rw [isInt] at listed
      exact absurd listed (by decide)
  | digits _ isDigit => exact ⟨fun _ => isDigit, fun _ => rfl⟩
  | @other char _ _ notDigit =>
      refine ⟨fun isInt => absurd isInt (by decide), fun isDigit => ?_⟩
      exact absurd (isDigit char List.mem_cons_self) (by rw [notDigit]; decide)

theorem isOpen_iff (lexeme : Lexeme kind literal) :
    kind ∈ TokenKind.doubles.map (·.2.1) ↔ literal = ['='] ∨ literal = ['!'] := by
  cases lexeme with
  | fixed isFixed =>
      have all : ∀ kind ∈ fixedKinds, (kind ∈ TokenKind.doubles.map (·.2.1) ↔
          kind.text.toList = ['='] ∨ kind.text.toList = ['!']) := by decide +kernel
      exact all kind isFixed
  | word _ isWord =>
      have all : ∀ kind ∈ TokenKind.ident :: TokenKind.keywords.map Prod.snd,
          kind ∉ TokenKind.doubles.map (·.2.1) := by decide
      refine ⟨fun isAlone => absurd isAlone (all _ (Spelled.ofWord_mem _)), ?_⟩
      rintro (rfl | rfl)
      · exact absurd (isWord '=' List.mem_cons_self) (by decide)
      · exact absurd (isWord '!' List.mem_cons_self) (by decide)
  | digits _ isDigit =>
      refine ⟨fun isAlone => absurd isAlone (by decide), ?_⟩
      rintro (rfl | rfl)
      · exact absurd (isDigit '=' List.mem_cons_self) (by decide)
      · exact absurd (isDigit '!' List.mem_cons_self) (by decide)
  | other _ _ _ notFixed =>
      refine ⟨fun isAlone => absurd isAlone (by decide), ?_⟩
      rintro (isEquals | isBang)
      · exact absurd isEquals.symm (notFixed .assign (by decide))
      · exact absurd isBang.symm (notFixed .bang (by decide))

/-- No letter and no digit is a part of an operator or a delimiter. -/
theorem not_of_fixed (isFixed : kind ∈ fixedKinds) {char : Char}
    (listed : char ∈ kind.text.toList) :
    isWordChar char = false ∧ isDigitChar char = false := by
  have all : ∀ kind ∈ fixedKinds,
      kind.text.toList.all (fun char => !isWordChar char && !isDigitChar char) = true := by
    decide +kernel
  simpa using List.all_eq_true.mp (all kind isFixed) char listed

/-- A lexeme that starts as a word does is a word. -/
theorem isWord_of_first (lexeme : Lexeme kind literal) {first : Char}
    (starts : literal.head? = some first) (isWord : isWordChar first = true) :
    ∀ char ∈ literal, isWordChar char = true := by
  cases lexeme with
  | fixed isFixed =>
      rw [(not_of_fixed isFixed (List.mem_of_mem_head? starts)).1] at isWord
      cases isWord
  | word _ isWord => exact isWord
  | digits _ isDigit =>
      rw [isWordChar_of_isDigitChar (isDigit first (List.mem_of_mem_head? starts))] at isWord
      cases isWord
  | other _ notWord =>
      cases starts
      rw [notWord] at isWord
      cases isWord

/-- A lexeme that starts as digits do is a run of digits. -/
theorem isDigit_of_first (lexeme : Lexeme kind literal) {first : Char}
    (starts : literal.head? = some first) (isDigit : isDigitChar first = true) :
    ∀ char ∈ literal, isDigitChar char = true := by
  cases lexeme with
  | fixed isFixed =>
      rw [(not_of_fixed isFixed (List.mem_of_mem_head? starts)).2] at isDigit
      cases isDigit
  | word _ isWord =>
      have notWord := isWordChar_of_isDigitChar isDigit
      rw [isWord first (List.mem_of_mem_head? starts)] at notWord
      cases notWord
  | digits _ isDigit => exact isDigit
  | other _ _ notDigit =>
      cases starts
      rw [notDigit] at isDigit
      cases isDigit

/-- A lexeme is bounded by the one behind it just when the two do not fuse. -/
theorem bounds_iff (lexeme : Lexeme kind literal) (nextLexeme : Lexeme nextKind next)
    (behind : List Char) : Bounds kind (next ++ behind) ↔ ¬ Fuses literal next := by
  obtain ⟨first, others, rfl, -⟩ := nextLexeme.exists_first
  constructor
  · intro bounds fuses
    obtain ⟨notEquals, notWord, notDigit⟩ := bounds first rfl
    rcases fuses with ⟨isWord, nextIsWord⟩ | ⟨isDigit, nextIsDigit⟩ | ⟨isOpen, nextIsEquals⟩
    · rw [nextIsWord first List.mem_cons_self] at notWord
      cases notWord (lexeme.isWord_iff.mpr isWord)
    · rw [nextIsDigit first List.mem_cons_self] at notDigit
      cases notDigit (lexeme.isDigit_iff.mpr isDigit)
    · exact notEquals (lexeme.isOpen_iff.mpr isOpen) (Option.some.inj nextIsEquals)
  · intro apart char isHead
    cases isHead
    refine ⟨fun isAlone isEquals => ?_, fun isWord => ?_, fun isInt => ?_⟩
    · exact apart (Or.inr (Or.inr ⟨lexeme.isOpen_iff.mp isAlone, congrArg some isEquals⟩))
    · rw [Bool.eq_false_iff]
      intro startsWord
      exact apart (Or.inl ⟨lexeme.isWord_iff.mp isWord,
        nextLexeme.isWord_of_first rfl startsWord⟩)
    · rw [Bool.eq_false_iff]
      intro startsDigits
      exact apart (Or.inr (Or.inl ⟨lexeme.isDigit_iff.mp isInt,
        nextLexeme.isDigit_of_first rfl startsDigits⟩))

end Lexeme

end Grammar

/-- A blank ends every token. -/
theorem ending_of_blank {behind : List Char}
    (isBlank : ∀ char ∈ behind.head?, isBlankChar char = true) : Ending behind := by
  intro char isHead
  have blank := isBlank char isHead
  simp only [isBlankChar, Bool.or_eq_true, beq_iff_eq] at blank
  rcases blank with ((rfl | rfl) | rfl) | rfl <;> decide

/-! ### The scan of a layout -/

section Pieces

variable {piece : Piece} {pieces : List Piece} {behind : List Char}

theorem piecesText_cons (piece : Piece) (pieces : List Piece) :
    piecesText (piece :: pieces) = piece.gap ++ (piece.literal ++ piecesText pieces) := by
  rw [piecesText, List.flatMap_cons, List.append_assoc]
  rfl

/-- A piece of a layout is bounded by what stands behind it. -/
theorem bounds_of_apart (apart : (piece :: pieces).IsChain Piece.Apart)
    (bounds : ∀ last ∈ (piece :: pieces).getLast?, Bounds last.kind behind) :
    Bounds piece.kind (piecesText pieces ++ behind) := by
  cases pieces with
  | nil => exact bounds piece rfl
  | cons next pieces =>
      rw [piecesText_cons, List.append_assoc]
      cases isGap : next.gap with
      | nil =>
          rw [List.nil_append, List.append_assoc, piece.isLexeme.bounds_iff next.isLexeme]
          exact (List.isChain_cons_cons.mp apart).1 isGap
      | cons char gap =>
          apply Ending.bounds
          apply ending_of_blank
          intro first isHead
          cases isHead
          exact next.isBlank char (isGap ▸ List.mem_cons_self)

/-- The scan of some pieces takes their tokens and goes on behind them. -/
theorem Cursor.tokens_of_pieces (apart : pieces.IsChain Piece.Apart)
    (bounds : ∀ last ∈ pieces.getLast?, Bounds last.kind behind) (before : List Char) :
    (⟨piecesText pieces ++ behind, .behind before⟩ : Cursor).tokens =
      ⟨tokensBehind before pieces ++
          (⟨behind, .behind (before ++ piecesText pieces)⟩ : Cursor).tokens.upcoming,
        (⟨behind, .behind (before ++ piecesText pieces)⟩ : Cursor).tokens.finish⟩ := by
  induction pieces generalizing before with
  | nil => rw [piecesText, List.flatMap_nil, List.append_nil, tokensBehind]; rfl
  | cons piece pieces inductionHypothesis =>
      have boundsLater : ∀ last ∈ pieces.getLast?, Bounds last.kind behind := by
        intro last isLast
        apply bounds last
        rw [List.getLast?_cons, Option.mem_def.mp isLast]
        rfl
      have later := inductionHypothesis apart.tail boundsLater
        (before ++ piece.gap ++ piece.literal)
      rw [piecesText_cons, List.append_assoc, List.append_assoc, tokens_of_blanks piece.isBlank,
        tokens_of_bounds (lexeme_iff_spelled.mp piece.isLexeme) (bounds_of_apart apart bounds),
        Place.afterAll_behind, Place.afterAll_behind, later]
      simp only [TokenStream.push, Token.ofPlace, tokensBehind, List.cons_append,
        List.append_assoc]

theorem Cursor.tokens_of_closing {closing : List Char}
    (isBlank : ∀ char ∈ closing, isBlankChar char = true) (before : List Char) :
    (⟨closing, .behind before⟩ : Cursor).tokens = ⟨[], .behind (before ++ closing)⟩ := by
  have passed := tokens_of_blanks isBlank [] (.behind before)
  rw [List.append_nil, Place.afterAll_behind] at passed
  exact passed.trans (tokens_of_none rfl)

/-- The scan of the text of a layout takes its tokens, wherever the text stands. -/
theorem Cursor.tokens_of_layout (layout : Layout) (before : List Char) :
    (⟨layout.text, .behind before⟩ : Cursor).tokens =
      ⟨tokensBehind before layout.pieces, .behind (before ++ layout.text)⟩ := by
  have bounds : ∀ last ∈ layout.pieces.getLast?, Bounds last.kind layout.closing :=
    fun last _ => (ending_of_blank fun char isHead =>
      layout.isBlank char (List.mem_of_mem_head? isHead)).bounds _
  rw [Layout.text, tokens_of_pieces layout.isApart bounds, tokens_of_closing layout.isBlank,
    List.append_nil, List.append_assoc]

theorem TokenStream.ofString_layout (layout : Layout) :
    TokenStream.ofString (String.ofList layout.text) =
      ⟨tokensBehind [] layout.pieces, .behind layout.text⟩ := by
  unfold ofString Cursor.ofString Cursor.ofList
  rw [String.toList_ofList]
  exact Cursor.tokens_of_layout layout []

end Pieces

/-! ### The layout of a text -/

/-- What is ahead of a cursor has a layout. The blanks under the cursor belong to the
first piece, and the scan tells where each lexeme ends. -/
theorem Cursor.exists_layout (cursor : Cursor) :
    ∃ layout : Layout, layout.text = cursor.rest := by
  fun_induction tokens cursor with
  | case1 cursor ended =>
      have noneLeft : cursor.skipBlanks.rest = [] := by
        unfold token? at ended
        split at ended
        · assumption
        · cases ended
      have isRun := cursor.run_append_rest_skip isBlankChar
      change _ ++ cursor.skipBlanks.rest = _ at isRun
      rw [noneLeft, List.append_nil] at isRun
      exact ⟨⟨[], cursor.run isBlankChar, List.all_eq_true.mp (List.all_takeWhile ..), .nil⟩,
        isRun⟩
  | case2 cursor token behind found shorter inductionHypothesis =>
      obtain ⟨⟨pieces, closing, isBlank, isApart⟩, isText⟩ := inductionHypothesis
      obtain ⟨spelled, divided⟩ := divides_of_token? (not_blank_skipBlanks cursor) found
      let piece : Piece := ⟨cursor.run isBlankChar, token.kind, token.literal.toList,
        List.all_eq_true.mp (List.all_takeWhile ..), lexeme_iff_spelled.mpr spelled⟩
      have bounds : Bounds piece.kind behind.rest := bounds_of_token? found
      have isApartFirst : ∀ next ∈ pieces.head?, piece.Apart next := by
        intro next isHead isGap
        obtain ⟨others, rfl⟩ := List.head?_eq_some_iff.mp isHead
        rw [← isText, Layout.text, piecesText_cons, isGap, List.nil_append,
          List.append_assoc] at bounds
        exact (piece.isLexeme.bounds_iff next.isLexeme _).mp bounds
      refine ⟨⟨piece :: pieces, closing, isBlank, List.isChain_cons.mpr ⟨isApartFirst, isApart⟩⟩,
        ?_⟩
      have isRun := cursor.run_append_rest_skip isBlankChar
      change _ ++ cursor.skipBlanks.rest = _ at isRun
      rw [divided, ← isText] at isRun
      rw [← isRun, Layout.text, piecesText_cons, List.append_assoc, List.append_assoc]
      rfl

theorem exists_layout_of_string (source : String) :
    ∃ layout : Layout, String.ofList layout.text = source := by
  obtain ⟨layout, isText⟩ := (Cursor.ofString source).exists_layout
  refine ⟨layout, ?_⟩
  rw [isText]
  exact String.ofList_toList

/-- The tokens of every text are those of a layout of it: lexemes of the language with
blanks between them, none of which could be read further, each at the line and the column
where it stands, and then the end of the input. -/
theorem tokenize_eq_layout (source : String) :
    ∃ layout : Layout, source.toList = layout.text ∧ tokenize source = layout.tokens ∧
      ∀ piece ∈ layout.pieces, piece.kind ≠ .endOfInput := by
  obtain ⟨layout, rfl⟩ := exists_layout_of_string source
  refine ⟨layout, String.toList_ofList, ?_, fun piece _ => ?_⟩
  · rw [tokenize, TokenStream.ofString_layout]
    rfl
  · exact (lexeme_iff_spelled.mp piece.isLexeme).kind_ne_endOfInput

/-- Scanning undoes laying out: the text of every layout has its tokens. -/
theorem tokenize_layout (layout : Layout) :
    tokenize (String.ofList layout.text) = layout.tokens := by
  rw [tokenize, TokenStream.ofString_layout]
  rfl

/-- A layout of `if7===`, a newline, `é` and a space, with nothing between the first four
lexemes. -/
def crowded : Layout where
  pieces :=
    [⟨[], .ofWord "if", ['i', 'f'], nofun, .word nofun (List.all_eq_true.mp (by decide))⟩,
      ⟨[], .int, ['7'], nofun, .digits nofun (List.all_eq_true.mp (by decide))⟩,
      ⟨[], .equal, ['=', '='], nofun, @Lexeme.fixed .equal (by decide)⟩,
      ⟨[], .assign, ['='], nofun, @Lexeme.fixed .assign (by decide)⟩,
      ⟨['\n'], .illegal, ['é'], List.all_eq_true.mp (by decide),
        .other (by decide) (by decide) (by decide) (by decide +kernel)⟩]
  closing := [' ']
  isBlank := List.all_eq_true.mp (by decide)
  isApart := by decide

theorem tokenize_crowded :
    tokenize (String.ofList crowded.text) =
      [⟨.ifWord, "if", 1, 1⟩, ⟨.int, "7", 1, 3⟩, ⟨.equal, "==", 1, 4⟩, ⟨.assign, "=", 1, 6⟩,
        ⟨.illegal, "é", 2, 1⟩, ⟨.endOfInput, "", 2, 3⟩] :=
  (tokenize_layout crowded).trans (by decide +kernel)

/-! ### The order of tokens -/

/-- The tokens of pieces that stand behind a text are placed behind it. -/
theorem exists_run_of_mem_tokensBehind {before : List Char} {pieces : List Piece} {token : Token}
    (listed : token ∈ tokensBehind before pieces) :
    ∃ run, token = Token.ofPlace (.behind (before ++ run)) token.kind token.literal := by
  induction pieces generalizing before with
  | nil => exact absurd listed List.not_mem_nil
  | cons piece pieces inductionHypothesis =>
      rcases List.mem_cons.mp listed with rfl | later
      · exact ⟨piece.gap, rfl⟩
      · obtain ⟨run, isPlace⟩ := inductionHypothesis later
        rw [List.append_assoc, List.append_assoc] at isPlace
        exact ⟨_, isPlace⟩

theorem pairwise_tokensBehind (before closing : List Char) (pieces : List Piece) :
    (tokensBehind before pieces ++
      [Token.atEnd (.behind (before ++ piecesText pieces ++ closing))]).Pairwise
        Token.Precedes := by
  induction pieces generalizing before with
  | nil => exact List.pairwise_singleton _ _
  | cons piece pieces inductionHypothesis =>
      have later := inductionHypothesis (before ++ piece.gap ++ piece.literal)
      have isText : before ++ piece.gap ++ piece.literal ++ piecesText pieces ++ closing =
          before ++ piecesText (piece :: pieces) ++ closing := by
        simp only [piecesText_cons, List.append_assoc]
      rw [isText] at later
      refine List.pairwise_cons.mpr ⟨fun other listed => ?_, later⟩
      -- Whatever comes later stands behind the lexeme of this piece.
      have isBehind : ∃ run, other =
          Token.ofPlace (.behind (before ++ piece.gap ++ (piece.literal ++ run)))
            other.kind other.literal := by
        rcases List.mem_append.mp listed with isToken | isEnd
        · obtain ⟨run, isPlace⟩ := exists_run_of_mem_tokensBehind isToken
          rw [List.append_assoc] at isPlace
          exact ⟨run, isPlace⟩
        · refine ⟨piecesText pieces ++ closing, ?_⟩
          rw [List.mem_singleton.mp isEnd, ← isText, ← List.append_assoc, ← List.append_assoc]
          rfl
      obtain ⟨run, isPlace⟩ := isBehind
      rw [isPlace]
      apply Token.precedes_ofPlace
      apply Place.precedes_behind_append
      exact List.append_ne_nil_of_left_ne_nil piece.isLexeme.ne_nil run

/-- The tokens of a text come in the order of their positions. -/
theorem pairwise_tokenize (source : String) : (tokenize source).Pairwise Token.Precedes := by
  obtain ⟨layout, rfl⟩ := exists_layout_of_string source
  have ordered := pairwise_tokensBehind [] layout.closing layout.pieces
  rw [tokenize, TokenStream.ofString_layout]
  exact ordered

end MonkeySyntax
