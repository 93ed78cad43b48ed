import MonkeySyntax.Proofs.Grammar.Derivation
import MonkeySyntax.Proofs.Token.Spelling

/-!
Contract: a text that is put together from spellings is scanned to its tokens.

Owns:
- what may stand behind a spelling so that its token ends there;
- that the token under a cursor on a spelling has the spelling's kind;
- the steps of a scan, over a blank and over a spelling.
-/

set_option autoImplicit false

namespace MonkeySyntax

open Grammar (Terminal)
open Spelled (mem_of_lookup)

/-- What stands behind a token of a kind is not read as a part of it. Only what an equals
sign could follow, words and digits can be taken further. -/
def Bounds (kind : TokenKind) (behind : List Char) : Prop :=
  ∀ char ∈ behind.head?,
    (kind ∈ TokenKind.doubles.map (·.2.1) → char ≠ '=') ∧
    (kind ∈ .ident :: TokenKind.keywords.map Prod.snd → isWordChar char = false) ∧
    (kind = .int → isDigitChar char = false)

/-- A character that ends every token. -/
def Ending (behind : List Char) : Prop :=
  ∀ char ∈ behind.head?, char ≠ '=' ∧ isWordChar char = false ∧ isDigitChar char = false

theorem Ending.bounds {behind : List Char} (ending : Ending behind) (kind : TokenKind) :
    Bounds kind behind :=
  fun char isHead => ⟨fun _ => (ending char isHead).1, fun _ => (ending char isHead).2.1,
    fun _ => (ending char isHead).2.2⟩

/-! ### Tables and classes of characters -/

private theorem lookup_eq_none_of {β : Type} {table : List (Char × β)} {belongs : Char → Bool}
    (excluded : ∀ entry ∈ table, belongs entry.1 = false) {char : Char}
    (isMember : belongs char = true) : table.lookup char = none := by
  rw [List.lookup_eq_none_iff]
  intro entry listed
  rw [bne_iff_ne]
  intro same
  have isExcluded := excluded entry listed
  rw [← same, isMember] at isExcluded
  cases isExcluded

theorem TokenKind.doubles_of_single {char : Char} {kind : TokenKind}
    (listed : singles.lookup char = some kind) : doubles.lookup char = none := by
  have all : ∀ entry ∈ singles, doubles.lookup entry.1 = none := by decide
  obtain ⟨before, behind, divided, -⟩ := List.lookup_eq_some_iff.mp listed
  exact all (char, kind) (by rw [divided]; exact List.mem_append_right _ List.mem_cons_self)

theorem isWordChar_of_isDigitChar {char : Char} (isDigit : isDigitChar char = true) :
    isWordChar char = false := by
  unfold isDigitChar at isDigit
  unfold isWordChar
  rw [Bool.and_eq_true, decide_eq_true_eq, decide_eq_true_eq] at isDigit
  have belowUpper : char < 'A' := Nat.lt_of_le_of_lt isDigit.2 (by decide)
  have belowLower : char < 'a' := Nat.lt_of_le_of_lt isDigit.2 (by decide)
  have belowUnderscore : char ≠ '_' := by
    intro same
    rw [same] at belowUpper
    exact absurd belowUpper (by decide)
  simp [Char.not_le.mpr belowUpper, Char.not_le.mpr belowLower, belowUnderscore]

private theorem first_of_class {belongs : Char → Bool}
    (excluded : [' ', '\t', '\n', '\r', '='].any belongs = false) {char : Char}
    (isMember : belongs char = true) : isBlankChar char = false ∧ char ≠ '=' := by
  have notListed : char ∉ [' ', '\t', '\n', '\r', '='] := by
    intro listed
    rw [List.any_eq_true.mpr ⟨char, listed, isMember⟩] at excluded
    cases excluded
  simp only [List.mem_cons, List.not_mem_nil, or_false, not_or] at notListed
  obtain ⟨notSpace, notTab, notNewline, notReturn, notEquals⟩ := notListed
  exact ⟨by simp [isBlankChar, notSpace, notTab, notNewline, notReturn], notEquals⟩

/-- A spelling starts with a character that is no blank, and with an equals sign only
where its kind does. -/
theorem Spelled.exists_first {kind : TokenKind} {literal : List Char}
    (spelled : Spelled kind literal) :
    ∃ first others, literal = first :: others ∧ isBlankChar first = false ∧
      (kind ∉ [.assign, .equal] → first ≠ '=') := by
  cases spelled with
  | @single char _ listed =>
      have all : ∀ entry ∈ TokenKind.singles,
          isBlankChar entry.1 = false ∧ entry.1 ≠ '=' := by decide
      have isEntry := all (char, kind) (mem_of_lookup listed)
      exact ⟨char, [], rfl, isEntry.1, fun _ => isEntry.2⟩
  | @alone char _ paired listed =>
      have all : ∀ entry ∈ TokenKind.doubles, isBlankChar entry.1 = false ∧
          (entry.2.1 ∉ [.assign, .equal] → entry.1 ≠ '=') := by decide
      exact ⟨char, [], rfl, all (char, kind, paired) (mem_of_lookup listed)⟩
  | @paired char alone _ listed =>
      have all : ∀ entry ∈ TokenKind.doubles, isBlankChar entry.1 = false ∧
          (entry.2.2 ∉ [.assign, .equal] → entry.1 ≠ '=') := by decide
      exact ⟨char, ['='], rfl, all (char, alone, kind) (mem_of_lookup listed)⟩
  | word isNonempty isWord =>
      obtain ⟨first, others, rfl⟩ := List.exists_cons_of_ne_nil isNonempty
      have starts := first_of_class (by decide) (isWord first List.mem_cons_self)
      exact ⟨first, others, rfl, starts.1, fun _ => starts.2⟩
  | digits isNonempty isDigit =>
      obtain ⟨first, others, rfl⟩ := List.exists_cons_of_ne_nil isNonempty
      have starts := first_of_class (by decide) (isDigit first List.mem_cons_self)
      exact ⟨first, others, rfl, starts.1, fun _ => starts.2⟩
  | @illegal char notBlank notWord notDigit notSingle notDouble =>
      refine ⟨char, [], rfl, notBlank, fun _ isEquals => ?_⟩
      rw [isEquals] at notDouble
      exact absurd notDouble (by decide)

theorem bounds_of_alone {kind : TokenKind} {behind : List Char}
    (isAlone : kind ∈ TokenKind.doubles.map (·.2.1)) (stops : ∀ char ∈ behind.head?, char ≠ '=') :
    Bounds kind behind := by
  have all : ∀ kind ∈ TokenKind.doubles.map (·.2.1),
      kind ∉ .ident :: TokenKind.keywords.map Prod.snd ∧ kind ≠ .int := by decide
  obtain ⟨notWord, notInt⟩ := all kind isAlone
  exact fun char isHead => ⟨fun _ => stops char isHead, fun isWord => absurd isWord notWord,
    fun isInt => absurd isInt notInt⟩

theorem bounds_of_word {kind : TokenKind} {behind : List Char}
    (isWord : kind ∈ .ident :: TokenKind.keywords.map Prod.snd)
    (stops : ∀ char ∈ behind.head?, isWordChar char = false) : Bounds kind behind := by
  have all : ∀ kind ∈ TokenKind.ident :: TokenKind.keywords.map Prod.snd,
      kind ∉ TokenKind.doubles.map (·.2.1) ∧ kind ≠ .int := by decide
  obtain ⟨notAlone, notInt⟩ := all kind isWord
  exact fun char isHead => ⟨fun isAlone => absurd isAlone notAlone, fun _ => stops char isHead,
    fun isInt => absurd isInt notInt⟩

theorem bounds_of_int {behind : List Char}
    (stops : ∀ char ∈ behind.head?, isDigitChar char = false) : Bounds .int behind :=
  fun char isHead => ⟨fun isAlone => absurd isAlone (by decide),
    fun isWord => absurd isWord (by decide), fun _ => stops char isHead⟩

/-- The other kinds end before anything. -/
theorem bounds_of_other {kind : TokenKind}
    (isOther : kind ∈ .illegal :: (TokenKind.singles.map Prod.snd ++
      TokenKind.doubles.map (·.2.2))) (behind : List Char) : Bounds kind behind := by
  have all : ∀ kind ∈ TokenKind.illegal :: (TokenKind.singles.map Prod.snd ++
      TokenKind.doubles.map (·.2.2)), kind ∉ TokenKind.doubles.map (·.2.1) ∧
        kind ∉ .ident :: TokenKind.keywords.map Prod.snd ∧ kind ≠ .int := by decide
  obtain ⟨notAlone, notWord, notInt⟩ := all kind isOther
  exact fun char _ => ⟨fun isAlone => absurd isAlone notAlone,
    fun isWord => absurd isWord notWord, fun isInt => absurd isInt notInt⟩

namespace Cursor

variable {cursor : Cursor} {first : Char} {others : List Char} {kind alone paired : TokenKind}

/-! ### The token under a cursor -/

theorem token?_of_single (unread : cursor.rest = first :: others)
    (listed : TokenKind.singles.lookup first = some kind) :
    cursor.token? = some (cursor.single kind) := by
  unfold token?
  rw [unread]
  simp only [TokenKind.doubles_of_single listed, listed]

theorem token?_of_double (unread : cursor.rest = first :: others)
    (listed : TokenKind.doubles.lookup first = some (alone, paired)) :
    cursor.token? =
      some (if cursor.next = '=' then cursor.withEquals paired else cursor.single alone) := by
  unfold token?
  rw [unread]
  simp only [listed]

theorem token?_of_other (unread : cursor.rest = first :: others)
    (notDouble : TokenKind.doubles.lookup first = none)
    (notSingle : TokenKind.singles.lookup first = none) :
    cursor.token? = some (
      if isWordChar first then
        (Token.ofPlace cursor.place (TokenKind.ofWord cursor.readWord.1) cursor.readWord.1,
          cursor.readWord.2)
      else if isDigitChar first then
        (Token.ofPlace cursor.place .int cursor.readDigits.1, cursor.readDigits.2)
      else cursor.single .illegal) := by
  unfold token?
  rw [unread]
  simp only [notDouble, notSingle]

/-- A run that is followed by something else is passed over as a whole. -/
theorem skip_of_append {belongs : Char → Bool} {literal behind : List Char}
    (unread : cursor.rest = literal ++ behind) (all : ∀ char ∈ literal, belongs char = true)
    (stops : ∀ char ∈ behind.head?, belongs char = false) :
    cursor.run belongs = literal ∧
      cursor.skip belongs = ⟨behind, cursor.place.afterAll literal⟩ := by
  have noneBehind : behind.takeWhile belongs = [] ∧ behind.dropWhile belongs = behind := by
    cases behind with
    | nil => exact ⟨rfl, rfl⟩
    | cons char behind =>
        have stopped := stops char rfl
        exact ⟨List.takeWhile_cons_of_neg (by rw [stopped]; decide),
          List.dropWhile_cons_of_neg (by rw [stopped]; decide)⟩
  have isRun : cursor.run belongs = literal := by
    rw [run, unread, List.takeWhile_append_of_pos all, noneBehind.1, List.append_nil]
  refine ⟨isRun, ?_⟩
  rw [skip, isRun, unread, List.dropWhile_append_of_pos all, noneBehind.2]

theorem read_of_append {belongs : Char → Bool} {literal behind : List Char}
    (unread : cursor.rest = literal ++ behind) (all : ∀ char ∈ literal, belongs char = true)
    (stops : ∀ char ∈ behind.head?, belongs char = false) :
    cursor.read belongs = (String.ofList literal, ⟨behind, cursor.place.afterAll literal⟩) := by
  obtain ⟨isRun, isBehind⟩ := skip_of_append unread all stops
  rw [read, isRun, isBehind]

theorem single_of_append (unread : cursor.rest = [first] ++ others) :
    cursor.single kind =
      (Token.ofPlace cursor.place kind (String.ofList [first]),
        ⟨others, cursor.place.afterAll [first]⟩) := by
  unfold single advance current
  rw [unread]
  rfl

theorem withEquals_of_append (unread : cursor.rest = [first, '='] ++ others) :
    cursor.withEquals kind =
      (Token.ofPlace cursor.place kind (String.ofList [first, '=']),
        ⟨others, cursor.place.afterAll [first, '=']⟩) := by
  unfold withEquals advance current
  rw [unread]
  rfl

/-- The token under a cursor on a spelling is of its kind, and ends with it. -/
theorem token?_of_bounds {literal behind : List Char} (spelled : Spelled kind literal)
    (bounds : Bounds kind behind) (unread : cursor.rest = literal ++ behind) :
    cursor.token? = some (Token.ofPlace cursor.place kind (String.ofList literal),
      ⟨behind, cursor.place.afterAll literal⟩) := by
  cases spelled with
  | single listed => rw [token?_of_single unread listed, single_of_append unread]
  | alone listed =>
      have notPaired : cursor.next ≠ '=' := by
        rw [next, unread]
        cases behind with
        | nil =>
            change pastEnd ≠ '='
            decide
        | cons char behind => exact (bounds char rfl).1 (List.mem_map_of_mem (mem_of_lookup listed))
      rw [token?_of_double unread listed, if_neg notPaired, single_of_append unread]
  | paired listed =>
      have isPaired : cursor.next = '=' := by
        rw [next, unread]
        rfl
      rw [token?_of_double unread listed, if_pos isPaired, withEquals_of_append unread]
  | word isNonempty isWord =>
      obtain ⟨first, others, rfl⟩ := List.exists_cons_of_ne_nil isNonempty
      have starts := isWord first List.mem_cons_self
      have isKind := Spelled.ofWord_mem (String.ofList (first :: others))
      have isRead := read_of_append unread isWord fun char isHead =>
        (bounds char isHead).2.1 isKind
      rw [token?_of_other unread (lookup_eq_none_of (by decide) starts)
        (lookup_eq_none_of (by decide) starts), if_pos starts, readWord, isRead]
  | digits isNonempty isDigit =>
      obtain ⟨first, others, rfl⟩ := List.exists_cons_of_ne_nil isNonempty
      have starts := isDigit first List.mem_cons_self
      have notWord := isWordChar_of_isDigitChar starts
      have isRead := read_of_append unread isDigit fun char isHead => (bounds char isHead).2.2 rfl
      rw [token?_of_other unread (lookup_eq_none_of (by decide) starts)
        (lookup_eq_none_of (by decide) starts), if_neg (by rw [notWord]; decide), if_pos starts,
        readDigits, isRead]
  | illegal notBlank notWord notDigit notSingle notDouble =>
      rw [token?_of_other unread notDouble notSingle, if_neg (by rw [notWord]; decide),
        if_neg (by rw [notDigit]; decide), single_of_append unread]

/-- A token ends where it does because nothing behind it is a part of it. -/
theorem bounds_of_token? {token : Token} {behind : Cursor}
    (found : cursor.token? = some (token, behind)) : Bounds token.kind behind.rest := by
  cases unread : cursor.rest with
  | nil =>
      unfold token? at found
      rw [unread] at found
      cases found
  | cons first others =>
      cases isDouble : TokenKind.doubles.lookup first with
      | some kinds =>
          have isEntry := mem_of_lookup isDouble
          rw [token?_of_double unread isDouble] at found
          by_cases isPaired : cursor.next = '='
          · rw [if_pos isPaired] at found
            cases found
            apply bounds_of_other
            exact List.mem_cons_of_mem _ (List.mem_append_right _ (List.mem_map_of_mem isEntry))
          · rw [if_neg isPaired] at found
            cases found
            refine bounds_of_alone (List.mem_map_of_mem isEntry) fun char isHead isEquals => ?_
            change cursor.rest.tail.head? = some char at isHead
            rw [next, List.headD_eq_head?_getD, isHead, isEquals] at isPaired
            exact isPaired rfl
      | none =>
          cases isSingle : TokenKind.singles.lookup first with
          | some kind =>
              rw [token?_of_single unread isSingle] at found
              cases found
              apply bounds_of_other
              exact List.mem_cons_of_mem _
                (List.mem_append_left _ (List.mem_map_of_mem (mem_of_lookup isSingle)))
          | none =>
              rw [token?_of_other unread isDouble isSingle, Option.some.injEq] at found
              by_cases startsWord : isWordChar first = true
              · rw [if_pos startsWord] at found
                cases found
                exact bounds_of_word (Spelled.ofWord_mem _) (cursor.stops_skip isWordChar)
              rw [if_neg startsWord] at found
              by_cases startsDigits : isDigitChar first = true
              · rw [if_pos startsDigits] at found
                cases found
                exact bounds_of_int (cursor.stops_skip isDigitChar)
              · rw [if_neg startsDigits] at found
                cases found
                exact bounds_of_other List.mem_cons_self _

/-! ### The steps of a scan -/

theorem tokens_of_token? {token : Token} {behind : Cursor}
    (found : cursor.skipBlanks.token? = some (token, behind)) :
    cursor.tokens = behind.tokens.push token := by
  rw [tokens]
  split
  · rename_i missing
    rw [missing] at found
    cases found
  · rename_i other later alsoFound
    rw [alsoFound] at found
    cases found
    rfl

theorem tokens_of_none (ended : cursor.skipBlanks.token? = none) :
    cursor.tokens = ⟨[], cursor.skipBlanks.place⟩ := by
  rw [tokens]
  split
  · rfl
  · rename_i found
    rw [ended] at found
    cases found

theorem tokens_congr {other : Cursor} (same : cursor.skipBlanks = other.skipBlanks) :
    cursor.tokens = other.tokens := by
  cases found : cursor.skipBlanks.token? with
  | none => rw [tokens_of_none found, tokens_of_none (same ▸ found), same]
  | some read => exact (tokens_of_token? found).trans (tokens_of_token? (same ▸ found)).symm

/-- The scan passes over blanks. -/
theorem tokens_of_blanks {gap : List Char} (isBlank : ∀ char ∈ gap, isBlankChar char = true)
    (behind : List Char) (place : Place) :
    (⟨gap ++ behind, place⟩ : Cursor).tokens =
      (⟨behind, place.afterAll gap⟩ : Cursor).tokens := by
  apply tokens_congr
  unfold skipBlanks skip run
  rw [List.dropWhile_append_of_pos isBlank, List.takeWhile_append_of_pos isBlank,
    Place.afterAll_append]

/-- The scan of a spelling takes its token. -/
theorem tokens_of_bounds {literal behind : List Char} (spelled : Spelled kind literal)
    (bounds : Bounds kind behind) (place : Place) :
    (⟨literal ++ behind, place⟩ : Cursor).tokens =
      (⟨behind, place.afterAll literal⟩ : Cursor).tokens.push
        (Token.ofPlace place kind (String.ofList literal)) := by
  obtain ⟨start, others, starts, notBlank, -⟩ := spelled.exists_first
  have stops : ∀ char ∈ (literal ++ behind).head?, isBlankChar char = false := by
    intro char isHead
    rw [starts] at isHead
    cases isHead
    exact notBlank
  have kept : (⟨literal ++ behind, place⟩ : Cursor).skipBlanks = ⟨literal ++ behind, place⟩ :=
    (skip_of_append (List.nil_append _).symm nofun stops).2
  apply tokens_of_token?
  rw [kept]
  exact token?_of_bounds spelled bounds rfl

theorem scan_spelled {literal behind : List Char} (spelled : Spelled kind literal)
    (bounds : Bounds kind behind) (unread : cursor.rest = literal ++ behind) :
    ∃ (token : Token) (later : Cursor),
      cursor.tokens.upcoming = token :: later.tokens.upcoming ∧ token.kind = kind ∧
      token.literal = String.ofList literal ∧ later.rest = behind := by
  obtain ⟨rest, place⟩ := cursor
  subst unread
  exact ⟨_, _, congrArg TokenStream.upcoming (tokens_of_bounds spelled bounds place), rfl,
    rfl, rfl⟩

theorem scan_blank {char : Char} {behind : List Char} (isBlank : isBlankChar char = true)
    (unread : cursor.rest = char :: behind) :
    ∃ later : Cursor, cursor.tokens.upcoming = later.tokens.upcoming ∧ later.rest = behind := by
  obtain ⟨rest, place⟩ := cursor
  subst unread
  have isGap : ∀ blank ∈ [char], isBlankChar blank = true := by
    intro blank listed
    rwa [List.mem_singleton.mp listed]
  exact ⟨_, congrArg TokenStream.upcoming (tokens_of_blanks isGap behind place), rfl⟩

theorem scan_nil (ended : cursor.rest = []) : cursor.tokens.upcoming = [] := by
  have noneLeft : cursor.skipBlanks.token? = none := by
    unfold token? skipBlanks skip
    rw [ended]
    rfl
  rw [tokens_of_none noneLeft]

/-! ### Leaves of derivations -/

/-- The scan of a leaf's text takes a leaf of the same kind with the same text. -/
theorem scan_terminal {kinds : List TokenKind} (terminal : Terminal kinds) {behind : List Char}
    (spelled : Spelled terminal.token.kind terminal.token.literal.toList)
    (bounds : Bounds terminal.token.kind behind)
    (unread : cursor.rest = terminal.token.literal.toList ++ behind) :
    ∃ (copy : Terminal kinds) (later : Cursor),
      cursor.tokens.upcoming = copy.token :: later.tokens.upcoming ∧
      copy.token.kind = terminal.token.kind ∧ copy.token.literal = terminal.token.literal ∧
      later.rest = behind := by
  obtain ⟨token, later, scanned, isKind, isLiteral, isBehind⟩ := scan_spelled spelled bounds unread
  rw [String.ofList_toList] at isLiteral
  exact ⟨⟨token, isKind ▸ terminal.kind_mem⟩, later, scanned, isKind, isLiteral, isBehind⟩

theorem scan_single (kind : TokenKind) {char : Char} {behind : List Char}
    (listed : TokenKind.singles.lookup char = some kind) (unread : cursor.rest = char :: behind) :
    ∃ (terminal : Terminal [kind]) (later : Cursor),
      cursor.tokens.upcoming = terminal.token :: later.tokens.upcoming ∧ later.rest = behind := by
  have isSingle : kind ∈ TokenKind.singles.map Prod.snd := List.mem_map_of_mem (mem_of_lookup listed)
  have bounds : Bounds kind behind :=
    bounds_of_other (List.mem_cons_of_mem _ (List.mem_append_left _ isSingle)) behind
  obtain ⟨token, later, scanned, isKind, -, isBehind⟩ :=
    scan_spelled (.single listed) bounds unread
  exact ⟨⟨token, List.mem_singleton.mpr isKind⟩, later, scanned, isBehind⟩

theorem scan_assign {behind : List Char} (ending : Ending behind)
    (unread : cursor.rest = '=' :: behind) :
    ∃ (terminal : Terminal [.assign]) (later : Cursor),
      cursor.tokens.upcoming = terminal.token :: later.tokens.upcoming ∧ later.rest = behind := by
  have listed : TokenKind.doubles.lookup '=' = some (.assign, .equal) := by decide
  obtain ⟨token, later, scanned, isKind, -, isBehind⟩ :=
    scan_spelled (.alone listed) (ending.bounds _) unread
  exact ⟨⟨token, List.mem_singleton.mpr isKind⟩, later, scanned, isBehind⟩

end Cursor

end MonkeySyntax
